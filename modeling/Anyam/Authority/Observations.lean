import Anyam.Authority.Payload
import Anyam.Execution.ActionArtifactOutput

/-!
# Repository observations

`portability/repository-observation.ts` and `portability/mirror-observation.ts`, as far as a
Revision is published with them: what a RepositoryDriver observed of a Source Space, read from
a payload, and the check that a mirror observation is of the proposal at hand.
-/

namespace Anyam.Authority

open Anyam.Lib Anyam.Kernel Anyam.Execution

/-- `typeof value === "string" && value.length > 0 ? value : undefined`. -/
def observedString (value : Option Json) : Option String := truthy (value.bind Json.asString)

def observedFormat (value : Option Json) : Option GitObjectFormat :=
  match value with
  | some (.string "sha1") => some .sha1
  | some (.string "sha256") => some .sha256
  | _ => none

def isTrue : Option Json → Bool
  | some (.bool true) => true
  | _ => false

/-- `/^[0-9a-f]+$/` with the length of the format. -/
def validOid (value : String) (objectFormat : GitObjectFormat) : Bool :=
  let expectedLength := if objectFormat = .sha256 then 64 else 40
  value.length = expectedLength &&
    value.toList.all fun c => ('0' ≤ c && c ≤ '9') || ('a' ≤ c && c ≤ 'f')

/-! ## Observations of a hosted Revision -/

def repositoryObservationProtocol : String := "anyam.repository-observation/v1"

def malformedObservation : String :=
  "repositoryObservation=complete-v1-required; transition=not-applied"

/-- `parseRepositoryObservation`; an invalid observation gives its receipt. -/
def parseRepositoryObservation (value : Json) : Except String RepositoryObservation := do
  let body ← orThrow value.asRecord
    "repositoryObservation=object-required; transition=not-applied"
  let repositoryId ← orThrow (observedString (body.get? "repositoryId")) malformedObservation
  let sourceSpaceId ← orThrow (observedString (body.get? "sourceSpaceId")) malformedObservation
  let workspaceId ← orThrow (observedString (body.get? "workspaceId")) malformedObservation
  let projectViewId ← orThrow (observedString (body.get? "projectViewId")) malformedObservation
  let objectFormat ← orThrow (observedFormat (body.get? "objectFormat")) malformedObservation
  let symbolicRef ← orThrow (observedString (body.get? "symbolicRef")) malformedObservation
  let commitOid ← orThrow (observedString (body.get? "commitOid")) malformedObservation
  let treeOid ← orThrow (observedString (body.get? "treeOid")) malformedObservation
  let baseCommitOid ← orThrow (observedString (body.get? "baseCommitOid")) malformedObservation
  let manifestDigest ← orThrow (observedString (body.get? "manifestDigest")) malformedObservation
  let observedAt ← orThrow (observedString (body.get? "observedAt")) malformedObservation
  let receipt ← orThrow (observedString (body.get? "receipt")) malformedObservation
  require (observedString (body.get? "protocol") = some repositoryObservationProtocol ∧
      isTrue (body.get? "ancestryVerified") ∧ isSha256Digest manifestDigest ∧
      validOid commitOid objectFormat ∧ validOid treeOid objectFormat ∧
      validOid baseCommitOid objectFormat) malformedObservation
  return {
    repositoryId
    sourceSpaceId
    workspaceId
    projectViewId
    objectFormat
    symbolicRef
    commitOid
    treeOid
    baseCommitOid
    manifestDigest
    observedAt
    receipt }

/-- The observations of a record, each under its Source Space. -/
def observationRecord {α : Type} (parse : Json → Except AuthorityFailure α) (value : Option Json)
    (field recoveryAction : String) : Except AuthorityFailure (OrderedMap String α) := do
  let entries ← record value field
  let observations ← entries.entries.mapM fun entry => do return (entry.1, ← parse entry.2)
  require (entries.entries ≠ []) (refusal .invalidRequest
    s!"{field} must contain at least one Source Space observation."
    recoveryAction
    s!"{field}=non-empty-required; transition=not-applied")
  return .ofList observations

def repositoryObservationRecord (value : Option Json) (field : String) :
    Except AuthorityFailure (OrderedMap String RepositoryObservation) :=
  observationRecord
    (fun candidate => (parseRepositoryObservation candidate).mapError fun receipt =>
      refusal .invalidRequest
        "A hosted Change Revision contains a malformed RepositoryDriver observation."
        "publish only the exact credential-free observation returned by the configured RepositoryDriver boundary"
        receipt)
    value field
    "publish an observation for every disclosed Source Space; no authority transition was accepted"

/-! ## Observations of a Mirror proposal -/

def mirrorRepositoryObservationProtocol : String := "anyam.mirror-repository-observation/v1"

/-- How an observation is refused. -/
structure ObservationRefusal where
  recoveryAction : String
  receipt : String
deriving DecidableEq, Repr

def malformedMirrorObservation : ObservationRefusal where
  recoveryAction := "return the mirror, proposal, delivery, provider, Git object, ancestry, timestamp, and digest fields without credential material"
  receipt := "mirrorObservation=complete-v1-required; transition=not-applied"

def parseMirrorRepositoryObservation (value : Json) :
    Except ObservationRefusal MirrorRepositoryObservation := do
  let body ← orThrow value.asRecord {
    recoveryAction := "return one complete credential-free mirror repository observation"
    receipt := "mirrorObservation=object-required; transition=not-applied" }
  let text (field : String) : Except ObservationRefusal String :=
    orThrow (optionalString (body.get? field)) malformedMirrorObservation
  let repositoryId ← text "repositoryId"
  let sourceSpaceId ← text "sourceSpaceId"
  let mirrorId ← text "mirrorId"
  let proposalKey ← text "proposalKey"
  let deliveryId ← text "deliveryId"
  let provider ← text "provider"
  let remoteRepository ← text "remoteRepository"
  let projectViewId ← text "projectViewId"
  let objectFormat ← orThrow (observedFormat (body.get? "objectFormat")) malformedMirrorObservation
  let symbolicRef ← text "symbolicRef"
  let commitOid ← text "commitOid"
  let treeOid ← text "treeOid"
  let baseCommitOid ← text "baseCommitOid"
  let manifestDigest ← text "manifestDigest"
  let observedAt ← text "observedAt"
  let receipt ← text "receipt"
  require (optionalString (body.get? "protocol") = some mirrorRepositoryObservationProtocol ∧
      isTrue (body.get? "ancestryVerified") ∧ isSha256Digest manifestDigest ∧
      validOid commitOid objectFormat ∧ validOid treeOid objectFormat ∧
      validOid baseCommitOid objectFormat) malformedMirrorObservation
  return {
    repositoryId
    sourceSpaceId
    mirrorId
    proposalKey
    deliveryId
    provider
    remoteRepository
    projectViewId
    objectFormat
    symbolicRef
    commitOid
    treeOid
    baseCommitOid
    manifestDigest
    observedAt
    receipt }

def mirrorRepositoryObservationRecord (value : Option Json) (field : String) :
    Except AuthorityFailure (OrderedMap String MirrorRepositoryObservation) :=
  observationRecord
    (fun candidate => (parseMirrorRepositoryObservation candidate).mapError fun refused =>
      refusal .invalidRequest
        "A mirror proposal contains a malformed RepositoryDriver observation."
        "publish only the exact credential-free observation returned by the internal Mirror RepositoryDriver boundary"
        refused.receipt)
    value field
    "publish one verified mirror observation for the mirrored Source Space"

/-- What a mirror observation must be of. -/
structure MirrorObservationBinding where
  repositoryId : String
  sourceSpaceId : String
  mirrorId : String
  proposalKey : String
  deliveryId : String
  provider : String
  remoteRepository : String
  projectViewId : String
  expectedCommitOid : String
  expectedBaseCommitOid : String

/-- The fields of an observation that are not the expected ones. -/
def observationMismatches (services : AuthorityServices)
    (observation : MirrorRepositoryObservation) (binding : MirrorObservationBinding) :
    List String :=
  [("repositoryId", observation.repositoryId, binding.repositoryId),
   ("sourceSpaceId", observation.sourceSpaceId, binding.sourceSpaceId),
   ("mirrorId", observation.mirrorId, binding.mirrorId),
   ("proposalKey", observation.proposalKey, binding.proposalKey),
   ("deliveryId", observation.deliveryId, binding.deliveryId),
   ("provider", observation.provider, binding.provider),
   ("remoteRepository", observation.remoteRepository, binding.remoteRepository),
   ("projectViewId", observation.projectViewId, binding.projectViewId),
   ("commitOid", observation.commitOid, binding.expectedCommitOid),
   ("baseCommitOid", observation.baseCommitOid, binding.expectedBaseCommitOid),
   ("manifestDigest", observation.manifestDigest,
    services.mirrorObservationDigest observation.toMirrorObservationClaims)].filterMap
    fun field => if field.2.1 = field.2.2 then none else some field.1

/-- `verifyMirrorRepositoryObservation`, on an observation that was parsed. -/
def verifyMirrorRepositoryObservation (services : AuthorityServices)
    (observation : MirrorRepositoryObservation) (binding : MirrorObservationBinding) :
    Except ObservationRefusal MirrorRepositoryObservation := do
  let mismatches := observationMismatches services observation binding
  let fields := String.intercalate "," mismatches
  require (mismatches = []) {
    recoveryAction := "reinspect the exact mirror proposal through the trusted RepositoryDriver and return a fresh signed observation"
    receipt := s!"mirrorObservation=binding-mismatch; fields={fields}; transition=not-applied" }
  return observation

end Anyam.Authority
