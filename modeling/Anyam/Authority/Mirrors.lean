import Anyam.Authority.Observations
import Anyam.Authority.Releases

/-!
# Mirror commands

`AuthorityPlaneCoordinator.apply` on `mirror.configure`, and the first half of `mirror.sync` and
`mirror.reconcile`: what an operation reports, checked against the Mirror and the canonical
Revision, and the provider delivery it carries.

- **`mirrorConfigure_ok`**: what an accepted command files.
- **`readMirrorRequest_ok`**: what an operation was checked for.
-/

namespace Anyam.Authority

open Anyam.Lib Anyam.Kernel Anyam.Execution

def mirrorProposalLedgerKey (provider : String) (installationId : Option String)
    (sourceIdentity remoteRepository proposalKind proposalKey : String) : String :=
  (Json.ofStrings [provider, installationId.getD "-", sourceIdentity, remoteRepository,
    proposalKind, proposalKey]).stringify

def mirrorDeliveryLedgerKey (provider : String) (installationId : Option String)
    (sourceIdentity remoteRepository deliveryId : String) : String :=
  (Json.ofStrings [provider, installationId.getD "-", sourceIdentity, remoteRepository,
    deliveryId]).stringify

def mirrorStates : List MirrorState :=
  [.healthy, .lagging, .divergent, .forcePushed, .blocked, .credentialFailed, .disabled]

/-! ## Configuring a Mirror -/

/-- One entry of `refMappings`, at its index. -/
def refMapping (value : Json) (index : Nat) : Except AuthorityFailure MirrorRefMapping := do
  let mapping ← orThrow value.asRecord (refusal .invalidRequest
    s!"refMappings[{index}] must be an object."
    "declare each ref mapping with localRef and remoteRef"
    s!"refMappings[{index}]=object-required; mirror=not-configured")
  return {
    localRef := ← requiredString (mapping.get? "localRef") s!"refMappings[{index}].localRef"
    remoteRef := ← requiredString (mapping.get? "remoteRef") s!"refMappings[{index}].remoteRef" }

/-- Every ref is named by the mapping. -/
def mapsRefs (mappings : List MirrorRefMapping) (canonicalRefs remoteRefs : List GitRef) : Prop :=
  (∀ ref ∈ canonicalRefs, ref.name ∈ mappings.map MirrorRefMapping.localRef) ∧
    ∀ ref ∈ remoteRefs, ref.name ∈ mappings.map MirrorRefMapping.remoteRef

instance (mappings : List MirrorRefMapping) (canonicalRefs remoteRefs : List GitRef) :
    Decidable (mapsRefs mappings canonicalRefs remoteRefs) :=
  inferInstanceAs (Decidable (_ ∧ _))

def mirrorConfigure (services : AuthorityServices) (next : AuthorityPlaneSnapshot)
    (payload : Payload) (drawn : Drawn) : Applied := do
  let projectId ← requiredString (payload.get? "projectId") "projectId"
  let project ← orThrow (next.projects.get? projectId) (refusal .notFound
    s!"Project {projectId} does not exist."
    "create or restore the Project before configuring a Repository Mirror"
    s!"project={projectId}; mirror=not-configured; discoverable=false")
  let sourceSpaceId ← requiredString (payload.get? "sourceSpaceId") "sourceSpaceId"
  let sourceSpace ← orThrow
    ((next.sourceSpaces.get? sourceSpaceId).filter fun _ => sourceSpaceId ∈ project.sourceSpaceIds)
    (refusal .notFound
      s!"Source Space {sourceSpaceId} is not available for Project {projectId}."
      "configure a Mirror only for a Source Space disclosed by the Project"
      s!"project={projectId}; sourceSpace={sourceSpaceId}; mirror=not-configured; discoverable=false")
  let canonical := next.canonicalByProject.get? projectId
  let canonicalText := canonical.getD "missing"
  let canonicalProjectRevisionId ← requiredString
    (orElse (payload.get? "canonicalProjectRevisionId") canonical) "canonicalProjectRevisionId"
  require (canonical = some canonicalProjectRevisionId) (refusal .staleState
    s!"Mirror configuration names {canonicalProjectRevisionId}, not the current canonical Project Revision."
    "read the current canonical Project Revision and retry with a fresh idempotency key"
    s!"project={projectId}; expectedCanonical={canonicalProjectRevisionId}; actualCanonical={canonicalText}; mirror=not-configured")
  require (∃ revision ∈ next.projectRevisions.get? canonicalProjectRevisionId,
      revision.projectId = projectId) (refusal .indeterminate
    s!"Canonical Project Revision {canonicalProjectRevisionId} is not readable for Project {projectId}."
    "restore the canonical Project Revision before configuring the Repository Mirror"
    s!"project={projectId}; canonicalRevision={canonicalProjectRevisionId}; mirror=not-configured; lineage=incomplete")
  let disclosure ← enumString (payload.get? "disclosure") "disclosure" disclosures
  let authority := payload.get? "canonicalAuthority"
  let authorityText := (authority.bind Json.asString).getD "invalid"
  require (authority = none ∨ authority.bind Json.asString = some "anyam") (refusal .invalidRequest
    "Provider-authoritative Repository Mirrors are not supported."
    "configure the external repository as an Anyam projection; provider branch protection is optional and never replaces Anyam Landing"
    s!"canonicalAuthority={authorityText}; providerRole=projection; transition=not-applied")
  require (disclosure ≠ .public ∨ sourceSpace.classification = .public) (refusal .conflict
    s!"Public Mirror disclosure is not permitted for {sourceSpace.classification} Source Space {sourceSpaceId}."
    "choose a Project or restricted disclosure, or configure a public Source Space"
    s!"project={projectId}; sourceSpace={sourceSpaceId}; disclosure=public; mirror=not-configured")
  let mappings ← orThrow
    (((payload.get? "refMappings").bind Json.asArray).filter fun mappings => mappings ≠ [])
    (refusal .invalidRequest
      "refMappings must contain at least one local and remote ref mapping."
      "declare the exact Git refs the Mirror may project"
      "refMappings=non-empty-required; mirror=not-configured")
  let refMappings ← mappings.zipIdx.mapM fun entry => refMapping entry.1 entry.2
  require ((refMappings.map MirrorRefMapping.localRef).Nodup ∧
      (refMappings.map MirrorRefMapping.remoteRef).Nodup) (refusal .conflict
    "refMappings must not contain duplicate local or remote refs."
    "declare one mapping per local and remote ref"
    "refMappings=duplicates; mirror=not-configured")
  let id := (optionalString (payload.get? "mirrorId")).getD (drawn.opaqueId "mirror")
  let provider ← requiredString (payload.get? "provider") "provider"
  let remoteRepository ← requiredString (payload.get? "remoteRepository") "remoteRepository"
  let state ← enumStringOr (payload.get? "state") "state" mirrorStates .healthy
  let canonicalRefs ← gitRefs (some ((nullish (payload.get? "canonicalRefs")).getD (.array [])))
    "canonicalRefs"
  let remoteGeneration ← requiredString (payload.get? "remoteGeneration") "remoteGeneration"
  let remoteRefs ← gitRefs (some ((nullish (payload.get? "remoteRefs")).getD (.array [])))
    "remoteRefs"
  let receipt ← receiptString services (payload.get? "receipt") "receipt"
  require (mapsRefs refMappings canonicalRefs remoteRefs) (refusal .conflict
    s!"Repository Mirror {id} includes a ref outside its declared mapping."
    "declare only canonical and remote refs covered by refMappings"
    s!"mirror={id}; refMapping=configuration-rejected; transition=not-applied")
  let pendingInboundChangeIds ← optionalStrings (payload.get? "pendingInboundChangeIds")
    "pendingInboundChangeIds"
  forM pendingInboundChangeIds fun changeId =>
    require (∃ change ∈ next.changes.get? changeId, change.projectId = projectId ∧
        change.baseProjectRevisionId = canonicalProjectRevisionId) (refusal .conflict
      s!"Pending Change {changeId} is not available for Mirror {id}."
      "declare only existing Changes for this Project and canonical base; no Mirror transition was accepted"
      s!"mirror={id}; change={changeId}; pending=not-accepted; discoverable=false")
  require (next.mirrors.get? id = none) (refusal .conflict
    s!"Repository Mirror {id} already exists."
    "reuse the original idempotency key or choose a new Mirror identity"
    s!"mirror={id}; exists=true; transition=not-applied")
  let mirror : RepositoryMirror := {
    id
    projectId
    sourceSpaceId
    provider
    remoteRepository
    direction := "bidirectional"
    canonicalAuthority := "anyam"
    refMappings
    disclosure
    state
    canonicalProjectRevisionId
    canonicalRefs
    remoteGeneration
    remoteRefs
    pendingInboundChangeIds
    createdAt := drawn.now
    updatedAt := drawn.now
    receipt }
  return (next.put .mirrors id mirror, success .mirrorConfigure next [.mirror mirror]
    s!"mirror={id}; project={projectId}; sourceSpace={sourceSpaceId}; canonicalAuthority=anyam; providerRole=projection; providerProtection=not-required; canonicalWrite=false; credentialFree=true")

/-! ## What an operation reports -/

inductive Reconciliation
  | remoteAsProposal | canonicalWins
deriving DecidableEq, Repr

instance : ToString Reconciliation where
  toString
    | .remoteAsProposal => "remote-as-proposal"
    | .canonicalWins => "canonical-wins"

def operationStates : List MirrorOperationState :=
  [.started, .succeeded, .failed, .blocked, .degraded]

def operationKinds : List MirrorOperationKind := [.sync, .outbound, .inbound, .reconcile]

/-- The report of a Mirror operation, with the records it is about. -/
structure MirrorRequest where
  command : AuthorityCommandName
  mirrorId : String
  mirror : RepositoryMirror
  sourceSpace : SourceSpace
  canonicalProjectRevisionId : String
  canonicalProjectRevision : ProjectRevision
  canonicalRefs : List GitRef
  remoteRefs : List GitRef
  expectedRemoteGeneration : String
  actualRemoteGeneration : String
  reconciliation : Option Reconciliation
  operationState : MirrorOperationState
  operationId : String
  operationKind : MirrorOperationKind
  checkpointId : String
  recoveryAction : String
  inboundChangeIds : List String
  completedInboundChangeIds : List String
  pendingInboundChangeIds : List String
  externalProposal : Option Payload
  mirrorRepositoryObservations : Option (OrderedMap String MirrorRepositoryObservation)

/-- `mirror.reconcile` names its reconciliation; `mirror.sync` has none. -/
def requestedReconciliation (command : AuthorityCommandName) (payload : Payload) :
    Except AuthorityFailure (Option Reconciliation) :=
  if command = .mirrorReconcile then
    (enumString (payload.get? "reconciliation") "reconciliation"
      [Reconciliation.remoteAsProposal, .canonicalWins]).map some
  else
    .ok none

/-- The refs of the remote are the canonical ones. -/
def requireVerifiedRemote (mirrorId : String) (mirror : RepositoryMirror)
    (canonicalRefs remoteRefs : List GitRef) : Except AuthorityFailure Unit :=
  forM mirror.refMappings fun mapping =>
    let canonicalRef := canonicalRefs.find? fun ref => ref.name = mapping.localRef
    let remoteRef := remoteRefs.find? fun ref => ref.name = mapping.remoteRef
    require (∃ canonical ∈ canonicalRef, ∃ remote ∈ remoteRef, canonical.oid = remote.oid)
      (refusal .blocked
      s!"Canonical-wins reconciliation for Mirror {mirrorId} has not verified remote ref {mapping.remoteRef}."
      "complete the provider apply and report remote refs equal to the canonical mapped refs before marking reconciliation succeeded"
      s!"mirror={mirrorId}; reconciliation=canonical-wins; ref={mapping.remoteRef}; remote=not-verified; providerInvocation=false")

/-- A canonical-wins reconciliation succeeds only when the remote was seen to follow. -/
def requireCanonicalWins (reconciliation : Option Reconciliation)
    (requestedState : MirrorOperationState) (mirrorId : String) (mirror : RepositoryMirror)
    (canonicalRefs remoteRefs : List GitRef) : Except AuthorityFailure Unit :=
  if reconciliation = some .canonicalWins ∧ requestedState = .succeeded then
    requireVerifiedRemote mirrorId mirror canonicalRefs remoteRefs
  else
    .ok ()

/-- The state an operation is recorded with: without a reconciliation, one that expects another
generation of the remote than the Mirror has is blocked. -/
def recordedOperationState (expectedRemoteGeneration : String) (mirror : RepositoryMirror)
    (reconciliation : Option Reconciliation) (requestedState : MirrorOperationState) :
    MirrorOperationState :=
  if expectedRemoteGeneration ≠ mirror.remoteGeneration ∧ reconciliation = none then .blocked
  else requestedState

def readMirrorRequest (next : AuthorityPlaneSnapshot) (command : AuthorityCommandName)
    (payload : Payload) (drawn : Drawn) : Except AuthorityFailure MirrorRequest := do
  let mirrorId ← requiredString (payload.get? "mirrorId") "mirrorId"
  let mirror ← orThrow (next.mirrors.get? mirrorId) (refusal .notFound
    s!"Repository Mirror {mirrorId} does not exist."
    "configure the Repository Mirror before recording a sync or reconciliation"
    s!"mirror={mirrorId}; operation={command}; not-started; discoverable=false")
  let project := next.projects.get? mirror.projectId
  let sourceSpace ← orThrow
    ((next.sourceSpaces.get? mirror.sourceSpaceId).filter fun _ =>
      ∃ found ∈ project, mirror.sourceSpaceId ∈ found.sourceSpaceIds)
    (refusal .indeterminate
      s!"Repository Mirror {mirrorId} has incomplete Project or Source Space lineage."
      "restore the Project and Source Space catalog before resuming the Mirror checkpoint"
      s!"mirror={mirrorId}; lineage=incomplete; operation={command}; providerInvocation=false")
  let canonicalProjectRevisionId ← requiredString (payload.get? "canonicalProjectRevisionId")
    "canonicalProjectRevisionId"
  let currentCanonical := next.canonicalByProject.get? mirror.projectId
  let canonicalText := currentCanonical.getD "missing"
  require (currentCanonical = some canonicalProjectRevisionId) (refusal .staleState
    s!"Mirror {mirrorId} observed canonical Project Revision {canonicalProjectRevisionId}, but the Authority is at {canonicalText}."
    "read the current canonical Project Revision and resume the provider operation from its checkpoint"
    s!"mirror={mirrorId}; expectedCanonical={canonicalProjectRevisionId}; actualCanonical={canonicalText}; operation={command}; providerInvocation=false")
  let canonicalProjectRevision ← orThrow
    ((next.projectRevisions.get? canonicalProjectRevisionId).filter fun revision =>
      revision.projectId = mirror.projectId)
    (refusal .indeterminate
      s!"Canonical Project Revision {canonicalProjectRevisionId} is not readable for Mirror {mirrorId}."
      "restore the canonical Project Revision before resuming the Mirror checkpoint"
      s!"mirror={mirrorId}; canonicalRevision={canonicalProjectRevisionId}; operation={command}; lineage=incomplete; providerInvocation=false")
  let canonicalRefs ← gitRefs (payload.get? "canonicalRefs") "canonicalRefs"
  let remoteRefs ← gitRefs (payload.get? "remoteRefs") "remoteRefs"
  require (mapsRefs mirror.refMappings canonicalRefs remoteRefs) (refusal .conflict
    s!"Mirror {mirrorId} received a ref outside its declared mapping."
    "project only the explicitly mapped refs and retry from the same provider checkpoint"
    s!"mirror={mirrorId}; disclosure=ref-mapping-rejected; operation={command}; providerInvocation=false")
  let expectedRemoteGeneration ← requiredString (payload.get? "expectedRemoteGeneration")
    "expectedRemoteGeneration"
  let actualRemoteGeneration ← requiredString (payload.get? "remoteGeneration") "remoteGeneration"
  let reconciliation ← requestedReconciliation command payload
  let requestedState ← enumStringOr (payload.get? "operationState") "operationState"
    operationStates .succeeded
  requireCanonicalWins reconciliation requestedState mirrorId mirror canonicalRefs remoteRefs
  let operationState :=
    recordedOperationState expectedRemoteGeneration mirror reconciliation requestedState
  let operationId :=
    (optionalString (payload.get? "operationId")).getD (drawn.opaqueId "mirror-operation")
  require (next.mirrorOperations.get? operationId = none) (refusal .conflict
    s!"Mirror Operation {operationId} already exists."
    "resume the recorded Mirror checkpoint or choose a new operation identity"
    s!"mirror={mirrorId}; operation={operationId}; exists=true; providerInvocation=false")
  let resumeCheckpointId := optionalString (payload.get? "resumeCheckpointId")
  let resumeText := resumeCheckpointId.getD ""
  require (∀ id ∈ resumeCheckpointId, ∃ checkpoint ∈ next.mirrorCheckpoints.get? id,
      checkpoint.mirrorId = mirrorId ∧
        checkpoint.canonicalProjectRevisionId = canonicalProjectRevisionId) (refusal .notFound
    s!"Mirror Checkpoint {resumeText} is not resumable for Mirror {mirrorId}."
    "resume from the owner-visible checkpoint belonging to this Mirror and canonical Project Revision"
    s!"mirror={mirrorId}; checkpoint={resumeText}; resume=not-accepted; discoverable=false")
  let operationKind ← enumStringOr (payload.get? "operationKind") "operationKind" operationKinds
    (if command = .mirrorReconcile then .reconcile else .sync)
  require (command ≠ .mirrorReconcile ∨ operationKind = .reconcile) (refusal .conflict
    "mirror.reconcile requires operationKind=reconcile."
    "send a reconciliation operation with operationKind=reconcile; no provider operation was accepted"
    s!"mirror={mirrorId}; operationKind={operationKind}; command=mirror.reconcile; transition=not-applied")
  let checkpointId :=
    (optionalString (payload.get? "checkpointId")).getD (drawn.opaqueId "mirror-checkpoint")
  require (next.mirrorCheckpoints.get? checkpointId = none) (refusal .conflict
    s!"Mirror Checkpoint {checkpointId} already exists."
    "resume the existing checkpoint or choose a new checkpoint identity"
    s!"mirror={mirrorId}; checkpoint={checkpointId}; exists=true; providerInvocation=false")
  let inboundChangeIds ← optionalStrings (payload.get? "inboundChangeIds") "inboundChangeIds"
  let completedInboundChangeIds ← optionalStrings (payload.get? "completedInboundChangeIds")
    "completedInboundChangeIds"
  let pendingInboundChangeIds ← optionalStrings (payload.get? "pendingInboundChangeIds")
    "pendingInboundChangeIds"
  forM (distinct (inboundChangeIds ++ completedInboundChangeIds ++ pendingInboundChangeIds))
    fun changeId =>
      require (∃ change ∈ next.changes.get? changeId, change.projectId = mirror.projectId ∧
          change.baseProjectRevisionId = canonicalProjectRevisionId) (refusal .conflict
        s!"Mirror Change {changeId} is not available for canonical Project Revision {canonicalProjectRevisionId}."
        "declare only existing Changes for this Project and canonical base; no Mirror transition was accepted"
        s!"mirror={mirrorId}; change={changeId}; operation={command}; transition=not-applied; discoverable=false")
  let externalProposal ← whenDefined (record · "externalProposal") (payload.get? "externalProposal")
  let mirrorRepositoryObservations ← whenDefined
    (mirrorRepositoryObservationRecord · "mirrorRepositoryObservations")
    (payload.get? "mirrorRepositoryObservations")
  require (mirrorRepositoryObservations = none ∨ externalProposal.isSome) (refusal .invalidRequest
    "Mirror Repository observations require an external proposal."
    "send mirror observations only with the matching provider proposal; no Authority transition was accepted"
    "mirrorRepositoryObservations=proposal-required; transition=not-applied")
  return {
    command
    mirrorId
    mirror
    sourceSpace
    canonicalProjectRevisionId
    canonicalProjectRevision
    canonicalRefs
    remoteRefs
    expectedRemoteGeneration
    actualRemoteGeneration
    reconciliation
    operationState
    operationId
    operationKind
    checkpointId
    recoveryAction := (optionalString (payload.get? "recoveryAction")).getD
      (if operationState = .succeeded then
        "inspect the completed Mirror checkpoint before starting another provider operation"
      else "inspect the named provider receipt and resume this checkpoint only after reconciling remote generation")
    inboundChangeIds
    completedInboundChangeIds
    pendingInboundChangeIds
    externalProposal
    mirrorRepositoryObservations }

/-! ## The delivery it carries -/

/-- A provider delivery as an operation reports it. -/
structure DeliveryEnvelope where
  provider : String
  installationId : Option String
  sourceIdentity : String
  remoteRepository : String
  deliveryId : String
  proposalKey : Option String
  eventType : String
deriving DecidableEq, Repr

def DeliveryEnvelope.deliveryKey (envelope : DeliveryEnvelope) : String :=
  mirrorDeliveryLedgerKey envelope.provider envelope.installationId envelope.sourceIdentity
    envelope.remoteRepository envelope.deliveryId

def readDelivery (mirrorId : String) (mirror : RepositoryMirror) (value : Payload) :
    Except AuthorityFailure DeliveryEnvelope := do
  let provider := (optionalString (value.get? "provider")).getD mirror.provider
  let sourceIdentity ← requiredString (value.get? "sourceIdentity") "delivery.sourceIdentity"
  let remoteRepository ← requiredString (value.get? "remoteRepository")
    "delivery.remoteRepository"
  let deliveryId ← requiredString (value.get? "deliveryId") "delivery.deliveryId"
  let eventType ← requiredString (value.get? "eventType") "delivery.eventType"
  require (provider = mirror.provider ∧ remoteRepository = mirror.remoteRepository)
    (refusal .conflict
      s!"Mirror delivery identity does not match Mirror {mirrorId}."
      "bind the delivery to the configured provider and repository; no provider credential was accepted"
      s!"mirror={mirrorId}; delivery={deliveryId}; identity=mirror-mismatch; providerInvocation=false")
  return {
    provider
    installationId := optionalString (value.get? "installationId")
    sourceIdentity
    remoteRepository
    deliveryId
    proposalKey := optionalString (value.get? "proposalKey")
    eventType }

/-- The state a new delivery is recorded in. -/
def deliveryState (operationState : MirrorOperationState) : DeliveryState :=
  if operationState = .succeeded then .processed else .blocked

/-- The record of a new delivery. -/
def newDelivery (request : MirrorRequest) (envelope : DeliveryEnvelope) (value : Payload)
    (drawn : Drawn) : MirrorDelivery :=
  let state := deliveryState request.operationState
  {
    id := (optionalString (value.get? "id")).getD (drawn.opaqueId "mirror-delivery")
    mirrorId := request.mirrorId
    provider := envelope.provider
    installationId := envelope.installationId
    sourceIdentity := envelope.sourceIdentity
    remoteRepository := envelope.remoteRepository
    deliveryId := envelope.deliveryId
    deliveryKey := envelope.deliveryKey
    eventType := envelope.eventType
    proposalKey := envelope.proposalKey
    operationId := some request.operationId
    state
    createdAt := drawn.now
    processedAt := if request.operationState = .succeeded then some drawn.now else none
    receipt := s!"delivery={envelope.deliveryId}; mirror={request.mirrorId}; state={state}; credentialFree=true" }

/-- A delivery that is recorded already must be the same event. -/
def requireSameEvent (mirrorId : String) (envelope : DeliveryEnvelope)
    (existing : MirrorDelivery) : Except AuthorityFailure Unit :=
  require (existing.eventType = envelope.eventType ∧ existing.proposalKey = envelope.proposalKey)
    (refusal .conflict
      s!"Delivery {envelope.deliveryId} was previously recorded with different event identity."
      "replay the original delivery envelope or use a new provider delivery identity"
      s!"mirror={mirrorId}; delivery={envelope.deliveryId}; duplicate=identity-conflict; providerInvocation=false")

/-- The answer to a delivery that is recorded already: its operation, checkpoint and proposal,
as they are found now. -/
def duplicateAnswer (next : AuthorityPlaneSnapshot) (request : MirrorRequest)
    (deliveryId : String) (delivery : MirrorDelivery) : AuthorityCommandResult :=
  let operation := (truthy delivery.operationId).bind next.mirrorOperations.get?
  let checkpoint := operation.bind fun operation =>
    next.mirrorCheckpoints.get? operation.checkpointId
  let proposal := (truthy delivery.proposalKey).bind fun proposalKey =>
    next.externalProposals.values.find? fun candidate =>
      candidate.mirrorId = request.mirrorId && candidate.proposalKey = proposalKey
  success request.command next
    ([.mirror request.mirror] ++ (operation.map .operation).toList ++
      (checkpoint.map .checkpoint).toList ++ [.delivery delivery] ++
      (proposal.map .proposal).toList)
    s!"mirror={request.mirrorId}; delivery={deliveryId}; duplicate=true; transition=not-repeated; credentialFree=true; canonicalWrite=false"

/-! ## What they checked -/

section

variable {services : AuthorityServices} {next next' : AuthorityPlaneSnapshot} {payload : Payload}
  {drawn : Drawn} {result : AuthorityCommandResult}

/-- A Mirror is filed under a new id. -/
theorem mirrorConfigure_ok
    (h : mirrorConfigure services next payload drawn = .ok (next', result)) :
    ∃ (id : String) (mirror : RepositoryMirror), next.mirrors.get? id = none ∧ mirror.id = id ∧
      next' = next.put .mirrors id mirror := by
  simp only [mirrorConfigure, bind_eq_ok, require_eq_ok, orThrow_eq_ok, exists_unit, pure_eq_ok,
    Prod.mk.injEq] at h
  obtain ⟨_, -, project, -, _, -, space, -, _, -, -, -, _, -, -, -, _, -, _, -, -, _, -, _, -, _,
    -, _, -, _, -, _, -, _, -, -, _, -, -, hnew, rfl, -⟩ := h
  exact ⟨_, _, hnew, rfl, rfl⟩

/-- An operation is of a Mirror of the snapshot, over the canonical Revision of its Project, and
is filed under new ids. -/
theorem readMirrorRequest_ok {command : AuthorityCommandName} {request : MirrorRequest}
    (h : readMirrorRequest next command payload drawn = .ok request) :
    request.command = command ∧ next.mirrors.get? request.mirrorId = some request.mirror ∧
      next.canonicalByProject.get? request.mirror.projectId =
        some request.canonicalProjectRevisionId ∧
      next.mirrorOperations.get? request.operationId = none ∧
      next.mirrorCheckpoints.get? request.checkpointId = none ∧
      requestedReconciliation command payload = .ok request.reconciliation ∧
      whenDefined (record · "externalProposal") (payload.get? "externalProposal") =
        .ok request.externalProposal := by
  simp only [readMirrorRequest, bind_eq_ok, require_eq_ok, orThrow_eq_ok, exists_unit,
    pure_eq_ok] at h
  obtain ⟨_, -, mirror, hmirror, space, -, _, -, hcanonical, revision, -, _, -, _, -, -, _, -, _,
    -, reconciliation, hreconciliation, _, -, -, hoperation, -, _, -, -, hcheckpoint, _, -, _, -,
    _, -, -, proposal, hproposal, _, -, -, rfl⟩ := h
  exact ⟨rfl, hmirror, hcanonical, hoperation, hcheckpoint, hreconciliation, hproposal⟩

end

end Anyam.Authority
