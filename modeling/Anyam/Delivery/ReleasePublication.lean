import Anyam.Delivery.PromotionRecords
import Anyam.Lib.AppendLog

/-!
# The release publication coordinator

`delivery/release-publication.ts`: the release asset Target with its restore
constructor, the publication record with its transition table, and
`ReleasePublicationCoordinator`. `execute` waits once, for `adapter.publish`; it is
split there, as the executions of the promotion coordinator are.
-/

namespace Anyam.Delivery

open Anyam.Lib Anyam.Kernel

/-! ## Records -/

inductive ReleasePublicationErrorCode
  | invalidTarget | targetMismatch | adapterMismatch | releaseNotFound | artifactNotFound
  | artifactTypeMismatch | expectedCurrentMismatch | idempotencyConflict | invalidState
  | providerResultMismatch
deriving DecidableEq, Repr

structure ReleasePublicationError where
  code : ReleasePublicationErrorCode
  message : String
  affectedObject : String
  recoveryAction : String
  receipt : String
deriving DecidableEq, Repr

/-- What the restore constructor and the coordinator can throw. -/
inductive PublicationError
  | publication (error : ReleasePublicationError)
  | profile (error : TargetDeploymentProfileError)
deriving DecidableEq, Repr

inductive TargetPublicationState
  | configured | published | degraded | unknown
deriving DecidableEq, Repr

structure ReleaseAssetTarget extends Target where
  currentReleaseId : Option String
  currentArtifactId : Option String
  releaseHistory : List String
  publicationState : TargetPublicationState
  contractDigest : String
deriving DecidableEq, Repr

structure ReleaseAssetTargetInput where
  target : Target
  currentReleaseId : Option String := none
  currentArtifactId : Option String := none
  releaseHistory : List String := []
  publicationState : Option TargetPublicationState := none
  contractDigest : Option String := none
deriving DecidableEq, Repr

/-- What a provider may say about a published asset. -/
structure ProviderDetails where
  providerReleaseId : Option String := none
  providerAssetId : Option String := none
  providerReleaseUrl : Option String := none
  providerAssetUrl : Option String := none
  providerAssetApiUrl : Option String := none
  providerMediaType : Option String := none
  providerByteLength : Option Nat := none
  disclosure : Option DisclosureClassification := none
  providerCapabilities : Option (OrderedMap String Bool) := none
deriving DecidableEq, Repr

/-- The details of a result, over the ones a record had. -/
def ProviderDetails.over (result record : ProviderDetails) : ProviderDetails where
  providerReleaseId := result.providerReleaseId.or record.providerReleaseId
  providerAssetId := result.providerAssetId.or record.providerAssetId
  providerReleaseUrl := result.providerReleaseUrl.or record.providerReleaseUrl
  providerAssetUrl := result.providerAssetUrl.or record.providerAssetUrl
  providerAssetApiUrl := result.providerAssetApiUrl.or record.providerAssetApiUrl
  providerMediaType := result.providerMediaType.or record.providerMediaType
  providerByteLength := result.providerByteLength.or record.providerByteLength
  disclosure := result.disclosure.or record.disclosure
  providerCapabilities := result.providerCapabilities.or record.providerCapabilities

structure PublishedArtifact extends ProviderDetails where
  targetId : String
  releaseId : String
  artifactId : String
  releaseDigest : String
  artifactDigest : String
  providerObjectId : String
  receipt : String
deriving DecidableEq, Repr

inductive ReleasePublicationState
  | proposed | publishing | published | failed | blocked | degraded
deriving DecidableEq, Repr

instance : ToString ReleasePublicationState where
  toString
    | .proposed => "proposed"
    | .publishing => "publishing"
    | .published => "published"
    | .failed => "failed"
    | .blocked => "blocked"
    | .degraded => "degraded"

/-- The states a publication may move to. -/
def transitions : ReleasePublicationState → List ReleasePublicationState
  | .proposed => [.publishing]
  | .publishing => [.published, .failed, .blocked, .degraded]
  | .published => []
  | .failed => [.proposed]
  | .blocked => [.proposed]
  | .degraded => [.proposed]

/-- The states `retry` accepts. -/
def retryablePublicationStates : List ReleasePublicationState := [.failed, .blocked, .degraded]

/-- A state that waits for an execution to move on. -/
def ReleasePublicationState.Unsettled (state : ReleasePublicationState) : Prop :=
  state = .proposed ∨ state = .publishing

instance (state : ReleasePublicationState) : Decidable state.Unsettled :=
  inferInstanceAs (Decidable (_ ∨ _))

structure ReleasePublicationRecord extends ProviderDetails where
  id : String
  projectId : String
  targetId : String
  releaseId : String
  releaseDigest : String
  artifactId : String
  artifactDigest : String
  previousReleaseId : Option String
  expectedCurrentReleaseId : Option String
  state : ReleasePublicationState
  attempt : Nat
  idempotencyKey : String
  actor : ActorRef
  receipt : String
  providerObjectId : Option String := none
  recoveryAction : Option String := none
deriving DecidableEq, Repr

structure ReleasePublicationEvent where
  publicationId : String
  sequence : Nat
  «from» : Option ReleasePublicationState
  «to» : ReleasePublicationState
  attempt : Nat
  idempotencyKey : String
  actor : ActorRef
  receipt : String
deriving DecidableEq, Repr

structure ReleasePublicationRequest where
  releaseId : String
  artifactId : String
  idempotencyKey : String
  actor : ActorRef
  expectedCurrentReleaseId : Option (Option String) := none
deriving DecidableEq, Repr

structure ReleasePublicationRetryRequest where
  publicationId : String
  idempotencyKey : String
  actor : ActorRef
deriving DecidableEq, Repr

/-- `providerMatches`: the result echoes the publication's lineage. -/
def providerMatches (result : PublishedArtifact) (publication : ReleasePublicationRecord) : Bool :=
  result.targetId = publication.targetId && result.releaseId = publication.releaseId &&
    result.artifactId = publication.artifactId &&
    result.releaseDigest = publication.releaseDigest &&
    result.artifactDigest = publication.artifactDigest

/-! ## The restore constructor -/

def requireTargetField (value field affectedObject : String) : Except PublicationError Unit :=
  require (trim value ≠ "") (.publication {
    code := .invalidTarget
    message := s!"{field} is required for {affectedObject}."
    affectedObject
    recoveryAction := s!"provide a non-empty {field} and retry"
    receipt := s!"field={field}; present=false" })

section Restore

variable (services : ProfileServices)

/-- `defaultContractDigest`: the digest of the Target with its profile filled in. -/
def defaultContractDigest (target : Target) : Except TargetDeploymentProfileError String := do
  let profile ← targetDeploymentProfile services target
  targetDeploymentContractDigest services { target with deploymentProfile := some profile }

/-- `input.contractDigest ?? defaultContractDigest(input.target)`. -/
def assetContractDigest (input : ReleaseAssetTargetInput) :
    Except TargetDeploymentProfileError String :=
  match input.contractDigest with
  | some digest => .ok digest
  | none => defaultContractDigest services input.target

def createReleaseAssetTarget (input : ReleaseAssetTargetInput) :
    Except PublicationError ReleaseAssetTarget := do
  requireTargetField input.target.id "target.id" input.target.id
  requireTargetField input.target.projectId "target.projectId" input.target.id
  requireTargetField input.target.adapterId "target.adapterId" input.target.id
  let history := joined input.releaseHistory
  let current := orNone input.currentReleaseId
  let artifact := orNone input.currentArtifactId
  require input.releaseHistory.Nodup (.publication {
    code := .invalidTarget
    message := s!"Target {input.target.id} has duplicate Release history entries."
    affectedObject := input.target.id
    recoveryAction := "repair the append-only Target history before activating it"
    receipt := s!"target={input.target.id}; history={history}" })
  require (input.currentReleaseId = none ↔ input.currentArtifactId = none) (.publication {
    code := .invalidTarget
    message := s!"Target {input.target.id} must bind its current Release and Artifact together."
    affectedObject := input.target.id
    recoveryAction := "restore both current pointers or clear both before retrying"
    receipt := s!"target={input.target.id}; currentRelease={current}; currentArtifact={artifact}" })
  require (∀ id ∈ truthy input.currentReleaseId, id ∈ input.releaseHistory) (.publication {
    code := .invalidTarget
    message := s!"Target {input.target.id} names current Release {current} outside its history."
    affectedObject := input.target.id
    recoveryAction := "restore the complete Target history before activating its current Release"
    receipt := s!"target={input.target.id}; currentRelease={current}; history={history}" })
  let profile ← (targetDeploymentProfile services input.target).mapError .profile
  let contractDigest ← (assetContractDigest services input).mapError .profile
  return {
    input.target with
    deploymentProfile := some profile
    currentReleaseId := input.currentReleaseId
    currentArtifactId := input.currentArtifactId
    releaseHistory := input.releaseHistory
    publicationState := input.publicationState.getD .configured
    contractDigest }

end Restore

/-- The Target after a publication of the Artifact was accepted. -/
def ReleaseAssetTarget.published (target : ReleaseAssetTarget)
    (releaseId artifactId : String) : ReleaseAssetTarget :=
  { target with
    currentReleaseId := some releaseId
    currentArtifactId := some artifactId
    releaseHistory := appendUnlessLast target.releaseHistory releaseId
    publicationState := .published
    state := .healthy }

/-- A thrown `publish` is an indeterminate failure. -/
def adapterThrown (operation message : String) : DeliveryAdapterFailure where
  outcome := .indeterminate
  errorCode := "adapter.threw"
  message := s!"Release Target adapter {operation} threw: {message}"
  retryable := true
  recoveryAction := s!"inspect the provider operation for {operation}, reconcile its state, then retry with a new idempotency key"
  receipt := s!"operation={operation}; provider-result=thrown; message={message}"

def invokePublish : AdapterAnswer PublishedArtifact → DeliveryAdapterResult PublishedArtifact
  | .returned result => result
  | .threw message => .failed (adapterThrown "publish" message)

/-! ## The coordinator -/

/-- A registered execution: suspended at `adapter.publish`, or settled and not yet
removed. -/
inductive PublicationExecution
  | waiting (release : ImmutableRelease) (artifact : Artifact)
  | settled (outcome : Except PublicationError ReleasePublicationRecord)
deriving Repr

structure ReleasePublicationCoordinator where
  projectId : String
  target : ReleaseAssetTarget
  releases : OrderedMap String ImmutableRelease
  publications : OrderedMap String ReleasePublicationRecord
  idempotency : OrderedMap String String
  executions : OrderedMap String PublicationExecution
  events : List ReleasePublicationEvent
deriving Repr

namespace ReleasePublicationCoordinator

/-- The constructor's state before its Releases are registered. -/
def initial (projectId : String) (target : ReleaseAssetTarget) : ReleasePublicationCoordinator where
  projectId := projectId
  target := target
  releases := OrderedMap.empty
  publications := OrderedMap.empty
  idempotency := OrderedMap.empty
  executions := OrderedMap.empty
  events := []

variable (s : ReleasePublicationCoordinator)

def registerRelease (release : ImmutableRelease) :
    Except PublicationError ReleasePublicationCoordinator := do
  require (release.projectId = s.projectId) (.publication {
    code := .targetMismatch
    message := s!"Verified Release {release.release.id} belongs to {release.projectId}, not {s.projectId}."
    affectedObject := release.release.id
    recoveryAction := "register the Release with its owning Project coordinator"
    receipt := s!"releaseProject={release.projectId}; coordinatorProject={s.projectId}" })
  match s.releases.get? release.release.id with
  | some current => do
    require (current.releaseDigest = release.releaseDigest) (.publication {
      code := .providerResultMismatch
      message := s!"Release {release.release.id} is already registered with a different immutable digest."
      affectedObject := release.release.id
      recoveryAction := "use the original immutable Release or create a new Release ID"
      receipt := s!"release={release.release.id}; existingDigest={current.releaseDigest}; receivedDigest={release.releaseDigest}" })
    return s
  | none => return { s with releases := s.releases.set release.release.id release }

/-- The constructor. Its Releases are registered one by one. -/
def create (projectId adapterId : String) (target : ReleaseAssetTarget)
    (releases : List ImmutableRelease) : Except PublicationError ReleasePublicationCoordinator := do
  requireTargetField projectId "projectId" "release-publication-coordinator"
  require (target.projectId = projectId) (.publication {
    code := .targetMismatch
    message := s!"Target {target.id} belongs to {target.projectId}, not {projectId}."
    affectedObject := target.id
    recoveryAction := "construct the coordinator with the Target's owning Project"
    receipt := s!"targetProject={target.projectId}; coordinatorProject={projectId}" })
  require (adapterId = target.adapterId) (.publication {
    code := .adapterMismatch
    message := s!"Target {target.id} requires adapter {target.adapterId}, received {adapterId}."
    affectedObject := target.id
    recoveryAction := "select the adapter declared by the Target"
    receipt := s!"targetAdapter={target.adapterId}; receivedAdapter={adapterId}" })
  releases.foldlM registerRelease (initial projectId target)

/-! ### Records, events and transitions -/

/-- The state after a publication record was edited in place. -/
def put (publication : ReleasePublicationRecord) : ReleasePublicationCoordinator :=
  { s with publications := s.publications.set publication.id publication }

def setPublicationState (publicationState : TargetPublicationState) :
    ReleasePublicationCoordinator :=
  { s with target := { s.target with publicationState } }

def emit (publication : ReleasePublicationRecord) («from» : Option ReleasePublicationState)
    («to» : ReleasePublicationState) (receipt : String) : ReleasePublicationCoordinator :=
  { s with events := s.events ++ [{
      publicationId := publication.id
      sequence := s.events.length + 1
      «from»
      «to»
      attempt := publication.attempt
      idempotencyKey := publication.idempotencyKey
      actor := publication.actor
      receipt }] }

/-- Move a publication, given with the edits made to it so far, to its next state. -/
def transition (publication : ReleasePublicationRecord) (next : ReleasePublicationState)
    (receipt : String) :
    Except PublicationError ReleasePublicationRecord × ReleasePublicationCoordinator :=
  if next ∈ transitions publication.state then
    let moved := { publication with state := next }
    (.ok moved, (s.put moved).emit moved (some publication.state) next receipt)
  else
    (.error (.publication {
      code := .invalidState
      message := s!"Release publication {publication.id} cannot transition from {publication.state} to {next}."
      affectedObject := publication.id
      recoveryAction := "inspect the publication event ledger and resume from its recorded state"
      receipt := s!"publication={publication.id}; from={publication.state}; to={next}" }),
    s.put publication)

/-- `fail`, for the states `failed`, `blocked` and `degraded`. -/
def fail (publication : ReleasePublicationRecord) (state : ReleasePublicationState)
    (message recoveryAction receipt : String) :
    Except PublicationError ReleasePublicationRecord × ReleasePublicationCoordinator :=
  let receipt := s!"publication={state}; {message}; {receipt}"
  s.transition { publication with recoveryAction := some recoveryAction, receipt } state receipt

/-! ### Requests -/

/-- The publication an idempotency key is bound to: `none` when the key is new. -/
def requestedBefore (input : ReleasePublicationRequest) :
    Except PublicationError (Option ReleasePublicationRecord) :=
  match truthy (s.idempotency.get? input.idempotencyKey) with
  | none => return none
  | some existingId => do
    let existing ← orThrow ((s.publications.get? existingId).filter fun existing =>
        existing.releaseId = input.releaseId ∧ existing.artifactId = input.artifactId) (.publication {
      code := .idempotencyConflict
      message := s!"Idempotency key {input.idempotencyKey} was already used for another artifact publication."
      affectedObject := input.idempotencyKey
      recoveryAction := "use a new idempotency key for a different Release or Artifact"
      receipt := s!"idempotencyKey={input.idempotencyKey}; existingPublication={existingId}; requestedRelease={input.releaseId}; requestedArtifact={input.artifactId}" })
    return some existing

/-- The Artifact of a Release with an id. -/
def artifactOf (release : ImmutableRelease) (artifactId : String) : Option Artifact :=
  release.artifacts.find? fun candidate => candidate.id = artifactId

/-- The record of a new request against the current Target, with a drawn id. -/
def newPublication (input : ReleasePublicationRequest) (release : ImmutableRelease)
    (artifact : Artifact) (uuid : String) : ReleasePublicationRecord where
  id := opaqueId "release-publication" uuid
  projectId := s.projectId
  targetId := s.target.id
  releaseId := release.release.id
  releaseDigest := release.releaseDigest
  artifactId := artifact.id
  artifactDigest := artifact.digest
  previousReleaseId := s.target.currentReleaseId
  expectedCurrentReleaseId := input.expectedCurrentReleaseId.getD s.target.currentReleaseId
  state := .proposed
  attempt := 0
  idempotencyKey := input.idempotencyKey
  actor := input.actor
  receipt :=
    let expected := orNone (input.expectedCurrentReleaseId.getD s.target.currentReleaseId)
    s!"publication=proposed; target={s.target.id}; release={release.release.id}; artifact={artifact.id}; expectedCurrent={expected}"

/-- File a new record and its idempotency key. -/
def fileRequest (publication : ReleasePublicationRecord) : ReleasePublicationCoordinator :=
  { s.put publication with
    idempotency := s.idempotency.set publication.idempotencyKey publication.id }.emit
    publication none .proposed publication.receipt

def requestPublication (input : ReleasePublicationRequest) (uuid : String) :
    Except PublicationError (ReleasePublicationRecord × ReleasePublicationCoordinator) := do
  match ← s.requestedBefore input with
  | some existing => return (existing, s)
  | none =>
    let release ← orThrow (s.releases.get? input.releaseId) (.publication {
      code := .releaseNotFound
      message := s!"Verified Release {input.releaseId} is not registered with Target {s.target.id}."
      affectedObject := input.releaseId
      recoveryAction := "seal and register the exact ready Release before publication"
      receipt := s!"release={input.releaseId}; registered=false; target={s.target.id}" })
    let artifact ← orThrow (artifactOf release input.artifactId) (.publication {
      code := .artifactNotFound
      message := s!"Artifact {input.artifactId} is not part of Release {release.release.id}."
      affectedObject := input.artifactId
      recoveryAction := "select an Artifact declared by the immutable Release"
      receipt := s!"release={release.release.id}; artifact={input.artifactId}; present=false" })
    let accepted := joined s.target.acceptedArtifactTypes
    require (artifact.type ∈ s.target.acceptedArtifactTypes) (.publication {
      code := .artifactTypeMismatch
      message := s!"Target {s.target.id} does not accept Artifact type {artifact.type}."
      affectedObject := artifact.id
      recoveryAction := "select a Target-compatible Artifact or configure a Target adapter for this type"
      receipt := s!"target={s.target.id}; accepted={accepted}; artifactType={artifact.type}" })
    let expected := input.expectedCurrentReleaseId.getD s.target.currentReleaseId
    let named := orNone expected
    let actual := orNone s.target.currentReleaseId
    require (expected = s.target.currentReleaseId) (.publication {
      code := .expectedCurrentMismatch
      message := s!"Target {s.target.id} changed before publishing Release {release.release.id}."
      affectedObject := s.target.id
      recoveryAction := "refresh Target state and retry with the current expected Release ID"
      receipt := s!"target={s.target.id}; expectedCurrent={named}; actualCurrent={actual}" })
    let publication := s.newPublication input release artifact uuid
    return (publication, s.fileRequest publication)

/-! ### Executions -/

/-- The execution an outcome settles. -/
def settleWith (outcome : Except PublicationError ReleasePublicationRecord ×
      ReleasePublicationCoordinator) : PublicationExecution × ReleasePublicationCoordinator :=
  (.settled outcome.1, outcome.2)

/-- `execute` up to `adapter.publish`. -/
def execute (publicationId : String) : PublicationExecution × ReleasePublicationCoordinator :=
  match s.publications.get? publicationId with
  | none => settleWith (.error (.publication {
      code := .releaseNotFound
      message := s!"Release publication {publicationId} does not exist."
      affectedObject := publicationId
      recoveryAction := "use the publication ID returned by the request operation"
      receipt := s!"publication={publicationId}; record=missing" }), s)
  | some publication =>
    if publication.state ≠ .proposed then settleWith (.ok publication, s) else
    match s.releases.get? publication.releaseId with
    | none => settleWith (s.fail publication .failed
        "The registered immutable Release disappeared before publication."
        "restore the Release registry before retrying"
        s!"release={publication.releaseId}; registry=missing")
    | some release =>
      match artifactOf release publication.artifactId with
      | none => settleWith (s.fail publication .blocked
          s!"Artifact {publication.artifactId} disappeared from the immutable Release."
          "restore the exact Release snapshot before retrying"
          s!"release={release.release.id}; artifact={publication.artifactId}; present=false")
      | some artifact =>
        match s.transition publication .publishing
          s!"publication=publishing; releaseDigest={release.releaseDigest}; artifactDigest={artifact.digest}" with
        | (.error error, s) => settleWith (.error error, s)
        | (.ok _, s) => (.waiting release artifact, s)

/-- `executeOnce`: an execution already registered is not started again. -/
def executeOnce (publicationId : String) : ReleasePublicationCoordinator :=
  if s.executions.has publicationId then s
  else
    let (execution, s) := s.execute publicationId
    { s with executions := s.executions.set publicationId execution }

/-- The state a failed provider call leaves its publication in. -/
def publishFailureState (failure : DeliveryAdapterFailure) : ReleasePublicationState :=
  match failure.outcome with
  | .indeterminate => .degraded
  | .failed => if failure.retryable then .failed else .blocked

/-- `execute` from the answer of `adapter.publish` on. -/
def resumePublish (publication : ReleasePublicationRecord) (release : ImmutableRelease)
    (artifact : Artifact) (answer : AdapterAnswer PublishedArtifact) :
    PublicationExecution × ReleasePublicationCoordinator :=
  match invokePublish answer with
  | .failed failure =>
    let state := publishFailureState failure
    let s := if state = .degraded then s.setPublicationState .degraded else s
    settleWith (s.fail publication state s!"Target publication failed: {failure.message}"
      failure.recoveryAction failure.receipt)
  | .succeeded value providerReceipt =>
    if ¬ providerMatches value publication then
      settleWith ((s.setPublicationState .degraded).fail publication .degraded
        "Target adapter returned a different Release or Artifact lineage."
        "reconcile the provider publication before retrying"
        s!"expectedReleaseDigest={publication.releaseDigest}; receivedReleaseDigest={value.releaseDigest}; expectedArtifactDigest={publication.artifactDigest}; receivedArtifactDigest={value.artifactDigest}")
    else
      let receipt := s!"publication=published; target={s.target.id}; release={release.release.id}; artifact={artifact.id}; releaseDigest={release.releaseDigest}; artifactDigest={artifact.digest}; providerReceipt={providerReceipt}"
      let target := s.target.published release.release.id artifact.id
      settleWith ({ s with target }.transition { publication with
        toProviderDetails := value.toProviderDetails.over publication.toProviderDetails
        providerObjectId := some value.providerObjectId
        receipt } .published receipt)

/-! ### Retries -/

/-- The record of a retry, ready to be proposed again. -/
def retried (publication : ReleasePublicationRecord) (idempotencyKey : String) :
    ReleasePublicationRecord :=
  let expected := orNone s.target.currentReleaseId
  let attempt := publication.attempt + 1
  { publication with
    idempotencyKey
    expectedCurrentReleaseId := s.target.currentReleaseId
    previousReleaseId := s.target.currentReleaseId
    attempt
    receipt := s!"publication=retry-requested; target={s.target.id}; release={publication.releaseId}; artifact={publication.artifactId}; attempt={attempt}; expectedCurrent={expected}"
    recoveryAction := some "retry is executing against the current Target pointer"
    providerObjectId := none }

/-- The publication a retry key is bound to: `none` when the key is new. -/
def retriedBefore (input : ReleasePublicationRetryRequest) :
    Except PublicationError (Option ReleasePublicationRecord) :=
  match truthy (s.idempotency.get? input.idempotencyKey) with
  | none => return none
  | some existingId => do
    let existing ← orThrow
      ((s.publications.get? existingId).filter fun p => p.id = input.publicationId) (.publication {
        code := .idempotencyConflict
        message := s!"Retry idempotency key {input.idempotencyKey} was already used by another publication."
        affectedObject := input.idempotencyKey
        recoveryAction := "use a new retry idempotency key"
        receipt := s!"idempotencyKey={input.idempotencyKey}; requestedPublication={input.publicationId}; existingPublication={existingId}" })
    return some existing

/-- The publication a retry with a new key is for. -/
def retryablePublication (input : ReleasePublicationRetryRequest) :
    Except PublicationError ReleasePublicationRecord := do
  let publication ← orThrow (s.publications.get? input.publicationId) (.publication {
    code := .releaseNotFound
    message := s!"Release publication {input.publicationId} does not exist."
    affectedObject := input.publicationId
    recoveryAction := "use the recorded publication ID from the authoritative Target ledger"
    receipt := s!"publication={input.publicationId}; record=missing" })
  require (publication.state ∈ retryablePublicationStates) (.publication {
    code := .invalidState
    message := s!"Release publication {publication.id} is {publication.state}; only failed, blocked, or degraded publication may retry."
    affectedObject := publication.id
    recoveryAction := "wait for a recoverable publication state before retrying"
    receipt := s!"publication={publication.id}; state={publication.state}; retryableStates=failed,blocked,degraded" })
  return publication

end ReleasePublicationCoordinator

end Anyam.Delivery
