import Anyam.Delivery.MigrationPlan
import Anyam.Delivery.TargetDeployment

/-!
# Promotion records

The data of `delivery/promotion.ts`: the Worker Target and its restore
constructor, what a Target adapter answers, the Promotion record with its
transition table, and its errors. Time stamps and the drawn ids of events are left
out; no method reads them.
-/

namespace Anyam.Delivery

open Anyam.Lib Anyam.Kernel

/-! ## Errors -/

inductive PromotionErrorCode
  | invalidRelease | releaseNotFound | targetMismatch | adapterMismatch | expectedCurrentMismatch
  | idempotencyConflict | invalidState | capabilityUnavailable | providerResultMismatch
  | rollbackUnavailable
deriving DecidableEq, Repr

structure PromotionError where
  code : PromotionErrorCode
  message : String
  affectedObject : String
  recoveryAction : String
  receipt : String
deriving DecidableEq, Repr

/-- What a coordinator method or an execution can throw. -/
inductive DeliveryError
  | promotion (error : PromotionError)
  | profile (error : TargetDeploymentProfileError)
  | migration (error : MigrationPlanError)
deriving DecidableEq, Repr

/-- The lookup or text an error shows when a value is absent. -/
def orNone (value : Option String) : String := value.getD "none"

/-- `values.join(",")`. -/
def joined (values : List String) : String := String.intercalate "," values

/-! ## The Worker Target -/

structure WorkerTargetCapabilities where
  preview : Bool
  promote : Bool
  healthCheck : Bool
  rollback : Bool
deriving DecidableEq, Repr

structure WorkerTarget extends Target where
  currentReleaseId : Option String
  releaseHistory : List String
  capabilities : WorkerTargetCapabilities
  contractDigest : String
deriving DecidableEq, Repr

structure CreateWorkerTargetInput where
  target : Target
  capabilities : WorkerTargetCapabilities
  currentReleaseId : Option String := none
  releaseHistory : List String := []
  contractDigest : Option String := none
deriving DecidableEq, Repr

def requireNonEmpty (value field affectedObject : String) : Except DeliveryError Unit :=
  require (trim value ≠ "") (.promotion {
    code := .invalidRelease
    message := s!"{field} is required for {affectedObject}."
    affectedObject
    recoveryAction := s!"provide a non-empty {field} and retry"
    receipt := s!"field={field}; present=false" })

def requireUniqueIds (ids : List String) (field affectedObject : String) :
    Except DeliveryError Unit :=
  require ids.Nodup (.promotion {
    code := .invalidRelease
    message := s!"{field} contains duplicate IDs for {affectedObject}."
    affectedObject
    recoveryAction := s!"remove duplicate {field} entries and retry"
    receipt := s!"field={field}; count={ids.length}; unique={ids.dedup.length}" })

/-- `input.contractDigest ?? digest({ targetContractDigest, capabilities })`. -/
def workerContractDigest (services : ProfileServices)
    (workerDigest : String → WorkerTargetCapabilities → String) (input : CreateWorkerTargetInput) :
    Except DeliveryError String :=
  match input.contractDigest with
  | some digest => .ok digest
  | none => do
    let target ← (targetDeploymentContractDigest services input.target).mapError .profile
    return workerDigest target input.capabilities

/-- The constructor a stored Worker Target is restored with. -/
def createWorkerTarget (services : ProfileServices)
    (workerDigest : String → WorkerTargetCapabilities → String) (input : CreateWorkerTargetInput) :
    Except DeliveryError WorkerTarget := do
  requireNonEmpty input.target.projectId "projectId" input.target.id
  requireNonEmpty input.target.adapterId "adapterId" input.target.id
  requireUniqueIds input.releaseHistory "releaseHistory" input.target.id
  let current := orNone input.currentReleaseId
  let history := joined input.releaseHistory
  require (∀ id ∈ truthy input.currentReleaseId, id ∈ input.releaseHistory) (.promotion {
    code := .targetMismatch
    message := s!"Target {input.target.id} names current Release {current} outside its known-good history."
    affectedObject := input.target.id
    recoveryAction := "restore the complete Target history before activating its current Release"
    receipt := s!"target={input.target.id}; currentRelease={current}; history={history}" })
  return {
    input.target with
    currentReleaseId := input.currentReleaseId
    releaseHistory := input.releaseHistory
    capabilities := input.capabilities
    contractDigest := ← workerContractDigest services workerDigest input }

/-! ## Releases and adapter answers -/

/-- A sealed Release: the exact record, its Artifacts and Evidence, and the digest
over them. -/
structure ImmutableRelease where
  projectId : String
  release : Release
  artifacts : List Artifact
  evidence : List Evidence
  releaseDigest : String
deriving DecidableEq, Repr

inductive HealthState
  | healthy | unhealthy | unknown
deriving DecidableEq, Repr

instance : ToString HealthState where
  toString
    | .healthy => "healthy"
    | .unhealthy => "unhealthy"
    | .unknown => "unknown"

structure HealthObservation where
  targetId : String
  releaseId : String
  state : HealthState
  receipt : String
deriving DecidableEq, Repr

structure WorkerPreview where
  previewId : String
  releaseDigest : String
  artifactDigests : List String
deriving DecidableEq, Repr

structure WorkerDeployment where
  deploymentId : String
  releaseDigest : String
  artifactDigests : List String
  providerOperationId : Option String
deriving DecidableEq, Repr

inductive FailureOutcome
  | failed | indeterminate
deriving DecidableEq, Repr

structure DeliveryAdapterFailure where
  outcome : FailureOutcome
  errorCode : String
  message : String
  retryable : Bool
  recoveryAction : String
  receipt : String
deriving DecidableEq, Repr

inductive DeliveryAdapterResult (α : Type)
  | succeeded (value : α) (receipt : String)
  | failed (failure : DeliveryAdapterFailure)
deriving DecidableEq, Repr

/-- How an adapter call ends: with a result, or by throwing. -/
inductive AdapterAnswer (α : Type)
  | returned (result : DeliveryAdapterResult α)
  | threw (message : String)
deriving DecidableEq, Repr

def failureFromThrown (operation message : String) : DeliveryAdapterFailure where
  outcome := .indeterminate
  errorCode := "adapter.threw"
  message := s!"Target adapter {operation} threw: {message}"
  retryable := true
  recoveryAction := s!"inspect the provider operation for {operation}, reconcile its state, then retry with a new idempotency key"
  receipt := s!"operation={operation}; provider-result=thrown; message={message}"

/-- `invoke`: a thrown call is an indeterminate failure. -/
def invoke {α : Type} (operation : String) : AdapterAnswer α → DeliveryAdapterResult α
  | .returned result => result
  | .threw message => .failed (failureFromThrown operation message)

/-- `providerResultMatches` on the two fields it reads of a preview or deployment. -/
def providerResultMatches (releaseDigest : String) (artifactDigests : List String)
    (release : ImmutableRelease) : Bool :=
  releaseDigest = release.releaseDigest && artifactDigests = release.artifacts.map Artifact.digest

/-! ## Promotions -/

inductive PromotionState
  | proposed | validating | approved | applying | healthy | failed | blocked | degraded | rolledBack
deriving DecidableEq, Repr

instance : ToString PromotionState where
  toString
    | .proposed => "proposed"
    | .validating => "validating"
    | .approved => "approved"
    | .applying => "applying"
    | .healthy => "healthy"
    | .failed => "failed"
    | .blocked => "blocked"
    | .degraded => "degraded"
    | .rolledBack => "rolled-back"

/-- The states a Promotion may move to. -/
def allowedTransitions : PromotionState → List PromotionState
  | .proposed => [.validating]
  | .validating => [.approved, .failed, .blocked]
  | .approved => [.applying, .failed, .blocked]
  | .applying => [.healthy, .failed, .blocked, .degraded, .rolledBack]
  | .healthy => []
  | .failed => [.proposed]
  | .blocked => [.proposed]
  | .degraded => [.proposed, .rolledBack]
  | .rolledBack => [.proposed]

/-- The states `retryPromotion` accepts. -/
def retryableStates : List PromotionState := [.failed, .blocked, .degraded, .rolledBack]

/-- A state that waits for an execution to move on. -/
def PromotionState.Unsettled (state : PromotionState) : Prop :=
  state = .proposed ∨ state = .validating ∨ state = .approved ∨ state = .applying

instance (state : PromotionState) : Decidable state.Unsettled :=
  inferInstanceAs (Decidable (_ ∨ _))

inductive PromotionKind
  | promotion | rollback
deriving DecidableEq, Repr

structure PromotionRecord where
  id : String
  projectId : String
  targetId : String
  releaseId : String
  releaseDigest : String
  previousReleaseId : Option String
  expectedCurrentReleaseId : Option String
  state : PromotionState
  attempt : Nat
  kind : PromotionKind
  idempotencyKey : String
  actor : ActorRef
  receipt : String
  previewId : Option String := none
  deploymentId : Option String := none
  providerOperationId : Option String := none
  health : Option HealthObservation := none
  rollbackHealth : Option HealthObservation := none
  healthFailure : Option String := none
  rollbackDeploymentId : Option String := none
  rollbackProviderOperationId : Option String := none
  recoveryAction : Option String := none
  rollbackOfPromotionId : Option String := none
deriving DecidableEq, Repr

structure PromotionEvent where
  promotionId : String
  sequence : Nat
  «from» : Option PromotionState
  «to» : PromotionState
  attempt : Nat
  idempotencyKey : String
  actor : ActorRef
  receipt : String
  providerOperationId : Option String
deriving DecidableEq, Repr

/-- `expectedCurrentReleaseId` distinguishes a field left out from an explicit
`null`. -/
structure PromotionRequest where
  releaseId : String
  idempotencyKey : String
  actor : ActorRef
  expectedCurrentReleaseId : Option (Option String) := none
  kind : Option PromotionKind := none
  rollbackOfPromotionId : Option String := none
deriving DecidableEq, Repr

structure PromotionRetryRequest where
  promotionId : String
  idempotencyKey : String
  actor : ActorRef
deriving DecidableEq, Repr

/-! ## Lemmas -/

@[simp] theorem providerResultMatches_iff {releaseDigest : String} {artifactDigests : List String}
    {release : ImmutableRelease} :
    providerResultMatches releaseDigest artifactDigests release = true ↔
      releaseDigest = release.releaseDigest ∧
        artifactDigests = release.artifacts.map Artifact.digest := by
  simp [providerResultMatches]

/-- A Promotion that can be retried is settled, and may be proposed again. -/
theorem proposed_of_retryable {state : PromotionState} (h : state ∈ retryableStates) :
    ¬ state.Unsettled ∧ .proposed ∈ allowedTransitions state := by
  cases state <;> first | exact absurd h (by decide) | decide

end Anyam.Delivery
