import Anyam.Delivery.PromotionRecords
import Anyam.Lib.AppendLog

/-!
# The Worker promotion coordinator

`WorkerPromotionCoordinator` of `delivery/promotion.ts`. A Promotion record is
shared and edited in place, and a method that throws keeps the edits it made
before, so a method that edits returns its outcome and the state it leaves.

`execute` waits for its Target adapter up to five times. It is split at its waits:
`Stage` says which answer an `Execution` waits for and what it holds on to, and
one method resumes it per answer. The Promotion itself is read again at every
resumption, since other calls may have edited it meanwhile.
-/

namespace Anyam.Delivery

open Anyam.Lib Anyam.Kernel

/-- The answer an execution waits for, and the local values it still needs. -/
inductive Stage
  | preview
  /-- `adapter.apply`, or `adapter.rollback` for a Promotion of that kind. -/
  | deployment
  | health (deployment : WorkerDeployment)
  /-- The automatic rollback to a previous Release. -/
  | rollback (previous : ImmutableRelease)
  | rollbackHealth (previous : ImmutableRelease) (rollback : WorkerDeployment)
  /-- `recoverAfterHealthFailure` returned; `execute` has yet to return. -/
  | recovered
deriving DecidableEq, Repr

/-- A registered execution: suspended with its Release, or settled and not yet
removed. -/
inductive Execution
  | waiting (release : ImmutableRelease) (stage : Stage)
  | settled (outcome : Except DeliveryError PromotionRecord)
deriving Repr

structure WorkerPromotionCoordinator where
  projectId : String
  target : WorkerTarget
  releases : OrderedMap String ImmutableRelease
  promotions : OrderedMap String PromotionRecord
  idempotency : OrderedMap String String
  executions : OrderedMap String Execution
  events : List PromotionEvent
deriving Repr

namespace WorkerPromotionCoordinator

/-! ## Construction -/

/-- The constructor's state before its Releases are registered. -/
def initial (projectId : String) (target : WorkerTarget) : WorkerPromotionCoordinator where
  projectId := projectId
  target := target
  releases := OrderedMap.empty
  promotions := OrderedMap.empty
  idempotency := OrderedMap.empty
  executions := OrderedMap.empty
  events := []

variable (s : WorkerPromotionCoordinator)

def registerRelease (release : ImmutableRelease) :
    Except DeliveryError WorkerPromotionCoordinator := do
  require (release.projectId = s.projectId) (.promotion {
    code := .targetMismatch
    message := s!"Verified Release {release.release.id} belongs to {release.projectId}, not {s.projectId}."
    affectedObject := release.release.id
    recoveryAction := "register the Release with its owning Project coordinator"
    receipt := s!"releaseProject={release.projectId}; coordinatorProject={s.projectId}" })
  match s.releases.get? release.release.id with
  | some current => do
    require (current.releaseDigest = release.releaseDigest) (.promotion {
      code := .invalidRelease
      message := s!"Release {release.release.id} is already registered with a different immutable digest."
      affectedObject := release.release.id
      recoveryAction := "use the original immutable Release or create a new Release ID"
      receipt := s!"release={release.release.id}; existingDigest={current.releaseDigest}; receivedDigest={release.releaseDigest}" })
    return s
  | none => return { s with releases := s.releases.set release.release.id release }

/-- The constructor. Its Releases are registered one by one. -/
def create (projectId adapterId : String) (target : WorkerTarget)
    (releases : List ImmutableRelease) : Except DeliveryError WorkerPromotionCoordinator := do
  requireNonEmpty projectId "projectId" "promotion-coordinator"
  require (target.projectId = projectId) (.promotion {
    code := .targetMismatch
    message := s!"Target {target.id} belongs to {target.projectId}, not {projectId}."
    affectedObject := target.id
    recoveryAction := "construct the coordinator with the Target's owning Project"
    receipt := s!"targetProject={target.projectId}; coordinatorProject={projectId}" })
  require (adapterId = target.adapterId) (.promotion {
    code := .adapterMismatch
    message := s!"Target {target.id} requires adapter {target.adapterId}, received {adapterId}."
    affectedObject := target.id
    recoveryAction := "select the adapter declared by the Target"
    receipt := s!"targetAdapter={target.adapterId}; receivedAdapter={adapterId}" })
  releases.foldlM registerRelease (initial projectId target)

/-! ## Records, events and transitions -/

/-- The state after a Promotion record was edited in place. -/
def put (promotion : PromotionRecord) : WorkerPromotionCoordinator :=
  { s with promotions := s.promotions.set promotion.id promotion }

def setTargetState (state : TargetState) : WorkerPromotionCoordinator :=
  { s with target := { s.target with state } }

def emit (promotion : PromotionRecord) («from» : Option PromotionState) («to» : PromotionState)
    (receipt : String) (providerOperationId : Option String) : WorkerPromotionCoordinator :=
  { s with events := s.events ++ [{
      promotionId := promotion.id
      sequence := s.events.length + 1
      «from»
      «to»
      attempt := promotion.attempt
      idempotencyKey := promotion.idempotencyKey
      actor := promotion.actor
      receipt
      providerOperationId := truthy providerOperationId }] }

/-- Move a Promotion, given with the edits made to it so far, to its next state. A
move the table does not have throws, and the edits stay. -/
def transition (promotion : PromotionRecord) (next : PromotionState) (receipt : String)
    (providerOperationId : Option String) :
    Except DeliveryError PromotionRecord × WorkerPromotionCoordinator :=
  if next ∈ allowedTransitions promotion.state then
    let moved := { promotion with state := next }
    (.ok moved, (s.put moved).emit moved (some promotion.state) next receipt providerOperationId)
  else
    (.error (.promotion {
      code := .invalidState
      message := s!"Promotion {promotion.id} cannot transition from {promotion.state} to {next}."
      affectedObject := promotion.id
      recoveryAction := "inspect the Promotion event ledger and resume only from the recorded state"
      receipt := s!"promotion={promotion.id}; from={promotion.state}; to={next}" }),
    s.put promotion)

/-- `fail`, for the states `failed` and `blocked`. -/
def fail (promotion : PromotionRecord) (state : PromotionState)
    (message recoveryAction receipt : String) :
    Except DeliveryError PromotionRecord × WorkerPromotionCoordinator :=
  let receipt := s!"promotion={state}; {message}; {receipt}"
  s.transition { promotion with recoveryAction := some recoveryAction, receipt } state receipt none

def degrade (promotion : PromotionRecord) (message recoveryAction receipt : String) :
    Except DeliveryError PromotionRecord × WorkerPromotionCoordinator :=
  let receipt := s!"promotion=degraded; {message}; {receipt}"
  (s.setTargetState .degraded).transition
    { promotion with recoveryAction := some recoveryAction, receipt } .degraded receipt none

/-- The state a failed adapter call leaves its Promotion in. -/
def adapterFailureState (failure : DeliveryAdapterFailure) (operation : String) : PromotionState :=
  match failure.outcome with
  | .indeterminate => if operation = "apply" then .degraded else .failed
  | .failed => if failure.retryable then .failed else .blocked

def failFromAdapter (promotion : PromotionRecord) (failure : DeliveryAdapterFailure)
    (operation : String) : Except DeliveryError PromotionRecord × WorkerPromotionCoordinator :=
  let state := adapterFailureState failure operation
  if state = .degraded then
    s.degrade promotion s!"{operation} returned an indeterminate provider result: {failure.message}"
      failure.recoveryAction failure.receipt
  else
    s.fail promotion state s!"{operation} failed: {failure.message}" failure.recoveryAction
      failure.receipt

def completeHealthy (promotion : PromotionRecord) (release : ImmutableRelease)
    (health : HealthObservation) (providerOperationId : Option String) :
    Except DeliveryError PromotionRecord × WorkerPromotionCoordinator :=
  let releaseId := release.release.id
  let target := { s.target with
    currentReleaseId := some releaseId
    releaseHistory := appendUnlessLast s.target.releaseHistory releaseId
    state := .healthy }
  let digests := joined (release.artifacts.map Artifact.digest)
  let receipt := s!"promotion=healthy; target={s.target.id}; release={releaseId}; artifactDigests={digests}; health={health.receipt}"
  { s with target }.transition { promotion with receipt } .healthy receipt providerOperationId

/-! ## Requests -/

/-- The Promotion an idempotency key is bound to: `none` when the key is new. -/
def requestedBefore (input : PromotionRequest) : Except DeliveryError (Option PromotionRecord) :=
  match truthy (s.idempotency.get? input.idempotencyKey) with
  | none => return none
  | some existingId => do
    let existing ← orThrow (s.promotions.get? existingId) (.promotion {
      code := .idempotencyConflict
      message := s!"Idempotency key {input.idempotencyKey} points to missing Promotion {existingId}."
      affectedObject := input.idempotencyKey
      recoveryAction := "repair the authoritative Promotion ledger before retrying"
      receipt := s!"idempotencyKey={input.idempotencyKey}; promotion={existingId}; record=missing" })
    require (existing.releaseId = input.releaseId ∧ existing.targetId = s.target.id) (.promotion {
      code := .idempotencyConflict
      message := s!"Idempotency key {input.idempotencyKey} was already used for another Promotion."
      affectedObject := input.idempotencyKey
      recoveryAction := "use a new idempotency key for a different Release or Target"
      receipt := s!"idempotencyKey={input.idempotencyKey}; existingRelease={existing.releaseId}; requestedRelease={input.releaseId}; target={s.target.id}" })
    return some existing

/-- The record of a new request against the current Target, with a drawn id. -/
def newPromotion (input : PromotionRequest) (release : ImmutableRelease) (uuid : String) :
    PromotionRecord where
  id := opaqueId "promotion" uuid
  projectId := s.projectId
  targetId := s.target.id
  releaseId := input.releaseId
  releaseDigest := release.releaseDigest
  previousReleaseId := s.target.currentReleaseId
  expectedCurrentReleaseId := input.expectedCurrentReleaseId.getD s.target.currentReleaseId
  state := .proposed
  attempt := 0
  kind := input.kind.getD .promotion
  idempotencyKey := input.idempotencyKey
  actor := input.actor
  receipt :=
    let expected := orNone (input.expectedCurrentReleaseId.getD s.target.currentReleaseId)
    s!"promotion=proposed; target={s.target.id}; release={input.releaseId}; expectedCurrent={expected}"
  rollbackOfPromotionId := truthy input.rollbackOfPromotionId

/-- File a new record and its idempotency key. -/
def fileRequest (promotion : PromotionRecord) : WorkerPromotionCoordinator :=
  { s.put promotion with
    idempotency := s.idempotency.set promotion.idempotencyKey promotion.id }.emit
    promotion none .proposed promotion.receipt none

def requestPromotion (input : PromotionRequest) (uuid : String) :
    Except DeliveryError (PromotionRecord × WorkerPromotionCoordinator) := do
  match ← s.requestedBefore input with
  | some existing => return (existing, s)
  | none =>
    let release ← orThrow (s.releases.get? input.releaseId) (.promotion {
      code := .releaseNotFound
      message := s!"Verified Release {input.releaseId} is not registered with Target {s.target.id}."
      affectedObject := input.releaseId
      recoveryAction := "seal and register the exact ready Release before requesting Promotion"
      receipt := s!"release={input.releaseId}; registered=false; target={s.target.id}" })
    let expected := input.expectedCurrentReleaseId.getD s.target.currentReleaseId
    let named := orNone expected
    let actual := orNone s.target.currentReleaseId
    require (expected = s.target.currentReleaseId) (.promotion {
      code := .expectedCurrentMismatch
      message := s!"Target {s.target.id} changed before Promotion {input.releaseId} was requested."
      affectedObject := s.target.id
      recoveryAction := "refresh Target state and retry with the current expected Release ID"
      receipt := s!"target={s.target.id}; expectedCurrent={named}; actualCurrent={actual}" })
    let promotion := s.newPromotion input release uuid
    return (promotion, s.fileRequest promotion)

/-! ## Executions -/

/-- The execution an outcome settles. -/
def settleWith (outcome : Except DeliveryError PromotionRecord × WorkerPromotionCoordinator) :
    Execution × WorkerPromotionCoordinator :=
  (.settled outcome.1, outcome.2)

/-- `execute` up to its first wait. -/
def execute (promotionId : String) : Execution × WorkerPromotionCoordinator :=
  match s.promotions.get? promotionId with
  | none => settleWith (.error (.promotion {
      code := .releaseNotFound
      message := s!"Promotion {promotionId} does not exist."
      affectedObject := promotionId
      recoveryAction := "use the Promotion ID returned by the request operation"
      receipt := s!"promotion={promotionId}; record=missing" }), s)
  | some promotion =>
    if promotion.state ≠ .proposed then settleWith (.ok promotion, s) else
    match s.releases.get? promotion.releaseId with
    | none => settleWith (s.fail promotion .failed
        s!"Registered Release {promotion.releaseId} disappeared before execution."
        "restore the immutable Release registry before retrying"
        s!"release={promotion.releaseId}; registry=missing")
    | some release =>
      match assertTargetCanPromote s.target.toTarget with
      | .error error => settleWith
          (s.fail promotion .blocked error.message error.recoveryAction error.receipt)
      | .ok _ =>
        if ¬ s.target.capabilities.preview then settleWith (s.fail promotion .blocked
            s!"Target {s.target.id} does not declare preview capability."
            "qualify a preview-capable Worker Target before Promotion"
            s!"target={s.target.id}; capability=preview; enabled=false")
        else
          match s.transition promotion .validating
            s!"promotion=validating; release={release.release.id}; digest={release.releaseDigest}"
            none with
          | (.error error, s) => settleWith (.error error, s)
          | (.ok _, s) => (.waiting release .preview, s)

/-- `executeOnce`: an execution already registered is not started again. -/
def executeOnce (promotionId : String) : WorkerPromotionCoordinator :=
  if s.executions.has promotionId then s
  else
    let (execution, s) := s.execute promotionId
    { s with executions := s.executions.set promotionId execution }

/-- `execute` from the preview on, up to the deployment call. -/
def resumePreview (promotion : PromotionRecord) (release : ImmutableRelease)
    (answer : AdapterAnswer WorkerPreview) : Execution × WorkerPromotionCoordinator :=
  match invoke "preview" answer with
  | .failed failure => settleWith (s.failFromAdapter promotion failure "preview")
  | .succeeded preview providerReceipt =>
    if ¬ providerResultMatches preview.releaseDigest preview.artifactDigests release then
      settleWith (s.fail promotion .blocked
        s!"Preview for Promotion {promotion.id} did not identify the sealed Release and Artifact digests."
        "fix the Target adapter to return the exact immutable Release lineage"
        s!"promotion={promotion.id}; expectedReleaseDigest={release.releaseDigest}; receivedReleaseDigest={preview.releaseDigest}")
    else
      let receipt := s!"promotion=previewed; release={release.release.id}; preview={preview.previewId}; providerReceipt={providerReceipt}"
      match s.transition { promotion with previewId := some preview.previewId, receipt } .approved
        receipt none with
      | (.error error, s) => settleWith (.error error, s)
      | (.ok promotion, s) =>
        if ¬ s.target.capabilities.promote then settleWith (s.fail promotion .blocked
            s!"Target {s.target.id} does not declare Promotion capability."
            "qualify a Promotion-capable Worker Target before shipping"
            s!"target={s.target.id}; capability=promote; enabled=false")
        else if promotion.kind = .rollback ∧ ¬ s.target.capabilities.rollback then
          settleWith (s.fail promotion .blocked
            s!"Target {s.target.id} does not declare rollback capability."
            "qualify a rollback-capable Worker Target before requesting rollback"
            s!"target={s.target.id}; capability=rollback; enabled=false")
        else
          match s.transition promotion .applying
            s!"promotion=applying; release={release.release.id}; preview={preview.previewId}"
            none with
          | (.error error, s) => settleWith (.error error, s)
          | (.ok _, s) => (.waiting release .deployment, s)

/-- The adapter operation a Promotion is deployed with. -/
def deploymentOperation (kind : PromotionKind) : String :=
  if kind = .rollback then "rollback" else "apply"

/-- `execute` from the deployment on, up to the health check. -/
def resumeDeployment (promotion : PromotionRecord) (release : ImmutableRelease)
    (answer : AdapterAnswer WorkerDeployment) : Execution × WorkerPromotionCoordinator :=
  match invoke (deploymentOperation promotion.kind) answer with
  | .failed failure =>
    settleWith (s.failFromAdapter promotion failure (deploymentOperation promotion.kind))
  | .succeeded deployment _ =>
    if ¬ providerResultMatches deployment.releaseDigest deployment.artifactDigests release then
      settleWith (s.degrade promotion
        s!"Deployment for Promotion {promotion.id} did not identify the sealed Release and Artifact digests."
        "reconcile the provider deployment, then retry only after the Target state is known"
        s!"promotion={promotion.id}; expectedReleaseDigest={release.releaseDigest}; receivedReleaseDigest={deployment.releaseDigest}")
    else
      let promotion := { promotion with
        deploymentId := some deployment.deploymentId
        providerOperationId :=
          (truthy deployment.providerOperationId).or promotion.providerOperationId }
      if ¬ s.target.capabilities.healthCheck then
        settleWith (s.degrade promotion
          s!"Target {s.target.id} has no declared health-check capability after applying Release {release.release.id}."
          "qualify a health checker before changing the authoritative Target pointer"
          s!"target={s.target.id}; capability=healthCheck; enabled=false")
      else (.waiting release (.health deployment), s.put promotion)

variable (planDigest : MigrationPlanBody → String)

/-- `recoverAfterHealthFailure` up to the automatic rollback call, if it makes one. -/
def recoverAfterHealthFailure (promotion : PromotionRecord) (release : ImmutableRelease)
    (message receipt : String) : Execution × WorkerPromotionCoordinator :=
  let receipt := s!"promotion=health-failed; release={release.release.id}; {receipt}"
  match (s.setTargetState .degraded).transition
    { promotion with healthFailure := some message, receipt } .degraded receipt none with
  | (.error error, s) => settleWith (.error error, s)
  | (.ok promotion, s) =>
    match rollbackDecisionFor planDigest release.release with
    | .error error => settleWith (.error (.migration error), s)
    | .ok (.blocked recoveryAction migrationReceipt) =>
      (.waiting release .recovered, s.put { promotion with
        recoveryAction := some recoveryAction
        receipt := s!"{promotion.receipt}; {migrationReceipt}" })
    | .ok (.allowed migrationReceipt) =>
      let promotion := { promotion with receipt := s!"{promotion.receipt}; {migrationReceipt}" }
      let stop (recoveryAction : String) : Execution × WorkerPromotionCoordinator :=
        (.waiting release .recovered,
          s.put { promotion with recoveryAction := some recoveryAction })
      match truthy promotion.previousReleaseId with
      | none => stop "Target is degraded; no previous known-good Release exists, so reconcile the provider before retrying"
      | some previousReleaseId =>
        if ¬ s.target.capabilities.rollback then
          stop "Target is degraded; qualify rollback capability or reconcile the provider before retrying"
        else
          match s.releases.get? previousReleaseId with
          | none => stop "Target is degraded; restore the previous immutable Release record before retrying rollback"
          | some previous => (.waiting release (.rollback previous), s.put promotion)

/-- `execute` from the health check on. -/
def resumeHealth (promotion : PromotionRecord) (release : ImmutableRelease)
    (deployment : WorkerDeployment) (answer : AdapterAnswer HealthObservation) :
    Execution × WorkerPromotionCoordinator :=
  match invoke "health" answer with
  | .failed failure => s.recoverAfterHealthFailure planDigest promotion release
      s!"health adapter failure: {failure.message}" failure.receipt
  | .succeeded health _ =>
    let promotion := { promotion with health := some health }
    if health.targetId ≠ s.target.id ∨ health.releaseId ≠ release.release.id then
      s.recoverAfterHealthFailure planDigest promotion release
        "health observation was bound to a different Target or Release"
        s!"target={s.target.id}; release={release.release.id}; observedTarget={health.targetId}; observedRelease={health.releaseId}"
    else if health.state ≠ .healthy then
      s.recoverAfterHealthFailure planDigest promotion release
        s!"health state={health.state}" health.receipt
    else settleWith (s.completeHealthy promotion release health deployment.providerOperationId)

/-- `recoverAfterHealthFailure` from the automatic rollback on. -/
def resumeRollback (promotion : PromotionRecord) (release previous : ImmutableRelease)
    (answer : AdapterAnswer WorkerDeployment) : Execution × WorkerPromotionCoordinator :=
  match invoke "rollback" answer with
  | .failed failure => (.waiting release .recovered, s.put { promotion with
      recoveryAction := some s!"Target remains degraded; rollback failed: {failure.recoveryAction}"
      receipt := s!"{promotion.receipt}; rollback=failed; {failure.receipt}" })
  | .succeeded rollback _ =>
    if ¬ providerResultMatches rollback.releaseDigest rollback.artifactDigests previous then
      (.waiting release .recovered, s.put { promotion with
        recoveryAction := some "Target remains degraded; rollback provider result did not identify the previous immutable Release"
        receipt := s!"{promotion.receipt}; rollback=result-mismatch; expectedReleaseDigest={previous.releaseDigest}; receivedReleaseDigest={rollback.releaseDigest}" })
    else (.waiting release (.rollbackHealth previous rollback), s.put { promotion with
      rollbackDeploymentId := some rollback.deploymentId
      rollbackProviderOperationId :=
        (truthy rollback.providerOperationId).or promotion.rollbackProviderOperationId })

/-- `recoverAfterHealthFailure` from the health check of the rollback on. -/
def resumeRollbackHealth (promotion : PromotionRecord) (release previous : ImmutableRelease)
    (rollback : WorkerDeployment) (answer : AdapterAnswer HealthObservation) :
    Execution × WorkerPromotionCoordinator :=
  match invoke "rollback-health" answer with
  | .failed failure => (.waiting release .recovered, s.put { promotion with
      recoveryAction := some s!"Target remains degraded; rollback health could not be verified: {failure.recoveryAction}"
      receipt := s!"{promotion.receipt}; rollback=applied; rollbackHealth=indeterminate; {failure.receipt}" })
  | .succeeded health _ =>
    let promotion := { promotion with rollbackHealth := some health }
    if health.targetId ≠ s.target.id ∨ health.releaseId ≠ previous.release.id ∨
        health.state ≠ .healthy then
      (.waiting release .recovered, s.put { promotion with
        recoveryAction := some "Target remains degraded; rollback completed but the previous Release is not health-verified"
        receipt := s!"{promotion.receipt}; rollback=applied; rollbackHealth={health.state}; rollbackHealthReceipt={health.receipt}" })
    else
      let receipt := s!"{promotion.receipt}; rollback=healthy; previousRelease={previous.release.id}; rollbackReceipt={health.receipt}"
      match (s.setTargetState .healthy).transition { promotion with
          recoveryAction := some s!"previous Release {previous.release.id} restored and health-verified; inspect the failed Release before retrying"
          receipt } .rolledBack receipt rollback.providerOperationId with
      | (.error error, s) => settleWith (.error error, s)
      | (.ok _, s) => (.waiting release .recovered, s)

/-! ## Retries and rollbacks -/

/-- The record of a retry, ready to be proposed again. -/
def retried (promotion : PromotionRecord) (idempotencyKey : String) : PromotionRecord :=
  let expected := orNone s.target.currentReleaseId
  let attempt := promotion.attempt + 1
  { promotion with
    idempotencyKey
    expectedCurrentReleaseId := s.target.currentReleaseId
    previousReleaseId := s.target.currentReleaseId
    attempt
    receipt := s!"promotion=retry-requested; target={s.target.id}; release={promotion.releaseId}; attempt={attempt}; expectedCurrent={expected}"
    recoveryAction := some "retry is executing against the current Target pointer"
    previewId := none
    deploymentId := none
    providerOperationId := none
    health := none
    rollbackHealth := none
    healthFailure := none
    rollbackDeploymentId := none
    rollbackProviderOperationId := none }

/-- The Promotion a retry key is bound to: `none` when the key is new. -/
def retriedBefore (input : PromotionRetryRequest) :
    Except DeliveryError (Option PromotionRecord) :=
  match truthy (s.idempotency.get? input.idempotencyKey) with
  | none => return none
  | some existingId => do
    let existing ← orThrow
      ((s.promotions.get? existingId).filter fun p => p.id = input.promotionId) (.promotion {
        code := .idempotencyConflict
        message := s!"Retry idempotency key {input.idempotencyKey} was already used by another operation."
        affectedObject := input.idempotencyKey
        recoveryAction := "use a new retry idempotency key"
        receipt := s!"idempotencyKey={input.idempotencyKey}; requestedPromotion={input.promotionId}; existingPromotion={existingId}" })
    return some existing

/-- The Promotion a retry with a new key is for. -/
def retryablePromotion (input : PromotionRetryRequest) : Except DeliveryError PromotionRecord := do
  let promotion ← orThrow (s.promotions.get? input.promotionId) (.promotion {
    code := .releaseNotFound
    message := s!"Promotion {input.promotionId} does not exist."
    affectedObject := input.promotionId
    recoveryAction := "use the recorded Promotion ID from the authoritative Target ledger"
    receipt := s!"promotion={input.promotionId}; record=missing" })
  require (promotion.state ∈ retryableStates) (.promotion {
    code := .invalidState
    message := s!"Promotion {promotion.id} is {promotion.state}; only a failed, blocked, degraded, or rolled-back Promotion can retry."
    affectedObject := promotion.id
    recoveryAction := "wait for the current Promotion to reach a recoverable state or request a separate rollback"
    receipt := s!"promotion={promotion.id}; state={promotion.state}; retryableStates=failed,blocked,degraded,rolled-back" })
  return promotion

/-- The entry before the last occurrence of `current`, if there is one. -/
def previousOf (history : List String) (current : String) : Option String :=
  (history.reverse.dropWhile fun id => id ≠ current).tail.head?

/-- The request `rollbackToPrevious` promotes with. -/
def rollbackRequest (idempotencyKey : String) (actor : ActorRef) :
    Except DeliveryError PromotionRequest := do
  let current ← orThrow (truthy s.target.currentReleaseId) (.promotion {
    code := .rollbackUnavailable
    message := s!"Target {s.target.id} has no current Release to roll back."
    affectedObject := s.target.id
    recoveryAction := "promote a known-good Release before requesting a rollback"
    receipt := s!"target={s.target.id}; currentRelease=none" })
  let history := joined s.target.releaseHistory
  let previous ← orThrow (truthy (previousOf s.target.releaseHistory current)) (.promotion {
    code := .rollbackUnavailable
    message := s!"Target {s.target.id} has no previous known-good Release."
    affectedObject := s.target.id
    recoveryAction := "retain the current Release or register a prior known-good Release before retrying"
    receipt := s!"target={s.target.id}; currentRelease={current}; history={history}" })
  let previousPromotion := s.promotions.values.reverse.find? fun candidate =>
    candidate.releaseId = current ∧ candidate.state = .healthy
  return {
    releaseId := previous
    idempotencyKey
    actor
    expectedCurrentReleaseId := some (some current)
    kind := some .rollback
    rollbackOfPromotionId := previousPromotion.map PromotionRecord.id }

end WorkerPromotionCoordinator

end Anyam.Delivery
