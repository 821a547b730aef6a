import Anyam.Authority.Releases

/-!
# Promotion executions

`cloudflare/promotion-execution.ts`, and the half of `AuthorityPlaneCoordinator` that runs a
provider executor: the context an executor is handed, the checks its result must pass, and what
is recorded of it. A result that fails a check, or an executor that throws, is recorded as an
indeterminate execution, so a handoff that starts always ends with a record.

- **`runPromotionExecution_ok`**: an execution moves one Promotion and its Target.
-/

namespace Anyam.Authority

open Anyam.Lib Anyam.Kernel Anyam.Delivery

/-! ## Errors -/

inductive PromotionExecutionValidationErrorCode
  | invalidResult | contextMismatch | lineageMismatch | stateMismatch | credentialMaterial
deriving DecidableEq, Repr

structure PromotionExecutionValidationError where
  code : PromotionExecutionValidationErrorCode
  message : String
  recoveryAction : String
  receipt : String
deriving DecidableEq, Repr

/-- What the checks can throw: their own error, or one of a Target profile. -/
inductive PromotionExecutionFailure
  | validation (error : PromotionExecutionValidationError)
  | profile (error : TargetDeploymentProfileError)
deriving DecidableEq, Repr

def resultError (code : PromotionExecutionValidationErrorCode)
    (message recoveryAction receipt : String) : PromotionExecutionFailure :=
  .validation ⟨code, message, recoveryAction, receipt⟩

instance : ToString TargetState where
  toString
    | .configured => "configured"
    | .healthy => "healthy"
    | .degraded => "degraded"
    | .unknown => "unknown"

def promotionExecutionProtocol : String := "anyam.promotion-execution/v1"

/-! ## The context -/

/-- The checked pointer and history of a Target. -/
def baseTargetState (target : Target) :
    Except PromotionExecutionFailure (Option String × List String) := do
  let releaseHistory := target.releaseHistory.getD []
  let current := orNone target.currentReleaseId
  require releaseHistory.Nodup (resultError .contextMismatch
    s!"Target {target.id} has duplicate known-good Release history entries."
    "repair the authoritative Target history before executing Promotion"
    s!"target={target.id}; history=duplicate; targetMutation=false")
  require (∀ id ∈ target.currentReleaseId, id ∈ releaseHistory) (resultError .contextMismatch
    s!"Target {target.id} current Release is outside its known-good history."
    "reconcile the Target pointer and history before executing Promotion"
    s!"target={target.id}; currentRelease={current}; history=missing-current; targetMutation=false")
  return (target.currentReleaseId, releaseHistory)

def projectForRelease (snapshot : AuthorityPlaneSnapshot) (release : Release) : Option Project :=
  (truthy ((snapshot.projectRevisions.get? release.projectRevisionId).map
    ProjectRevision.projectId)).bind snapshot.projects.get?

/-- A Release with its Artifacts and Evidence, when all of them are there. -/
def releaseBundle (snapshot : AuthorityPlaneSnapshot) (release : Release) :
    Option PromotionExecutionReleaseBundle := do
  return {
    release
    artifacts := ← release.artifactIds.mapM snapshot.artifacts.get?
    evidence := ← release.evidenceIds.mapM snapshot.evidence.get? }

/-- The exact previous Release, which a rollback needs. -/
def previousBundle (snapshot : AuthorityPlaneSnapshot) (promotionId : String)
    (promotion : PromotionRecord) (project : Project) :
    Except PromotionExecutionFailure (Option PromotionExecutionReleaseBundle) :=
  match truthy promotion.previousReleaseId with
  | none => .ok none
  | some previousReleaseId =>
    let bundle := ((snapshot.releases.get? previousReleaseId).filter fun release =>
      (projectForRelease snapshot release).map (·.id) = some project.id).bind
        (releaseBundle snapshot)
    (orThrow bundle (resultError .contextMismatch
      s!"Promotion {promotionId} does not have a complete immutable previous Release lineage for rollback."
      "restore the exact previous Release, Artifact, and Evidence records before invoking the provider; no provider call was made"
      s!"promotion={promotionId}; previousRelease={previousReleaseId}; lineage=incomplete; providerInvocation=false")).map
      some

def createPromotionExecutionContext (services : AuthorityServices)
    (snapshot : AuthorityPlaneSnapshot) (promotionId executionIdempotencyKey : String)
    (session : AuthoritySession) : Except PromotionExecutionFailure PromotionExecutionContext := do
  let promotion ← orThrow (snapshot.promotions.get? promotionId) (resultError .contextMismatch
    s!"Promotion {promotionId} does not exist in the authoritative snapshot."
    "inspect the current Authority Promotion ledger and retry with the recorded Promotion ID"
    s!"promotion={promotionId}; record=missing; providerInvocation=false")
  let unbound := resultError .contextMismatch
    s!"Promotion {promotionId} is not bound to one exact Project, Release, and Target."
    "repair the authoritative lineage before invoking a provider; no provider call was made"
    s!"promotion={promotionId}; exact-binding=false; providerInvocation=false"
  let release ← orThrow (snapshot.releases.get? promotion.releaseId) unbound
  let project ← orThrow (projectForRelease snapshot release) unbound
  let target ← orThrow (snapshot.targets.get? promotion.targetId) unbound
  require (project.id = promotion.projectId ∧ target.projectId = promotion.projectId) unbound
  let bundle ← orThrow (releaseBundle snapshot release) (resultError .contextMismatch
    s!"Promotion {promotionId} does not have a complete immutable Artifact and Evidence lineage."
    "restore the exact Release inputs before invoking the provider; no provider call was made"
    s!"promotion={promotionId}; artifacts={release.artifactIds.length}; evidence={release.evidenceIds.length}; lineage= incomplete; providerInvocation=false")
  let previousRelease ← previousBundle snapshot promotionId promotion project
  let (currentReleaseId, _) ← baseTargetState target
  let expectedCurrentReleaseId := promotion.expectedCurrentReleaseId
  let expectedText := orNone expectedCurrentReleaseId
  let actualText := orNone currentReleaseId
  require (expectedCurrentReleaseId = currentReleaseId) (resultError .contextMismatch
    s!"Promotion {promotion.id} expected Release {expectedText}, but Target {target.id} is at {actualText}."
    "read the current Target pointer and request a new Promotion execution with a fresh expected state"
    s!"promotion={promotion.id}; expectedCurrent={expectedText}; actualCurrent={actualText}; providerInvocation=false")
  require (session.realmId = snapshot.realmId) (resultError .contextMismatch
    "The authenticated session belongs to a different Realm than the Authority snapshot."
    "invoke the handoff through the coordinator bound to the authenticated Realm"
    s!"sessionRealm={session.realmId}; stateRealm={snapshot.realmId}; providerInvocation=false")
  let profile ← (targetDeploymentProfile services.profile target.toTarget).mapError .profile
  return {
    realmId := snapshot.realmId
    stateVersion := snapshot.version
    project
    promotion
    release
    artifacts := bundle.artifacts
    evidence := bundle.evidence
    previousRelease
    target
    expectedCurrentReleaseId
    executionIdempotencyKey
    actor := actorRef session
    executionDigest := services.executionDigest {
      realmId := snapshot.realmId
      projectId := project.id
      projectReferenceType := project.referenceType
      projectSourceSpaceIds := project.sourceSpaceIds
      promotionId := promotion.id
      promotionProjectId := promotion.projectId
      promotionTargetId := promotion.targetId
      promotionReleaseId := promotion.releaseId
      promotionReleaseDigest := promotion.releaseDigest
      promotionPreviousReleaseId := promotion.previousReleaseId
      promotionExpectedCurrentReleaseId := promotion.expectedCurrentReleaseId
      promotionKind := promotion.kind
      promotionIdempotencyKey := promotion.idempotencyKey
      release
      artifacts := bundle.artifacts
      evidence := bundle.evidence
      previousRelease
      targetId := target.id
      targetProjectId := target.projectId
      targetAdapterId := target.adapterId
      targetAcceptedArtifactTypes := target.acceptedArtifactTypes
      targetRequiredEvidenceKeys := target.requiredEvidenceKeys
      targetDeploymentProfile := profile
      expectedCurrentReleaseId
      executionIdempotencyKey } }

/-! ## The checks of a result -/

def validateResultState (input : PromotionExecutionContext) (result : PromotionExecutionResult) :
    Except PromotionExecutionFailure Unit := do
  let (currentReleaseId, releaseHistory) ← baseTargetState input.target
  let promotion := result.promotion
  let target := result.target
  let currentText := orNone target.currentReleaseId
  let success : Bool := result.status = .succeeded
  let terminalSuccess : Bool := promotion.state = .healthy || promotion.state = .rolledBack
  require (success = terminalSuccess ∧ (success = true → target.state = .healthy))
    (resultError .stateMismatch
      s!"Promotion execution status {result.status} does not match Promotion state {promotion.state} and Target state {target.state}."
      "return a terminal normalized result or reconcile the provider as indeterminate"
      s!"promotion={promotion.id}; status={result.status}; promotionState={promotion.state}; targetState={target.state}; targetMutation=false")
  require (result.status = .indeterminate → promotion.state = .degraded ∧ target.state = .degraded)
    (resultError .stateMismatch
      "An indeterminate provider result must leave Promotion and Target visibly degraded."
      "reconcile the provider and return Promotion state degraded with a recovery action"
      s!"promotion={promotion.id}; indeterminate=true; degraded-required=true; targetMutation=false")
  require (success = false → promotion.state ≠ .degraded →
      target.currentReleaseId = currentReleaseId) (resultError .stateMismatch
    "A failed or blocked provider result cannot move the Anyam Target pointer."
    "preserve the known-good Target pointer and return a degraded or blocked result"
    s!"promotion={promotion.id}; pointerMoved=true; targetMutation=false")
  require (success = true → target.currentReleaseId = some promotion.releaseId)
    (resultError .lineageMismatch
      "A healthy Promotion result must make the exact promoted Release current at the Target."
      "return the provider-verified Release pointer or leave the Promotion indeterminate"
      s!"promotion={promotion.id}; release={promotion.releaseId}; targetCurrent={currentText}; targetMutation=false")
  let expectedHistory :=
    if success = true ∧ promotion.releaseId ∉ releaseHistory then
      releaseHistory ++ [promotion.releaseId]
    else
      releaseHistory
  require (target.releaseHistory = expectedHistory) (resultError .lineageMismatch
    "Promotion execution returned a Target history that is not the exact append-only history."
    "return the prior known-good history with only the verified Release appended"
    s!"target={target.id}; history=unexpected; targetMutation=false")

/-- The Promotion of a result is the one the executor was handed. -/
def boundPromotion (input : PromotionExecutionContext) (promotion : PromotionRecord) : Prop :=
  promotion.id = input.promotion.id ∧ promotion.projectId = input.project.id ∧
    promotion.targetId = input.target.id ∧ promotion.releaseId = input.release.id ∧
    promotion.expectedCurrentReleaseId = input.expectedCurrentReleaseId ∧
    promotion.kind = input.promotion.kind ∧
    (startsWith input.promotion.releaseDigest "declared:" = false →
      promotion.releaseDigest = input.promotion.releaseDigest) ∧
    promotion.previousReleaseId = input.promotion.previousReleaseId ∧
    ∀ key ∈ promotion.executionIdempotencyKey, key = input.executionIdempotencyKey

instance (input : PromotionExecutionContext) (promotion : PromotionRecord) :
    Decidable (boundPromotion input promotion) :=
  inferInstanceAs (Decidable (_ ∧ _))

/-- A Target profile that a result returns is the one of the Target. -/
def validateResultProfile (services : AuthorityServices) (input : PromotionExecutionContext)
    (target : PromotionExecutionTarget) : Except PromotionExecutionFailure Unit :=
  match target.deploymentProfile with
  | none => .ok ()
  | some received => do
    let profile ← (targetDeploymentProfile services.profile input.target.toTarget).mapError .profile
    require (received.profileDigest = profile.profileDigest) (resultError .lineageMismatch
      "Provider Promotion result returned a different Target Deployment Profile."
      "return the exact Authority-bound Target profile or reconcile the provider operation before retrying"
      s!"target={input.target.id}; expectedProfile={profile.profileDigest}; receivedProfile={received.profileDigest}; targetMutation=false")

/-- Validate a provider result before it can cross into Authority state. -/
def validatePromotionExecutionResult (services : AuthorityServices)
    (input : PromotionExecutionContext) (result : PromotionExecutionResult) :
    Except PromotionExecutionFailure Unit := do
  let promotion := input.promotion
  let target := input.target
  require (result.protocol = promotionExecutionProtocol) (resultError .invalidResult
    s!"Unsupported Promotion execution protocol {result.protocol}."
    "return anyam.promotion-execution/v1 from the trusted provider executor"
    s!"promotion={promotion.id}; protocol={result.protocol}; targetMutation=false")
  require (result.executionDigest = input.executionDigest) (resultError .lineageMismatch
    "Provider execution did not bind its result to the exact Authority context digest."
    "discard the stale provider result and reconcile the immutable operation before retrying"
    s!"promotion={promotion.id}; expectedExecutionDigest={input.executionDigest}; receivedExecutionDigest={result.executionDigest}; targetMutation=false")
  require (result.adapterId = target.adapterId) (resultError .contextMismatch
    s!"Provider executor {result.adapterId} does not match Target adapter {target.adapterId}."
    "select the qualified adapter declared by the Target and retry only after reconciling the provider"
    s!"target={target.id}; expectedAdapter={target.adapterId}; receivedAdapter={result.adapterId}; targetMutation=false")
  require (boundPromotion input result.promotion) (resultError .lineageMismatch
    "Provider Promotion result is not bound to the requested Project, Release, Target, or expected current state."
    "discard the result and reconcile the provider operation against the exact Promotion identity"
    s!"promotion={promotion.id}; exactBinding=false; targetMutation=false")
  require (result.target.id = target.id ∧ result.target.projectId = input.project.id)
    (resultError .lineageMismatch
      "Provider Target result is not bound to the requested Project and Target."
      "return the Target identity from the trusted executor context"
      s!"target={target.id}; resultTarget={result.target.id}; targetMutation=false")
  validateResultProfile services input result.target
  let forbidden := truthy (services.scanExecutionResult result)
  let path := forbidden.getD ""
  require (forbidden = none) (resultError .credentialMaterial
    "Promotion execution result contains credential material or a credential-shaped field."
    "remove credential material; return provider IDs, digests, and safe receipts only"
    s!"promotion={promotion.id}; credentialMaterial={path}; scanner={credentialMaterialScannerProtocol}; targetMutation=false")
  let identity := (result.checkpoint.map PromotionReconciliationCheckpoint.idempotencyKey).getD ""
  require (∀ checkpoint ∈ result.checkpoint,
      checkpoint.idempotencyKey = input.executionIdempotencyKey) (resultError .lineageMismatch
    "Provider reconciliation checkpoint belongs to a different immutable execution identity."
    "discard the stale callback and reconcile the recorded execution identity"
    s!"promotion={promotion.id}; checkpointIdentity={identity}; expectedIdentity={input.executionIdempotencyKey}; targetMutation=false")
  validateResultState input result

def normalizePromotionExecutionResult (services : AuthorityServices)
    (input : PromotionExecutionContext) (result : PromotionExecutionResult) :
    Except PromotionExecutionFailure PromotionExecutionResult := do
  validatePromotionExecutionResult services input result
  let promotion : PromotionRecord := {
    result.promotion with
    projectId := input.project.id
    targetId := input.target.id
    releaseId := input.release.id
    idempotencyKey := input.promotion.idempotencyKey
    actor := input.actor
    createdAt := input.promotion.createdAt
    previousReleaseId := input.promotion.previousReleaseId
    expectedCurrentReleaseId := input.expectedCurrentReleaseId
    executionIdempotencyKey := some input.executionIdempotencyKey
    reconciliationCheckpoint := result.checkpoint.or result.promotion.reconciliationCheckpoint }
  return { result with
    promotion
    receipt :=
      s!"{result.receipt}; authorityHandoff=validated; credentialFree=true; canonicalWrite=false" }

def targetAfterPromotion (target : Target) (result : PromotionExecutionResult) : Target :=
  { target with
    state := result.target.state
    currentReleaseId := result.target.currentReleaseId
    releaseHistory := some result.target.releaseHistory
    lastPromotionId := some result.promotion.id }

/-! ## Running an execution -/

/-- One handoff of a Promotion to its executor. -/
structure PromotionHandoff where
  promotion : PromotionRecord
  promotionId : String
  executionIdempotencyKey : String
  authorityIdempotencyKey : String
  requestFingerprint : String
  executor : TrustedPromotionExecutor
  session : AuthoritySession
  operation : AuthorityCommandName

/-- An execution whose outcome is not known. -/
def indeterminatePromotionExecution (state : AuthorityPlaneSnapshot) (promotion : PromotionRecord)
    (promotionId executionIdempotencyKey executionDigest message recoveryAction receipt
      updatedAt : String) : PromotionExecutionResult :=
  let checkpoint : PromotionReconciliationCheckpoint := {
    idempotencyKey := executionIdempotencyKey
    attempt := promotion.attempt + 1
    stage := .reconcile
    providerOperationIds := (promotion.reconciliationCheckpoint.map
      PromotionReconciliationCheckpoint.providerOperationIds).getD []
    executionDigest := some executionDigest
    releaseId := some promotion.releaseId
    targetId := some promotion.targetId
    status := some .indeterminate
    updatedAt := some updatedAt
    receipt := s!"promotion={promotionId}; providerResult=indeterminate; credentialFree=true" }
  let updated : PromotionRecord := {
    promotion with
    state := .degraded
    attempt := promotion.attempt + 1
    updatedAt
    executionIdempotencyKey := some executionIdempotencyKey
    recoveryAction := some recoveryAction
    receipt := s!"promotion=degraded; {message}; {receipt}"
    reconciliationCheckpoint := some checkpoint }
  let target := state.targets.get? promotion.targetId
  { protocol := promotionExecutionProtocol
    status := .indeterminate
    adapterId := (target.map fun target => target.adapterId).getD "unknown"
    executionDigest
    promotion := updated
    target := {
      id := promotion.targetId
      projectId := promotion.projectId
      state := .degraded
      currentReleaseId := target.bind Target.currentReleaseId
      releaseHistory := (target.bind Target.releaseHistory).getD [] }
    checkpoint := some checkpoint
    receipt := updated.receipt
    recoveryAction := some recoveryAction }

/-- What the executor answers; one that throws left an unknown outcome. -/
def execution (state : AuthorityPlaneSnapshot) (input : PromotionHandoff)
    (context : PromotionExecutionContext) (now : String) : PromotionExecutionResult :=
  match input.executor context with
  | .ok result => result
  | .error message =>
    indeterminatePromotionExecution state input.promotion input.promotionId
      input.executionIdempotencyKey context.executionDigest s!"provider executor threw: {message}"
      "inspect the provider operation by its immutable execution identity before retrying"
      s!"promotion={input.promotion.id}; providerResult=thrown; message={message}" now

/-- What is recorded of an answer; one that fails a check left an unknown outcome. -/
def normalizedExecution (services : AuthorityServices) (state : AuthorityPlaneSnapshot)
    (input : PromotionHandoff) (context : PromotionExecutionContext)
    (result : PromotionExecutionResult) (now : String) :
    Except AuthorityFailure PromotionExecutionResult :=
  match normalizePromotionExecutionResult services context result with
  | .ok normalized => .ok normalized
  | .error (.profile failure) => .error (.untranslated failure.message)
  | .error (.validation failure) =>
    let reason := failure.message
    let receipt := failure.receipt
    .ok (indeterminatePromotionExecution state input.promotion input.promotionId
      input.executionIdempotencyKey context.executionDigest s!"provider result rejected: {reason}"
      failure.recoveryAction
      s!"{receipt}; providerResult=untrusted; promotionExecution=indeterminate" now)

/-- The checkpoint that is recorded of an execution. -/
def recordedCheckpoint (input : PromotionHandoff) (context : PromotionExecutionContext)
    (normalized : PromotionExecutionResult) (now : String) : PromotionReconciliationCheckpoint :=
  let promotion := normalized.promotion
  let supplied := promotion.reconciliationCheckpoint.or normalized.checkpoint
  { idempotencyKey := input.executionIdempotencyKey
    attempt := promotion.attempt
    stage := if normalized.status = .indeterminate then .reconcile else
      (supplied.map PromotionReconciliationCheckpoint.stage).getD .complete
    providerOperationIds :=
      (supplied.map PromotionReconciliationCheckpoint.providerOperationIds).getD
        [truthy promotion.providerOperationId,
          truthy promotion.rollbackProviderOperationId].reduceOption
    executionDigest := some context.executionDigest
    releaseId := some input.promotion.releaseId
    targetId := some input.promotion.targetId
    status := some normalized.status
    updatedAt := some now
    receipt := (supplied.map PromotionReconciliationCheckpoint.receipt).getD
      s!"promotion={input.promotion.id}; execution={normalized.status}; checkpoint=authority-recorded; credentialFree=true" }

/-- How a failure of the context is thrown. -/
def contextFailure : PromotionExecutionFailure → AuthorityFailure
  | .validation failure =>
    let receipt := failure.receipt
    refusal .conflict failure.message failure.recoveryAction
      s!"{receipt}; promotionExecution=not-accepted"
  | .profile failure => .untranslated failure.message

def runPromotionExecution (services : AuthorityServices) (state : AuthorityPlaneSnapshot)
    (input : PromotionHandoff) (drawn : Drawn) : Applied := do
  let context ← (createPromotionExecutionContext services state input.promotionId
    input.executionIdempotencyKey input.session).mapError contextFailure
  let execution := execution state input context drawn.now
  let normalized ← normalizedExecution services state input context execution drawn.now
  let promotion := input.promotion
  let target ← orThrow (state.targets.get? promotion.targetId) (refusal .notFound
    s!"Target {promotion.targetId} disappeared before Promotion execution was recorded."
    "restore the exact Target record and reconcile the provider operation"
    s!"promotion={promotion.id}; target={promotion.targetId}; execution=not-recorded")
  let checkpoint := recordedCheckpoint input context normalized drawn.now
  let nextPromotion : PromotionRecord :=
    { normalized.promotion with reconciliationCheckpoint := some checkpoint }
  let nextTarget : Target :=
    { targetAfterPromotion target normalized with lastPromotionId := some promotion.id }
  let next := (state.put .promotions promotion.id nextPromotion).put .targets target.id nextTarget
  let version := state.version + 1
  let release := ((next.releases.get? promotion.releaseId).map AuthorityValue.release).toList
  let result : AuthorityCommandResult := {
    command := input.operation
    status := normalized.status
    version
    value := [.promotion nextPromotion, .target nextTarget] ++ release ++
      [.promotionCheckpoint checkpoint]
    receipt := s!"{normalized.receipt}; executionIdempotencyKey={input.executionIdempotencyKey}; authorityStateVersion={version}; operation={input.operation}"
    recoveryAction := truthy normalized.recoveryAction }
  let event : AuthorityAuditEvent := {
    id := drawn.opaqueId "authority-audit"
    command := input.operation
    idempotencyKey := input.authorityIdempotencyKey
    actor := actorRef input.session
    outcome := normalized.status
    stateVersion := version
    occurredAt := drawn.now
    receipt := result.receipt }
  return ({ next with
    version
    idempotency := next.idempotency.set input.authorityIdempotencyKey
      ⟨input.requestFingerprint, result⟩
    audit := next.audit ++ [event] }, result)

/-! ## What an execution records -/

/-- Every Target has the deployment profile of one that was there. -/
def KeepsProfiles (state state' : AuthorityPlaneSnapshot) : Prop :=
  ∀ id target', state'.targets.get? id = some target' → ∃ key target,
    state.targets.get? key = some target ∧ target'.deploymentProfile = target.deploymentProfile

/-- A Promotion operation that is recorded: it moves one Promotion and one Target, and steps the
version with its row and its event. -/
structure PromotionRecorded (state state' : AuthorityPlaneSnapshot)
    (key fingerprint auditId : String) (result : AuthorityCommandResult) : Prop where
  records : ∀ c ≠ .promotions, c ≠ .targets → state'.records c = state.records c
  profiles : KeepsProfiles state state'
  realmId : state'.realmId = state.realmId
  version : state'.version = state.version + 1
  idempotency : state'.idempotency = state.idempotency.set key ⟨fingerprint, result⟩
  audit : ∃ event, event.id = auditId ∧ event.stateVersion = state.version + 1 ∧
    state'.audit = state.audit ++ [event]

theorem runPromotionExecution_ok {services : AuthorityServices}
    {state state' : AuthorityPlaneSnapshot} {input : PromotionHandoff} {drawn : Drawn}
    {result : AuthorityCommandResult}
    (h : runPromotionExecution services state input drawn = .ok (state', result)) :
    PromotionRecorded state state' input.authorityIdempotencyKey input.requestFingerprint
      (drawn.opaqueId "authority-audit") result := by
  simp only [runPromotionExecution, bind_eq_ok, orThrow_eq_ok, pure_eq_ok, Prod.mk.injEq] at h
  obtain ⟨context, -, normalized, -, target, htarget, rfl, rfl⟩ := h
  refine ⟨fun c hpromotions htargets => ?_, fun id target' h => ?_, rfl, rfl, rfl, _, rfl, rfl,
    rfl⟩
  · show ((state.put .promotions _ _).put .targets _ _).records c = state.records c
    rw [AuthorityPlaneSnapshot.put_other _ _ _ htargets,
      AuthorityPlaneSnapshot.put_other _ _ _ hpromotions]
  · have hset : (state.targets.set target.id _).get? id = some target' := h
    by_cases hid : id = target.id
    · subst hid
      rw [OrderedMap.get?_set_self] at hset
      cases hset
      exact ⟨_, target, htarget, rfl⟩
    · rw [OrderedMap.get?_set_ne _ _ hid] at hset
      exact ⟨id, target', hset, rfl⟩

end Anyam.Authority
