import Anyam.Authority.Transitions
import Mathlib.Data.Option.Basic

/-!
# What the calls do to Promotions and Targets

A Promotion is requested once, a Target is configured once, and from then on both are moved by
handoffs alone: `executePromotion` and `reconcilePromotion` give an executor a context, and record
what it answers.

- **`createPromotionExecutionContext_eq_ok`**: when there is a context, and what it holds.
- `Recorded`: what is recorded of an answer. It is the answer, once it passed the checks, or a
  result that leaves the Promotion degraded and the Target's pointer as it is.
- **`step_moves`**: a call leaves Promotions and Targets alone, configures a Target, requests a
  Promotion, or hands one off.
- **`step_keeps`**: the records a context is made of are never written again.
-/

namespace Anyam.Authority

open Anyam.Lib Anyam.Kernel Anyam.Delivery

/-! ## The context of a handoff -/

/-- What the execution digest of a context is taken over. -/
def executionClaims (context : PromotionExecutionContext) (profile : TargetDeploymentProfile) :
    PromotionExecutionClaims where
  realmId := context.realmId
  projectId := context.project.id
  projectReferenceType := context.project.referenceType
  projectSourceSpaceIds := context.project.sourceSpaceIds
  promotionId := context.promotion.id
  promotionProjectId := context.promotion.projectId
  promotionTargetId := context.promotion.targetId
  promotionReleaseId := context.promotion.releaseId
  promotionReleaseDigest := context.promotion.releaseDigest
  promotionPreviousReleaseId := context.promotion.previousReleaseId
  promotionExpectedCurrentReleaseId := context.promotion.expectedCurrentReleaseId
  promotionKind := context.promotion.kind
  promotionIdempotencyKey := context.promotion.idempotencyKey
  release := context.release
  artifacts := context.artifacts
  evidence := context.evidence
  previousRelease := context.previousRelease
  targetId := context.target.id
  targetProjectId := context.target.projectId
  targetAdapterId := context.target.adapterId
  targetAcceptedArtifactTypes := context.target.acceptedArtifactTypes
  targetRequiredEvidenceKeys := context.target.requiredEvidenceKeys
  targetDeploymentProfile := profile
  expectedCurrentReleaseId := context.expectedCurrentReleaseId
  executionIdempotencyKey := context.executionIdempotencyKey

/-- The pointer of a Target is none or in its history, and the history lists no Release twice. -/
structure Target.Consistent (target : Target) : Prop where
  pointer : ∀ id ∈ target.currentReleaseId, id ∈ target.releaseHistory.getD []
  history : (target.releaseHistory.getD []).Nodup

theorem baseTargetState_eq_ok {target : Target} {pair : Option String × List String} :
    baseTargetState target = .ok pair ↔
      target.Consistent ∧ pair = (target.currentReleaseId, target.releaseHistory.getD []) := by
  simp only [baseTargetState, bind_eq_ok, require_eq_ok, exists_unit, pure_eq_ok]
  constructor
  · rintro ⟨hhistory, hpointer, rfl⟩
    exact ⟨⟨hpointer, hhistory⟩, rfl⟩
  · rintro ⟨h, rfl⟩
    exact ⟨h.history, h.pointer, rfl⟩

/-- The records of a snapshot that the context of a Promotion is made of. -/
structure ContextOf (services : AuthorityServices) (s : AuthorityPlaneSnapshot)
    (promotionId key : String) (session : AuthoritySession)
    (context : PromotionExecutionContext) : Prop where
  promotion : s.promotions.get? promotionId = some context.promotion
  release : s.releases.get? context.promotion.releaseId = some context.release
  project : projectForRelease s context.release = some context.project
  target : s.targets.get? context.promotion.targetId = some context.target
  projectId : context.project.id = context.promotion.projectId
  targetProject : context.target.projectId = context.promotion.projectId
  bundle : releaseBundle s context.release =
    some ⟨context.release, context.artifacts, context.evidence⟩
  previous : previousBundle s promotionId context.promotion context.project =
    .ok context.previousRelease
  consistent : context.target.Consistent
  expected : context.promotion.expectedCurrentReleaseId = context.target.currentReleaseId
  expectedCurrent : context.expectedCurrentReleaseId = context.promotion.expectedCurrentReleaseId
  sessionRealm : session.realmId = s.realmId
  realm : context.realmId = s.realmId
  version : context.stateVersion = s.version
  key : context.executionIdempotencyKey = key
  actor : context.actor = actorRef session
  digest : ∃ profile, targetDeploymentProfile services.profile context.target.toTarget =
      .ok profile ∧
    context.executionDigest = services.executionDigest (executionClaims context profile)

theorem releaseBundle_release {s : AuthorityPlaneSnapshot} {release : Release}
    {bundle : PromotionExecutionReleaseBundle} (h : releaseBundle s release = some bundle) :
    bundle.release = release := by
  simp only [releaseBundle, Option.bind_eq_bind, Option.bind_eq_some_iff, Option.pure_def,
    Option.some.injEq] at h
  obtain ⟨_, -, _, -, rfl⟩ := h
  rfl

section

variable {services : AuthorityServices} {s : AuthorityPlaneSnapshot} {promotionId key : String}
  {session : AuthoritySession} {context : PromotionExecutionContext}

/-- **When there is a context**: it is made of the records of the snapshot. -/
theorem createPromotionExecutionContext_eq_ok :
    createPromotionExecutionContext services s promotionId key session = .ok context ↔
      ContextOf services s promotionId key session context := by
  simp only [createPromotionExecutionContext, bind_eq_ok, require_eq_ok, orThrow_eq_ok,
    mapError_eq_ok, exists_unit, pure_eq_ok, baseTargetState_eq_ok]
  constructor
  · rintro ⟨promotion, hpromotion, release, hrelease, project, hproject, target, htarget,
      ⟨hprojectId, htargetProject⟩, bundle, hbundle, previous, hprevious, _,
      ⟨hconsistent, rfl⟩, hexpected, hsession, profile, hprofile, rfl⟩
    have hrecord : bundle = ⟨release, bundle.artifacts, bundle.evidence⟩ := by
      rw [← releaseBundle_release hbundle]
    exact ⟨hpromotion, hrelease, hproject, htarget, hprojectId, htargetProject,
      hbundle.trans (congrArg some hrecord), hprevious, hconsistent, hexpected, rfl, hsession,
      rfl, rfl, rfl, rfl, profile, hprofile, rfl⟩
  · intro h
    obtain ⟨profile, hprofile, hdigest⟩ := h.digest
    refine ⟨context.promotion, h.promotion, context.release, h.release, context.project,
      h.project, context.target, h.target, ⟨h.projectId, h.targetProject⟩, _, h.bundle,
      context.previousRelease, h.previous, _, ⟨h.consistent, rfl⟩, h.expected,
      h.sessionRealm, profile,
      hprofile, ?_⟩
    have hrealm := h.realm
    have hversion := h.version
    have hcurrent := h.expectedCurrent
    have hkey := h.key
    have hactor := h.actor
    clear h
    cases context
    dsimp only [executionClaims] at hrealm hversion hcurrent hkey hactor hdigest
    subst hrealm hversion hcurrent hkey hactor hdigest
    rfl

end

/-! ## What is recorded of an answer -/

/-- Two records of one Promotion agree on what it is bound to. -/
structure SameBinding (p q : PromotionRecord) : Prop where
  id : q.id = p.id
  projectId : q.projectId = p.projectId
  targetId : q.targetId = p.targetId
  releaseId : q.releaseId = p.releaseId
  previousReleaseId : q.previousReleaseId = p.previousReleaseId
  expectedCurrentReleaseId : q.expectedCurrentReleaseId = p.expectedCurrentReleaseId
  kind : q.kind = p.kind
  idempotencyKey : q.idempotencyKey = p.idempotencyKey

/-- The records of a context are filed under the ids its Promotion names. -/
structure PromotionExecutionContext.Exact (context : PromotionExecutionContext) : Prop where
  project : context.project.id = context.promotion.projectId
  target : context.target.id = context.promotion.targetId
  release : context.release.id = context.promotion.releaseId
  expected : context.expectedCurrentReleaseId = context.promotion.expectedCurrentReleaseId

/-- A result of unknown outcome: the Promotion is degraded, and the Target points where it did. -/
structure Unknown (context : PromotionExecutionContext) (r : PromotionExecutionResult) : Prop where
  status : r.status = .indeterminate
  state : r.promotion.state = .degraded
  binding : SameBinding context.promotion r.promotion
  releaseDigest : r.promotion.releaseDigest = context.promotion.releaseDigest
  key : r.promotion.executionIdempotencyKey = some context.executionIdempotencyKey
  pointer : r.target.currentReleaseId = context.target.currentReleaseId
  history : r.target.releaseHistory = context.target.releaseHistory.getD []

/-- What is recorded of an answer that passes the checks. -/
def acceptedResult (input : PromotionExecutionContext) (result : PromotionExecutionResult) :
    PromotionExecutionResult :=
  { result with
    promotion := {
      result.promotion with
      projectId := input.project.id
      targetId := input.target.id
      releaseId := input.release.id
      idempotencyKey := input.promotion.idempotencyKey
      actor := input.actor
      createdAt := input.promotion.createdAt
      previousReleaseId := input.promotion.previousReleaseId
      expectedCurrentReleaseId := input.expectedCurrentReleaseId
      executionIdempotencyKey := some input.executionIdempotencyKey
      reconciliationCheckpoint := result.checkpoint.or result.promotion.reconciliationCheckpoint }
    receipt :=
      s!"{result.receipt}; authorityHandoff=validated; credentialFree=true; canonicalWrite=false" }

/-- What is recorded of a handoff: the executor's answer, or a result of unknown outcome. -/
inductive Recorded (services : AuthorityServices) (executor : TrustedPromotionExecutor)
    (context : PromotionExecutionContext) : PromotionExecutionResult → Prop
  | unknown {r} (h : Unknown context r) : Recorded services executor context r
  | answered {answer} (hanswer : executor context = .ok answer)
      (hvalid : validatePromotionExecutionResult services context answer = .ok ()) :
      Recorded services executor context (acceptedResult context answer)

/-- What the checks of an answer's state establish. -/
structure StateChecked (context : PromotionExecutionContext) (r : PromotionExecutionResult) :
    Prop where
  terminal : r.status = .succeeded ↔ PromotionState.terminal r.promotion.state = true
  indeterminate : r.status = .indeterminate → r.promotion.state = .degraded
  kept : r.status ≠ .succeeded → r.promotion.state ≠ .degraded →
    r.target.currentReleaseId = context.target.currentReleaseId
  pointer : r.status = .succeeded → r.target.currentReleaseId = some r.promotion.releaseId
  history : r.target.releaseHistory =
    if r.status = .succeeded ∧ r.promotion.releaseId ∉ context.target.releaseHistory.getD [] then
      context.target.releaseHistory.getD [] ++ [r.promotion.releaseId]
    else context.target.releaseHistory.getD []

section

variable {services : AuthorityServices} {s s' : AuthorityPlaneSnapshot} {promotionId key : String}
  {session : AuthoritySession} {executor : TrustedPromotionExecutor}
  {context : PromotionExecutionContext} {r : PromotionExecutionResult}

theorem normalizePromotionExecutionResult_eq_ok {r' : PromotionExecutionResult} :
    normalizePromotionExecutionResult services context r = .ok r' ↔
      validatePromotionExecutionResult services context r = .ok () ∧
        r' = acceptedResult context r := by
  simp only [normalizePromotionExecutionResult, bind_eq_ok, exists_unit, pure_eq_ok]
  exact and_congr_right fun _ => eq_comm

/-- The binding and the state of an answer that passes the checks. -/
theorem validatePromotionExecutionResult_ok
    (h : validatePromotionExecutionResult services context r = .ok ()) :
    boundPromotion context r.promotion ∧ StateChecked context r := by
  simp only [validatePromotionExecutionResult, bind_eq_ok, require_eq_ok, exists_unit] at h
  obtain ⟨-, -, -, hbound, -, -, -, -, h⟩ := h
  simp only [validateResultState, bind_eq_ok, require_eq_ok, exists_unit, baseTargetState_eq_ok,
    decide_eq_true_eq, decide_eq_false_iff_not] at h
  obtain ⟨_, ⟨-, rfl⟩, ⟨hterminal, -⟩, hindeterminate, hkept, hpointer, hhistory⟩ := h
  refine ⟨hbound, ?_, fun hstatus => (hindeterminate hstatus).1, hkept, hpointer, hhistory⟩
  rw [Bool.eq_iff_iff, decide_eq_true_iff] at hterminal
  exact hterminal.trans (by cases r.promotion.state <;> decide)

theorem indeterminatePromotionExecution_unknown
    {digest message recoveryAction receipt updatedAt : String}
    (htarget : s.targets.get? context.promotion.targetId = some context.target) :
    Unknown context (indeterminatePromotionExecution s context.promotion promotionId
      context.executionIdempotencyKey digest message recoveryAction receipt updatedAt) := by
  refine ⟨rfl, rfl, ⟨rfl, rfl, rfl, rfl, rfl, rfl, rfl, rfl⟩, rfl, rfl, ?_, ?_⟩
  · show (s.targets.get? context.promotion.targetId).bind Target.currentReleaseId = _
    rw [htarget]
    rfl
  · show ((s.targets.get? context.promotion.targetId).bind Target.releaseHistory).getD [] = _
    rw [htarget]
    rfl

/-- A result of unknown outcome that passes the checks is recorded as one. -/
theorem Unknown.accepted (h : Unknown context r) (hbound : boundPromotion context r.promotion) :
    Unknown context (acceptedResult context r) := by
  obtain ⟨-, hproject, htarget, hrelease, hexpected, -⟩ := hbound
  exact ⟨h.status, h.state, ⟨h.binding.id, hproject.symm.trans h.binding.projectId,
    htarget.symm.trans h.binding.targetId, hrelease.symm.trans h.binding.releaseId, rfl,
    hexpected.symm.trans h.binding.expectedCurrentReleaseId, h.binding.kind, rfl⟩,
    h.releaseDigest, rfl, h.pointer, h.history⟩

/-- Whatever the executor answers, it is recorded for the Promotion, under the identity of the
handoff. -/
theorem Recorded.identity (h : Recorded services executor context r) :
    r.promotion.id = context.promotion.id ∧
      r.promotion.executionIdempotencyKey = some context.executionIdempotencyKey := by
  cases h with
  | unknown h => exact ⟨h.binding.id, h.key⟩
  | answered _ hvalid => exact ⟨(validatePromotionExecutionResult_ok hvalid).1.1, rfl⟩

/-- Whatever the executor answers, the record stays bound as it was. -/
theorem Recorded.binding (h : Recorded services executor context r) (hexact : context.Exact) :
    SameBinding context.promotion r.promotion := by
  cases h with
  | unknown h => exact h.binding
  | answered _ hvalid =>
    obtain ⟨⟨hid, -, -, -, -, hkind, -⟩, -⟩ := validatePromotionExecutionResult_ok hvalid
    exact ⟨hid, hexact.project, hexact.target, hexact.release, rfl, hexact.expected, hkind, rfl⟩

theorem normalizedExecution_recorded {input : PromotionHandoff} {now : String}
    (hcontext : ContextOf services s input.promotionId input.executionIdempotencyKey input.session
      context) (hpromotion : input.promotion = context.promotion)
    (h : normalizedExecution services s input context (execution s input context now) now =
      .ok r) : Recorded services input.executor context r := by
  have hunknown (digest message recoveryAction receipt : String) :
      Unknown context (indeterminatePromotionExecution s input.promotion input.promotionId
        input.executionIdempotencyKey digest message recoveryAction receipt now) := by
    rw [hpromotion, ← hcontext.key]
    exact indeterminatePromotionExecution_unknown hcontext.target
  unfold normalizedExecution at h
  split at h
  · rename_i normalized hnormalized
    obtain rfl := Except.ok.inj h
    obtain ⟨hvalid, rfl⟩ := normalizePromotionExecutionResult_eq_ok.mp hnormalized
    unfold execution at hvalid ⊢
    split at hvalid
    · rename_i answer hanswer
      exact .answered hanswer hvalid
    · -- the executor threw: what stands in for its answer is checked as well
      exact .unknown ((hunknown ..).accepted (validatePromotionExecutionResult_ok hvalid).1)
  · cases h
  · obtain rfl := Except.ok.inj h
    exact .unknown (hunknown ..)

/-- A handoff that was recorded: of the Promotion and the Target of its context. -/
structure Handed (services : AuthorityServices) (s : AuthorityPlaneSnapshot)
    (input : PromotionHandoff) (context : PromotionExecutionContext)
    (recorded : PromotionExecutionResult) (s' : AuthorityPlaneSnapshot)
    (result : AuthorityCommandResult) : Prop where
  from_records : ContextOf services s input.promotionId input.executionIdempotencyKey
    input.session context
  answer : Recorded services input.executor context recorded
  promotions : ∃ checkpoint, checkpoint.idempotencyKey = input.executionIdempotencyKey ∧
    s'.promotions = s.promotions.set context.promotion.id
      { recorded.promotion with reconciliationCheckpoint := some checkpoint }
  targets : s'.targets = s.targets.set context.target.id
    { targetAfterPromotion context.target recorded with
      lastPromotionId := some context.promotion.id }
  status : result.status = recorded.status

theorem runPromotionExecution_handed {input : PromotionHandoff} {drawn : Drawn}
    {result : AuthorityCommandResult}
    (hpromotion : s.promotions.get? input.promotionId = some input.promotion)
    (h : runPromotionExecution services s input drawn = .ok (s', result)) :
    ∃ context recorded, Handed services s input context recorded s' result ∧
      normalizedExecution services s input context (execution s input context drawn.now)
        drawn.now = .ok recorded := by
  simp only [runPromotionExecution, bind_eq_ok, orThrow_eq_ok, mapError_eq_ok,
    createPromotionExecutionContext_eq_ok, pure_eq_ok, Prod.mk.injEq] at h
  obtain ⟨context, hcontext, recorded, hrecorded, target, htarget, rfl, rfl⟩ := h
  have hsame : input.promotion = context.promotion :=
    Option.some.inj (hpromotion.symm.trans hcontext.promotion)
  rw [hsame] at htarget
  obtain rfl : target = context.target := Option.some.inj (htarget.symm.trans hcontext.target)
  refine ⟨context, recorded, ⟨hcontext, normalizedExecution_recorded hcontext hsame hrecorded,
    ⟨recordedCheckpoint input context recorded drawn.now, rfl, ?_⟩, ?_, rfl⟩, hrecorded⟩
  · rw [← hsame]
    rfl
  · rw [← hsame]
    rfl

theorem ContextOf.unique {context' : PromotionExecutionContext}
    (h : ContextOf services s promotionId key session context)
    (h' : ContextOf services s promotionId key session context') : context = context' :=
  Except.ok.inj ((createPromotionExecutionContext_eq_ok.mpr h).symm.trans
    (createPromotionExecutionContext_eq_ok.mpr h'))

/-- An answer that passes the checks is recorded. -/
theorem runPromotionExecution_answered {input : PromotionHandoff} (drawn : Drawn)
    {answer : PromotionExecutionResult}
    (hpromotion : s.promotions.get? input.promotionId = some input.promotion)
    (hcontext : ContextOf services s input.promotionId input.executionIdempotencyKey input.session
      context)
    (hanswer : input.executor context = .ok answer)
    (hvalid : validatePromotionExecutionResult services context answer = .ok ()) :
    ∃ s' result, runPromotionExecution services s input drawn = .ok (s', result) ∧
      Handed services s input context (acceptedResult context answer) s' result := by
  have hnormalized : normalizedExecution services s input context
      (execution s input context drawn.now) drawn.now = .ok (acceptedResult context answer) := by
    unfold normalizedExecution execution
    rw [hanswer, normalizePromotionExecutionResult_eq_ok.mpr ⟨hvalid, rfl⟩]
  have hrun : ∃ pair, runPromotionExecution services s input drawn = .ok pair := by
    have htarget := hcontext.target
    rw [← Option.some.inj (hpromotion.symm.trans hcontext.promotion)] at htarget
    simp only [runPromotionExecution, bind_eq_ok, orThrow_eq_ok, mapError_eq_ok,
      createPromotionExecutionContext_eq_ok, pure_eq_ok]
    exact ⟨_, context, hcontext, _, hnormalized, context.target, htarget, rfl⟩
  obtain ⟨⟨s', result⟩, hrun⟩ := hrun
  obtain ⟨context', recorded, h, hrecorded⟩ := runPromotionExecution_handed hpromotion hrun
  obtain rfl := hcontext.unique h.from_records
  obtain rfl := Except.ok.inj (hnormalized.symm.trans hrecorded)
  exact ⟨s', result, hrun, h⟩

end

/-! ## What a Promotion operation hands off -/

/-- The handoff `executePromotion` starts: none, when it refuses or answers without one. -/
def PromotionExecutionRequest.handoff (state : AuthorityPlaneSnapshot)
    (input : PromotionExecutionRequest) : Option PromotionHandoff := do
  guard (input.session.realmId = state.realmId)
  let executionIdempotencyKey ← optionalString (some (.string input.executionIdempotencyKey))
  let idempotencyKey := s!"promotion.execute:{executionIdempotencyKey}"
  guard (state.idempotency.get? idempotencyKey = none)
  guard (∀ version ∈ input.expectedVersion, version = state.version)
  let promotion ← state.promotions.get? input.promotionId
  guard (∀ key ∈ truthy promotion.executionIdempotencyKey, key = executionIdempotencyKey)
  guard (PromotionState.recoverable promotion.state = true)
  return {
    promotion
    promotionId := input.promotionId
    executionIdempotencyKey
    authorityIdempotencyKey := idempotencyKey
    requestFingerprint := fingerprint (promotionCommand .promotionExecute idempotencyKey
      input.expectedVersion input.promotionId executionIdempotencyKey)
    executor := input.executor
    session := input.session
    operation := .promotionExecute }

/-- The handoff `reconcilePromotion` starts. -/
def PromotionReconciliationRequest.handoff (state : AuthorityPlaneSnapshot)
    (input : PromotionReconciliationRequest) : Option PromotionHandoff := do
  guard (input.session.realmId = state.realmId)
  let reconciliationIdempotencyKey ←
    optionalString (some (.string input.reconciliationIdempotencyKey))
  let idempotencyKey := s!"promotion.reconcile:{reconciliationIdempotencyKey}"
  let promotion ← state.promotions.get? input.promotionId
  let executionIdempotencyKey ← truthy (promotion.executionIdempotencyKey.or
    (promotion.reconciliationCheckpoint.map PromotionReconciliationCheckpoint.idempotencyKey))
  guard (state.idempotency.get? idempotencyKey = none)
  guard (∀ version ∈ input.expectedVersion, version = state.version)
  guard (PromotionState.recoverable promotion.state = true)
  return {
    promotion
    promotionId := input.promotionId
    executionIdempotencyKey
    authorityIdempotencyKey := idempotencyKey
    requestFingerprint := fingerprint (promotionCommand .promotionReconcile idempotencyKey
      input.expectedVersion input.promotionId executionIdempotencyKey)
    executor := input.executor
    session := input.session
    operation := .promotionReconcile }

def AuthorityOperation.handoff (state : AuthorityPlaneSnapshot) :
    AuthorityOperation → Option PromotionHandoff
  | .executePromotion input => input.handoff state
  | .reconcilePromotion input => input.handoff state
  | _ => none

/-- What every handoff is made of. -/
structure PromotionHandoff.Started (state : AuthorityPlaneSnapshot) (input : PromotionHandoff) :
    Prop where
  promotion : state.promotions.get? input.promotionId = some input.promotion
  recoverable : PromotionState.recoverable input.promotion.state = true
  key : ∀ key ∈ truthy input.promotion.executionIdempotencyKey,
    key = input.executionIdempotencyKey
  nonempty : input.executionIdempotencyKey ≠ ""

section

variable {services : AuthorityServices} {state state' : AuthorityPlaneSnapshot} {drawn : Drawn}
  {handoff : PromotionHandoff} {result : AuthorityCommandResult}

theorem AuthorityOperation.handoff_started {operation : AuthorityOperation}
    (h : operation.handoff state = some handoff) : handoff.Started state := by
  cases operation with
  | executePromotion input =>
    simp only [AuthorityOperation.handoff, PromotionExecutionRequest.handoff,
      Option.bind_eq_bind, Option.bind_eq_some_iff, Option.guard_eq_some', exists_unit,
      Option.pure_def, Option.some.injEq] at h
    obtain ⟨-, key, hkey, -, -, promotion, hpromotion, hsame, hrecoverable, rfl⟩ := h
    exact ⟨hpromotion, hrecoverable, hsame, (optionalString_trim hkey).2⟩
  | reconcilePromotion input =>
    simp only [AuthorityOperation.handoff, PromotionReconciliationRequest.handoff,
      Option.bind_eq_bind, Option.bind_eq_some_iff, Option.guard_eq_some', exists_unit,
      Option.pure_def, Option.some.injEq] at h
    obtain ⟨-, _, -, promotion, hpromotion, key, hkey, -, -, hrecoverable, rfl⟩ := h
    obtain ⟨hrecorded, hne⟩ := truthy_eq_some.mp hkey
    refine ⟨hpromotion, hrecoverable, fun key' hkey' => ?_, hne⟩
    rw [(truthy_eq_some.mp hkey').1, Option.some_or] at hrecorded
    exact Option.some.inj hrecorded
  | execute | registerRunnerProfile | completeRunner => cases h

/-- A handoff is of the Promotion the operation names. -/
theorem AuthorityOperation.handoff_promotionId {operation : AuthorityOperation}
    (h : operation.handoff state = some handoff) :
    operation.promotionId = some handoff.promotionId := by
  cases operation with
  | executePromotion input =>
    simp only [AuthorityOperation.handoff, PromotionExecutionRequest.handoff,
      Option.bind_eq_bind, Option.bind_eq_some_iff, Option.pure_def, Option.some.injEq] at h
    obtain ⟨_, -, _, -, _, -, _, -, _, -, _, -, _, -, rfl⟩ := h
    rfl
  | reconcilePromotion input =>
    simp only [AuthorityOperation.handoff, PromotionReconciliationRequest.handoff,
      Option.bind_eq_bind, Option.bind_eq_some_iff, Option.pure_def, Option.some.injEq] at h
    obtain ⟨_, -, _, -, _, -, _, -, _, -, _, -, _, -, rfl⟩ := h
    rfl
  | execute | registerRunnerProfile | completeRunner => cases h

theorem PromotionState.not_terminal {state : PromotionState}
    (h : PromotionState.recoverable state = true) : ¬ PromotionState.terminal state = true := by
  cases state <;> simp_all [PromotionState.recoverable, PromotionState.terminal]

/-- An execution that starts a handoff is that handoff. -/
theorem executePromotion_of_handoff {input : PromotionExecutionRequest}
    (h : input.handoff state = some handoff) :
    executePromotion services state input drawn =
      runPromotionExecution services state handoff drawn := by
  simp only [PromotionExecutionRequest.handoff, Option.bind_eq_bind, Option.bind_eq_some_iff,
    Option.guard_eq_some', exists_unit, Option.pure_def, Option.some.injEq] at h
  obtain ⟨hrealm, key, hkey, hrow, hversion, promotion, hpromotion, hsame, hrecoverable, rfl⟩ := h
  have hname : requiredString (some (.string input.executionIdempotencyKey))
      "executionIdempotencyKey" = .ok key := requiredString_eq_ok.mpr hkey
  simp only [executePromotion, require_of hrealm, hname, hrow, require_of hversion,
    orThrow_eq_ok.mpr hpromotion, require_of hsame,
    if_neg (PromotionState.not_terminal hrecoverable), require_of hrecoverable, bind, Except.bind]

/-- A reconciliation that starts a handoff is that handoff. -/
theorem reconcilePromotion_of_handoff {input : PromotionReconciliationRequest}
    (h : input.handoff state = some handoff) :
    reconcilePromotion services state input drawn =
      runPromotionExecution services state handoff drawn := by
  simp only [PromotionReconciliationRequest.handoff, Option.bind_eq_bind, Option.bind_eq_some_iff,
    Option.guard_eq_some', exists_unit, Option.pure_def, Option.some.injEq] at h
  obtain ⟨hrealm, request, hrequest, promotion, hpromotion, key, hkey, hrow, hversion,
    hrecoverable, rfl⟩ := h
  have hname : requiredString (some (.string input.reconciliationIdempotencyKey))
      "reconciliationIdempotencyKey" = .ok request := requiredString_eq_ok.mpr hrequest
  simp only [reconcilePromotion, require_of hrealm, hname, hrow, require_of hversion,
    orThrow_eq_ok.mpr hpromotion, orThrow_eq_ok.mpr hkey,
    if_neg (PromotionState.not_terminal hrecoverable), require_of hrecoverable, bind, Except.bind]

/-- An accepted execution changes no record, or is the handoff it starts. -/
theorem executePromotion_handoff {input : PromotionExecutionRequest}
    (h : executePromotion services state input drawn = .ok (state', result)) :
    state'.records = state.records ∨ ∃ handoff, input.handoff state = some handoff ∧
      runPromotionExecution services state handoff drawn = .ok (state', result) := by
  simp only [executePromotion, bind_eq_ok, require_eq_ok, requiredString_eq_ok, exists_unit] at h
  obtain ⟨hrealm, key, hkey, h⟩ := h
  cases hrow : state.idempotency.get? s!"promotion.execute:{key}" with
  | some existing =>
    simp only [hrow, bind_eq_ok, require_eq_ok, exists_unit, pure_eq_ok, Prod.mk.injEq] at h
    exact .inl (congrArg _ h.2.1.symm)
  | none =>
    simp only [hrow, bind_eq_ok, require_eq_ok, orThrow_eq_ok, exists_unit] at h
    obtain ⟨hversion, promotion, hpromotion, hsame, h⟩ := h
    split at h
    · obtain ⟨rfl, -⟩ := Prod.mk.inj (Except.ok.inj h)
      exact .inl rfl
    · simp only [bind_eq_ok, require_eq_ok, exists_unit] at h
      refine .inr ⟨_, ?_, h.2⟩
      simp only [PromotionExecutionRequest.handoff, Option.bind_eq_bind, Option.bind_eq_some_iff,
        Option.guard_eq_some', exists_unit, Option.pure_def, Option.some.injEq]
      exact ⟨hrealm, key, hkey, hrow, hversion, promotion, hpromotion, hsame, h.1, rfl⟩

/-- An accepted reconciliation changes no record, or is the handoff it starts. -/
theorem reconcilePromotion_handoff {input : PromotionReconciliationRequest}
    (h : reconcilePromotion services state input drawn = .ok (state', result)) :
    state'.records = state.records ∨ ∃ handoff, input.handoff state = some handoff ∧
      runPromotionExecution services state handoff drawn = .ok (state', result) := by
  simp only [reconcilePromotion, bind_eq_ok, require_eq_ok, orThrow_eq_ok, requiredString_eq_ok,
    exists_unit] at h
  obtain ⟨hrealm, request, hrequest, promotion, hpromotion, key, hkey, h⟩ := h
  cases hrow : state.idempotency.get? s!"promotion.reconcile:{request}" with
  | some existing =>
    simp only [hrow, bind_eq_ok, require_eq_ok, exists_unit, pure_eq_ok, Prod.mk.injEq] at h
    exact .inl (congrArg _ h.2.1.symm)
  | none =>
    simp only [hrow, bind_eq_ok, require_eq_ok, exists_unit] at h
    obtain ⟨hversion, h⟩ := h
    split at h
    · obtain ⟨rfl, -⟩ := Prod.mk.inj (Except.ok.inj h)
      exact .inl rfl
    · simp only [bind_eq_ok, require_eq_ok, exists_unit] at h
      refine .inr ⟨_, ?_, h.2⟩
      simp only [PromotionReconciliationRequest.handoff, Option.bind_eq_bind,
        Option.bind_eq_some_iff, Option.guard_eq_some', exists_unit, Option.pure_def,
        Option.some.injEq]
      exact ⟨hrealm, request, hrequest, promotion, hpromotion, key, hkey, hrow, hversion, h.1,
        rfl⟩

end

/-! ## Moves -/

/-- What a call does to Promotions and Targets. -/
inductive Moves (services : AuthorityServices) (s : AuthorityPlaneSnapshot) (call : AuthorityCall) :
    AuthorityReply → AuthorityPlaneSnapshot → Prop
  | alone {reply s'} (hpromotions : s'.promotions = s.promotions)
      (htargets : s'.targets = s.targets) : Moves services s call reply s'
  | configured {reply s'} {target : Target} (h : target.New s)
      (hpromotions : s'.promotions = s.promotions)
      (htargets : s'.targets = s.targets.set target.id target) : Moves services s call reply s'
  | requested {reply s'} {promotion : PromotionRecord} (h : promotion.New s)
      (hpromotions : s'.promotions = s.promotions.set promotion.id promotion)
      (htargets : s'.targets = s.targets) : Moves services s call reply s'
  | handed {input context recorded result s'} (hcall : call.operation.handoff s = some input)
      (h : Handed services s input context recorded s' result) :
      Moves services s call (.ok (some result)) s'

section

variable {services : AuthorityServices} {s s' next : AuthorityPlaneSnapshot} {call : AuthorityCall}
  {reply : AuthorityReply}

/-- A command configures a Target, requests a Promotion, or leaves both alone. -/
theorem apply_moves {command : AuthorityCommand} {session : AuthoritySession}
    {result : AuthorityCommandResult}
    (h : apply services s command session call.drawn = .ok (next, result))
    (hrecords : s'.records = next.records) : Moves services s call reply s' := by
  have hwrites := apply_writes h
  have hsame {c : Collection} (hc : c ∉ command.command.writes) : s'.records c = s.records c := by
    rw [hrecords]
    exact hwrites.records c hc
  unfold apply at h
  cases hname : command.command <;> simp only [hname] at h hsame
  case targetConfigure =>
    obtain ⟨target, hnew, rfl⟩ := targetConfigure_ok h
    exact .configured hnew (hsame (by decide)) (by
      rw [AuthorityPlaneSnapshot.targets, hrecords]
      exact AuthorityPlaneSnapshot.put_same ..)
  case promotionRequest =>
    obtain ⟨promotion, hnew, rfl⟩ := promotionRequest_ok h
    exact .requested hnew (by
      rw [AuthorityPlaneSnapshot.promotions, hrecords]
      exact AuthorityPlaneSnapshot.put_same ..) (hsame (by decide))
  case promotionExecute | promotionReconcile => cases h
  all_goals exact .alone (hsame (by decide)) (hsame (by decide))

/-- **A call leaves Promotions and Targets alone, configures a Target, requests a Promotion, or
hands one off.** -/
theorem step_moves (services : AuthorityServices) (call : AuthorityCall)
    (s : AuthorityPlaneSnapshot) :
    Moves services s call (step services call s).1 (step services call s).2 := by
  rcases step_cases services call s with ⟨failure, -, heq⟩ | ⟨s', result, hperform, heq⟩
  · rw [heq]
    exact .alone rfl rfl
  · rw [heq]
    have hquiet (hrecords : s'.records = s.records) : Moves services s call (.ok result) s' :=
      .alone (by rw [AuthorityPlaneSnapshot.promotions, hrecords])
        (by rw [AuthorityPlaneSnapshot.targets, hrecords])
    have hhanded {operation : AuthorityOperation} {handoff : PromotionHandoff}
        {answer : AuthorityCommandResult} (hcall : call.operation = operation)
        (hstarts : operation.handoff s = some handoff)
        (hrun : runPromotionExecution services s handoff call.drawn = .ok (s', answer)) :
        Moves services s call (.ok (some answer)) s' := by
      obtain ⟨context, recorded, h, -⟩ :=
        runPromotionExecution_handed (AuthorityOperation.handoff_started hstarts).promotion hrun
      exact .handed (hcall ▸ hstarts) h
    unfold perform at hperform
    split at hperform
    · obtain ⟨⟨_, _⟩, hexecute, hanswer⟩ := map_eq_ok.mp hperform
      obtain ⟨rfl, -⟩ := Prod.mk.inj hanswer
      rcases execute_ok hexecute with ⟨-, -, -, -, rfl⟩ |
        ⟨_, _, _, -, -, -, happly, hrecorded⟩
      · exact .alone rfl rfl
      · obtain ⟨rfl, -⟩ := Prod.mk.inj hrecorded
        exact apply_moves happly rfl
    · obtain ⟨_, hregister, hanswer⟩ := map_eq_ok.mp hperform
      obtain ⟨rfl, -⟩ := Prod.mk.inj hanswer
      rcases registerRunnerProfile_ok hregister with rfl | ⟨-, _, -, -, rfl⟩
      · exact .alone rfl rfl
      · exact .alone rfl rfl
    · obtain ⟨⟨_, _⟩, hcomplete, hanswer⟩ := map_eq_ok.mp hperform
      obtain ⟨rfl, -⟩ := Prod.mk.inj hanswer
      rcases completeRunner_ok hcomplete with rfl | ⟨_, next, _, -, -, happly, hrecorded⟩
      · exact .alone rfl rfl
      · obtain ⟨rfl, -⟩ := Prod.mk.inj hrecorded
        obtain ⟨done, receipt, -, -, -, rfl⟩ := applyRunnerCompletion_ok happly
        have hwrites := done.file_writes s (done.evidence call.drawn.now receipt)
        exact .alone (hwrites.records .promotions (by decide))
          (hwrites.records .targets (by decide))
    · rename_i hcall
      obtain ⟨⟨_, _⟩, hexecute, hanswer⟩ := map_eq_ok.mp hperform
      obtain ⟨rfl, rfl⟩ := Prod.mk.inj hanswer
      rcases executePromotion_handoff hexecute with hrecords | ⟨handoff, hstarts, hrun⟩
      · exact hquiet hrecords
      · exact hhanded hcall hstarts hrun
    · rename_i hcall
      obtain ⟨⟨_, _⟩, hreconcile, hanswer⟩ := map_eq_ok.mp hperform
      obtain ⟨rfl, rfl⟩ := Prod.mk.inj hanswer
      rcases reconcilePromotion_handoff hreconcile with hrecords | ⟨handoff, hstarts, hrun⟩
      · exact hquiet hrecords
      · exact hhanded hcall hstarts hrun

end

/-- An answer to a handoff that passes the checks is what the call records. -/
theorem step_answered {services : AuthorityServices} {s : AuthorityPlaneSnapshot}
    {call : AuthorityCall} {input : PromotionHandoff} {context : PromotionExecutionContext}
    {answer : PromotionExecutionResult} (hcall : call.operation.handoff s = some input)
    (hcontext : ContextOf services s input.promotionId input.executionIdempotencyKey input.session
      context)
    (hanswer : input.executor context = .ok answer)
    (hvalid : validatePromotionExecutionResult services context answer = .ok ()) :
    ∃ result, (step services call s).1 = .ok (some result) ∧
      Handed services s input context (acceptedResult context answer)
        (step services call s).2 result := by
  obtain ⟨operation, drawn⟩ := call
  obtain ⟨s', result, hrun, h⟩ := runPromotionExecution_answered drawn
    (AuthorityOperation.handoff_started hcall).promotion hcontext hanswer hvalid
  refine ⟨result, ?_⟩
  cases operation with
  | executePromotion request =>
    have hstep : step services ⟨.executePromotion request, drawn⟩ s = (.ok (some result), s') := by
      simp only [step, perform, executePromotion_of_handoff hcall, hrun, Except.map, answered]
    rw [hstep]
    exact ⟨rfl, h⟩
  | reconcilePromotion request =>
    have hstep : step services ⟨.reconcilePromotion request, drawn⟩ s =
        (.ok (some result), s') := by
      simp only [step, perform, reconcilePromotion_of_handoff hcall, hrun, Except.map, answered]
    rw [hstep]
    exact ⟨rfl, h⟩
  | execute | registerRunnerProfile | completeRunner => cases hcall

/-! ## The records a context is made of -/

/-- A Release as it is created: its Artifacts and its Evidence are there. -/
structure Release.New (s : AuthorityPlaneSnapshot) (release : Release) : Prop where
  unused : s.releases.get? release.id = none
  artifacts : ∀ id ∈ release.artifactIds, (s.artifacts.get? id).isSome
  evidence : ∀ id ∈ release.evidenceIds, (s.evidence.get? id).isSome

section

variable {services : AuthorityServices} {s s' m m' next : AuthorityPlaneSnapshot}
  {call : AuthorityCall} {operation : AuthorityOperation} {drawn : Drawn} {cs : List Collection}

theorem Writes.releases (h : Writes services s drawn operation next) :
    next.releases = s.releases ∨ ∃ release : Release, release.New s ∧
      next.releases = s.releases.set release.id release := by
  have hwrites := h.writesOnly
  cases h with
  | @command command session _ _ _ _ h =>
    by_cases hname : command.command = .releaseCreate
    · unfold apply at h
      simp only [hname] at h
      obtain ⟨_, _, _, _, release, -, -, -, -, hartifacts, hevidence, hnew, rfl, -, rfl, -⟩ :=
        releaseCreate_ok h
      refine .inr ⟨release, ⟨hnew, fun id hid => ?_, fun id hid => ?_⟩,
        AuthorityPlaneSnapshot.put_same ..⟩
      · obtain ⟨artifact, hget, -⟩ := hartifacts id hid
        exact Option.isSome_iff_exists.mpr ⟨artifact, hget⟩
      · obtain ⟨record, hget, -⟩ := hevidence id hid
        exact Option.isSome_iff_exists.mpr ⟨record, hget⟩
    · refine .inl (hwrites.records .releases ?_)
      show Collection.releases ∉ command.command.writes
      cases hcommand : command.command <;> first | exact absurd hcommand hname | decide
  | enrollment _ =>
    refine .inl (hwrites.records .releases ?_)
    show Collection.releases ∉ AuthorityCommandName.runnerRegister.writes
    decide
  | completion _ =>
    refine .inl (hwrites.records .releases ?_)
    show Collection.releases ∉ AuthorityCommandName.runnerComplete.writes
    decide
  | promotion hname _ _ => exact .inl (hwrites.records .releases (by rw [hname]; decide))

/-- A Project is filed under its id. -/
theorem Writes.projects (h : Writes services s drawn operation next) :
    next.projects = s.projects ∨ ∃ project : Project, s.projects.get? project.id = none ∧
      next.projects = s.projects.set project.id project := by
  have hwrites := h.writesOnly
  cases h with
  | @command command session _ _ _ _ h =>
    by_cases hname : command.command = .projectCreate
    · unfold apply at h
      simp only [hname] at h
      obtain ⟨declared, _, _, project, _, hnew, hdeclared, -, -, rfl, -, -, -, rfl⟩ :=
        projectCreate_ok h
      refine .inr ⟨project, hnew, ?_⟩
      have hsame : declared.projects = s.projects := hdeclared.records .projects (by decide)
      rw [← hsame]
      exact AuthorityPlaneSnapshot.put_same declared .projects project.id project
    · refine .inl (hwrites.records .projects ?_)
      show Collection.projects ∉ command.command.writes
      cases hcommand : command.command <;> first | exact absurd hcommand hname | decide
  | enrollment _ =>
    refine .inl (hwrites.records .projects ?_)
    show Collection.projects ∉ AuthorityCommandName.runnerRegister.writes
    decide
  | completion _ =>
    refine .inl (hwrites.records .projects ?_)
    show Collection.projects ∉ AuthorityCommandName.runnerComplete.writes
    decide
  | promotion hname _ _ => exact .inl (hwrites.records .projects (by rw [hname]; decide))

theorem step_releases (services : AuthorityServices) (call : AuthorityCall)
    (s : AuthorityPlaneSnapshot) :
    (step services call s).2.releases = s.releases ∨ ∃ release : Release, release.New s ∧
      (step services call s).2.releases = s.releases.set release.id release := by
  rcases step_records services call s with heq | ⟨next, hwrites, heq⟩
  · exact .inl (by rw [AuthorityPlaneSnapshot.releases, heq])
  · rw [AuthorityPlaneSnapshot.releases, heq]
    exact hwrites.releases

theorem step_projects (services : AuthorityServices) (call : AuthorityCall)
    (s : AuthorityPlaneSnapshot) :
    (step services call s).2.projects = s.projects ∨ ∃ project : Project,
      s.projects.get? project.id = none ∧
        (step services call s).2.projects = s.projects.set project.id project := by
  rcases step_records services call s with heq | ⟨next, hwrites, heq⟩
  · exact .inl (by rw [AuthorityPlaneSnapshot.projects, heq])
  · rw [AuthorityPlaneSnapshot.projects, heq]
    exact hwrites.projects

/-- Artifacts and Evidence are filed under new ids. -/
theorem Wrote.keeps (h : Wrote services s call cs m m')
    (hm : OrderedMap.Kept s.artifacts m.artifacts) (hm' : OrderedMap.Kept s.evidence m.evidence) :
    OrderedMap.Kept s.artifacts m'.artifacts ∧ OrderedMap.Kept s.evidence m'.evidence := by
  have hframe := h.writesOnly
  cases h with
  | evidenceRecord _ h =>
    obtain ⟨_, _, id, evidence, -, -, hnew, -, -, -, -, rfl⟩ := evidenceRecord_ok h
    exact ⟨.of_eq (hframe.records .artifacts (by decide)),
      AuthorityPlaneSnapshot.kept_put (c := .evidence) hnew .evidence⟩
  | artifactRecord _ h =>
    obtain ⟨id, artifact, hnew, -, -, -, -, rfl⟩ := artifactRecord_ok h
    exact ⟨AuthorityPlaneSnapshot.kept_put (c := .artifacts) hnew .artifacts,
      .of_eq (hframe.records .evidence (by decide))⟩
  | completion _ h =>
    obtain ⟨done, receipt, -, hevidence, hartifacts, rfl⟩ := applyRunnerCompletion_ok h
    refine ⟨?_, ?_⟩
    · rw [done.file_artifacts]
      exact Completed.putArtifacts_kept _ (.refl _) hartifacts
    · rw [done.file_evidence]
      exact .set hevidence
  | filed c hc id record hnew =>
    have hother (c' : Collection) (hne : c' ∉ filedCollections) :
        (m.put c id record).records c' = m.records c' :=
      AuthorityPlaneSnapshot.put_other _ _ _ (by rintro rfl; exact hne hc)
    exact ⟨hm.trans (.of_eq (hother .artifacts (by decide))),
      hm'.trans (.of_eq (hother .evidence (by decide)))⟩
  | _ => exact ⟨hm.trans (.of_eq (hframe.records .artifacts (by decide))),
      hm'.trans (.of_eq (hframe.records .evidence (by decide)))⟩

/-- **The records a context is made of are never written again.** -/
structure KeepsInputs (s s' : AuthorityPlaneSnapshot) : Prop where
  projects : OrderedMap.Kept s.projects s'.projects
  releases : OrderedMap.Kept s.releases s'.releases
  artifacts : OrderedMap.Kept s.artifacts s'.artifacts
  evidence : OrderedMap.Kept s.evidence s'.evidence

theorem step_keeps (services : AuthorityServices) (call : AuthorityCall)
    (s : AuthorityPlaneSnapshot) : KeepsInputs s (step services call s).2 := by
  have hrecorded : OrderedMap.Kept s.artifacts (step services call s).2.artifacts ∧
      OrderedMap.Kept s.evidence (step services call s).2.evidence := by
    show OrderedMap.Kept s.artifacts ((step services call s).2.records .artifacts) ∧
      OrderedMap.Kept s.evidence ((step services call s).2.records .evidence)
    rcases step_records services call s with heq | ⟨next, hwrites, heq⟩
    · rw [heq]
      exact ⟨.refl _, .refl _⟩
    · rw [heq]
      exact hwrites.wrote.invariant
        (fun m => OrderedMap.Kept s.artifacts m.artifacts ∧ OrderedMap.Kept s.evidence m.evidence)
        (fun _ _ _ hwrote hm => hwrote.keeps hm.1 hm.2) ⟨.refl _, .refl _⟩
  refine ⟨?_, ?_, hrecorded.1, hrecorded.2⟩
  · rcases step_projects services call s with hsame | ⟨project, hnew, hset⟩
    · exact .of_eq hsame
    · exact hset ▸ .set hnew
  · rcases step_releases services call s with hsame | ⟨release, hnew, hset⟩
    · exact .of_eq hsame
    · exact hset ▸ .set hnew.unused

end

/-! ## Keys -/

/-- The records a context is looked up through are filed under their ids. -/
structure Filed (s : AuthorityPlaneSnapshot) : Prop where
  promotions : OrderedMap.SelfKeyed (fun promotion : PromotionRecord => promotion.id) s.promotions
  targets : OrderedMap.SelfKeyed (fun target : Target => target.id) s.targets
  releases : OrderedMap.SelfKeyed Release.id s.releases
  projects : OrderedMap.SelfKeyed (fun project : Project => project.id) s.projects

section

variable {services : AuthorityServices} {s : AuthorityPlaneSnapshot} {promotionId key : String}
  {session : AuthoritySession} {context : PromotionExecutionContext}

theorem ContextOf.exact (h : ContextOf services s promotionId key session context)
    (hfiled : Filed s) : context.Exact :=
  ⟨h.projectId, hfiled.targets _ _ h.target, hfiled.releases _ _ h.release, h.expectedCurrent⟩

theorem ContextOf.target_at (h : ContextOf services s promotionId key session context)
    (hfiled : Filed s) : s.targets.get? context.target.id = some context.target := by
  rw [(h.exact hfiled).target]
  exact h.target

theorem ContextOf.promotion_at (h : ContextOf services s promotionId key session context)
    (hfiled : Filed s) : context.promotion.id = promotionId :=
  hfiled.promotions _ _ h.promotion

theorem Moves.keyed {call : AuthorityCall} {reply : AuthorityReply} {s' : AuthorityPlaneSnapshot}
    (h : Moves services s call reply s') (hfiled : Filed s) :
    OrderedMap.SelfKeyed (fun promotion : PromotionRecord => promotion.id) s'.promotions ∧
      OrderedMap.SelfKeyed (fun target : Target => target.id) s'.targets := by
  cases h with
  | alone hpromotions htargets =>
    exact ⟨hpromotions ▸ hfiled.promotions, htargets ▸ hfiled.targets⟩
  | configured _ hpromotions htargets =>
    exact ⟨hpromotions ▸ hfiled.promotions, htargets ▸ hfiled.targets.set rfl⟩
  | requested _ hpromotions htargets =>
    exact ⟨hpromotions ▸ hfiled.promotions.set rfl, htargets ▸ hfiled.targets⟩
  | handed _ h =>
    obtain ⟨checkpoint, -, hpromotions⟩ := h.promotions
    have hid := h.answer.identity.1
    exact ⟨hpromotions ▸ hfiled.promotions.set hid, h.targets ▸ hfiled.targets.set rfl⟩

theorem step_filed (services : AuthorityServices) (call : AuthorityCall) (hfiled : Filed s) :
    Filed (step services call s).2 := by
  obtain ⟨hpromotions, htargets⟩ := (step_moves services call s).keyed hfiled
  suffices OrderedMap.SelfKeyed Release.id (step services call s).2.releases ∧
      OrderedMap.SelfKeyed (fun project : Project => project.id)
        (step services call s).2.projects from ⟨hpromotions, htargets, this.1, this.2⟩
  constructor
  · rcases step_releases services call s with hkept | ⟨release, -, hset⟩
    · exact hkept ▸ hfiled.releases
    · exact hset ▸ hfiled.releases.set rfl
  · rcases step_projects services call s with hkept | ⟨project, -, hset⟩
    · exact hkept ▸ hfiled.projects
    · exact hset ▸ hfiled.projects.set rfl

/-- **Promotions, Targets, Releases and Projects are filed under their ids.** -/
theorem filed_of_run {ok : AuthorityPlaneSnapshot → AuthorityCall → Prop} {realmId : String}
    {tr : List AuthorityTransition} (h : AuthorityRun services ok realmId tr s) : Filed s :=
  h.invariant Filed ⟨OrderedMap.selfKeyed_empty _, OrderedMap.selfKeyed_empty _,
    OrderedMap.selfKeyed_empty _, OrderedMap.selfKeyed_empty _⟩
    fun _ call hfiled _ => step_filed services call hfiled

end

end Anyam.Authority
