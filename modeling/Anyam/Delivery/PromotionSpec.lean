import Anyam.Delivery.Promotion

/-!
# What the promotion coordinator's methods do

`Resumes` says what an adapter answer does to the execution that waited for it:
one constructor of `Answered` per outcome, with the parts of the answer the outcome
rests on. `Starts` says what starting an execution does. Both describe the Promotion
by `SameRequest` and its state, and the coordinator by the records it leaves.

- **`resume_spec`**: from the stage an execution waits at, the answer of that stage
  has one of the outcomes of `Answered`.
- **`executeOnce_spec`**: a proposed Promotion without an execution is started.
-/

namespace Anyam.Delivery

open Anyam.Lib Anyam.Kernel

/-- What one adapter call answers. `apply` and `rollback` both answer with a
deployment. -/
inductive Answer
  | preview (answer : AdapterAnswer WorkerPreview)
  | deployment (answer : AdapterAnswer WorkerDeployment)
  | health (answer : AdapterAnswer HealthObservation)
deriving DecidableEq, Repr

/-- The deployment a call answered with. -/
def Answer.deployed : Answer → Option WorkerDeployment
  | .deployment (.returned (.succeeded value _)) => some value
  | _ => none

/-- The health observation a call answered with. -/
def Answer.observed : Answer → Option HealthObservation
  | .health (.returned (.succeeded observation _)) => some observation
  | _ => none

/-- The answer is a deployment of exactly this Release. -/
def Answer.Deploys (answer : Answer) (release : ImmutableRelease) (value : WorkerDeployment) :
    Prop :=
  answer.deployed = some value ∧ value.releaseDigest = release.releaseDigest ∧
    value.artifactDigests = release.artifacts.map Artifact.digest

/-- The answer is a healthy observation bound to this Target and this Release. -/
def Answer.Verifies (answer : Answer) (targetId releaseId : String) : Prop :=
  ∃ health ∈ answer.observed,
    health.targetId = targetId ∧ health.releaseId = releaseId ∧ health.state = .healthy

instance (answer : Answer) (targetId releaseId : String) :
    Decidable (answer.Verifies targetId releaseId) :=
  inferInstanceAs (Decidable (∃ health ∈ answer.observed, _))

theorem Answer.verifies_observed {health : HealthObservation} {receipt targetId releaseId : String} :
    (Answer.health (.returned (.succeeded health receipt))).Verifies targetId releaseId ↔
      health.targetId = targetId ∧ health.releaseId = releaseId ∧ health.state = .healthy := by
  simp [Answer.Verifies, Answer.observed]

/-- After this answer to a deployment of the Release the provider may have changed
state: it was indeterminate, thrown, or about something else. -/
def Answer.LeavesUnknown (answer : Answer) (release : ImmutableRelease) : Prop :=
  match answer with
  | .deployment (.threw _) => True
  | .deployment (.returned (.failed failure)) => failure.outcome = .indeterminate
  | .deployment (.returned (.succeeded value _)) =>
    providerResultMatches value.releaseDigest value.artifactDigests release = false
  | _ => False

instance (answer : Answer) (release : ImmutableRelease) :
    Decidable (answer.LeavesUnknown release) :=
  match answer with
  | .deployment (.threw _) => isTrue trivial
  | .deployment (.returned (.failed failure)) =>
    inferInstanceAs (Decidable (failure.outcome = .indeterminate))
  | .deployment (.returned (.succeeded value _)) =>
    inferInstanceAs (Decidable
      (providerResultMatches value.releaseDigest value.artifactDigests release = false))
  | .preview _ => isFalse id
  | .health _ => isFalse id

/-- A deployment of exactly the Release is known. -/
theorem Answer.Deploys.known {answer : Answer} {release : ImmutableRelease}
    {value : WorkerDeployment} (h : answer.Deploys release value) :
    ¬ answer.LeavesUnknown release := by
  obtain ⟨hdeployed, hdigest, hartifacts⟩ := h
  intro hunknown
  unfold Answer.deployed at hdeployed
  split at hdeployed
  · cases hdeployed
    have hmatch : providerResultMatches value.releaseDigest value.artifactDigests release = false :=
      hunknown
    rw [providerResultMatches_iff.mpr ⟨hdigest, hartifacts⟩] at hmatch
    cases hmatch
  · cases hdeployed

/-- The fields of a Promotion record that say what was requested. -/
structure SameRequest (p p' : PromotionRecord) : Prop where
  id : p'.id = p.id
  targetId : p'.targetId = p.targetId
  releaseId : p'.releaseId = p.releaseId
  kind : p'.kind = p.kind
  previous : p'.previousReleaseId = p.previousReleaseId
  expected : p'.expectedCurrentReleaseId = p.expectedCurrentReleaseId

theorem SameRequest.trans {p p' p'' : PromotionRecord} (h' : SameRequest p' p'')
    (h : SameRequest p p' := by exact ⟨rfl, rfl, rfl, rfl, rfl, rfl⟩) : SameRequest p p'' :=
  ⟨h'.id.trans h.id, h'.targetId.trans h.targetId, h'.releaseId.trans h.releaseId,
    h'.kind.trans h.kind, h'.previous.trans h.previous, h'.expected.trans h.expected⟩

theorem SameRequest.edit {p p' p'' : PromotionRecord} (h : SameRequest p p')
    (h' : SameRequest p' p'' := by exact ⟨rfl, rfl, rfl, rfl, rfl, rfl⟩) : SameRequest p p'' :=
  h'.trans h

/-- The Target after its pointer moved to a verified Release. -/
def WorkerTarget.movedTo (target : WorkerTarget) (releaseId : String) : WorkerTarget :=
  { target with
    currentReleaseId := some releaseId
    releaseHistory := appendUnlessLast target.releaseHistory releaseId
    state := .healthy }

/-- The Target with another reported state. -/
def WorkerTarget.withState (target : WorkerTarget) (state : TargetState) : WorkerTarget :=
  { target with state }

/-- The Target is ready for a Promotion to start: a complete profile, and previews. -/
def WorkerTarget.Ready (target : WorkerTarget) : Prop :=
  (assertTargetCanPromote target.toTarget).isOk = true ∧ target.capabilities.preview = true

instance (target : WorkerTarget) : Decidable target.Ready := inferInstanceAs (Decidable (_ ∧ _))

namespace WorkerPromotionCoordinator

/-- `s'` is `s` with one Promotion record and the Target replaced. -/
structure Leaves (s : WorkerPromotionCoordinator) (p : PromotionRecord) (target : WorkerTarget)
    (s' : WorkerPromotionCoordinator) : Prop where
  promotions : ∀ k, s'.promotions.get? k = if k = p.id then some p else s.promotions.get? k
  target : s'.target = target
  projectId : s'.projectId = s.projectId
  releases : s'.releases = s.releases
  executions : s'.executions = s.executions

/-- What an answer does to the execution of `p` that waits for it with `release`:
the next record, the next execution and the next Target. -/
inductive Answered (planDigest : MigrationPlanBody → String) (s : WorkerPromotionCoordinator)
    (p : PromotionRecord) (release : ImmutableRelease) :
    Stage → Answer → PromotionRecord → Execution → WorkerTarget → Prop
  /-- The preview matched; the deployment is called. -/
  | approved {answer p'} (hstate : p'.state = .applying) :
      Answered planDigest s p release .preview answer p' (.waiting release .deployment) s.target
  /-- The Promotion failed or was blocked before its deployment succeeded. -/
  | refused {stage answer p'} (hstage : stage = .preview ∨ stage = .deployment)
      (hstate : p'.state = .failed ∨ p'.state = .blocked)
      (hlost : answer.LeavesUnknown release → p.kind = .rollback ∧ answer.deployed = none) :
      Answered planDigest s p release stage answer p' (.settled (.ok p')) s.target
  | degraded {answer p'} (hstate : p'.state = .degraded) :
      Answered planDigest s p release .deployment answer p' (.settled (.ok p')) (s.target.withState .degraded)
  /-- The deployment matched; the health check is called. -/
  | deployed {answer p' value} (hstate : p'.state = p.state)
      (hdeploys : answer.Deploys release value) :
      Answered planDigest s p release .deployment answer p' (.waiting release (.health value)) s.target
  | completed {answer p' value} (hstate : p'.state = .healthy)
      (hverifies : answer.Verifies s.target.id release.release.id) :
      Answered planDigest s p release (.health value) answer p' (.settled (.ok p'))
        (s.target.movedTo release.release.id)
  /-- The health check failed; the previous Release is rolled back to. -/
  | recovering {answer p' value previous} (hstate : p'.state = .degraded)
      (hfails : ¬ answer.Verifies s.target.id release.release.id)
      (hprevious : ∃ id, s.releases.get? id = some previous) :
      Answered planDigest s p release (.health value) answer p' (.waiting release (.rollback previous))
        (s.target.withState .degraded)
  /-- The health check failed, and no rollback is made. -/
  | unrecovered {answer p' value} (hstate : p'.state = .degraded)
      (hfails : ¬ answer.Verifies s.target.id release.release.id) :
      Answered planDigest s p release (.health value) answer p' (.waiting release .recovered)
        (s.target.withState .degraded)
  /-- The health check failed, and the Release's migration plan is malformed. -/
  | undecided {answer p' value error} (hstate : p'.state = .degraded)
      (hfails : ¬ answer.Verifies s.target.id release.release.id)
      (hplan : rollbackDecisionFor planDigest release.release = .error error) :
      Answered planDigest s p release (.health value) answer p'
        (.settled (.error (.migration error))) (s.target.withState .degraded)
  /-- The rollback matched; its health check is called. -/
  | rolledBack {answer p' previous value} (hstate : p'.state = p.state)
      (hdeploys : answer.Deploys previous value) :
      Answered planDigest s p release (.rollback previous) answer p'
        (.waiting release (.rollbackHealth previous value)) s.target
  /-- The rollback failed, or could not be verified. -/
  | abandoned {stage answer p' previous}
      (hstage : stage = .rollback previous ∨ ∃ value, stage = .rollbackHealth previous value)
      (hstate : p'.state = p.state) :
      Answered planDigest s p release stage answer p' (.waiting release .recovered) s.target
  | restored {answer p' previous value} (hstate : p'.state = .rolledBack)
      (hdegraded : p.state = .degraded)
      (hverifies : answer.Verifies s.target.id previous.release.id) :
      Answered planDigest s p release (.rollbackHealth previous value) answer p' (.waiting release .recovered)
        (s.target.withState .healthy)
  /-- The rollback was verified for a Promotion that was proposed again meanwhile. -/
  | overtaken {answer p' previous value error} (hstate : p'.state = p.state)
      (hproposed : p.state = .proposed)
      (hverifies : answer.Verifies s.target.id previous.release.id) :
      Answered planDigest s p release (.rollbackHealth previous value) answer p' (.settled (.error error))
        (s.target.withState .healthy)

/-- The answer to the stage an execution waits at leaves one of these outcomes. -/
def Resumes (planDigest : MigrationPlanBody → String) (s : WorkerPromotionCoordinator)
    (p : PromotionRecord) (release : ImmutableRelease) (stage : Stage) (answer : Answer)
    (next : Execution × WorkerPromotionCoordinator) : Prop :=
  ∃ p' target, SameRequest p p' ∧ Answered planDigest s p release stage answer p' next.1 target ∧
    s.Leaves p' target next.2

variable {s s₁ s₂ : WorkerPromotionCoordinator} {p p₁ p₂ p₃ : PromotionRecord}
  {target₁ target₂ : WorkerTarget} {planDigest : MigrationPlanBody → String}

/-! ## Edits and transitions -/

/-- Nothing edited yet. -/
theorem Leaves.refl (hp : s.promotions.get? p.id = some p) : s.Leaves p s.target s where
  promotions k := by
    split
    · rename_i hk
      rw [hk, hp]
    · rfl
  target := rfl
  projectId := rfl
  releases := rfl
  executions := rfl

/-- An edit of the record last left. -/
theorem Leaves.put (h : s.Leaves p₁ target₁ s₁) (hid : p₂.id = p₁.id := by rfl) :
    s.Leaves p₂ target₁ (s₁.put p₂) where
  promotions k := by
    show (s₁.promotions.set p₂.id p₂).get? k = _
    rw [OrderedMap.get?_set, h.promotions, hid]
    split <;> rfl
  target := h.target
  projectId := h.projectId
  releases := h.releases
  executions := h.executions

theorem Leaves.setIdempotency (h : s.Leaves p₁ target₁ s₁) (idempotency : OrderedMap String String) :
    s.Leaves p₁ target₁ { s₁ with idempotency } where
  promotions := h.promotions
  target := h.target
  projectId := h.projectId
  releases := h.releases
  executions := h.executions

theorem Leaves.setTarget (h : s.Leaves p₁ target₁ s₁) (target : WorkerTarget) :
    s.Leaves p₁ target { s₁ with target } where
  promotions := h.promotions
  target := rfl
  projectId := h.projectId
  releases := h.releases
  executions := h.executions

theorem Leaves.setTargetState (h : s.Leaves p₁ target₁ s₁) (state : TargetState) :
    s.Leaves p₁ (target₁.withState state) (s₁.setTargetState state) :=
  h.target ▸ h.setTarget (s₁.target.withState state)

/-- A transition the table has. -/
theorem Leaves.transition (h : s.Leaves p₁ target₁ s₁) (p₂ : PromotionRecord)
    (hid : p₂.id = p₁.id) {next : PromotionState} (hnext : next ∈ allowedTransitions p₂.state) (receipt : String)
    (providerOperationId : Option String) :
    ∃ s₂, s₁.transition p₂ next receipt providerOperationId =
        (.ok { p₂ with state := next }, s₂) ∧
      s.Leaves { p₂ with state := next } target₁ s₂ := by
  have hput : s.Leaves { p₂ with state := next } target₁ (s₁.put { p₂ with state := next }) :=
    h.put hid
  refine ⟨_, if_pos hnext, ?_⟩
  exact ⟨hput.promotions, hput.target, hput.projectId, hput.releases, hput.executions⟩

/-- A transition that was made. -/
theorem Leaves.moved (h : s.Leaves p₁ target₁ s₁) {next : PromotionState}
    {receipt : String} {providerOperationId : Option String}
    (heq : s₁.transition p₂ next receipt providerOperationId = (.ok p₃, s₂))
    (hid : p₂.id = p₁.id := by rfl) :
    next ∈ allowedTransitions p₂.state ∧ SameRequest p₂ p₃ ∧ p₃.state = next ∧
      s.Leaves p₃ target₁ s₂ := by
  by_cases hnext : next ∈ allowedTransitions p₂.state
  · obtain ⟨s₂', heq', hleaves⟩ := h.transition p₂ hid hnext receipt providerOperationId
    rw [heq'] at heq
    cases heq
    exact ⟨hnext, ⟨rfl, rfl, rfl, rfl, rfl, rfl⟩, rfl, hleaves⟩
  · rw [WorkerPromotionCoordinator.transition, if_neg hnext] at heq
    cases heq

/-- A transition that threw. -/
theorem Leaves.refused (h : s.Leaves p₁ target₁ s₁) {next : PromotionState}
    {receipt : String} {providerOperationId : Option String} {error : DeliveryError}
    (heq : s₁.transition p₂ next receipt providerOperationId = (.error error, s₂))
    (hid : p₂.id = p₁.id := by rfl) :
    next ∉ allowedTransitions p₂.state ∧ s.Leaves p₂ target₁ s₂ := by
  by_cases hnext : next ∈ allowedTransitions p₂.state
  · rw [WorkerPromotionCoordinator.transition, if_pos hnext] at heq
    cases heq
  · rw [WorkerPromotionCoordinator.transition, if_neg hnext] at heq
    cases heq
    exact ⟨hnext, h.put hid⟩

theorem Leaves.fail (h : s.Leaves p₁ target₁ s₁) (hid : p₂.id = p₁.id) {state : PromotionState}
    (hstate : state ∈ allowedTransitions p₂.state) (message recoveryAction receipt : String) :
    ∃ p₃ s₂, s₁.fail p₂ state message recoveryAction receipt = (.ok p₃, s₂) ∧
      SameRequest p₂ p₃ ∧ p₃.state = state ∧ s.Leaves p₃ target₁ s₂ := by
  obtain ⟨s₂, heq, hleaves⟩ := h.transition { p₂ with
    recoveryAction := some recoveryAction
    receipt := s!"promotion={state}; {message}; {receipt}" } hid hstate
    s!"promotion={state}; {message}; {receipt}" none
  exact ⟨_, s₂, heq, ⟨rfl, rfl, rfl, rfl, rfl, rfl⟩, rfl, hleaves⟩

theorem Leaves.degrade (h : s.Leaves p₁ target₁ s₁) (hid : p₂.id = p₁.id)
    (hstate : .degraded ∈ allowedTransitions p₂.state) (message recoveryAction receipt : String) :
    ∃ p₃ s₂, s₁.degrade p₂ message recoveryAction receipt = (.ok p₃, s₂) ∧
      SameRequest p₂ p₃ ∧ p₃.state = .degraded ∧
      s.Leaves p₃ (target₁.withState .degraded) s₂ := by
  obtain ⟨s₂, heq, hleaves⟩ := (h.setTargetState .degraded).transition { p₂ with
    recoveryAction := some recoveryAction
    receipt := s!"promotion=degraded; {message}; {receipt}" } hid hstate
    s!"promotion=degraded; {message}; {receipt}" none
  exact ⟨_, s₂, heq, ⟨rfl, rfl, rfl, rfl, rfl, rfl⟩, rfl, hleaves⟩

/-- An indeterminate `apply` degrades; every other failed call fails or blocks. -/
theorem adapterFailureState_cases (failure : DeliveryAdapterFailure) (operation : String) :
    adapterFailureState failure operation = .degraded ∧ operation = "apply" ∨
      (adapterFailureState failure operation = .failed ∨
        adapterFailureState failure operation = .blocked) ∧
        (failure.outcome = .indeterminate → operation ≠ "apply") := by
  unfold adapterFailureState
  cases failure.outcome with
  | indeterminate =>
    by_cases hop : operation = "apply"
    · exact .inl ⟨if_pos hop, hop⟩
    · exact .inr ⟨.inl (if_neg hop), fun _ => hop⟩
  | failed =>
    cases failure.retryable with
    | false => exact .inr ⟨.inr rfl, nofun⟩
    | true => exact .inr ⟨.inl rfl, nofun⟩

theorem kind_of_operation {kind : PromotionKind} (h : deploymentOperation kind ≠ "apply") :
    kind = .rollback := by
  cases kind with
  | promotion => exact absurd rfl h
  | rollback => rfl

/-! ## The answers

Each stage is answered in the state its execution left the Promotion in; `hp` says
the record is the one on file. -/

section Answers

variable {release : ImmutableRelease}

/-- `return` after a `fail`. -/
theorem Leaves.resumes_fail (h : s.Leaves p₁ s.target s₁) {stage : Stage} {answer : Answer}
    (hstage : stage = .preview ∨ stage = .deployment) {state : PromotionState}
    (hstate : state = .failed ∨ state = .blocked) (hallowed : state ∈ allowedTransitions p₂.state)
    (hlost : answer.LeavesUnknown release → p.kind = .rollback ∧ answer.deployed = none)
    {message recoveryAction receipt : String} (hid : p₂.id = p₁.id := by rfl)
    (hsame : SameRequest p p₂ := by exact ⟨rfl, rfl, rfl, rfl, rfl, rfl⟩) :
    s.Resumes planDigest p release stage answer
      (settleWith (s₁.fail p₂ state message recoveryAction receipt)) := by
  obtain ⟨p₃, s₂, heq, hsame', hp₃, hleaves⟩ := h.fail hid hallowed message recoveryAction receipt
  rw [heq]
  exact ⟨p₃, _, hsame'.trans hsame, .refused hstage (hp₃ ▸ hstate) hlost, hleaves⟩

/-- `return` after a `degrade`. -/
theorem Leaves.resumes_degrade (h : s.Leaves p₁ s.target s₁) {answer : Answer}
    (hallowed : .degraded ∈ allowedTransitions p₂.state) {message recoveryAction receipt : String}
    (hid : p₂.id = p₁.id := by rfl)
    (hsame : SameRequest p p₂ := by exact ⟨rfl, rfl, rfl, rfl, rfl, rfl⟩) :
    s.Resumes planDigest p release .deployment answer
      (settleWith (s₁.degrade p₂ message recoveryAction receipt)) := by
  obtain ⟨p₃, s₂, heq, hsame', hp₃, hleaves⟩ := h.degrade hid hallowed message recoveryAction receipt
  rw [heq]
  exact ⟨p₃, _, hsame'.trans hsame, .degraded hp₃, hleaves⟩

theorem known_preview (answer : AdapterAnswer WorkerPreview) :
    ¬ (Answer.preview answer).LeavesUnknown release := id

theorem resumePreview_spec (hp : s.promotions.get? p.id = some p) (hstate : p.state = .validating)
    (answer : AdapterAnswer WorkerPreview) :
    s.Resumes planDigest p release .preview (.preview answer) (s.resumePreview p release answer) := by
  have h := Leaves.refl hp
  have hallowed : ∀ next ∈ [.approved, .failed, .blocked], next ∈ allowedTransitions p.state := by
    rw [hstate]
    exact fun _ h => h
  have hlost : (Answer.preview answer).LeavesUnknown release →
      p.kind = .rollback ∧ (Answer.preview answer).deployed = none :=
    fun hunknown => absurd hunknown (known_preview answer)
  unfold resumePreview
  cases invoke "preview" answer with
  | failed failure =>
    show s.Resumes planDigest p release _ _ (settleWith (s.failFromAdapter p failure "preview"))
    unfold failFromAdapter
    rcases adapterFailureState_cases failure "preview" with ⟨-, hop⟩ | ⟨hfail, -⟩
    · exact absurd hop (by decide)
    · have hother : adapterFailureState failure "preview" ≠ .degraded := by
        rcases hfail with h | h <;> simp [h]
      simp only [if_neg hother]
      refine h.resumes_fail (.inl rfl) hfail (hallowed _ ?_) hlost
      rcases hfail with h | h <;> simp [h]
  | succeeded preview receipt =>
    simp only []
    split
    · exact h.resumes_fail (.inl rfl) (.inr rfl) (hallowed _ (by decide)) hlost
    split
    · rename_i heq
      exact absurd (hallowed .approved (by decide)) (h.refused heq rfl).1
    · rename_i p₁ s₁ heq
      obtain ⟨-, hedited, hp₁, h₁⟩ := h.moved heq rfl
      have hsame : SameRequest p p₁ := hedited.trans
      have hblocked : .blocked ∈ allowedTransitions p₁.state := by rw [hp₁]; decide
      have hnext : .applying ∈ allowedTransitions p₁.state := by rw [hp₁]; decide
      split
      · exact h₁.resumes_fail (.inl rfl) (.inr rfl) hblocked hlost rfl hsame
      split
      · exact h₁.resumes_fail (.inl rfl) (.inr rfl) hblocked hlost rfl hsame
      split
      · rename_i heq₁
        exact absurd hnext (h₁.refused heq₁ rfl).1
      · rename_i heq₁
        obtain ⟨-, hsame', hp₂, h₂⟩ := h₁.moved heq₁ rfl
        exact ⟨_, _, hsame'.trans hsame, .approved hp₂, h₂⟩

theorem resumeDeployment_spec (hp : s.promotions.get? p.id = some p) (hstate : p.state = .applying)
    (answer : AdapterAnswer WorkerDeployment) :
    s.Resumes planDigest p release .deployment (.deployment answer)
      (s.resumeDeployment p release answer) := by
  have h := Leaves.refl hp
  have hallowed : ∀ next ∈ [.failed, .blocked, .degraded], next ∈ allowedTransitions p.state := by
    rw [hstate]
    decide
  unfold resumeDeployment
  cases hanswer : invoke (deploymentOperation p.kind) answer with
  | failed failure =>
    show s.Resumes planDigest p release _ _
      (settleWith (s.failFromAdapter p failure (deploymentOperation p.kind)))
    unfold failFromAdapter
    rcases adapterFailureState_cases failure (deploymentOperation p.kind) with
      ⟨hdegraded, -⟩ | ⟨hfail, hop⟩
    · simp only [if_pos hdegraded]
      exact h.resumes_degrade (hallowed _ (by decide))
    · have hother : adapterFailureState failure (deploymentOperation p.kind) ≠ .degraded := by
        rcases hfail with h | h <;> simp [h]
      simp only [if_neg hother]
      refine h.resumes_fail (.inr rfl) hfail (hallowed _ ?_) fun hunknown => ?_
      · rcases hfail with h | h <;> simp [h]
      · -- the failure the answer stands for is indeterminate, so this was no `apply`
        obtain (⟨value, receipt⟩ | failure') | message := answer
        · cases hanswer
        · cases hanswer
          exact ⟨kind_of_operation (hop hunknown), rfl⟩
        · cases hanswer
          exact ⟨kind_of_operation (hop rfl), rfl⟩
  | succeeded deployment receipt =>
    obtain (⟨value, receipt'⟩ | failure') | message := answer
    · cases hanswer
      simp only []
      split
      · exact h.resumes_degrade (hallowed _ (by decide))
      · rename_i hmatch
        rw [not_not, providerResultMatches_iff] at hmatch
        split
        · refine h.resumes_degrade ?_
          exact hallowed .degraded (by decide)
        · refine ⟨_, _, ?_, .deployed ?_ ⟨rfl, hmatch.1, hmatch.2⟩, h.put⟩
          · exact ⟨rfl, rfl, rfl, rfl, rfl, rfl⟩
          · rfl
    · cases hanswer
    · cases hanswer

/-- A waiting execution after an edit of the record last left. -/
theorem Leaves.resumes_put (h : s.Leaves p₁ target₁ s₁) {stage : Stage} {answer : Answer}
    {execution : Execution}
    (hanswered : Answered planDigest s p release stage answer p₂ execution target₁)
    (hid : p₂.id = p₁.id := by rfl)
    (hsame : SameRequest p p₂ := by exact ⟨rfl, rfl, rfl, rfl, rfl, rfl⟩) :
    s.Resumes planDigest p release stage answer (execution, s₁.put p₂) :=
  ⟨p₂, _, hsame, hanswered, h.put hid⟩

theorem recover_spec (h : s.Leaves p s.target s) (hstate : p.state = .applying)
    {value : WorkerDeployment} {answer : Answer} {message receipt : String}
    (hfails : ¬ answer.Verifies s.target.id release.release.id)
    (hedit : SameRequest p p₂ := by exact ⟨rfl, rfl, rfl, rfl, rfl, rfl⟩)
    (hsame : p₂.state = p.state := by rfl) :
    s.Resumes planDigest p release (.health value) answer
      (s.recoverAfterHealthFailure planDigest p₂ release message receipt) := by
  have hdegraded : .degraded ∈ allowedTransitions p₂.state := by rw [hsame, hstate]; decide
  unfold recoverAfterHealthFailure
  simp only []
  split
  · rename_i heq
    exact absurd hdegraded ((h.setTargetState .degraded).refused heq hedit.id).1
  · rename_i p₃ s₁ heq
    obtain ⟨-, hmoved, hp₃, h₁⟩ := (h.setTargetState .degraded).moved heq hedit.id
    have hsame : SameRequest p p₃ := hmoved.trans hedit.edit
    split
    · rename_i error hplan
      exact ⟨_, _, hsame, .undecided hp₃ hfails hplan, h₁⟩
    · exact h₁.resumes_put (.unrecovered hp₃ hfails) rfl hsame.edit
    · -- an automatic rollback is allowed: it needs a previous Release and the capability
      split
      · exact h₁.resumes_put (.unrecovered hp₃ hfails) rfl hsame.edit
      split
      · exact h₁.resumes_put (.unrecovered hp₃ hfails) rfl hsame.edit
      split
      · exact h₁.resumes_put (.unrecovered hp₃ hfails) rfl hsame.edit
      · rename_i previousReleaseId _ _ _ previous hprevious
        rw [h₁.releases] at hprevious
        exact h₁.resumes_put (.recovering hp₃ hfails ⟨_, hprevious⟩) rfl hsame.edit

theorem resumeHealth_spec (hp : s.promotions.get? p.id = some p) (hstate : p.state = .applying)
    (value : WorkerDeployment) (answer : AdapterAnswer HealthObservation) :
    s.Resumes planDigest p release (.health value) (.health answer)
      (s.resumeHealth planDigest p release value answer) := by
  have h := Leaves.refl hp
  unfold resumeHealth
  obtain (⟨health, receipt⟩ | failure) | message := answer
  · simp only [invoke]
    split
    · rename_i hunbound
      refine recover_spec h hstate fun hverifies => ?_
      obtain ⟨htarget, hrelease, -⟩ := Answer.verifies_observed.mp hverifies
      exact hunbound.elim (absurd htarget) (absurd hrelease)
    split
    · rename_i hunhealthy
      exact recover_spec h hstate fun hverifies =>
        hunhealthy (Answer.verifies_observed.mp hverifies).2.2
    · rename_i hbound hhealthy
      rw [not_or, not_not, not_not] at hbound
      rw [not_not] at hhealthy
      have hallowed : .healthy ∈ allowedTransitions p.state := by rw [hstate]; decide
      unfold completeHealthy
      simp only []
      cases heq : WorkerPromotionCoordinator.transition _ _ .healthy _ _ with
      | mk outcome s₁ =>
        cases outcome with
        | error error => exact absurd hallowed ((h.setTarget _).refused heq).1
        | ok p₁ =>
          obtain ⟨-, hmoved, hp₁, h₁⟩ := (h.setTarget _).moved heq
          refine ⟨p₁, _, hmoved.trans, .completed hp₁ ?_, h₁⟩
          exact Answer.verifies_observed.mpr ⟨hbound.1, hbound.2, hhealthy⟩
  -- a failed or thrown call observes nothing
  · exact recover_spec h hstate fun ⟨_, hobserved, _⟩ => by cases hobserved
  · exact recover_spec h hstate fun ⟨_, hobserved, _⟩ => by cases hobserved

theorem resumeRollback_spec (hp : s.promotions.get? p.id = some p) (previous : ImmutableRelease)
    (answer : AdapterAnswer WorkerDeployment) :
    s.Resumes planDigest p release (.rollback previous) (.deployment answer)
      (s.resumeRollback p release previous answer) := by
  have h := Leaves.refl hp
  unfold resumeRollback
  cases hanswer : invoke "rollback" answer with
  | failed failure => exact h.resumes_put (.abandoned (.inl rfl) rfl)
  | succeeded value receipt =>
    simp only []
    split
    · exact h.resumes_put (.abandoned (.inl rfl) rfl)
    · rename_i hmatch
      rw [not_not, providerResultMatches_iff] at hmatch
      obtain (⟨value', receipt'⟩ | failure) | message := answer
      · cases hanswer
        exact h.resumes_put (.rolledBack rfl ⟨rfl, hmatch.1, hmatch.2⟩)
      · cases hanswer
      · cases hanswer

theorem resumeRollbackHealth_spec (hp : s.promotions.get? p.id = some p)
    (hstate : p.state = .degraded ∨ p.state = .proposed) (previous : ImmutableRelease)
    (value : WorkerDeployment) (answer : AdapterAnswer HealthObservation) :
    s.Resumes planDigest p release (.rollbackHealth previous value) (.health answer)
      (s.resumeRollbackHealth p release previous value answer) := by
  have h := Leaves.refl hp
  unfold resumeRollbackHealth
  cases hanswer : invoke "rollback-health" answer with
  | failed failure => exact h.resumes_put (.abandoned (.inr ⟨_, rfl⟩) rfl)
  | succeeded health receipt =>
    simp only []
    split
    · exact h.resumes_put (.abandoned (.inr ⟨_, rfl⟩) rfl)
    · rename_i hbound
      rw [not_or, not_or, not_not, not_not, not_not] at hbound
      obtain (⟨health', receipt'⟩ | failure) | message := answer
      · cases hanswer
        have hverifies : (Answer.health (.returned (.succeeded health receipt))).Verifies
            s.target.id previous.release.id :=
          ⟨health, rfl, hbound.1, hbound.2.1, hbound.2.2⟩
        split
        · rename_i heq
          obtain ⟨hrefused, h₁⟩ := (h.setTargetState .healthy).refused heq
          rcases hstate with hdegraded | hproposed
          · exact absurd (by rw [hdegraded]; decide) hrefused
          · refine ⟨_, _, ?_, .overtaken ?_ hproposed hverifies, h₁⟩
            · exact ⟨rfl, rfl, rfl, rfl, rfl, rfl⟩
            · rfl
        · rename_i heq
          obtain ⟨hnext, hmoved, hp₁, h₁⟩ := (h.setTargetState .healthy).moved heq
          rcases hstate with hdegraded | hproposed
          · exact ⟨_, _, hmoved.trans, .restored hp₁ hdegraded hverifies, h₁⟩
          · exact absurd hnext (by rw [hproposed]; decide)
      · cases hanswer
      · cases hanswer

end Answers

/-! ## Starting an execution -/

/-- What starting the execution of a proposed Promotion `p` does. -/
inductive Started (s : WorkerPromotionCoordinator) (p : PromotionRecord) :
    PromotionRecord → Execution → Prop
  | validating {p' release} (hrelease : s.releases.get? p.releaseId = some release)
      (hready : s.target.Ready) (hstate : p'.state = .validating) :
      Started s p p' (.waiting release .preview)
  /-- The failure to start is not a transition the table has, and throws. -/
  | stalled {p' error} (hunready : s.target.Ready → s.releases.get? p.releaseId = none)
      (hstate : p'.state = .proposed) : Started s p p' (.settled (.error error))

/-- A proposed Promotion cannot fail or be blocked: the attempt throws. -/
theorem fail_proposed (h : s.Leaves p s.target s) (hstate : p.state = .proposed)
    {state : PromotionState} (hrefused : state ∉ allowedTransitions .proposed)
    (hunready : s.target.Ready → s.releases.get? p.releaseId = none)
    {message recoveryAction receipt : String} :
    ∃ p', SameRequest p p' ∧
      s.Started p p' (settleWith (s.fail p state message recoveryAction receipt)).1 ∧
      s.Leaves p' s.target (settleWith (s.fail p state message recoveryAction receipt)).2 := by
  unfold fail
  simp only []
  cases heq : WorkerPromotionCoordinator.transition _ _ state _ _ with
  | mk outcome s₁ =>
    cases outcome with
    | error error =>
      obtain ⟨-, h₁⟩ := h.refused heq
      refine ⟨_, ?_, .stalled hunready ?_, h₁⟩
      · exact ⟨rfl, rfl, rfl, rfl, rfl, rfl⟩
      · exact hstate
    | ok p₁ => exact absurd (hstate ▸ (h.moved heq).1) hrefused

theorem execute_spec (hp : s.promotions.get? p.id = some p) (hstate : p.state = .proposed) :
    ∃ p', SameRequest p p' ∧ s.Started p p' (s.execute p.id).1 ∧
      s.Leaves p' s.target (s.execute p.id).2 := by
  have h := Leaves.refl hp
  unfold execute
  simp only [hp, hstate, ne_eq, not_true_eq_false, if_false]
  cases hrelease : s.releases.get? p.releaseId with
  | none => exact fail_proposed h hstate (by decide) fun _ => hrelease
  | some release =>
    cases hprofile : assertTargetCanPromote s.target.toTarget with
    | error error =>
      refine fail_proposed h hstate (by decide) fun hready => ?_
      obtain ⟨profile, hok⟩ := isOk_iff.mp hready.1
      rw [hprofile] at hok
      cases hok
    | ok profile =>
      simp only []
      split
      · rename_i hpreview
        exact fail_proposed h hstate (by decide) fun hready => absurd hready.2 hpreview
      · rename_i hpreview
        rw [not_not] at hpreview
        split
        · rename_i heq
          exact absurd (by rw [hstate]; decide) (h.refused heq).1
        · rename_i heq
          obtain ⟨-, hsame, hp₁, h₁⟩ := h.moved heq
          exact ⟨_, hsame, .validating hrelease ⟨isOk_iff.mpr ⟨profile, hprofile⟩, hpreview⟩ hp₁, h₁⟩

end WorkerPromotionCoordinator

end Anyam.Delivery
