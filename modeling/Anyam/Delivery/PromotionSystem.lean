import Anyam.Delivery.PromotionSpec
import Anyam.Lib.Run

/-!
# The promotion coordinator as a system

Callers promote, retry and roll back while the adapter calls of any number of
executions are in flight, and the adapter answers them in any order, with anything,
or by throwing. `step` applies one operation: a call, an answer, or one of the two
continuations that follow a settled promise. A run is any sequence of operations.

- `Sound`: the invariant the methods rely on, between the executions and the
  Promotions they work on.
- **`step_effect`**: everything one operation can do in a sound state. Every
  property of the later modules is a case analysis on `Effect`.
- **`sound_of_run`**: every state of a run is sound.
-/

namespace Anyam.Delivery

open Anyam.Lib Anyam.Kernel

inductive PromotionOperation
  | registerRelease (release : ImmutableRelease)
  | requestPromotion (input : PromotionRequest) (uuid : String)
  | promote (input : PromotionRequest) (uuid : String)
  | retryPromotion (input : PromotionRetryRequest)
  | rollbackToPrevious (idempotencyKey : String) (actor : ActorRef) (uuid : String)
  /-- The adapter answers the call a Promotion's execution waits for. -/
  | answer (promotionId : String) (answer : Answer)
  /-- `execute` goes on after `recoverAfterHealthFailure` returned. -/
  | finish (promotionId : String)
  /-- `executeOnce` removes a settled execution. -/
  | cleanup (promotionId : String)
deriving Repr

/-- What an operation hands to its caller: a copy of a record, or the promise of a
registered execution. -/
inductive PromotionReply
  | registered
  | promotion (record : PromotionRecord)
  | execution (promotionId : String)
  | threw (error : DeliveryError)
  | idle
deriving Repr

/-- The identifier an operation draws for a new Promotion. -/
def PromotionOperation.drawn : PromotionOperation → Option String
  | .requestPromotion _ uuid | .promote _ uuid | .rollbackToPrevious _ _ uuid => some uuid
  | _ => none

namespace WorkerPromotionCoordinator

variable (s : WorkerPromotionCoordinator)

/-! ## One operation -/

/-- A call of `registerRelease`. -/
def register (release : ImmutableRelease) : PromotionReply × WorkerPromotionCoordinator :=
  match s.registerRelease release with
  | .error error => (.threw error, s)
  | .ok s => (.registered, s)

/-- A call of `requestPromotion`. -/
def request (input : PromotionRequest) (uuid : String) :
    PromotionReply × WorkerPromotionCoordinator :=
  match s.requestPromotion input uuid with
  | .error error => (.threw error, s)
  | .ok (promotion, s) => (.promotion promotion, s)

/-- `promote` after its request. -/
def startRequested (requested : PromotionRecord) : PromotionReply × WorkerPromotionCoordinator :=
  if s.executions.has requested.id then (.execution requested.id, s)
  else if requested.state ≠ .proposed then (.promotion requested, s)
  else (.execution requested.id, s.executeOnce requested.id)

def promote (input : PromotionRequest) (uuid : String) :
    PromotionReply × WorkerPromotionCoordinator :=
  match s.requestPromotion input uuid with
  | .error error => (.threw error, s)
  | .ok (requested, s) => s.startRequested requested

def retryPromotion (input : PromotionRetryRequest) :
    PromotionReply × WorkerPromotionCoordinator :=
  match s.retriedBefore input with
  | .error error => (.threw error, s)
  | .ok (some existing) =>
    if s.executions.has existing.id then (.execution existing.id, s) else (.promotion existing, s)
  | .ok none =>
    match s.retryablePromotion input with
    | .error error => (.threw error, s)
    | .ok promotion =>
      let promotion := s.retried promotion input.idempotencyKey
      let s := { s with idempotency := s.idempotency.set input.idempotencyKey promotion.id }
      match s.transition promotion .proposed promotion.receipt none with
      | (.error error, s) => (.threw error, s)
      | (.ok promotion, s) => (.execution promotion.id, s.executeOnce promotion.id)

def rollbackToPrevious (idempotencyKey : String) (actor : ActorRef) (uuid : String) :
    PromotionReply × WorkerPromotionCoordinator :=
  match s.rollbackRequest idempotencyKey actor with
  | .error error => (.threw error, s)
  | .ok input => s.promote input uuid

/-- Resume an execution with the answer of the call it waits for. -/
def resumeStage (planDigest : MigrationPlanBody → String) (promotion : PromotionRecord)
    (release : ImmutableRelease) : Stage → Answer → Option (Execution × WorkerPromotionCoordinator)
  | .preview, .preview answer => some (s.resumePreview promotion release answer)
  | .deployment, .deployment answer => some (s.resumeDeployment promotion release answer)
  | .health deployment, .health answer =>
    some (s.resumeHealth planDigest promotion release deployment answer)
  | .rollback previous, .deployment answer =>
    some (s.resumeRollback promotion release previous answer)
  | .rollbackHealth previous rollback, .health answer =>
    some (s.resumeRollbackHealth promotion release previous rollback answer)
  | _, _ => none

/-- File the next form of an execution. -/
def fileExecution (promotionId : String) (next : Execution × WorkerPromotionCoordinator) :
    WorkerPromotionCoordinator :=
  { next.2 with executions := next.2.executions.set promotionId next.1 }

def resume (planDigest : MigrationPlanBody → String) (promotionId : String) (answer : Answer) :
    PromotionReply × WorkerPromotionCoordinator :=
  match s.executions.get? promotionId, s.promotions.get? promotionId with
  | some (.waiting release stage), some promotion =>
    match s.resumeStage planDigest promotion release stage answer with
    | some next => (.execution promotionId, fileExecution promotionId next)
    | none => (.idle, s)
  | _, _ => (.idle, s)

def finish (promotionId : String) : PromotionReply × WorkerPromotionCoordinator :=
  match s.executions.get? promotionId, s.promotions.get? promotionId with
  | some (.waiting _ .recovered), some promotion =>
    (.promotion promotion, fileExecution promotionId (settleWith (.ok promotion, s)))
  | _, _ => (.idle, s)

def cleanup (promotionId : String) : PromotionReply × WorkerPromotionCoordinator :=
  match s.executions.get? promotionId with
  | some (.settled _) => (.idle, { s with executions := s.executions.delete promotionId })
  | _ => (.idle, s)

/-- Apply one operation. -/
def step (planDigest : MigrationPlanBody → String) :
    PromotionOperation → WorkerPromotionCoordinator → PromotionReply × WorkerPromotionCoordinator
  | .registerRelease release, s => s.register release
  | .requestPromotion input uuid, s => s.request input uuid
  | .promote input uuid, s => s.promote input uuid
  | .retryPromotion input, s => s.retryPromotion input
  | .rollbackToPrevious idempotencyKey actor uuid, s => s.rollbackToPrevious idempotencyKey actor uuid
  | .answer promotionId answer, s => s.resume planDigest promotionId answer
  | .finish promotionId, s => s.finish promotionId
  | .cleanup promotionId, s => s.cleanup promotionId

/-- The drawn identifier is not in use. -/
def Fresh (s : WorkerPromotionCoordinator) (op : PromotionOperation) : Prop :=
  ∀ uuid ∈ op.drawn, s.promotions.get? (opaqueId "promotion" uuid) = none

instance (op : PromotionOperation) : Decidable (s.Fresh op) :=
  inferInstanceAs (Decidable (∀ uuid ∈ op.drawn, _ = none))

/-! ## The invariant -/

end WorkerPromotionCoordinator

/-- The states a Promotion can be in while its execution waits at a stage. While the
automatic rollback is in flight a retry may propose the Promotion again. -/
def Stage.Admits : Stage → PromotionState → Prop
  | .preview, state => state = .validating
  | .deployment, state | .health _, state => state = .applying
  | .rollback _, state | .rollbackHealth _ _, state => state = .degraded ∨ state = .proposed
  | .recovered, state => state = .degraded ∨ state = .proposed ∨ state = .rolledBack

/-- The stage waits for an answer of this kind. -/
def Stage.Awaits : Stage → Answer → Prop
  | .preview, .preview _ | .deployment, .deployment _ | .health _, .health _
  | .rollback _, .deployment _ | .rollbackHealth _ _, .health _ => True
  | _, _ => False

/-- A retry of a Promotion whose execution still waits is admitted by its stage. -/
theorem Stage.admits_proposed {stage : Stage} {state : PromotionState} (h : stage.Admits state)
    (hretryable : state ∈ retryableStates) : stage.Admits .proposed := by
  cases stage with
  | preview => exact absurd hretryable (h ▸ by decide)
  | deployment => exact absurd hretryable (h ▸ by decide)
  | health => exact absurd hretryable (h ▸ by decide)
  | rollback => exact .inr rfl
  | rollbackHealth => exact .inr rfl
  | recovered => exact .inr (.inl rfl)

namespace WorkerPromotionCoordinator

variable {s s' s₁ : WorkerPromotionCoordinator} {planDigest : MigrationPlanBody → String}

/-- Records are filed under their ids, a Promotion's Release is registered, and a
waiting execution works on its Promotion's Release in a state its stage admits. -/
structure Sound (s : WorkerPromotionCoordinator) : Prop where
  promotionsKeyed : s.promotions.SelfKeyed PromotionRecord.id
  releasesKeyed : s.releases.SelfKeyed fun release => release.release.id
  releaseOf : ∀ id p, s.promotions.get? id = some p →
    ∃ release, s.releases.get? p.releaseId = some release
  promotionOf : ∀ id e, s.executions.get? id = some e → ∃ p, s.promotions.get? id = some p
  waiting : ∀ id p release stage, s.promotions.get? id = some p →
    s.executions.get? id = some (.waiting release stage) →
    s.releases.get? p.releaseId = some release ∧ stage.Admits p.state

theorem sound_initial (projectId : String) (target : WorkerTarget) :
    (initial projectId target).Sound where
  promotionsKeyed := OrderedMap.selfKeyed_empty _
  releasesKeyed := OrderedMap.selfKeyed_empty _
  releaseOf := by simp [initial]
  promotionOf := by simp [initial]
  waiting := by simp [initial]

/-! ## What one operation does -/

/-- `s'` is `s` with one Promotion record, its execution and the Target replaced. -/
structure Files (s : WorkerPromotionCoordinator) (p : PromotionRecord) (e : Execution)
    (target : WorkerTarget) (s' : WorkerPromotionCoordinator) : Prop where
  promotions : ∀ k, s'.promotions.get? k = if k = p.id then some p else s.promotions.get? k
  executions : ∀ k, s'.executions.get? k = if k = p.id then some e else s.executions.get? k
  target : s'.target = target
  projectId : s'.projectId = s.projectId
  releases : s'.releases = s.releases

/-- A new Promotion `p` was filed, expecting the present current Release. -/
structure Requested (s : WorkerPromotionCoordinator) (uuid : String) (p : PromotionRecord)
    (s' : WorkerPromotionCoordinator) : Prop where
  id : p.id = opaqueId "promotion" uuid
  state : p.state = .proposed
  expected : p.expectedCurrentReleaseId = s.target.currentReleaseId
  release : ∃ release, s.releases.get? p.releaseId = some release
  leaves : s.Leaves p s.target s'

/-- A settled Promotion `p` was proposed again as `p'`, against the present current
Release. -/
structure Retried (s : WorkerPromotionCoordinator) (input : PromotionRetryRequest)
    (p p' : PromotionRecord) (s' : WorkerPromotionCoordinator) : Prop where
  newKey : truthy (s.idempotency.get? input.idempotencyKey) = none
  found : s.promotions.get? input.promotionId = some p
  retryable : p.state ∈ retryableStates
  id : p'.id = p.id
  releaseId : p'.releaseId = p.releaseId
  state : p'.state = .proposed
  expected : p'.expectedCurrentReleaseId = s.target.currentReleaseId
  leaves : s.Leaves p' s.target s'

/-- The execution of the proposed Promotion `p` was started. -/
inductive Starts (s : WorkerPromotionCoordinator) (p : PromotionRecord)
    (s' : WorkerPromotionCoordinator) : Prop
  | intro {p' e} (hp : s.promotions.get? p.id = some p) (hstate : p.state = .proposed)
      (hfree : s.executions.get? p.id = none) (hsame : SameRequest p p')
      (hstarted : s.Started p p' e) (hfiles : s.Files p' e s.target s')

/-- Everything one operation can leave. -/
inductive Effect (planDigest : MigrationPlanBody → String) (s : WorkerPromotionCoordinator) :
    PromotionOperation → WorkerPromotionCoordinator → Prop
  | unchanged {op} : Effect planDigest s op s
  | registered {release} (hnew : s.releases.get? release.release.id = none) :
      Effect planDigest s (.registerRelease release)
        { s with releases := s.releases.set release.release.id release }
  /-- A request that starts nothing. -/
  | requested {input uuid p s'} (hrequest : s.Requested uuid p s') :
      Effect planDigest s (.requestPromotion input uuid) s'
  | promoted {op uuid p s₁ s'} (hdrawn : op.drawn = some uuid)
      (hrequest : s.Requested uuid p s₁) (hstart : s₁.Starts p s') : Effect planDigest s op s'
  /-- A Promotion proposed before is started now. -/
  | taken {op uuid p s'} (hdrawn : op.drawn = some uuid) (hstart : s.Starts p s') :
      Effect planDigest s op s'
  | retried {input p p' s₁ s'} (hretry : s.Retried input p p' s₁) (hstart : s₁.Starts p' s') :
      Effect planDigest s (.retryPromotion input) s'
  /-- The execution registered for the Promotion is kept. -/
  | retriedInFlight {input p p' s'} (hretry : s.Retried input p p' s')
      (hbusy : ∃ e, s.executions.get? p.id = some e) :
      Effect planDigest s (.retryPromotion input) s'
  | answered {id answer p release stage p' e target s'} (hp : s.promotions.get? id = some p)
      (hwaiting : s.executions.get? id = some (.waiting release stage))
      (hsame : SameRequest p p')
      (hanswered : Answered planDigest s p release stage answer p' e target)
      (hfiles : s.Files p' e target s') : Effect planDigest s (.answer id answer) s'
  | finished {id p release s'} (hp : s.promotions.get? id = some p)
      (hwaiting : s.executions.get? id = some (.waiting release .recovered))
      (hfiles : s.Files p (.settled (.ok p)) s.target s') : Effect planDigest s (.finish id) s'
  | cleaned {id outcome} (hsettled : s.executions.get? id = some (.settled outcome)) :
      Effect planDigest s (.cleanup id) { s with executions := s.executions.delete id }

theorem Leaves.files {p : PromotionRecord} {target : WorkerTarget} {e : Execution}
    (h : s.Leaves p target s₁) {id : String} (hid : p.id = id) :
    s.Files p e target (fileExecution id (e, s₁)) where
  promotions := h.promotions
  executions k := by
    show (s₁.executions.set id e).get? k = _
    rw [OrderedMap.get?_set, h.executions, hid]
  target := h.target
  projectId := h.projectId
  releases := h.releases

/-! ### Calls -/

theorem Sound.filed (hs : s.Sound) {id : String} {p : PromotionRecord}
    (hp : s.promotions.get? id = some p) : p.id = id :=
  hs.promotionsKeyed id p hp

/-- A record found under an id is the record under its own id. -/
theorem Sound.found (hs : s.Sound) {id : String} {p : PromotionRecord}
    (hp : s.promotions.get? id = some p) : s.promotions.get? p.id = some p := by
  rw [hs.filed hp, hp]

/-- A Release is filed once; its digest never changes. -/
theorem registerRelease_ok {release : ImmutableRelease} (h : s.registerRelease release = .ok s') :
    s' = s ∨ s.releases.get? release.release.id = none ∧
      s' = { s with releases := s.releases.set release.release.id release } := by
  simp only [registerRelease, bind_eq_ok, require_eq_ok, exists_unit] at h
  obtain ⟨-, h⟩ := h
  cases hcurrent : s.releases.get? release.release.id with
  | some current =>
    simp only [hcurrent, bind_eq_ok, require_eq_ok, exists_unit, pure_eq_ok] at h
    exact .inl h.2.symm
  | none =>
    simp only [hcurrent, pure_eq_ok] at h
    exact .inr ⟨rfl, h.symm⟩

theorem requestedBefore_ok {input : PromotionRequest} {p : PromotionRecord} (hs : s.Sound)
    (h : s.requestedBefore input = .ok (some p)) : s.promotions.get? p.id = some p := by
  unfold requestedBefore at h
  split at h
  · cases h
  · simp only [bind_eq_ok, orThrow_eq_ok, require_eq_ok, exists_unit, pure_eq_ok,
      Option.some.injEq] at h
    obtain ⟨existing, hp, -, rfl⟩ := h
    exact hs.found hp

theorem requestPromotion_ok {input : PromotionRequest} {uuid : String} {p : PromotionRecord}
    (hs : s.Sound) (h : s.requestPromotion input uuid = .ok (p, s')) :
    s' = s ∧ s.promotions.get? p.id = some p ∨ s.Requested uuid p s' := by
  unfold requestPromotion at h
  rw [bind_eq_ok] at h
  obtain ⟨existing, hbefore, h⟩ := h
  cases existing with
  | some existing =>
    cases h
    exact .inl ⟨rfl, requestedBefore_ok hs hbefore⟩
  | none =>
    simp only [bind_eq_ok, orThrow_eq_ok, require_eq_ok, exists_unit, pure_eq_ok,
      Prod.mk.injEq] at h
    obtain ⟨release, hrelease, hexpected, rfl, rfl⟩ := h
    refine .inr ⟨rfl, rfl, hexpected, ⟨release, hrelease⟩, ?_⟩
    exact ⟨fun k => s.promotions.get?_set _ k _, rfl, rfl, rfl, rfl⟩

theorem register_effect (release : ImmutableRelease) :
    Effect planDigest s (.registerRelease release) (s.register release).2 := by
  unfold register
  cases h : s.registerRelease release with
  | error error => exact .unchanged
  | ok s₁ =>
    rcases registerRelease_ok h with rfl | ⟨hnew, rfl⟩
    · exact .unchanged
    · exact .registered hnew

theorem request_effect (hs : s.Sound) (input : PromotionRequest) (uuid : String) :
    Effect planDigest s (.requestPromotion input uuid) (s.request input uuid).2 := by
  unfold request
  cases h : s.requestPromotion input uuid with
  | error error => exact .unchanged
  | ok requested =>
    obtain ⟨p, s₁⟩ := requested
    rcases requestPromotion_ok hs h with ⟨rfl, -⟩ | hrequest
    · exact .unchanged
    · exact .requested hrequest

theorem executeOnce_starts {p : PromotionRecord} (hp : s.promotions.get? p.id = some p)
    (hstate : p.state = .proposed) (hfree : s.executions.get? p.id = none) :
    s.Starts p (s.executeOnce p.id) := by
  obtain ⟨p', hsame, hstarted, hleaves⟩ := execute_spec hp hstate
  unfold executeOnce
  rw [if_neg (by simp [OrderedMap.has_eq_false_iff.mpr hfree])]
  exact .intro hp hstate hfree hsame hstarted (hleaves.files hsame.id)

/-- `promote` after its request starts a proposed Promotion that has no execution. -/
theorem startRequested_starts {p : PromotionRecord} (hp : s.promotions.get? p.id = some p)
    (hstate : p.state = .proposed) (hfree : s.executions.get? p.id = none) :
    s.Starts p (s.startRequested p).2 := by
  unfold startRequested
  rw [if_neg (by simp [OrderedMap.has_eq_false_iff.mpr hfree]), if_neg (by simp [hstate])]
  exact executeOnce_starts hp hstate hfree

/-- Otherwise it starts nothing. -/
theorem startRequested_cases {p : PromotionRecord} (hp : s.promotions.get? p.id = some p) :
    (s.startRequested p).2 = s ∨ s.Starts p (s.startRequested p).2 := by
  by_cases hbusy : s.executions.has p.id
  · exact .inl (by rw [startRequested, if_pos hbusy])
  · by_cases hstate : p.state = .proposed
    · rw [Bool.not_eq_true, OrderedMap.has_eq_false_iff] at hbusy
      exact .inr (startRequested_starts hp hstate hbusy)
    · exact .inl (by rw [startRequested, if_neg hbusy, if_pos hstate])

theorem Sound.free_of_fresh (hs : s.Sound) {op : PromotionOperation} {uuid : String}
    (hdrawn : op.drawn = some uuid) (hfresh : s.Fresh op) :
    s.executions.get? (opaqueId "promotion" uuid) = none := by
  rw [Option.eq_none_iff_forall_ne_some]
  intro e he
  obtain ⟨p, hp⟩ := hs.promotionOf _ e he
  rw [hfresh uuid hdrawn] at hp
  cases hp

theorem promote_effect (hs : s.Sound) (input : PromotionRequest) {uuid : String}
    {op : PromotionOperation} (hdrawn : op.drawn = some uuid)
    (hfresh : s.Fresh op) : Effect planDigest s op (s.promote input uuid).2 := by
  unfold promote
  cases h : s.requestPromotion input uuid with
  | error error => exact .unchanged
  | ok requested =>
    obtain ⟨p, s₁⟩ := requested
    rcases requestPromotion_ok hs h with ⟨rfl, hp⟩ | hrequest
    · rcases startRequested_cases hp with heq | hstart
      · simp only [heq]
        exact .unchanged
      · exact .taken hdrawn hstart
    · refine .promoted hdrawn hrequest (startRequested_starts ?_ hrequest.state ?_)
      · simp [hrequest.leaves.promotions]
      · rw [hrequest.leaves.executions, hrequest.id]
        exact hs.free_of_fresh hdrawn hfresh

theorem retriedBefore_none {input : PromotionRetryRequest}
    (h : s.retriedBefore input = .ok none) :
    truthy (s.idempotency.get? input.idempotencyKey) = none := by
  unfold retriedBefore at h
  split at h
  · assumption
  · obtain ⟨existing, -, hsome⟩ := bind_eq_ok.mp h
    cases hsome

theorem retryPromotion_effect (hs : s.Sound) (input : PromotionRetryRequest) :
    Effect planDigest s (.retryPromotion input) (s.retryPromotion input).2 := by
  unfold retryPromotion
  cases hbefore : s.retriedBefore input with
  | error error => exact .unchanged
  | ok before =>
    cases before with
    | some existing =>
      simp only []
      split <;> exact .unchanged
    | none =>
      cases h : s.retryablePromotion input with
      | error error => exact .unchanged
      | ok p =>
        unfold retryablePromotion at h
        simp only [bind_eq_ok, orThrow_eq_ok, require_eq_ok, exists_unit, pure_eq_ok] at h
        obtain ⟨found, hfound, hretryable, rfl⟩ := h
        have hfiled := (Leaves.refl (hs.found hfound)).setIdempotency
          (s.idempotency.set input.idempotencyKey found.id)
        simp only []
        split
        · rename_i heq
          exact absurd (proposed_of_retryable hretryable).2 (hfiled.refused heq).1
        · rename_i p' s₁ heq
          obtain ⟨-, hsame, hp', hleaves⟩ := hfiled.moved heq
          have hretry : s.Retried input found p' s₁ :=
            ⟨retriedBefore_none hbefore, hfound, hretryable, hsame.id, hsame.releaseId, hp', hsame.expected, hleaves⟩
          by_cases hbusy : s₁.executions.has p'.id
          · rw [executeOnce, if_pos hbusy]
            obtain ⟨e, he⟩ := Option.isSome_iff_exists.mp hbusy
            rw [hleaves.executions, hsame.id] at he
            exact .retriedInFlight hretry ⟨e, he⟩
          · rw [Bool.not_eq_true, OrderedMap.has_eq_false_iff] at hbusy
            have hfiled' : s₁.promotions.get? p'.id = some p' := by simp [hleaves.promotions]
            exact .retried hretry (executeOnce_starts hfiled' hp' hbusy)

theorem rollbackToPrevious_effect (hs : s.Sound) (idempotencyKey : String) (actor : ActorRef)
    (uuid : String) (hfresh : s.Fresh (.rollbackToPrevious idempotencyKey actor uuid)) :
    Effect planDigest s (.rollbackToPrevious idempotencyKey actor uuid)
      (s.rollbackToPrevious idempotencyKey actor uuid).2 := by
  unfold rollbackToPrevious
  cases s.rollbackRequest idempotencyKey actor with
  | error error => exact .unchanged
  | ok input => exact promote_effect hs input rfl hfresh

/-! ### Answers and continuations -/

theorem resumeStage_spec (hs : s.Sound) {id : String} {p : PromotionRecord}
    {release : ImmutableRelease} {stage : Stage} {answer : Answer}
    {next : Execution × WorkerPromotionCoordinator} (hp : s.promotions.get? id = some p)
    (hwaiting : s.executions.get? id = some (.waiting release stage))
    (h : s.resumeStage planDigest p release stage answer = some next) :
    s.Resumes planDigest p release stage answer next := by
  have hfound := hs.found hp
  obtain ⟨-, hstate⟩ := hs.waiting id p release stage hp hwaiting
  unfold resumeStage at h
  split at h
  · cases h
    exact resumePreview_spec hfound hstate _
  · cases h
    exact resumeDeployment_spec hfound hstate _
  · cases h
    exact resumeHealth_spec hfound hstate _ _
  · cases h
    exact resumeRollback_spec hfound _ _
  · cases h
    exact resumeRollbackHealth_spec hfound hstate _ _ _
  · cases h

theorem exists_resumed {p : PromotionRecord} {release : ImmutableRelease} {stage : Stage}
    {answer : Answer} (h : stage.Awaits answer) :
    ∃ next, s.resumeStage planDigest p release stage answer = some next := by
  cases stage <;> cases answer <;> first | exact h.elim | exact ⟨_, rfl⟩

/-- The answer an execution waits for resumes it. -/
theorem resume_answered (hs : s.Sound) {id : String} {release : ImmutableRelease} {stage : Stage}
    {answer : Answer} (hwaiting : s.executions.get? id = some (.waiting release stage))
    (hawaits : stage.Awaits answer) :
    ∃ p p' e target, s.promotions.get? id = some p ∧ SameRequest p p' ∧
      Answered planDigest s p release stage answer p' e target ∧
      s.Files p' e target (s.resume planDigest id answer).2 := by
  obtain ⟨p, hp⟩ := hs.promotionOf id _ hwaiting
  obtain ⟨next, hnext⟩ := exists_resumed hawaits
  obtain ⟨p', target, hsame, hanswered, hleaves⟩ := resumeStage_spec hs hp hwaiting hnext
  refine ⟨p, p', next.1, target, hp, hsame, hanswered, ?_⟩
  unfold resume
  simp only [hwaiting, hp, hnext]
  exact hleaves.files (hsame.id.trans (hs.filed hp))

theorem resume_effect (hs : s.Sound) (id : String) (answer : Answer) :
    Effect planDigest s (.answer id answer) (s.resume planDigest id answer).2 := by
  unfold resume
  split
  · rename_i release stage p hwaiting hp
    cases h : s.resumeStage planDigest p release stage answer with
    | none => exact .unchanged
    | some next =>
      obtain ⟨p', target, hsame, hanswered, hleaves⟩ := resumeStage_spec hs hp hwaiting h
      exact .answered hp hwaiting hsame hanswered (hleaves.files (hsame.id.trans (hs.filed hp)))
  · exact .unchanged

theorem finish_effect (hs : s.Sound) (id : String) :
    Effect planDigest s (.finish id) (s.finish id).2 := by
  unfold finish
  split
  · rename_i release p hwaiting hp
    exact .finished hp hwaiting ((Leaves.refl (hs.found hp)).files (hs.filed hp))
  · exact .unchanged

theorem cleanup_effect (id : String) : Effect planDigest s (.cleanup id) (s.cleanup id).2 := by
  unfold cleanup
  split
  · exact .cleaned ‹_›
  · exact .unchanged

/-- **What one operation does** in a sound state, with a fresh identifier. -/
theorem step_effect (hs : s.Sound) (op : PromotionOperation) (hfresh : s.Fresh op) :
    Effect planDigest s op (step planDigest op s).2 := by
  cases op with
  | registerRelease release => exact register_effect release
  | requestPromotion input uuid => exact request_effect hs input uuid
  | promote input uuid => exact promote_effect hs input rfl hfresh
  | retryPromotion input => exact retryPromotion_effect hs input
  | rollbackToPrevious idempotencyKey actor uuid =>
    exact rollbackToPrevious_effect hs idempotencyKey actor uuid hfresh
  | answer id answer => exact resume_effect hs id answer
  | finish id => exact finish_effect hs id
  | cleanup id => exact cleanup_effect id

/-! ## Soundness is kept -/

/-- An edit of one record keeps soundness when it keeps to the record's execution. -/
theorem Sound.leaves (hs : s.Sound) {p : PromotionRecord} {target : WorkerTarget}
    (hleaves : s.Leaves p target s')
    (hrelease : ∃ release, s.releases.get? p.releaseId = some release)
    (hwaiting : ∀ release stage, s.executions.get? p.id = some (.waiting release stage) →
      s.releases.get? p.releaseId = some release ∧ stage.Admits p.state) : s'.Sound where
  promotionsKeyed id p' hp' := by
    rw [hleaves.promotions] at hp'
    split at hp'
    · rename_i hid
      rw [← Option.some.inj hp', hid]
    · exact hs.promotionsKeyed id p' hp'
  releasesKeyed := hleaves.releases ▸ hs.releasesKeyed
  releaseOf id p' hp' := by
    rw [hleaves.releases]
    rw [hleaves.promotions] at hp'
    split at hp'
    · exact Option.some.inj hp' ▸ hrelease
    · exact hs.releaseOf id p' hp'
  promotionOf id e he := by
    rw [hleaves.executions] at he
    obtain ⟨p', hp'⟩ := hs.promotionOf id e he
    rw [hleaves.promotions]
    split
    · exact ⟨p, rfl⟩
    · exact ⟨p', hp'⟩
  waiting id p' release stage hp' he := by
    rw [hleaves.executions] at he
    rw [hleaves.releases]
    rw [hleaves.promotions] at hp'
    split at hp'
    · rename_i hid
      cases hp'
      exact hwaiting release stage (hid ▸ he)
    · exact hs.waiting id p' release stage hp' he

/-- A record and its execution are replaced together. -/
theorem Sound.files (hs : s.Sound) {p p' : PromotionRecord} {e : Execution} {target : WorkerTarget}
    (hfiles : s.Files p' e target s') (hp : s.promotions.get? p'.id = some p)
    (hrelease : p'.releaseId = p.releaseId)
    (hwaiting : ∀ release stage, e = .waiting release stage →
      s.releases.get? p'.releaseId = some release ∧ stage.Admits p'.state) : s'.Sound where
  promotionsKeyed id q hq := by
    rw [hfiles.promotions] at hq
    split at hq
    · rename_i hid
      rw [← Option.some.inj hq, hid]
    · exact hs.promotionsKeyed id q hq
  releasesKeyed := hfiles.releases ▸ hs.releasesKeyed
  releaseOf id q hq := by
    rw [hfiles.releases]
    rw [hfiles.promotions] at hq
    split at hq
    · cases hq
      exact hrelease ▸ hs.releaseOf _ p hp
    · exact hs.releaseOf id q hq
  promotionOf id e' he' := by
    rw [hfiles.promotions]
    rw [hfiles.executions] at he'
    split
    · exact ⟨p', rfl⟩
    · rename_i hid
      rw [if_neg hid] at he'
      exact hs.promotionOf id e' he'
  waiting id q release stage hq he' := by
    rw [hfiles.releases]
    rw [hfiles.promotions] at hq
    rw [hfiles.executions] at he'
    split at hq
    · rename_i hid
      cases hq
      rw [if_pos hid] at he'
      exact hwaiting release stage (Option.some.inj he')
    · rename_i hid
      rw [if_neg hid] at he'
      exact hs.waiting id q release stage hq he'

theorem Sound.register (hs : s.Sound) {release : ImmutableRelease}
    (hnew : s.releases.get? release.release.id = none) :
    Sound { s with releases := s.releases.set release.release.id release } := by
  have hkept : ∀ id known, s.releases.get? id = some known →
      (s.releases.set release.release.id release).get? id = some known := by
    intro id known hknown
    rw [OrderedMap.get?_set_ne, hknown]
    rintro rfl
    rw [hnew] at hknown
    cases hknown
  refine ⟨hs.promotionsKeyed, hs.releasesKeyed.set rfl, fun id p hp => ?_, hs.promotionOf,
    fun id p release' stage hp he => ?_⟩
  · obtain ⟨known, hknown⟩ := hs.releaseOf id p hp
    exact ⟨known, hkept _ _ hknown⟩
  · obtain ⟨hknown, hadmits⟩ := hs.waiting id p release' stage hp he
    exact ⟨hkept _ _ hknown, hadmits⟩

theorem Sound.cleanup (hs : s.Sound) (id : String) :
    Sound { s with executions := s.executions.delete id } := by
  have hkept : ∀ k e, (s.executions.delete id).get? k = some e → s.executions.get? k = some e := by
    intro k e he
    rw [OrderedMap.get?_delete] at he
    split at he
    · cases he
    · exact he
  exact ⟨hs.promotionsKeyed, hs.releasesKeyed, hs.releaseOf,
    fun k e he => hs.promotionOf k e (hkept k e he),
    fun k p release stage hp he => hs.waiting k p release stage hp (hkept k _ he)⟩

theorem Requested.sound {uuid : String} {p : PromotionRecord} (h : s.Requested uuid p s')
    (hs : s.Sound) (hfree : s.executions.get? (opaqueId "promotion" uuid) = none) : s'.Sound := by
  refine hs.leaves h.leaves h.release fun release stage he => ?_
  rw [h.id, hfree] at he
  cases he

theorem Retried.sound {input : PromotionRetryRequest} {p p' : PromotionRecord}
    (h : s.Retried input p p' s') (hs : s.Sound) : s'.Sound := by
  have hfound := hs.found h.found
  refine hs.leaves h.leaves (h.releaseId ▸ hs.releaseOf _ p hfound) fun release stage he => ?_
  rw [h.id] at he
  have hwaiting := hs.waiting _ p release stage hfound he
  rw [h.releaseId, h.state]
  exact ⟨hwaiting.1, Stage.admits_proposed hwaiting.2 h.retryable⟩

theorem Starts.sound {p : PromotionRecord} (h : s.Starts p s') (hs : s.Sound) : s'.Sound := by
  obtain ⟨hp, -, -, hsame, hstarted, hfiles⟩ := h
  refine hs.files hfiles (hsame.id.symm ▸ hp) hsame.releaseId fun release stage he => ?_
  cases hstarted with
  | validating hrelease _ hstate =>
    cases he
    rw [hsame.releaseId]
    exact ⟨hrelease, hstate⟩
  | stalled => cases he

/-- An answer leaves its execution at a stage that admits the Promotion's state. -/
theorem Answered.admits {p p' : PromotionRecord} {release release' : ImmutableRelease}
    {stage stage' : Stage} {answer : Answer} {target : WorkerTarget}
    (h : Answered planDigest s p release stage answer p' (.waiting release' stage') target)
    (hadmits : stage.Admits p.state) : release' = release ∧ stage'.Admits p'.state := by
  cases h with
  | approved hstate => exact ⟨rfl, hstate⟩
  | deployed hstate => exact ⟨rfl, hstate.trans hadmits⟩
  | recovering hstate => exact ⟨rfl, .inl hstate⟩
  | unrecovered hstate => exact ⟨rfl, .inl hstate⟩
  | rolledBack hstate => exact ⟨rfl, hstate ▸ hadmits⟩
  | abandoned hstage hstate =>
    refine ⟨rfl, hstate ▸ ?_⟩
    obtain rfl | ⟨value, rfl⟩ := hstage
    · exact hadmits.imp id .inl
    · exact hadmits.imp id .inl
  | restored hstate => exact ⟨rfl, .inr (.inr hstate)⟩

/-- A Promotion in a closed state other than `healthy`. -/
theorem closed_of_state {p p' : PromotionRecord} {state : PromotionState} (hstate : p'.state = state)
    (hhealthy : state ≠ .healthy := by decide) (hclosed : ¬ state.Unsettled := by decide) :
    p'.state ≠ .healthy ∧ (p'.state.Unsettled → p.state.Unsettled) := by
  rw [hstate]
  exact ⟨hhealthy, fun hunsettled => absurd hunsettled hclosed⟩

/-- An answer either leaves the pointer and its history alone, or completes the
Promotion whose health it verified. -/
theorem Answered.keeps_or_completes {p p' : PromotionRecord} {release : ImmutableRelease}
    {stage : Stage} {answer : Answer} {e : Execution} {target : WorkerTarget}
    (h : Answered planDigest s p release stage answer p' e target) (hadmits : stage.Admits p.state) :
    (target.currentReleaseId = s.target.currentReleaseId ∧
      target.releaseHistory = s.target.releaseHistory ∧ p'.state ≠ .healthy ∧
      (p'.state.Unsettled → p.state.Unsettled)) ∨
    (∃ value, stage = .health value ∧ answer.Verifies s.target.id release.release.id ∧
      p.state = .applying ∧ p'.state = .healthy ∧ target = s.target.movedTo release.release.id) := by
  cases h with
  | approved hstate =>
    have hp : p.state = .validating := hadmits
    exact .inl ⟨rfl, rfl, by simp [hstate], fun _ => hp ▸ by decide⟩
  | refused _ hstate =>
    rcases hstate with hfailed | hindeterminate
    · exact .inl ⟨rfl, rfl, closed_of_state hfailed⟩
    · exact .inl ⟨rfl, rfl, closed_of_state hindeterminate⟩
  | degraded hstate =>
    exact .inl ⟨rfl, rfl, closed_of_state hstate⟩
  | deployed hstate =>
    have hp : p.state = .applying := hadmits
    exact .inl ⟨rfl, rfl, by simp [hstate, hp], hstate ▸ id⟩
  | @completed answer p' value hstate hverifies =>
    exact .inr ⟨value, rfl, hverifies, hadmits, hstate, rfl⟩
  | recovering hstate =>
    exact .inl ⟨rfl, rfl, closed_of_state hstate⟩
  | unrecovered hstate =>
    exact .inl ⟨rfl, rfl, closed_of_state hstate⟩
  | undecided hstate =>
    exact .inl ⟨rfl, rfl, closed_of_state hstate⟩
  | rolledBack hstate =>
    have hp : p.state = .degraded ∨ p.state = .proposed := hadmits
    exact .inl ⟨rfl, rfl, by rcases hp with hp | hp <;> simp [hstate, hp], hstate ▸ id⟩
  | @abandoned stage answer p' previous hstage hstate =>
    have hp : p.state = .degraded ∨ p.state = .proposed := by
      obtain rfl | ⟨value, rfl⟩ := hstage
      · exact hadmits
      · exact hadmits
    exact .inl ⟨rfl, rfl, by rcases hp with hp | hp <;> simp [hstate, hp], hstate ▸ id⟩
  | restored hstate =>
    exact .inl ⟨rfl, rfl, closed_of_state hstate⟩
  | overtaken hstate hproposed =>
    exact .inl ⟨rfl, rfl, by simp [hstate, hproposed], hstate ▸ id⟩

theorem Starts.target {p : PromotionRecord} (h : s.Starts p s') : s'.target = s.target := by
  obtain ⟨-, -, -, -, -, hfiles⟩ := h
  exact hfiles.target

/-- An operation that answers no adapter call leaves the Target alone. -/
theorem Effect.target_or_answered {op : PromotionOperation} (h : Effect planDigest s op s') :
    s'.target = s.target ∨
      ∃ id answer p release stage p' e target, op = .answer id answer ∧
        s.promotions.get? id = some p ∧ s.executions.get? id = some (.waiting release stage) ∧
        Answered planDigest s p release stage answer p' e target ∧ SameRequest p p' ∧
        s.Files p' e target s' := by
  cases h with
  | unchanged => exact .inl rfl
  | registered => exact .inl rfl
  | requested hrequest => exact .inl hrequest.leaves.target
  | promoted _ hrequest hstart => exact .inl (hstart.target.trans hrequest.leaves.target)
  | taken _ hstart => exact .inl hstart.target
  | retried hretry hstart => exact .inl (hstart.target.trans hretry.leaves.target)
  | retriedInFlight hretry => exact .inl hretry.leaves.target
  | answered hp hwaiting hsame hanswered hfiles =>
    exact .inr ⟨_, _, _, _, _, _, _, _, rfl, hp, hwaiting, hanswered, hsame, hfiles⟩
  | finished _ _ hfiles => exact .inl hfiles.target
  | cleaned => exact .inl rfl

/-- **The pointer moves in one way**: an operation leaves it and its history alone,
or verifies the health of the Promotion it then completes. -/
theorem Effect.keeps_or_completes {op : PromotionOperation} (h : Effect planDigest s op s')
    (hs : s.Sound) :
    (s'.target.currentReleaseId = s.target.currentReleaseId ∧
      s'.target.releaseHistory = s.target.releaseHistory) ∨
    ∃ id answer release value, op = .answer id answer ∧
      s.executions.get? id = some (.waiting release (.health value)) ∧
      answer.Verifies s.target.id release.release.id ∧
      s'.target = s.target.movedTo release.release.id := by
  rcases h.target_or_answered with
    hsame | ⟨id, answer, p, release, stage, p', e, target, rfl, hp, hwaiting, hanswered, -, hfiles⟩
  · exact .inl ⟨congrArg _ hsame, congrArg _ hsame⟩
  · rcases hanswered.keeps_or_completes (hs.waiting id p release stage hp hwaiting).2 with
      ⟨hcurrent, hhistory, -⟩ | ⟨value, rfl, hverifies, -, -, rfl⟩
    · exact .inl ⟨hfiles.target ▸ hcurrent, hfiles.target ▸ hhistory⟩
    · exact .inr ⟨id, answer, release, value, rfl, hwaiting, hverifies, hfiles.target⟩

/-- An operation changes a Target in its pointer, its history and its state only. -/
theorem Effect.target_eq {op : PromotionOperation} (h : Effect planDigest s op s') :
    s'.target = { s.target with
      currentReleaseId := s'.target.currentReleaseId
      releaseHistory := s'.target.releaseHistory
      state := s'.target.state } := by
  rcases h.target_or_answered with
    hsame | ⟨id, answer, p, release, stage, p', e, target, rfl, -, -, hanswered, -, hfiles⟩
  · rw [hsame]
  · rw [hfiles.target]
    cases hanswered <;> rfl

/-- **One operation keeps soundness.** -/
theorem Effect.sound {op : PromotionOperation} (h : Effect planDigest s op s') (hs : s.Sound)
    (hfresh : s.Fresh op) : s'.Sound := by
  cases h with
  | unchanged => exact hs
  | registered hnew => exact hs.register hnew
  | requested hrequest => exact hrequest.sound hs (hs.free_of_fresh rfl hfresh)
  | promoted hdrawn hrequest hstart =>
    exact hstart.sound (hrequest.sound hs (hs.free_of_fresh hdrawn hfresh))
  | taken _ hstart => exact hstart.sound hs
  | retried hretry hstart => exact hstart.sound (hretry.sound hs)
  | retriedInFlight hretry _ => exact hretry.sound hs
  | @answered id answer p release stage p' e target s' hp hwaiting hsame hanswered hfiles =>
    obtain ⟨hrelease, hadmits⟩ := hs.waiting id p release stage hp hwaiting
    refine hs.files hfiles (hsame.id.symm ▸ hs.found hp) hsame.releaseId fun release' stage' he => ?_
    subst he
    obtain ⟨rfl, hadmits'⟩ := hanswered.admits hadmits
    rw [hsame.releaseId]
    exact ⟨hrelease, hadmits'⟩
  | finished hp _ hfiles =>
    exact hs.files hfiles (hs.found hp) rfl fun _ _ he => Execution.noConfusion he
  | cleaned => exact hs.cleanup _

/-! ## Runs -/

abbrev PromotionTransition :=
  Transition WorkerPromotionCoordinator PromotionOperation PromotionReply

/-- A run of a new coordinator whose operations each satisfied `ok`. -/
abbrev RunFrom (planDigest : MigrationPlanBody → String) (projectId : String)
    (target : WorkerTarget) (ok : WorkerPromotionCoordinator → PromotionOperation → Prop) :
    List PromotionTransition → WorkerPromotionCoordinator → Prop :=
  Run (step planDigest) ok (initial projectId target)

variable {projectId : String} {target : WorkerTarget}
  {ok : WorkerPromotionCoordinator → PromotionOperation → Prop} {tr : List PromotionTransition}

/-- **The run rule**: what holds at the start and every effect in a sound state keeps
holds along every run with fresh identifiers. -/
theorem sound_invariant (I : List PromotionTransition → WorkerPromotionCoordinator → Prop)
    (hfresh : ∀ s op, ok s op → s.Fresh op) (h0 : I [] (initial projectId target))
    (hstep : ∀ tr s op, s.Sound → ok s op → I tr s →
      Effect planDigest s op (step planDigest op s).2 →
      I (tr ++ [.of (step planDigest) s op]) (step planDigest op s).2)
    (hrun : RunFrom planDigest projectId target ok tr s) : s.Sound ∧ I tr s := by
  refine hrun.traceInvariant (fun tr s => s.Sound ∧ I tr s) ⟨sound_initial _ _, h0⟩ ?_
  rintro tr s op ⟨hs, hI⟩ hok
  have heffect : Effect planDigest s op (step planDigest op s).2 :=
    step_effect hs op (hfresh s op hok)
  exact ⟨heffect.sound hs (hfresh s op hok), hstep tr s op hs hok hI heffect⟩

/-- **Every state of a run is sound.** -/
theorem sound_of_run (hfresh : ∀ s op, ok s op → s.Fresh op)
    (hrun : RunFrom planDigest projectId target ok tr s) : s.Sound :=
  (sound_invariant (fun _ _ => True) hfresh trivial (fun _ _ _ _ _ _ _ => trivial) hrun).1

/-- A transition of a run was one effect in a sound state. -/
theorem effect_of_mem (hfresh : ∀ s op, ok s op → s.Fresh op)
    (hrun : RunFrom planDigest projectId target ok tr s) {t : PromotionTransition} (ht : t ∈ tr) :
    t.pre.Sound ∧ ok t.pre t.op ∧ Effect planDigest t.pre t.op t.post := by
  obtain ⟨tr₁, tr₂, rfl⟩ := List.append_of_mem ht
  obtain ⟨hbefore, heq, hok, -⟩ := hrun.split
  have hs := sound_of_run hfresh hbefore
  refine ⟨hs, hok, ?_⟩
  rw [heq]
  exact step_effect hs t.op (hfresh _ _ hok)

end WorkerPromotionCoordinator

/-! ## Concrete runs

A Worker Target with every capability and short-hands for calls and answers, for the
runs the theorems of the later modules are instantiated at. -/

namespace Sample

def actor : ActorRef := ⟨"principal", "actor", "session", "client"⟩

def planDigest : MigrationPlanBody → String := fun _ => "plan"

def profile : TargetDeploymentProfile where
  environment := .production
  channel := .stable
  audience := "customers"
  runtimeIdentity := "worker"
  routeIdentities := []
  bindingIdentities := []
  dataResourceIdentities := []
  configurationDigests := ["configuration"]
  secretUseAliases := []
  dataClass := .production
  resourceSharing := .isolated
  sharingPolicyDigest := none
  previewStrategy := .versionUrl
  profileDigest := "profile"

def target : WorkerTarget where
  id := "target"
  projectId := "project"
  name := "worker"
  adapterId := "adapter"
  acceptedArtifactTypes := ["worker"]
  requiredEvidenceKeys := []
  state := .configured
  deploymentProfile := some profile
  currentReleaseId := none
  releaseHistory := []
  capabilities := ⟨true, true, true, true⟩
  contractDigest := "contract"

/-- A sealed Release of one Artifact, with its id for its digest. -/
def sealedRelease (id : String) : ImmutableRelease where
  projectId := "project"
  release := {
    id
    projectRevisionId := "r0"
    artifactIds := ["artifact"]
    evidenceIds := []
    configurationDigests := ["configuration"]
    policyVersion := "policy"
    status := .ready
    migrationPlan := none }
  artifacts := [⟨"artifact", "worker", "bytes", "r0"⟩]
  evidence := []
  releaseDigest := id

def register (releaseId : String) : PromotionOperation := .registerRelease (sealedRelease releaseId)

/-- Promote a Release as `promotion:uuid`. -/
def promote (releaseId uuid : String) : PromotionOperation :=
  .promote { releaseId, idempotencyKey := uuid, actor } uuid

def retry (uuid key : String) : PromotionOperation :=
  .retryPromotion { promotionId := opaqueId "promotion" uuid, idempotencyKey := key, actor }

def previewed (uuid releaseId : String) : PromotionOperation :=
  .answer (opaqueId "promotion" uuid)
    (.preview (.returned (.succeeded ⟨"preview", releaseId, ["bytes"]⟩ "receipt")))

def deployed (uuid releaseId : String) : PromotionOperation :=
  .answer (opaqueId "promotion" uuid)
    (.deployment (.returned (.succeeded ⟨"deployment", releaseId, ["bytes"], none⟩ "receipt")))

def observed (uuid releaseId : String) (state : HealthState) : PromotionOperation :=
  .answer (opaqueId "promotion" uuid)
    (.health (.returned (.succeeded ⟨"target", releaseId, state, "receipt"⟩ "receipt")))

/-- The adapter call of a Promotion throws. -/
def threw (uuid : String) : PromotionOperation :=
  .answer (opaqueId "promotion" uuid) (.deployment (.threw "lost connection"))

def finish (uuid : String) : PromotionOperation := .finish (opaqueId "promotion" uuid)

def cleanup (uuid : String) : PromotionOperation := .cleanup (opaqueId "promotion" uuid)

/-- Promote a Release and see it healthy. -/
def promoted (releaseId uuid : String) : List PromotionOperation :=
  [promote releaseId uuid, previewed uuid releaseId, deployed uuid releaseId,
   observed uuid releaseId .healthy, cleanup uuid]

/-- The trace and final state of a list of operations on the sample Target. -/
def ran (ops : List PromotionOperation) :
    List WorkerPromotionCoordinator.PromotionTransition × WorkerPromotionCoordinator :=
  exec (WorkerPromotionCoordinator.step planDigest) (.initial "project" target) ops

end Sample

end Anyam.Delivery
