import Mathlib.Logic.Function.Iterate
import Anyam.Delivery.PromotionSystem

/-!
# Every execution settles its Promotion

An execution moves its Promotion through the transition table and returns it
settled. That holds as long as an execution is started only on a Target that can be
promoted to, and no retry with a new key names a Promotion whose execution is still
registered.

- `SettlingInv`: what a state owes its executions and its Promotions under way.
- **`Effect.settling`**: one admitted operation keeps it.
- **`settles_of_run`**: it holds in every state of an admitted run, and there a
  registered execution has returned a settled record after six more steps of its
  own, whatever the adapter answers.
- `executions_throw`: without the two conditions the code attempts transitions its
  table does not have, and leaves Promotions proposed for good.
-/

namespace Anyam.Delivery

open Anyam.Lib Anyam.Kernel

/-- A state an execution may leave its Promotion in. -/
def PromotionState.Settled (state : PromotionState) : Prop :=
  state ∈ [.healthy, .failed, .blocked, .degraded, .rolledBack]

instance (state : PromotionState) : Decidable state.Settled := inferInstanceAs (Decidable (_ ∈ _))

theorem PromotionState.settled_iff {state : PromotionState} : state.Settled ↔ ¬ state.Unsettled := by
  cases state <;> decide

/-- The adapter answers every call it gets, in the kind of the call. -/
def Responds (adapter : Stage → Answer) : Prop :=
  ∀ stage : Stage, stage ≠ .recovered → stage.Awaits (adapter stage)

/-- How many steps of its own an execution at this stage takes at most. -/
def Stage.rank : Stage → Nat
  | .preview => 6
  | .deployment => 5
  | .health _ => 4
  | .rollback _ => 3
  | .rollbackHealth _ _ => 2
  | .recovered => 1

def Execution.rank : Execution → Nat
  | .waiting _ stage => stage.rank
  | .settled _ => 0

theorem Execution.rank_le (e : Execution) : e.rank ≤ 6 := by
  cases e with
  | waiting release stage => cases stage <;> simp [Execution.rank, Stage.rank]
  | settled outcome => exact Nat.zero_le 6

namespace WorkerPromotionCoordinator

variable {s s' s₁ : WorkerPromotionCoordinator} {planDigest : MigrationPlanBody → String}
  {op : PromotionOperation}

/-- One step of an execution's own: the adapter answers the call it waits for, or it
returns from its recovery. -/
def advance (planDigest : MigrationPlanBody → String) (adapter : Stage → Answer) (id : String)
    (s : WorkerPromotionCoordinator) : WorkerPromotionCoordinator :=
  match s.executions.get? id with
  | some (.waiting _ stage) =>
    if stage = .recovered then (s.finish id).2 else (s.resume planDigest id (adapter stage)).2
  | _ => s

/-! ## The condition -/

/-- The Target an operation starts an execution on is ready for it. -/
def StartsReady (s : WorkerPromotionCoordinator) : PromotionOperation → Prop
  | .promote .. | .retryPromotion .. | .rollbackToPrevious .. => s.target.Ready
  | _ => True

/-- A retry with a new key is accepted only for a Promotion without a registered
execution. -/
def RetriesSettled (s : WorkerPromotionCoordinator) : PromotionOperation → Prop
  | .retryPromotion input =>
    truthy (s.idempotency.get? input.idempotencyKey) = none →
      ∀ p ∈ s.promotions.get? input.promotionId, p.state ∈ retryableStates →
        s.executions.has input.promotionId = false
  | _ => True

/-- Promotions are requested by `promote`, `retryPromotion` and `rollbackToPrevious`,
and Releases are sealed. -/
def Sealed (planDigest : MigrationPlanBody → String) : PromotionOperation → Prop
  | .registerRelease release => PlanAccepted planDigest release.release
  | .requestPromotion .. => False
  | _ => True

/-- Executions start on a Target that can be promoted to, and retries wait for them. -/
structure Orderly (planDigest : MigrationPlanBody → String) (s : WorkerPromotionCoordinator)
    (op : PromotionOperation) : Prop where
  fresh : s.Fresh op
  calls : Sealed planDigest op
  ready : s.StartsReady op
  retries : s.RetriesSettled op

instance : Decidable (s.StartsReady op) := by
  unfold StartsReady
  cases op <;> infer_instance

instance : Decidable (s.RetriesSettled op) := by
  unfold RetriesSettled
  cases op <;> infer_instance

instance : Decidable (Sealed planDigest op) := by
  unfold Sealed
  cases op <;> infer_instance

instance : Decidable (Orderly planDigest s op) :=
  decidable_of_iff (s.Fresh op ∧ Sealed planDigest op ∧ s.StartsReady op ∧ s.RetriesSettled op)
    ⟨fun ⟨hfresh, hcalls, hready, hretries⟩ => ⟨hfresh, hcalls, hready, hretries⟩,
      fun h => ⟨h.fresh, h.calls, h.ready, h.retries⟩⟩

/-! ## The invariant -/

/-- What a Promotion and its execution owe each other: a settled execution returned a
settled record, a Promotion under way has an execution that waits, and a Promotion
whose execution waits was not proposed again. -/
structure Settles (p : Option PromotionRecord) (e : Option Execution) : Prop where
  returned : ∀ outcome, e = some (.settled outcome) → ∃ q, outcome = .ok q ∧ q.state.Settled
  running : ∀ q, p = some q → q.state.Unsettled → ∃ release stage, e = some (.waiting release stage)
  unretried : ∀ q release stage, p = some q → e = some (.waiting release stage) →
    q.state ≠ .proposed

/-- Every Promotion settles, and every registered Release was sealed. -/
structure SettlingInv (planDigest : MigrationPlanBody → String) (s : WorkerPromotionCoordinator) :
    Prop where
  settles : ∀ id, Settles (s.promotions.get? id) (s.executions.get? id)
  plans : ∀ id release, s.releases.get? id = some release → PlanAccepted planDigest release.release

theorem Settles.waiting {p : PromotionRecord} {release : ImmutableRelease} {stage : Stage}
    (hstate : p.state ≠ .proposed) : Settles (some p) (some (.waiting release stage)) where
  returned _ houtcome := Execution.noConfusion (Option.some.inj houtcome)
  running _ _ _ := ⟨release, stage, rfl⟩
  unretried _ _ _ hq _ := Option.some.inj hq ▸ hstate

theorem Settles.returns {p : PromotionRecord} (hstate : p.state.Settled) :
    Settles (some p) (some (.settled (.ok p))) where
  returned outcome houtcome := by
    cases houtcome
    exact ⟨p, rfl, hstate⟩
  running q hq hopen := by
    cases hq
    exact absurd hopen (PromotionState.settled_iff.mp hstate)
  unretried _ _ _ _ hwaiting := Execution.noConfusion (Option.some.inj hwaiting)

/-- Filing a record together with its execution. -/
theorem SettlingInv.files (hplans : ∀ id release, s.releases.get? id = some release →
      PlanAccepted planDigest release.release) {p' : PromotionRecord} {e : Execution}
    {target : WorkerTarget} (hfiles : s.Files p' e target s') (h : Settles (some p') (some e))
    (hothers : ∀ id, id ≠ p'.id → Settles (s.promotions.get? id) (s.executions.get? id)) :
    SettlingInv planDigest s' where
  settles id := by
    rw [hfiles.promotions, hfiles.executions]
    by_cases hid : id = p'.id
    · rw [if_pos hid, if_pos hid]
      exact h
    · rw [if_neg hid, if_neg hid]
      exact hothers id hid
  plans := hfiles.releases ▸ hplans

/-- An execution that starts on a ready Target waits for its preview. -/
theorem Starts.settling {p : PromotionRecord} (h : s.Starts p s') (hs : s.Sound)
    (hready : s.target.Ready)
    (hplans : ∀ id release, s.releases.get? id = some release → PlanAccepted planDigest release.release)
    (hothers : ∀ id, id ≠ p.id → Settles (s.promotions.get? id) (s.executions.get? id)) :
    SettlingInv planDigest s' := by
  obtain ⟨hp, -, -, hsame, hstarted, hfiles⟩ := h
  refine .files hplans hfiles ?_ (hsame.id ▸ hothers)
  cases hstarted with
  | validating _ _ hstate => exact .waiting (by simp [hstate])
  | stalled hunready _ =>
    obtain ⟨release, hrelease⟩ := hs.releaseOf _ p hp
    rw [hunready hready] at hrelease
    cases hrelease

/-- An edit of a record without a waiting execution, before one is started for it. -/
theorem SettlingInv.others (h : SettlingInv planDigest s) {p : PromotionRecord}
    {target : WorkerTarget} (hleaves : s.Leaves p target s') :
    ∀ id, id ≠ p.id → Settles (s'.promotions.get? id) (s'.executions.get? id) := by
  intro id hid
  rw [hleaves.promotions, if_neg hid, hleaves.executions]
  exact h.settles id

/-- An answer moves its execution on, or returns a settled record. -/
theorem Answered.settles {p p' : PromotionRecord} {release : ImmutableRelease} {stage : Stage}
    {answer : Answer} {e : Execution} {target : WorkerTarget}
    (h : Answered planDigest s p release stage answer p' e target) (hadmits : stage.Admits p.state)
    (hplan : PlanAccepted planDigest release.release) (hunretried : p.state ≠ .proposed) :
    Settles (some p') (some e) := by
  cases h with
  | approved hstate => exact .waiting (by simp [hstate])
  | refused _ hstate =>
    refine .returns ?_
    rcases hstate with h | h <;> rw [h] <;> decide
  | degraded hstate => exact .returns (hstate ▸ by decide)
  | deployed hstate => exact .waiting (hstate ▸ hunretried)
  | completed hstate => exact .returns (hstate ▸ by decide)
  | recovering hstate => exact .waiting (by simp [hstate])
  | unrecovered hstate => exact .waiting (by simp [hstate])
  | undecided _ _ herror =>
    -- the plan of a sealed Release is never malformed
    obtain ⟨decision, hdecision⟩ := exists_rollbackDecision hplan
    rw [hdecision] at herror
    cases herror
  | rolledBack hstate => exact .waiting (hstate ▸ hunretried)
  | abandoned _ hstate => exact .waiting (hstate ▸ hunretried)
  | restored hstate => exact .waiting (by simp [hstate])
  | overtaken _ hproposed => exact absurd hproposed hunretried

/-- An operation that may file a new Promotion starts it on a ready Target. -/
theorem Orderly.ready_of_drawn (h : Orderly planDigest s op) {uuid : String}
    (hdrawn : op.drawn = some uuid) : s.target.Ready := by
  cases op with
  | promote => exact h.ready
  | rollbackToPrevious => exact h.ready
  | requestPromotion => exact h.calls.elim
  | _ => cases hdrawn

/-- **One admitted operation keeps every Promotion settling.** -/
theorem Effect.settling (h : Effect planDigest s op s') (hs : s.Sound)
    (hok : Orderly planDigest s op) (hinv : SettlingInv planDigest s) : SettlingInv planDigest s' := by
  cases h with
  | unchanged => exact hinv
  | @registered release hnew =>
    refine ⟨hinv.settles, fun id known hknown => ?_⟩
    rw [OrderedMap.get?_set] at hknown
    split at hknown
    · exact Option.some.inj hknown ▸ hok.calls
    · exact hinv.plans id known hknown
  | requested => exact hok.calls.elim
  | promoted hdrawn hrequest hstart =>
    have hs₁ := hrequest.sound hs (hs.free_of_fresh hdrawn hok.fresh)
    exact hstart.settling hs₁ (hrequest.leaves.target ▸ hok.ready_of_drawn hdrawn)
      (hrequest.leaves.releases ▸ hinv.plans) (hinv.others hrequest.leaves)
  | taken _ hstart =>
    -- a proposed Promotion without an execution was never left behind
    obtain ⟨hp, hstate, hfree, -⟩ := hstart
    obtain ⟨release, stage, hwaiting⟩ := (hinv.settles _).running _ hp (.inl hstate)
    rw [hfree] at hwaiting
    cases hwaiting
  | retried hretry hstart =>
    exact hstart.settling (hretry.sound hs) (hretry.leaves.target ▸ hok.ready)
      (hretry.leaves.releases ▸ hinv.plans) (hinv.others hretry.leaves)
  | @retriedInFlight input p p' s' hretry hbusy =>
    obtain ⟨e, he⟩ := hbusy
    have hfree := hok.retries hretry.newKey p hretry.found hretry.retryable
    rw [OrderedMap.has_eq_false_iff, ← hs.filed hretry.found, he] at hfree
    cases hfree
  | @answered id answer p release stage p' e target s' hp hwaiting hsame hanswered hfiles =>
    obtain ⟨hrelease, hadmits⟩ := hs.waiting id p release stage hp hwaiting
    exact .files hinv.plans hfiles (hanswered.settles hadmits (hinv.plans _ _ hrelease)
      ((hinv.settles id).unretried p release stage hp hwaiting)) fun k _ => hinv.settles k
  | @finished id p release s' hp hwaiting hfiles =>
    refine .files hinv.plans hfiles (.returns ?_) fun k _ => hinv.settles k
    have hunretried := (hinv.settles id).unretried p release _ hp hwaiting
    rcases (hs.waiting id p release _ hp hwaiting).2 with h | h | h
    · exact h ▸ by decide
    · exact absurd h hunretried
    · exact h ▸ by decide
  | @cleaned id outcome hsettled =>
    refine ⟨fun k => ?_, hinv.plans⟩
    show Settles (s.promotions.get? k) ((s.executions.delete id).get? k)
    rw [OrderedMap.get?_delete]
    split
    · rename_i hk
      subst hk
      obtain ⟨returned, running, -⟩ := hinv.settles k
      refine ⟨by simp, fun q hq hopen => ?_, by simp⟩
      obtain ⟨release, stage, hwaiting⟩ := running q hq hopen
      rw [hsettled] at hwaiting
      cases hwaiting
    · exact hinv.settles k

/-! ## Executions return -/

/-- An answer takes its execution further. -/
theorem Answered.rank_lt {p p' : PromotionRecord} {release : ImmutableRelease} {stage : Stage}
    {answer : Answer} {e : Execution} {target : WorkerTarget}
    (h : Answered planDigest s p release stage answer p' e target) : e.rank < stage.rank := by
  cases h with
  | refused hstage => rcases hstage with rfl | rfl <;> simp [Execution.rank, Stage.rank]
  | abandoned hstage =>
    obtain rfl | ⟨value, rfl⟩ := hstage <;> simp [Execution.rank, Stage.rank]
  | _ => simp [Execution.rank, Stage.rank]

/-- An operation that calls nothing is admitted anywhere. -/
theorem orderly_answer (id : String) (answer : Answer) : Orderly planDigest s (.answer id answer) :=
  ⟨fun _ h => absurd h (by simp [PromotionOperation.drawn]), trivial, trivial, trivial⟩

theorem orderly_finish (id : String) : Orderly planDigest s (.finish id) :=
  ⟨fun _ h => absurd h (by simp [PromotionOperation.drawn]), trivial, trivial, trivial⟩

/-- One step of an execution's own is an operation of the run, and takes it further. -/
theorem advance_files (hs : s.Sound) {adapter : Stage → Answer} (hadapter : Responds adapter)
    {id : String} {release : ImmutableRelease} {stage : Stage}
    (hwaiting : s.executions.get? id = some (.waiting release stage)) :
    ∃ op p e target, Effect planDigest s op (advance planDigest adapter id s) ∧
      Orderly planDigest s op ∧ p.id = id ∧ s.Files p e target (advance planDigest adapter id s) ∧
      e.rank < stage.rank := by
  unfold advance
  rw [hwaiting]
  by_cases hrecovered : stage = .recovered
  · obtain ⟨p, hp⟩ := hs.promotionOf id _ hwaiting
    subst hrecovered
    have hfiles : s.Files p (.settled (.ok p)) s.target (s.finish id).2 := by
      unfold finish
      rw [hwaiting, hp]
      exact (Leaves.refl (hs.found hp)).files (hs.filed hp)
    simp only [if_true]
    exact ⟨_, p, _, _, .finished hp hwaiting hfiles, orderly_finish id, hs.filed hp, hfiles,
      Nat.zero_lt_one⟩
  · obtain ⟨p, p', e, target, hp, hsame, hanswered, hfiles⟩ :=
      resume_answered hs hwaiting (hadapter stage hrecovered)
    simp only [if_neg hrecovered]
    exact ⟨_, p', e, target, .answered hp hwaiting hsame hanswered hfiles, orderly_answer id _,
      hsame.id.trans (hs.filed hp), hfiles, hanswered.rank_lt⟩

/-- **An execution returns** after as many steps of its own as its stage is away from
the end. -/
theorem returns_within (hs : s.Sound) (hinv : SettlingInv planDigest s) {adapter : Stage → Answer}
    (hadapter : Responds adapter) {id : String} {e : Execution}
    (he : s.executions.get? id = some e) {n : Nat} (hn : e.rank ≤ n) :
    ∃ p, ((advance planDigest adapter id)^[n] s).executions.get? id = some (.settled (.ok p)) ∧
      p.state.Settled := by
  induction n generalizing s e with
  | zero =>
    cases e with
    | waiting release stage => cases stage <;> simp [Execution.rank, Stage.rank] at hn
    | settled outcome =>
      obtain ⟨p, rfl, hp⟩ := (hinv.settles id).returned outcome he
      exact ⟨p, he, hp⟩
  | succ n ih =>
    rw [Function.iterate_succ_apply]
    cases e with
    | waiting release stage =>
      obtain ⟨op, p, e', target, heffect, hok, rfl, hfiles, hrank⟩ := advance_files hs hadapter he
      refine ih (heffect.sound hs hok.fresh) (heffect.settling hs hok hinv) (e := e') ?_ ?_
      · rw [hfiles.executions, if_pos rfl]
      · exact Nat.le_of_lt_succ (Nat.lt_of_lt_of_le hrank hn)
    | settled outcome =>
      -- a settled execution is not taken further
      have hstays : advance planDigest adapter id s = s := by
        unfold advance
        rw [he]
      rw [hstays]
      exact ih hs hinv he (Nat.zero_le n)

/-! ## Along a run -/

/-- Every execution settles its Promotion, in a state of the transition table's end. -/
structure Settling (planDigest : MigrationPlanBody → String) (s : WorkerPromotionCoordinator) :
    Prop where
  /-- An execution that returned did not throw, and its record is settled. -/
  returned : ∀ id outcome, s.executions.get? id = some (.settled outcome) →
    ∃ p, outcome = .ok p ∧ p.state.Settled
  /-- No Promotion is left under way without an execution that works on it. -/
  underWay : ∀ id p, s.promotions.get? id = some p → p.state.Unsettled →
    ∃ release stage, s.executions.get? id = some (.waiting release stage)
  /-- An execution returns a settled record after six more steps of its own. -/
  returns : ∀ id e, s.executions.get? id = some e → ∀ adapter, Responds adapter →
    ∃ p, ((advance planDigest adapter id)^[6] s).executions.get? id = some (.settled (.ok p)) ∧
      p.state.Settled

theorem settlingInv_initial (projectId : String) (target : WorkerTarget) :
    SettlingInv planDigest (initial projectId target) where
  settles _ := ⟨by simp [initial], by simp [initial], by simp [initial]⟩
  plans := by simp [initial]

/-- **Every execution returns a settled record** in every run in which executions are
started on a Target that can be promoted to, and a Promotion is retried only when no
execution is registered for it. -/
theorem settles_of_run {projectId : String} {target : WorkerTarget} {tr : List PromotionTransition}
    (hrun : RunFrom planDigest projectId target (Orderly planDigest) tr s) :
    Settling planDigest s := by
  obtain ⟨hs, hinv⟩ := sound_invariant (fun _ s => SettlingInv planDigest s)
    (fun _ _ hok => hok.fresh) (settlingInv_initial projectId target)
    (fun _ _ _ hs hok hinv heffect => heffect.settling hs hok hinv) hrun
  refine ⟨fun id => (hinv.settles id).returned, fun id => (hinv.settles id).running, ?_⟩
  intro id e he adapter hadapter
  exact returns_within hs hinv hadapter he e.rank_le

end WorkerPromotionCoordinator

open WorkerPromotionCoordinator

namespace Sample

/-- Release `b` fails its health check after `a` was promoted, and is retried once
`a` is restored. -/
def retriedAfterRecovery : List PromotionOperation :=
  [register "a", register "b"] ++ promoted "a" "1" ++
    [promote "b" "2", previewed "2" "b", deployed "2" "b", observed "2" "b" .unhealthy,
     deployed "2" "a", observed "2" "a" .healthy, finish "2", cleanup "2", retry "2" "3"]

/-- The same, retried while the rollback to `a` is in flight. -/
def retriedDuringRecovery : List PromotionOperation :=
  [register "a", register "b"] ++ promoted "a" "1" ++
    [promote "b" "2", previewed "2" "b", deployed "2" "b", observed "2" "b" .unhealthy,
     retry "2" "3", deployed "2" "a", observed "2" "a" .healthy]

/-- A Target that declares no previews, and a promotion to it. -/
def promotedWithoutPreview : WorkerPromotionCoordinator :=
  (exec (step planDigest)
    (.initial "project" { target with capabilities := ⟨false, true, true, true⟩ })
    [register "a", promote "a" "1"]).2

/-- The execution threw. -/
def threwError : Option Execution → Bool
  | some (.settled (.error _)) => true
  | _ => false

end Sample

theorem settles_of_run_sample :
    Settling Sample.planDigest (Sample.ran Sample.retriedAfterRecovery).2 :=
  settles_of_run (run_exec (by decide +kernel))

/-- An execution that threw did not settle its Promotion. -/
theorem not_settling_of_threw {planDigest : MigrationPlanBody → String}
    {s : WorkerPromotionCoordinator} (id : String)
    (h : Sample.threwError (s.executions.get? id) = true) : ¬ Settling planDigest s := by
  intro hsettling
  unfold Sample.threwError at h
  split at h
  · rename_i error he
    obtain ⟨p, hp, -⟩ := hsettling.returned id _ he
    cases hp
  · cases h

/-- A retry during the automatic rollback makes its execution throw, and so does a
Target without previews; both leave the Promotion proposed. -/
theorem executions_throw :
    (Admits (step Sample.planDigest) (fun s op => s.Fresh op ∧ Sealed Sample.planDigest op)
        (.initial "project" Sample.target) Sample.retriedDuringRecovery ∧
      ¬ Settling Sample.planDigest (Sample.ran Sample.retriedDuringRecovery).2) ∧
    ¬ Settling Sample.planDigest Sample.promotedWithoutPreview ∧
    ∀ s ∈ [(Sample.ran Sample.retriedDuringRecovery).2.promotions.get? "promotion:2",
        Sample.promotedWithoutPreview.promotions.get? "promotion:1"],
      s.map PromotionRecord.state = some .proposed :=
  ⟨⟨by decide +kernel, not_settling_of_threw "promotion:2" (by decide +kernel)⟩,
    not_settling_of_threw "promotion:1" (by decide +kernel), by decide +kernel⟩

end Anyam.Delivery
