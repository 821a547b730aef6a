import Anyam.Delivery.PromotionSystem

/-!
# An unknown provider outcome degrades the Target

After an indeterminate, thrown or mismatching deployment answer the provider may
have changed state. `outcomeUnknown` watches a trace for such answers, and for the
healthy observations that settle them.

- **`Answered.degrades`**: one answer that leaves the outcome unknown leaves the
  Target degraded, apart from a lost rollback call.
- **`degraded_of_run`**: in a sequential run whose rollback calls are lost only while
  the Target is degraded, an unknown outcome means a degraded Target.
- `lost_rollback_stays_healthy`: the code does not wait for that.
-/

namespace Anyam.Delivery

open Anyam.Lib Anyam.Kernel

/-- The Release the adapter call of a stage deploys. -/
def Stage.deploying (release : ImmutableRelease) : Stage → Option ImmutableRelease
  | .deployment => some release
  | .rollback previous => some previous
  | _ => none

/-- The Release the adapter call of a stage checks. -/
def Stage.checking (release : ImmutableRelease) : Stage → Option ImmutableRelease
  | .health _ => some release
  | .rollbackHealth previous _ => some previous
  | _ => none

/-- A call of the coordinator, not an answer or a continuation. -/
def PromotionOperation.IsCall : PromotionOperation → Bool
  | .answer .. | .finish .. | .cleanup .. => false
  | _ => true

/-- The Promotion and the answer an operation resumes it with. -/
def PromotionOperation.answered : PromotionOperation → Option (String × Answer)
  | .answer promotionId given => some (promotionId, given)
  | _ => none

namespace WorkerPromotionCoordinator

variable {s s' : WorkerPromotionCoordinator} {planDigest : MigrationPlanBody → String}
  {op : PromotionOperation} {tr tr' : List PromotionTransition}

/-- The stage the execution of a Promotion waits at, with its Release. -/
def waitingAt (s : WorkerPromotionCoordinator) (id : String) : Option (ImmutableRelease × Stage) :=
  match s.executions.get? id with
  | some (.waiting release stage) => some (release, stage)
  | _ => none

/-- An apply or rollback call is answered, and its outcome stays unknown. -/
def LosesTrack (s : WorkerPromotionCoordinator) (op : PromotionOperation) : Prop :=
  ∃ a ∈ op.answered, ∃ w ∈ s.waitingAt a.1, ∃ r ∈ w.2.deploying w.1, a.2.LeavesUnknown r

/-- A health check is answered with a healthy observation of its Release. -/
def Verifies (s : WorkerPromotionCoordinator) (op : PromotionOperation) : Prop :=
  ∃ a ∈ op.answered, ∃ w ∈ s.waitingAt a.1, ∃ r ∈ w.2.checking w.1,
    a.2.Verifies s.target.id r.release.id

/-- The call a rollback Promotion is deployed with is indeterminate, or throws. -/
def LosesRollback (s : WorkerPromotionCoordinator) (op : PromotionOperation) : Prop :=
  ∃ a ∈ op.answered, a.2.deployed = none ∧
    (∃ p ∈ s.promotions.get? a.1, p.kind = .rollback) ∧
    ∃ w ∈ s.waitingAt a.1, w.2 = .deployment ∧ a.2.LeavesUnknown w.1

instance : Decidable (s.LosesTrack op) := inferInstanceAs (Decidable (∃ a ∈ op.answered, _))

instance : Decidable (s.Verifies op) := inferInstanceAs (Decidable (∃ a ∈ op.answered, _))

instance : Decidable (s.LosesRollback op) := inferInstanceAs (Decidable (∃ a ∈ op.answered, _))

/-- The outcome of some deployment is unknown after the trace: no promotion or
rollback was verified since. -/
def outcomeUnknown (tr : List PromotionTransition) : Bool :=
  tr.foldl (fun unknown t => t.pre.LosesTrack t.op ∨ unknown ∧ ¬ t.pre.Verifies t.op) false

/-- Calls are made one at a time: none while an execution is in flight. -/
def Sequential (s : WorkerPromotionCoordinator) (op : PromotionOperation) : Prop :=
  op.IsCall → ∀ id ∈ s.executions.keys, s.waitingAt id = none

/-- Operations are sequential, and the rollback call of a rollback Promotion is lost
only while the Target is degraded. -/
def LostDegraded (s : WorkerPromotionCoordinator) (op : PromotionOperation) : Prop :=
  s.Fresh op ∧ s.Sequential op ∧ (s.LosesRollback op → s.target.state = .degraded)

instance : Decidable (s.Sequential op) := inferInstanceAs (Decidable (_ → _))

instance : Decidable (s.LostDegraded op) := inferInstanceAs (Decidable (_ ∧ _ ∧ (_ → _)))

theorem waitingAt_eq_some {id : String} {release : ImmutableRelease} {stage : Stage} :
    s.waitingAt id = some (release, stage) ↔
      s.executions.get? id = some (.waiting release stage) := by
  unfold waitingAt
  split
  · rename_i release' stage' he
    simp [he]
  · rename_i hother
    constructor
    · exact nofun
    · exact fun he => absurd he (hother release stage)

/-- Sequential calls are made while no execution waits. -/
theorem Sequential.none_waiting (h : s.Sequential op) (hcall : op.IsCall) (id : String) :
    s.waitingAt id = none := by
  rw [Option.eq_none_iff_forall_ne_some]
  rintro ⟨release, stage⟩ hw
  have hkey := OrderedMap.mem_keys_of_get? (waitingAt_eq_some.mp hw)
  rw [h hcall id hkey] at hw
  cases hw

theorem outcomeUnknown_append (t : PromotionTransition) :
    outcomeUnknown (tr ++ [t]) = true ↔
      t.pre.LosesTrack t.op ∨ outcomeUnknown tr = true ∧ ¬ t.pre.Verifies t.op := by
  unfold outcomeUnknown
  rw [List.foldl_append]
  simp

/-! ## What an answer does to the Target's state -/

section Answers

variable {p p' : PromotionRecord} {release : ImmutableRelease} {stage : Stage} {answer : Answer}
  {e : Execution} {target : WorkerTarget}

/-- **An answer that leaves the outcome unknown leaves the Target degraded**: the
rollback of a recovery finds it so, and a lost rollback call does by assumption. -/
theorem Answered.degrades (h : Answered planDigest s p release stage answer p' e target)
    {r : ImmutableRelease} (hr : stage.deploying release = some r)
    (hunknown : answer.LeavesUnknown r)
    (hrecovery : ∀ previous, stage = .rollback previous → s.target.state = .degraded)
    (hlost : stage = .deployment → p.kind = .rollback → answer.deployed = none →
      s.target.state = .degraded) : target.state = .degraded := by
  cases h with
  | approved => cases hr
  | refused hstage _ hrefused =>
    rcases hstage with rfl | rfl
    · cases hr
    · cases hr
      obtain ⟨hkind, hdeployed⟩ := hrefused hunknown
      exact hlost rfl hkind hdeployed
  | degraded => rfl
  | deployed _ hdeploys =>
    cases hr
    exact absurd hunknown (Answer.Deploys.known hdeploys)
  | rolledBack _ hdeploys =>
    cases hr
    exact absurd hunknown (Answer.Deploys.known hdeploys)
  | @abandoned stage answer p' previous hstage =>
    obtain rfl | ⟨value, rfl⟩ := hstage
    · exact hrecovery previous rfl
    · cases hr
  | _ => cases hr

/-- The Target stops being degraded only when a health check is verified. -/
theorem Answered.stays_degraded (h : Answered planDigest s p release stage answer p' e target)
    (hstate : s.target.state = .degraded)
    (hunverified : ¬ ∃ r ∈ stage.checking release, answer.Verifies s.target.id r.release.id) :
    target.state = .degraded := by
  cases h with
  | completed _ hverifies => exact absurd ⟨release, rfl, hverifies⟩ hunverified
  | @restored answer p' previous value _ _ hverifies =>
    exact absurd ⟨previous, rfl, hverifies⟩ hunverified
  | @overtaken answer p' previous value error _ _ hverifies =>
    exact absurd ⟨previous, rfl, hverifies⟩ hunverified
  | _ => first | exact hstate | rfl

/-- A recovery rolls back on a degraded Target. -/
theorem Answered.recovery_degrades {previous r : ImmutableRelease}
    (h : Answered planDigest s p release stage answer p' (.waiting r (.rollback previous)) target) :
    target.state = .degraded := by
  cases h
  rfl

end Answers

/-! ## Along a sequential run -/

/-- What a sequential run keeps: one execution waits at a time, its recovery rolls
back on a degraded Target, and so does an unknown outcome leave it. -/
structure HealthInv (tr : List PromotionTransition) (s : WorkerPromotionCoordinator) : Prop where
  single : ∀ id id' w w', s.waitingAt id = some w → s.waitingAt id' = some w' → id = id'
  recovery : ∀ id release previous, s.waitingAt id = some (release, .rollback previous) →
    s.target.state = .degraded
  degraded : outcomeUnknown tr = true → s.target.state = .degraded

theorem healthInv_initial (projectId : String) (target : WorkerTarget) :
    HealthInv [] (initial projectId target) where
  single := by simp [waitingAt, initial]
  recovery := by simp [waitingAt, initial]
  degraded := nofun

/-- Executions that waited before, and at most one that starts while none waits. -/
structure Quiet (s s' : WorkerPromotionCoordinator) : Prop where
  target : s'.target = s.target
  waiting : (∀ id w, s'.waitingAt id = some w → s.waitingAt id = some w) ∨
    (∀ id, s.waitingAt id = none) ∧
      ∃ k, ∀ id w, s'.waitingAt id = some w → id = k ∧ w.2 = .preview

theorem Starts.quiet_waiting {p : PromotionRecord} (h : s.Starts p s')
    (hnone : ∀ id, s.waitingAt id = none) {id : String} {w : ImmutableRelease × Stage}
    (hw : s'.waitingAt id = some w) : id = p.id ∧ w.2 = .preview := by
  obtain ⟨-, -, -, hsame, hstarted, hfiles⟩ := h
  obtain ⟨release, stage⟩ := w
  rw [waitingAt_eq_some, hfiles.executions] at hw
  split at hw
  · rename_i hid
    refine ⟨hid.trans hsame.id, ?_⟩
    cases Option.some.inj hw
    cases hstarted
    rfl
  · rw [← waitingAt_eq_some, hnone id] at hw
    cases hw

theorem waitingAt_congr {id : String} (h : s'.executions.get? id = s.executions.get? id) :
    s'.waitingAt id = s.waitingAt id := by
  unfold waitingAt
  rw [h]

theorem Quiet.of_executions (htarget : s'.target = s.target)
    (hexecutions : s'.executions = s.executions) : s.Quiet s' where
  target := htarget
  waiting := .inl fun id w hw => by
    rwa [waitingAt_congr (congrArg (·.get? id) hexecutions)] at hw

/-- One execution settles, or is removed; the others stay. -/
theorem Quiet.of_closed (k : String) (htarget : s'.target = s.target)
    (hothers : ∀ id ≠ k, s'.executions.get? id = s.executions.get? id)
    (hclosed : s'.waitingAt k = none) : s.Quiet s' where
  target := htarget
  waiting := .inl fun id w hw => by
    by_cases hid : id = k
    · rw [hid, hclosed] at hw
      cases hw
    · rwa [waitingAt_congr (hothers id hid)] at hw

/-- An execution starts while none waits, perhaps after its Promotion was filed. -/
theorem Quiet.of_starts {s₁ : WorkerPromotionCoordinator} {p : PromotionRecord}
    (hnone : ∀ id, s.waitingAt id = none) (htarget : s₁.target = s.target)
    (hexecutions : s₁.executions = s.executions) (hstart : s₁.Starts p s') : s.Quiet s' where
  target := hstart.target.trans htarget
  waiting := by
    refine .inr ⟨hnone, p.id, fun id w hw => hstart.quiet_waiting (fun id => ?_) hw⟩
    rw [waitingAt_congr (congrArg (·.get? id) hexecutions), hnone id]

theorem isCall_of_drawn {uuid : String} (h : op.drawn = some uuid) : op.IsCall = true := by
  cases op <;> first | rfl | cases h

/-- **What a sequential operation does**: it is quiet, or answers the one execution. -/
theorem Effect.quiet_or_answered (h : Effect planDigest s op s') (hseq : s.Sequential op) :
    s.Quiet s' ∨
      ∃ id answer p release stage p' e target, op = .answer id answer ∧
        s.promotions.get? id = some p ∧ s.executions.get? id = some (.waiting release stage) ∧
        Answered planDigest s p release stage answer p' e target ∧ SameRequest p p' ∧
        s.Files p' e target s' := by
  cases h with
  | unchanged => exact .inl (.of_executions rfl rfl)
  | registered => exact .inl (.of_executions rfl rfl)
  | requested hrequest =>
    exact .inl (.of_executions hrequest.leaves.target hrequest.leaves.executions)
  | promoted hdrawn hrequest hstart =>
    exact .inl (.of_starts (hseq.none_waiting (isCall_of_drawn hdrawn)) hrequest.leaves.target
      hrequest.leaves.executions hstart)
  | taken hdrawn hstart =>
    exact .inl (.of_starts (hseq.none_waiting (isCall_of_drawn hdrawn)) rfl rfl hstart)
  | retried hretry hstart =>
    exact .inl (.of_starts (hseq.none_waiting rfl) hretry.leaves.target
      hretry.leaves.executions hstart)
  | retriedInFlight hretry =>
    exact .inl (.of_executions hretry.leaves.target hretry.leaves.executions)
  | answered hp hwaiting hsame hanswered hfiles =>
    exact .inr ⟨_, _, _, _, _, _, _, _, rfl, hp, hwaiting, hanswered, hsame, hfiles⟩
  | @finished id p release s' hp hwaiting hfiles =>
    refine .inl (.of_closed p.id hfiles.target (fun k hk => ?_) ?_)
    · rw [hfiles.executions, if_neg hk]
    · unfold waitingAt
      rw [hfiles.executions, if_pos rfl]
  | @cleaned id outcome hsettled =>
    refine .inl (.of_closed id rfl (fun k hk => ?_) ?_)
    · rw [OrderedMap.get?_delete, if_neg hk]
    · unfold waitingAt
      rw [OrderedMap.get?_delete, if_pos rfl]

/-! ### The step -/

/-- An answer that leaves the outcome unknown was waited for. -/
theorem awaits_of_unknown {stage : Stage} {release r : ImmutableRelease} {answer : Answer}
    (hr : stage.deploying release = some r) (hunknown : answer.LeavesUnknown r) :
    stage.Awaits answer := by
  cases answer with
  | deployment answer => cases stage <;> trivial
  | _ => exact hunknown.elim

/-- A quiet operation settles no outcome, and leaves none open. -/
theorem HealthInv.quiet (h : HealthInv tr s) (hq : s.Quiet s')
    (hunknown : outcomeUnknown tr' = true → outcomeUnknown tr = true) : HealthInv tr' s' := by
  obtain ⟨htarget, hkept | ⟨hnone, k, hstarted⟩⟩ := hq
  · refine ⟨fun id id' w w' hw hw' => ?_, fun id release previous hw => ?_, fun hopen => ?_⟩
    · exact h.single id id' w w' (hkept id w hw) (hkept id' w' hw')
    · exact htarget ▸ h.recovery id release previous (hkept id _ hw)
    · exact htarget ▸ h.degraded (hunknown hopen)
  · refine ⟨fun id id' w w' hw hw' => ?_, fun id release previous hw => ?_, fun hopen => ?_⟩
    · exact (hstarted id w hw).1.trans (hstarted id' w' hw').1.symm
    · exact absurd (hstarted id _ hw).2 (by simp)
    · exact htarget ▸ h.degraded (hunknown hopen)

/-- An answer moves the one execution that waits. -/
theorem HealthInv.answered (h : HealthInv tr s) (hs : s.Sound) {id : String}
    {p p' : PromotionRecord} {release : ImmutableRelease} {stage : Stage} {answer : Answer}
    {e : Execution} {target : WorkerTarget} (hp : s.promotions.get? id = some p)
    (hwaiting : s.executions.get? id = some (.waiting release stage)) (hsame : SameRequest p p')
    (hanswered : Answered planDigest s p release stage answer p' e target)
    (hfiles : s.Files p' e target s')
    (hdegraded : outcomeUnknown tr' = true → target.state = .degraded) : HealthInv tr' s' := by
  have hid : p'.id = id := hsame.id.trans (hs.filed hp)
  have honly : ∀ k w, s'.waitingAt k = some w → k = id := by
    intro k w hw
    by_contra hk
    rw [waitingAt_congr (s := s) (by rw [hfiles.executions, if_neg (hid ▸ hk)])] at hw
    exact hk (h.single k id w _ hw (waitingAt_eq_some.mpr hwaiting))
  refine ⟨fun k k' w w' hw hw' => ?_, fun k r previous hw => ?_, ?_⟩
  · exact (honly k w hw).trans (honly k' w' hw').symm
  · have hk := (honly k _ hw).trans hid.symm
    rw [waitingAt_eq_some, hfiles.executions, if_pos hk] at hw
    rw [hfiles.target]
    exact (Option.some.inj hw ▸ hanswered).recovery_degrades
  · exact fun hopen => hfiles.target ▸ hdegraded hopen

theorem HealthInv.step (h : HealthInv tr s) (hs : s.Sound) (hok : s.LostDegraded op)
    (heffect : Effect planDigest s op (step planDigest op s).2) :
    HealthInv (tr ++ [.of (WorkerPromotionCoordinator.step planDigest) s op])
      (step planDigest op s).2 := by
  obtain ⟨-, hseq, hlost⟩ := hok
  by_cases htrack : s.LosesTrack op
  · obtain ⟨⟨id, answer⟩, hop, ⟨release, stage⟩, hw, r, hr, hunknown⟩ := htrack
    cases op with
    | answer =>
      cases hop
      have hwaiting := waitingAt_eq_some.mp hw
      obtain ⟨p, p', e, target, hp, hsame, hanswered, hfiles⟩ :=
        resume_answered hs hwaiting (awaits_of_unknown hr hunknown)
      refine h.answered hs hp hwaiting hsame hanswered hfiles fun _ => ?_
      refine hanswered.degrades hr hunknown (fun previous hstage => ?_) fun hstage hkind hdeployed => ?_
      · exact h.recovery id release previous (hstage ▸ hw)
      · subst hstage
        cases hr
        exact hlost ⟨_, rfl, hdeployed, ⟨p, hp, hkind⟩, _, hw, rfl, hunknown⟩
    | _ => cases hop
  · -- nothing is lost, so what is unknown was so before
    have hunknown : outcomeUnknown (tr ++ [.of (WorkerPromotionCoordinator.step planDigest) s op]) =
        true → outcomeUnknown tr = true ∧ ¬ s.Verifies op := by
      rw [outcomeUnknown_append]
      rintro (hnow | hbefore)
      · exact absurd hnow htrack
      · exact hbefore
    rcases heffect.quiet_or_answered hseq with
      hquiet | ⟨id, answer, p, release, stage, p', e, target, rfl, hp, hwaiting, hanswered, hsame, hfiles⟩
    · exact h.quiet hquiet fun hopen => (hunknown hopen).1
    · refine h.answered hs hp hwaiting hsame hanswered hfiles fun hopen => ?_
      obtain ⟨hbefore, hunverified⟩ := hunknown hopen
      refine hanswered.stays_degraded (h.degraded hbefore) fun ⟨r, hr, hverifies⟩ => hunverified ?_
      exact ⟨(id, answer), rfl, _, waitingAt_eq_some.mpr hwaiting, r, hr, hverifies⟩

/-- **An unknown outcome degrades the Target** in every sequential run whose rollback
Promotions lose their rollback call only while the Target is degraded. -/
theorem degraded_of_run {projectId : String} {target : WorkerTarget}
    (hrun : RunFrom planDigest projectId target LostDegraded tr s)
    (hunknown : outcomeUnknown tr = true) : s.target.state = .degraded :=
  (sound_invariant HealthInv (fun _ _ hok => hok.1) (healthInv_initial projectId target)
    (fun _ _ _ hs hok h heffect => h.step hs hok heffect) hrun).2.degraded hunknown

end WorkerPromotionCoordinator

open WorkerPromotionCoordinator

namespace Sample

def rollback (uuid : String) : PromotionOperation := .rollbackToPrevious uuid actor uuid

/-- An apply call throws. -/
def lostApply : List PromotionOperation :=
  [register "a", promote "a" "1", previewed "1" "a", threw "1"]

/-- The rollback from `b` to `a` throws. -/
def lostRollback : List PromotionOperation :=
  [register "a", register "b"] ++ promoted "a" "1" ++ promoted "b" "2" ++
    [rollback "3", previewed "3" "a", threw "3"]

end Sample

theorem degraded_of_run_sample : (Sample.ran Sample.lostApply).2.target.state = .degraded :=
  degraded_of_run (run_exec (by decide +kernel)) (by decide +kernel)

/-- A rollback Promotion whose rollback call throws is failed, and its Target stays
healthy. -/
theorem lost_rollback_stays_healthy :
    Admits (step Sample.planDigest) (fun s op => s.Fresh op ∧ s.Sequential op)
        (.initial "project" Sample.target) Sample.lostRollback ∧
      outcomeUnknown (Sample.ran Sample.lostRollback).1 = true ∧
      (Sample.ran Sample.lostRollback).2.target.state = .healthy := by decide +kernel

end Anyam.Delivery
