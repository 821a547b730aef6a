import Anyam.Delivery.PromotionSystem
import Anyam.Lib.ExpectedRegister

/-!
# The Target pointer as a compare-and-swap

A Promotion remembers the current Release it was requested against and moves the
pointer after three adapter calls, without comparing again. The pointer and the
expectations of the Promotions that wait are a `Register`; every operation is one
`Move` of it (**`Effect.move`**).

- **`swaps_of_run`**: when a Promotion is verified healthy only while no other one
  is under way, unless it is of the Release that is current, every write of the
  pointer is a compare-and-swap, and of two Promotions requested against one
  Release at most one moves it without a retry.
- `second_promotion_overwrites`: the code does not wait for that.
-/

namespace Anyam.Delivery

open Anyam.Lib Anyam.Kernel

/-- The current Release a Promotion under way expects. -/
def PromotionRecord.expectation (p : PromotionRecord) : Option (Option String) :=
  if p.state.Unsettled then some p.expectedCurrentReleaseId else none

theorem PromotionRecord.expectation_eq_some {p : PromotionRecord} {e : Option String} :
    p.expectation = some e ↔ p.state.Unsettled ∧ p.expectedCurrentReleaseId = e := by
  unfold PromotionRecord.expectation
  split <;> simp_all

namespace WorkerPromotionCoordinator

variable {s s' s₁ : WorkerPromotionCoordinator} {planDigest : MigrationPlanBody → String}
  {op : PromotionOperation}

/-- The Target pointer, with the expectation of each Promotion under way. -/
def pointer (s : WorkerPromotionCoordinator) : Register String (Option String) :=
  .ofRecords s.target.currentReleaseId s.promotions.get? PromotionRecord.expectation

/-- The Release whose health check the execution of a Promotion waits for. -/
def checking (s : WorkerPromotionCoordinator) (id : String) : Option ImmutableRelease :=
  match s.executions.get? id with
  | some (.waiting release (.health _)) => some release
  | _ => none

/-- The Promotion an operation verifies as healthy, with its Release: the health
check it waits for is answered with a healthy observation of this Target and Release. -/
def verifying (s : WorkerPromotionCoordinator) : PromotionOperation → Option (String × ImmutableRelease)
  | .answer id answer =>
    ((s.checking id).filter fun release =>
      decide (answer.Verifies s.target.id release.release.id)).map fun release => (id, release)
  | _ => none

/-- A Promotion is verified healthy only while no other one is under way, unless its
Release is the current one. -/
def VerifiedAlone (s : WorkerPromotionCoordinator) (op : PromotionOperation) : Prop :=
  s.Fresh op ∧ ∀ v ∈ s.verifying op, s.target.currentReleaseId = some v.2.release.id ∨
    ∀ p ∈ s.promotions.values, p.id ≠ v.1 → ¬ p.state.Unsettled

instance : Decidable (s.VerifiedAlone op) := inferInstanceAs (Decidable (_ ∧ _))

theorem checking_eq_some {id : String} {release : ImmutableRelease} :
    s.checking id = some release ↔
      ∃ value, s.executions.get? id = some (.waiting release (.health value)) := by
  unfold checking
  split
  · rename_i release' value he
    simp [he]
  · rename_i hother
    constructor
    · exact nofun
    · rintro ⟨value, he⟩
      exact absurd he (hother release value)

/-- The answer that verifies a Promotion whose execution waits for its health. -/
theorem verifying_of_waiting {id : String} {release : ImmutableRelease} {value : WorkerDeployment}
    {answer : Answer} (hwaiting : s.executions.get? id = some (.waiting release (.health value)))
    (hverifies : answer.Verifies s.target.id release.release.id) :
    s.verifying (.answer id answer) = some (id, release) := by
  have hchecking : s.checking id = some release := checking_eq_some.mpr ⟨value, hwaiting⟩
  simp only [verifying, hchecking, Option.filter_some, decide_eq_true hverifies, if_true,
    Option.map_some]

/-! ## One operation is one move -/

theorem pointer_expected {id : String} {e : Option String} :
    s.pointer.expected id = some e ↔
      ∃ p, s.promotions.get? id = some p ∧ p.state.Unsettled ∧ p.expectedCurrentReleaseId = e := by
  unfold pointer
  simp only [Register.ofRecords_expected, PromotionRecord.expectation_eq_some]

/-- An edit of one record is quiet when an expectation it leaves open was open
before, or is the present pointer. -/
theorem quiet_of_edit {p' : PromotionRecord}
    (hpromotions : ∀ k, s'.promotions.get? k = if k = p'.id then some p' else s.promotions.get? k)
    (htarget : s'.target.currentReleaseId = s.target.currentReleaseId)
    (hexpected : p'.state.Unsettled →
      (∃ p, s.promotions.get? p'.id = some p ∧ p.state.Unsettled ∧
        p'.expectedCurrentReleaseId = p.expectedCurrentReleaseId) ∨
      p'.expectedCurrentReleaseId = s.target.currentReleaseId) :
    s.pointer.Quiet s'.pointer := by
  refine Register.quiet_of_edit hpromotions htarget fun e he => ?_
  obtain ⟨hopen, rfl⟩ := PromotionRecord.expectation_eq_some.mp he
  refine (hexpected hopen).imp_left ?_
  rintro ⟨p, hp, hp', hsame⟩
  exact ⟨p, hp, PromotionRecord.expectation_eq_some.mpr ⟨hp', hsame.symm⟩⟩

theorem Starts.quiet {p : PromotionRecord} (h : s.Starts p s') : s.pointer.Quiet s'.pointer := by
  obtain ⟨hp, hstate, -, hsame, -, hfiles⟩ := h
  refine quiet_of_edit hfiles.promotions (congrArg _ hfiles.target) fun _ => .inl ⟨p, ?_, ?_, ?_⟩
  · rw [hsame.id, hp]
  · exact .inl hstate
  · exact hsame.expected

theorem Requested.quiet {uuid : String} {p : PromotionRecord} (h : s.Requested uuid p s') :
    s.pointer.Quiet s'.pointer :=
  quiet_of_edit h.leaves.promotions (congrArg _ h.leaves.target) fun _ => .inr h.expected

theorem Retried.quiet {input : PromotionRetryRequest} {p p' : PromotionRecord}
    (h : s.Retried input p p' s') : s.pointer.Quiet s'.pointer :=
  quiet_of_edit h.leaves.promotions (congrArg _ h.leaves.target) fun _ => .inr h.expected

/-- The Promotion an operation completes commits its expectation. -/
theorem commits_of_files {p p' : PromotionRecord} {e : Execution} {releaseId : String}
    (hp : s.promotions.get? p'.id = some p) (hunsettled : p.state.Unsettled)
    (hstate : p'.state = .healthy) (hfiles : s.Files p' e (s.target.movedTo releaseId) s') :
    s.pointer.Commits p'.id (some releaseId) s'.pointer := by
  have hclosed : p'.expectation = none := by
    unfold PromotionRecord.expectation
    rw [hstate, if_neg (by decide)]
  have hcurrent : s'.target.currentReleaseId = some releaseId :=
    congrArg WorkerTarget.currentReleaseId hfiles.target
  unfold pointer
  rw [hcurrent]
  exact Register.commits_of_edit hfiles.promotions hp
    (PromotionRecord.expectation_eq_some.mpr ⟨hunsettled, rfl⟩) hclosed _

/-- **One operation is one move of the pointer**: a commit of the Promotion it
verifies, or quiet. -/
theorem Effect.move (h : Effect planDigest s op s') (hs : s.Sound) :
    s.pointer.Quiet s'.pointer ∨ ∃ id release, s.verifying op = some (id, release) ∧
      s.pointer.Commits id (some release.release.id) s'.pointer := by
  cases h with
  | unchanged => exact .inl (.refl _)
  | registered => exact .inl (.refl _)
  | requested hrequest => exact .inl hrequest.quiet
  | promoted _ hrequest hstart => exact .inl (hrequest.quiet.trans hstart.quiet)
  | taken _ hstart => exact .inl hstart.quiet
  | retried hretry hstart => exact .inl (hretry.quiet.trans hstart.quiet)
  | retriedInFlight hretry => exact .inl hretry.quiet
  | @answered id answer p release stage p' e target s' hp hwaiting hsame hanswered hfiles =>
    have hid : p'.id = id := hsame.id.trans (hs.filed hp)
    rcases hanswered.keeps_or_completes (hs.waiting id p release stage hp hwaiting).2 with
      ⟨hcurrent, -, -, hkept⟩ | ⟨value, rfl, hverifies, hstate, hhealthy, rfl⟩
    · refine .inl (quiet_of_edit hfiles.promotions ?_ fun hopen => .inl ⟨p, ?_, hkept hopen, ?_⟩)
      · rw [hfiles.target, hcurrent]
      · rw [hid, hp]
      · exact hsame.expected
    · refine .inr ⟨id, release, verifying_of_waiting hwaiting hverifies, ?_⟩
      rw [← hid] at hp ⊢
      exact commits_of_files hp (hstate ▸ by decide) hhealthy hfiles
  | finished hp _ hfiles =>
    refine .inl (quiet_of_edit hfiles.promotions (congrArg _ hfiles.target) fun hopen => ?_)
    exact .inl ⟨_, hs.found hp, hopen, rfl⟩
  | cleaned => exact .inl (.refl _)

theorem VerifiedAlone.exclusive (hok : s.VerifiedAlone op) (hs : s.Sound) {id : String}
    {release : ImmutableRelease} (hverifying : s.verifying op = some (id, release)) :
    s.pointer.Exclusive id (some release.release.id) := by
  rcases hok.2 _ hverifying with hcurrent | halone
  · exact .inl hcurrent.symm
  · refine .inr fun k hk => ?_
    rw [Option.eq_none_iff_forall_ne_some]
    intro e he
    obtain ⟨p, hp, hopen, -⟩ := pointer_expected.mp he
    exact halone p (OrderedMap.mem_values_of_get? hp) (hs.filed hp ▸ hk) hopen

/-! ## Along a run -/

/-- A transition in which a Promotion becomes healthy. -/
def BecomesHealthy (t : PromotionTransition) (id : String) (p : PromotionRecord) : Prop :=
  t.pre.promotions.get? id = some p ∧ p.state ≠ .healthy ∧
    (t.post.promotions.get? id).map PromotionRecord.state = some .healthy

/-- A Promotion that becomes healthy writes the pointer over its expectation. -/
def CompareAndSwap (tr : List PromotionTransition) : Prop :=
  ∀ t ∈ tr, ∀ id p, BecomesHealthy t id p →
    t.pre.target.currentReleaseId = p.expectedCurrentReleaseId

/-- The Promotion was retried between two positions of the trace. -/
def RetriedBetween (tr : List PromotionTransition) (i j : Nat) (id : String) : Prop :=
  ∃ (k : Nat) (t : PromotionTransition) (input : PromotionRetryRequest),
    i < k ∧ k < j ∧ tr[k]? = some t ∧ t.op = .retryPromotion input ∧ input.promotionId = id

/-- When a Promotion moves the pointer, another one that was requested against the
same current Release becomes healthy later only after a retry. -/
def AdvancesOnce (tr : List PromotionTransition) : Prop :=
  ∀ i j first second id id' p q q', tr[i]? = some first → tr[j]? = some second → i < j → id ≠ id' →
    BecomesHealthy first id p →
    first.post.target.currentReleaseId ≠ first.pre.target.currentReleaseId →
    first.pre.promotions.get? id' = some q →
    q.expectedCurrentReleaseId = p.expectedCurrentReleaseId →
    BecomesHealthy second id' q' → RetriedBetween tr i j id'

/-- What an edit of one record keeps of the record under an id. -/
theorem keeps_of_edit {P : PromotionRecord → Prop} {p' : PromotionRecord} {id : String}
    (hpromotions : ∀ k, s'.promotions.get? k = if k = p'.id then some p' else s.promotions.get? k)
    (hkept : id = p'.id → P p') (h : ∃ p, s.promotions.get? id = some p ∧ P p) :
    ∃ p, s'.promotions.get? id = some p ∧ P p := by
  rw [hpromotions]
  split
  · rename_i hid
    exact ⟨p', rfl, hkept hid⟩
  · exact h

/-- A Promotion becomes healthy only in the operation that verifies it. -/
theorem Effect.unhealthy_or_verified (h : Effect planDigest s op s') (hs : s.Sound) {id : String}
    (hp : ∃ p, s.promotions.get? id = some p ∧ p.state ≠ .healthy) :
    (∃ p, s'.promotions.get? id = some p ∧ p.state ≠ .healthy) ∨
      ∃ release, s.verifying op = some (id, release) ∧
        s.pointer.Commits id (some release.release.id) s'.pointer := by
  have hstarts : ∀ {s s' : WorkerPromotionCoordinator} {p}, s.Starts p s' →
      (∃ p, s.promotions.get? id = some p ∧ p.state ≠ .healthy) →
      ∃ p, s'.promotions.get? id = some p ∧ p.state ≠ .healthy := by
    rintro s s' p ⟨-, -, -, -, hstarted, hfiles⟩ hp
    refine keeps_of_edit (P := fun p => p.state ≠ .healthy) hfiles.promotions (fun _ => ?_) hp
    cases hstarted with
    | validating _ _ hstate => simp [hstate]
    | stalled _ hstate => simp [hstate]
  cases h with
  | unchanged => exact .inl hp
  | registered => exact .inl hp
  | requested hrequest =>
    exact .inl (keeps_of_edit hrequest.leaves.promotions (fun _ => by simp [hrequest.state]) hp)
  | promoted _ hrequest hstart =>
    exact .inl (hstarts hstart
      (keeps_of_edit hrequest.leaves.promotions (fun _ => by simp [hrequest.state]) hp))
  | taken _ hstart => exact .inl (hstarts hstart hp)
  | retried hretry hstart =>
    exact .inl (hstarts hstart
      (keeps_of_edit hretry.leaves.promotions (fun _ => by simp [hretry.state]) hp))
  | retriedInFlight hretry =>
    exact .inl (keeps_of_edit hretry.leaves.promotions (fun _ => by simp [hretry.state]) hp)
  | @answered id' answer p release stage p' e target s' hp' hwaiting hsame hanswered hfiles =>
    have hid : p'.id = id' := hsame.id.trans (hs.filed hp')
    rcases hanswered.keeps_or_completes (hs.waiting id' p release stage hp' hwaiting).2 with
      ⟨-, -, hunhealthy, -⟩ | ⟨value, rfl, hverifies, hstate, hhealthy, rfl⟩
    · exact .inl (keeps_of_edit hfiles.promotions (fun _ => hunhealthy) hp)
    · by_cases hsameId : id = id'
      · subst hsameId
        refine .inr ⟨release, verifying_of_waiting hwaiting hverifies, ?_⟩
        rw [← hid] at hp' ⊢
        exact commits_of_files hp' (hstate ▸ by decide) hhealthy hfiles
      · exact .inl (keeps_of_edit hfiles.promotions (fun h => absurd (h.trans hid) hsameId) hp)
  | @finished id' p release s' hp' _ hfiles =>
    refine .inl (keeps_of_edit hfiles.promotions (fun hid => ?_) hp)
    obtain ⟨q, hq, hunhealthy⟩ := hp
    rw [hid, hs.found hp'] at hq
    exact Option.some.inj hq ▸ hunhealthy
  | cleaned => exact .inl hp

/-- A settled Promotion stays settled until it is retried. -/
theorem Effect.settled_or_retried (h : Effect planDigest s op s') (hs : s.Sound)
    (hfresh : s.Fresh op) {id : String}
    (hp : ∃ p, s.promotions.get? id = some p ∧ ¬ p.state.Unsettled) :
    (∃ p, s'.promotions.get? id = some p ∧ ¬ p.state.Unsettled) ∨
      ∃ input, op = .retryPromotion input ∧ input.promotionId = id := by
  -- the Promotion an execution is started for was proposed
  have hstarts : ∀ {s s' : WorkerPromotionCoordinator} {p}, s.Starts p s' →
      (∃ p, s.promotions.get? id = some p ∧ ¬ p.state.Unsettled) →
      ∃ p, s'.promotions.get? id = some p ∧ ¬ p.state.Unsettled := by
    rintro s s' p ⟨hfound, hstate, -, hsame, -, hfiles⟩ ⟨q, hq, hsettled⟩
    refine keeps_of_edit hfiles.promotions (fun hid => ?_) ⟨q, hq, hsettled⟩
    rw [hid, hsame.id, hfound] at hq
    cases hq
    exact absurd (.inl hstate) hsettled
  have hrequests : ∀ {uuid p s'}, op.drawn = some uuid → s.Requested uuid p s' →
      ∃ p, s'.promotions.get? id = some p ∧ ¬ p.state.Unsettled := by
    intro uuid p s' hdrawn hrequest
    refine keeps_of_edit hrequest.leaves.promotions (fun hid => ?_) hp
    obtain ⟨q, hq, -⟩ := hp
    rw [hid, hrequest.id, hfresh uuid hdrawn] at hq
    cases hq
  cases h with
  | unchanged => exact .inl hp
  | registered => exact .inl hp
  | requested hrequest => exact .inl (hrequests rfl hrequest)
  | promoted hdrawn hrequest hstart => exact .inl (hstarts hstart (hrequests hdrawn hrequest))
  | taken _ hstart => exact .inl (hstarts hstart hp)
  | @retried input p p' s₁ s' hretry hstart =>
    by_cases hid : input.promotionId = id
    · exact .inr ⟨input, rfl, hid⟩
    · refine .inl (hstarts hstart (keeps_of_edit hretry.leaves.promotions (fun h => ?_) hp))
      exact absurd (h.trans (hretry.id.trans (hs.filed hretry.found))).symm hid
  | @retriedInFlight input p p' s' hretry _ =>
    by_cases hid : input.promotionId = id
    · exact .inr ⟨input, rfl, hid⟩
    · refine .inl (keeps_of_edit hretry.leaves.promotions (fun h => ?_) hp)
      exact absurd (h.trans (hretry.id.trans (hs.filed hretry.found))).symm hid
  | @answered id' answer p release stage p' e target s' hp' hwaiting hsame hanswered hfiles =>
    refine .inl (keeps_of_edit hfiles.promotions (fun hid => ?_) hp)
    obtain ⟨q, hq, hsettled⟩ := hp
    rw [hid, hsame.id, hs.found hp'] at hq
    cases hq
    rcases hanswered.keeps_or_completes (hs.waiting id' p release stage hp' hwaiting).2 with
      ⟨-, -, -, hkept⟩ | ⟨value, -, -, -, hhealthy, -⟩
    · exact fun hopen => hsettled (hkept hopen)
    · simp [hhealthy, PromotionState.Unsettled]
  | @finished id' p release s' hp' _ hfiles =>
    refine .inl (keeps_of_edit hfiles.promotions (fun hid => ?_) hp)
    obtain ⟨q, hq, hsettled⟩ := hp
    rw [hid, hs.found hp'] at hq
    exact Option.some.inj hq ▸ hsettled
  | cleaned => exact .inl hp

variable {projectId : String} {target : WorkerTarget} {tr : List PromotionTransition}

theorem verifiedAlone_fresh : ∀ (s : WorkerPromotionCoordinator) (op : PromotionOperation),
    s.VerifiedAlone op → s.Fresh op := fun _ _ h => h.1

/-- Every Promotion under way expects the present pointer. -/
theorem consistent_of_run (hrun : RunFrom planDigest projectId target VerifiedAlone tr s) :
    s.pointer.Consistent := by
  refine (sound_invariant (fun _ s => s.pointer.Consistent) verifiedAlone_fresh ?_ ?_ hrun).2
  · intro id e he
    obtain ⟨p, hp, -⟩ := pointer_expected.mp he
    exact absurd hp (by simp [initial])
  · intro tr s op hs hok hconsistent heffect
    rcases heffect.move hs with hquiet | ⟨id, release, hverifying, hcommits⟩
    · exact hconsistent.quiet hquiet
    · exact hconsistent.commit hcommits (hok.exclusive hs hverifying)

/-- A Promotion that becomes healthy was verified, and commits. -/
theorem BecomesHealthy.commits (hrun : RunFrom planDigest projectId target VerifiedAlone tr s)
    {t : PromotionTransition} (ht : t ∈ tr) {id : String} {p : PromotionRecord}
    (h : BecomesHealthy t id p) :
    ∃ release, t.pre.verifying t.op = some (id, release) ∧
      t.pre.pointer.Commits id (some release.release.id) t.post.pointer := by
  obtain ⟨hs, hok, heffect⟩ := effect_of_mem verifiedAlone_fresh hrun ht
  rcases heffect.unhealthy_or_verified hs ⟨p, h.1, h.2.1⟩ with ⟨p', hp', hunhealthy⟩ | hverified
  · have hhealthy := h.2.2
    rw [hp'] at hhealthy
    exact absurd (Option.some.inj hhealthy) hunhealthy
  · exact hverified

theorem compareAndSwap_of_run (hrun : RunFrom planDigest projectId target VerifiedAlone tr s) :
    CompareAndSwap tr := by
  intro t ht id p h
  obtain ⟨release, -, hcommits⟩ := h.commits hrun ht
  obtain ⟨tr₁, tr₂, rfl⟩ := List.append_of_mem ht
  have hfound := (consistent_of_run hrun.split.1).swaps hcommits
  obtain ⟨p', hp', -, hexpected⟩ := pointer_expected.mp hfound
  rw [h.1] at hp'
  cases hp'
  exact hexpected.symm

theorem advancesOnce_of_run (hrun : RunFrom planDigest projectId target VerifiedAlone tr s) :
    AdvancesOnce tr := by
  intro i j first second id id' p q q' hi hj hij hne hfirst hmoved hq _ hsecond
  obtain ⟨-, -, hok, hafter⟩ := hrun.at_position hi
  obtain ⟨hs, -, heffect⟩ := effect_of_mem verifiedAlone_fresh hrun (List.mem_of_getElem? hi)
  -- the first Promotion moved the pointer, so no other one was under way
  obtain ⟨release, hverifying, hcommits⟩ := hfirst.commits hrun (List.mem_of_getElem? hi)
  have hsettled : ¬ q.state.Unsettled := by
    rcases hok.2 _ hverifying with hsame | halone
    · exact absurd (hcommits.current.trans hsame.symm) hmoved
    · exact halone q (OrderedMap.mem_values_of_get? hq) (hs.filed hq ▸ hne.symm)
  have hpost : ∃ p, first.post.promotions.get? id' = some p ∧ ¬ p.state.Unsettled := by
    rcases heffect.settled_or_retried hs hok.1 ⟨q, hq, hsettled⟩ with hkept | ⟨input, hop, -⟩
    · exact hkept
    · rw [hop] at hverifying
      cases hverifying
  -- the second one is under way when it becomes healthy
  obtain ⟨_, _, hcommits'⟩ := hsecond.commits hrun (List.mem_of_getElem? hj)
  obtain ⟨e, he⟩ := Option.isSome_iff_exists.mp hcommits'.pending
  obtain ⟨q₂, hq₂, hopen, -⟩ := pointer_expected.mp he
  have hlater : (tr.drop (i + 1))[j - (i + 1)]? = some second := by
    rw [List.getElem?_drop, Nat.add_sub_cancel' hij]
    exact hj
  obtain ⟨hbetween, -⟩ := hafter.at_position hlater
  obtain ⟨k, t, hk, hpre, hended⟩ := hbetween.exists_ended
    (P := fun s => ∃ p, s.promotions.get? id' = some p ∧ ¬ p.state.Unsettled) hpost (by
      rintro ⟨p', hp', hsettled'⟩
      rw [hq₂] at hp'
      exact hsettled' (Option.some.inj hp' ▸ hopen))
  -- so some step between them proposed it again
  rw [List.getElem?_take] at hk
  split at hk
  · rename_i hlt
    rw [List.getElem?_drop] at hk
    obtain ⟨hs', hok', heffect'⟩ :=
      effect_of_mem verifiedAlone_fresh hrun (List.mem_of_getElem? hk)
    rcases heffect'.settled_or_retried hs' hok'.1 hpre with hkept | ⟨input, hop, hid⟩
    · exact absurd hkept hended
    · exact ⟨i + 1 + k, t, input, by omega, by omega, hk, hop, hid⟩
  · cases hk

/-- **The pointer is a compare-and-swap** in every run in which a Promotion is
verified healthy only while no other one is under way, unless its Release is
current. -/
theorem swaps_of_run (hrun : RunFrom planDigest projectId target VerifiedAlone tr s) :
    CompareAndSwap tr ∧ AdvancesOnce tr :=
  ⟨compareAndSwap_of_run hrun, advancesOnce_of_run hrun⟩

end WorkerPromotionCoordinator

open WorkerPromotionCoordinator

namespace Sample

/-- Two Releases, one after the other. -/
def promotedInTurn : List PromotionOperation :=
  [register "a", register "b"] ++ promoted "a" "1" ++ promoted "b" "2"

/-- Two Releases, promoted against the same empty Target. -/
def promotedAtOnce : List PromotionOperation :=
  [register "a", register "b", promote "a" "1", promote "b" "2",
   previewed "1" "a", deployed "1" "a", previewed "2" "b", deployed "2" "b",
   observed "1" "a" .healthy, observed "2" "b" .healthy]

end Sample

theorem swaps_of_run_sample :
    CompareAndSwap (Sample.ran Sample.promotedInTurn).1 ∧
      AdvancesOnce (Sample.ran Sample.promotedInTurn).1 :=
  swaps_of_run (run_exec (by decide +kernel))

/-- Both Promotions expect an empty Target; the second one overwrites the first. -/
theorem second_promotion_overwrites :
    Admits (step Sample.planDigest) Fresh (.initial "project" Sample.target) Sample.promotedAtOnce ∧
      ¬ CompareAndSwap (Sample.ran Sample.promotedAtOnce).1 := by
  refine ⟨by decide +kernel, fun hswap => ?_⟩
  obtain ⟨t, ht, hhealthy, hcurrent, p, hp, hunhealthy, hexpected⟩ :
      ∃ t ∈ (Sample.ran Sample.promotedAtOnce).1,
        (t.post.promotions.get? "promotion:2").map PromotionRecord.state = some .healthy ∧
        t.pre.target.currentReleaseId = some "a" ∧
        ∃ p ∈ t.pre.promotions.get? "promotion:2",
          p.state ≠ .healthy ∧ p.expectedCurrentReleaseId = none := by decide +kernel
  have hsame := hswap t ht _ p ⟨hp, hunhealthy, hhealthy⟩
  rw [hcurrent, hexpected] at hsame
  cases hsame

end Anyam.Delivery
