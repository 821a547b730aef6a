import Anyam.Delivery.PromotionSystem

/-!
# Keys that come again

Promotions, retries and rollbacks share one map of idempotency keys. A call whose key is bound
already has nothing to file: it hands out the record of the key, or refuses the key.

- `KeyKept`: the record handed out is of what the call asks for, and nothing is executed twice.
- **`key_kept_iff`**: a bound key is kept unless the call asks for the Release of the record as
  another operation, or is a rollback where none is available.
-/

namespace Anyam.Delivery

open Anyam.Lib Anyam.Kernel

/-- The idempotency key an operation is called with. -/
def PromotionOperation.key : PromotionOperation → Option String
  | .requestPromotion input _ | .promote input _ => some input.idempotencyKey
  | .retryPromotion input => some input.idempotencyKey
  | .rollbackToPrevious idempotencyKey _ _ => some idempotencyKey
  | _ => none

/-- `previous` stands right before the last `current`. -/
def Precedes (history : List String) (previous current : String) : Prop :=
  ∃ earlier later, history = earlier ++ previous :: current :: later ∧ current ∉ later

/-- The record is of the Promotion that a request asks for. A request that expects no Release in
particular is for any. -/
structure PromotionRequest.Asks (input : PromotionRequest) (targetId : String)
    (p : PromotionRecord) : Prop where
  release : p.releaseId = input.releaseId
  target : p.targetId = targetId
  kind : p.kind = input.kind.getD .promotion
  rollbackOf : p.rollbackOfPromotionId = truthy input.rollbackOfPromotionId
  expected : ∀ expected ∈ input.expectedCurrentReleaseId, p.expectedCurrentReleaseId = expected

namespace WorkerPromotionCoordinator

/-- The key is bound to the record. -/
def Bound (s : WorkerPromotionCoordinator) (key : String) (p : PromotionRecord) : Prop :=
  ∃ id, truthy (s.idempotency.get? key) = some id ∧ s.promotions.get? id = some p

/-- The record is a rollback of the current Release, to the Release before it. -/
structure RollsBack (s : WorkerPromotionCoordinator) (current : String) (p : PromotionRecord) :
    Prop where
  pointer : s.target.currentReleaseId = some current
  kind : p.kind = .rollback
  target : p.targetId = s.target.id
  previous : Precedes s.target.releaseHistory p.releaseId current
  expected : p.expectedCurrentReleaseId = some current
  rollbackOf : p.rollbackOfPromotionId =
    truthy ((s.promotions.values.reverse.find? fun candidate =>
      candidate.releaseId = current ∧ candidate.state = .healthy).map PromotionRecord.id)

/-- The record is of what the operation asks for. -/
def Asked (s : WorkerPromotionCoordinator) (p : PromotionRecord) : PromotionOperation → Prop
  | .requestPromotion input _ | .promote input _ => input.Asks s.target.id p
  | .retryPromotion input => p.id = input.promotionId
  | .rollbackToPrevious _ _ _ => ∃ current, s.RollsBack current p
  | _ => False

/-- The operation returns only once its Promotion was executed. -/
def Executes : PromotionOperation → Prop
  | .promote _ _ | .rollbackToPrevious _ _ _ => True
  | _ => False

/-- The record or the promise of its execution is handed out. Only a Promotion that was never
started is started, and an operation that executes does so. -/
structure Replays (s : WorkerPromotionCoordinator) (p : PromotionRecord) (op : PromotionOperation)
    (after : PromotionReply × WorkerPromotionCoordinator) : Prop where
  reply : after.1 = .promotion p ∨ after.1 = .execution p.id
  once : after.2 = s ∨
    p.state = .proposed ∧ s.executions.has p.id = false ∧ after.2 = s.executeOnce p.id
  executed : Executes op → p.state = .proposed → after.1 = .execution p.id

/-- The call threw `idempotency-conflict` and changed nothing. -/
def Conflicts (s : WorkerPromotionCoordinator)
    (after : PromotionReply × WorkerPromotionCoordinator) : Prop :=
  ∃ error : PromotionError, error.code = .idempotencyConflict ∧
    after = (.threw (.promotion error), s)

/-- What a bound key promises to an operation. -/
def KeyKept (s : WorkerPromotionCoordinator) (p : PromotionRecord) (op : PromotionOperation)
    (after : PromotionReply × WorkerPromotionCoordinator) : Prop :=
  s.Conflicts after ∨ s.Asked p op ∧ s.Replays p op after

/-- The request is for the Release of the record on the same Target, but as another operation. -/
def Confuses (s : WorkerPromotionCoordinator) (p : PromotionRecord) (input : PromotionRequest) :
    Prop :=
  p.releaseId = input.releaseId ∧ p.targetId = s.target.id ∧
    (p.kind ≠ input.kind.getD .promotion ∨
      p.rollbackOfPromotionId ≠ truthy input.rollbackOfPromotionId ∨
      ∃ expected ∈ input.expectedCurrentReleaseId, p.expectedCurrentReleaseId ≠ expected)

/-- The key check does not tell the operation from that of the record, or a rollback ends before
it. -/
def Mistaken (s : WorkerPromotionCoordinator) (p : PromotionRecord) : PromotionOperation → Prop
  | .requestPromotion input _ | .promote input _ => s.Confuses p input
  | .rollbackToPrevious idempotencyKey actor _ =>
    ∀ input, s.rollbackRequest idempotencyKey actor = .ok input → s.Confuses p input
  | _ => False

variable {s : WorkerPromotionCoordinator} {p : PromotionRecord} {key : String}

/-! ## The Release before the current one -/

theorem previousOf_eq_some {history : List String} {current previous : String} :
    previousOf history current = some previous ↔ Precedes history previous current := by
  unfold previousOf
  constructor
  · intro h
    -- the entries after the last `current`, and what is left from it on
    have hsplit := List.takeWhile_append_dropWhile (p := fun id => decide (id ≠ current))
      (l := history.reverse)
    cases hrest : history.reverse.dropWhile fun id => decide (id ≠ current) with
    | nil =>
      rw [hrest] at h
      cases h
    | cons last rest =>
      have hlast : last = current := by
        have hhead := List.head?_dropWhile_not (fun id => decide (id ≠ current)) history.reverse
        rw [hrest] at hhead
        simpa using hhead
      rw [hrest] at h hsplit
      cases rest with
      | nil => cases h
      | cons before earlier =>
        have hbefore : before = previous := by simpa using h
        subst hlast hbefore
        refine ⟨earlier.reverse,
          (history.reverse.takeWhile fun id => decide (id ≠ last)).reverse, ?_, ?_⟩
        · have hhistory := congrArg List.reverse hsplit
          rw [List.reverse_reverse] at hhistory
          simpa using hhistory.symm
        · intro hmem
          have hne := List.all_takeWhile (p := fun id => decide (id ≠ last)) (l := history.reverse)
          rw [List.all_eq_true] at hne
          simpa using hne last (List.mem_reverse.mp hmem)
  · rintro ⟨earlier, later, rfl, hlater⟩
    have hdrop : (later.reverse ++ current :: previous :: earlier.reverse).dropWhile
        (fun id => decide (id ≠ current)) = current :: previous :: earlier.reverse := by
      rw [List.dropWhile_append_of_pos]
      · simp
      · intro id hid
        have hne : id ≠ current := fun heq => hlater (heq ▸ List.mem_reverse.mp hid)
        simpa using hne
    simp only [List.reverse_append, List.reverse_cons, List.append_assoc, List.cons_append,
      List.nil_append]
    rw [hdrop]
    rfl

/-- What `rollbackToPrevious` requests. -/
theorem rollbackRequest_ok {idempotencyKey : String} {actor : ActorRef} {input : PromotionRequest}
    (h : s.rollbackRequest idempotencyKey actor = .ok input) :
    ∃ current, s.target.currentReleaseId = some current ∧
      Precedes s.target.releaseHistory input.releaseId current ∧
      input.idempotencyKey = idempotencyKey ∧ input.kind = some .rollback ∧
      input.expectedCurrentReleaseId = some (some current) ∧
      input.rollbackOfPromotionId = (s.promotions.values.reverse.find? fun candidate =>
        candidate.releaseId = current ∧ candidate.state = .healthy).map PromotionRecord.id := by
  simp only [rollbackRequest, bind_eq_ok, orThrow_eq_ok, truthy_eq_some, pure_eq_ok] at h
  obtain ⟨current, ⟨hcurrent, -⟩, previous, ⟨hprevious, -⟩, rfl⟩ := h
  exact ⟨current, hcurrent, previousOf_eq_some.mp hprevious, rfl, rfl, rfl, rfl⟩

/-- A record is of the requested rollback if and only if it rolls the current Release back. -/
theorem asks_iff_rollsBack {idempotencyKey : String} {actor : ActorRef} {input : PromotionRequest}
    (h : s.rollbackRequest idempotencyKey actor = .ok input) :
    input.Asks s.target.id p ↔ ∃ current, s.RollsBack current p := by
  obtain ⟨current, hcurrent, hprevious, -, hkind, hexpected, hrollback⟩ := rollbackRequest_ok h
  constructor
  · intro hasks
    refine ⟨current, hcurrent, ?_, hasks.target, ?_, hasks.expected _ hexpected, ?_⟩
    · rw [hasks.kind, hkind]
      rfl
    · rw [hasks.release]
      exact hprevious
    · rw [hasks.rollbackOf, hrollback]
  · rintro ⟨other, hrolls⟩
    have hother : other = current := Option.some.inj (hrolls.pointer.symm.trans hcurrent)
    subst hother
    refine ⟨?_, hrolls.target, ?_, ?_, ?_⟩
    · have hfirst := previousOf_eq_some.mpr hrolls.previous
      exact Option.some.inj (hfirst.symm.trans (previousOf_eq_some.mpr hprevious))
    · rw [hrolls.kind, hkind]
      rfl
    · rw [hrolls.rollbackOf, hrollback]
    · intro expected hmem
      rw [hexpected] at hmem
      cases hmem
      exact hrolls.expected

/-! ## The key check -/

theorem asks_iff_not_confuses {input : PromotionRequest} (hrelease : p.releaseId = input.releaseId)
    (htarget : p.targetId = s.target.id) :
    input.Asks s.target.id p ↔ ¬ s.Confuses p input := by
  constructor
  · rintro hasks ⟨-, -, hkind | hrollback | ⟨expected, hmem, hne⟩⟩
    · exact hkind hasks.kind
    · exact hrollback hasks.rollbackOf
    · exact hne (hasks.expected expected hmem)
  · intro hconfuses
    have hsame : p.kind = input.kind.getD .promotion ∧
        p.rollbackOfPromotionId = truthy input.rollbackOfPromotionId ∧
        ∀ expected ∈ input.expectedCurrentReleaseId, p.expectedCurrentReleaseId = expected := by
      by_contra hnot
      simp only [not_and_or, not_forall, exists_prop] at hnot
      exact hconfuses ⟨hrelease, htarget, hnot⟩
    exact ⟨hrelease, htarget, hsame.1, hsame.2.1, hsame.2.2⟩

/-- `requestPromotion` under a bound key: the record, or a conflict when it is of another Release
or Target. -/
theorem requestPromotion_bound {input : PromotionRequest} {uuid : String}
    (h : s.Bound input.idempotencyKey p) :
    (p.releaseId = input.releaseId ∧ p.targetId = s.target.id ∧
        s.requestPromotion input uuid = .ok (p, s)) ∨
      (¬ (p.releaseId = input.releaseId ∧ p.targetId = s.target.id) ∧
        ∃ error : PromotionError, error.code = .idempotencyConflict ∧
          s.requestPromotion input uuid = .error (.promotion error)) := by
  obtain ⟨id, hid, hp⟩ := h
  by_cases hsame : p.releaseId = input.releaseId ∧ p.targetId = s.target.id
  · refine .inl ⟨hsame.1, hsame.2, ?_⟩
    simp only [requestPromotion, requestedBefore, hid, hp, orThrow, bind, Except.bind,
      require_of hsame]
    rfl
  · refine .inr ⟨hsame, ?_⟩
    simp only [requestPromotion, requestedBefore, hid, hp, orThrow, bind, Except.bind, require,
      if_neg hsame]
    refine ⟨_, ?_, rfl⟩
    rfl

/-- `retryPromotion` under a bound key. -/
theorem retriedBefore_bound {input : PromotionRetryRequest} (h : s.Bound input.idempotencyKey p) :
    (p.id = input.promotionId ∧ s.retriedBefore input = .ok (some p)) ∨
      (p.id ≠ input.promotionId ∧ ∃ error : PromotionError, error.code = .idempotencyConflict ∧
        s.retriedBefore input = .error (.promotion error)) := by
  obtain ⟨id, hid, hp⟩ := h
  by_cases hsame : p.id = input.promotionId
  · refine .inl ⟨hsame, ?_⟩
    simp only [retriedBefore, hid, hp, Option.filter_some, hsame, decide_true, if_true, orThrow,
      bind, Except.bind]
    rfl
  · refine .inr ⟨hsame, ?_⟩
    simp only [retriedBefore, hid, hp, Option.filter_some, hsame, decide_false, orThrow, bind,
      Except.bind]
    refine ⟨_, ?_, rfl⟩
    rfl

/-- What `promote` does with the record of its key. -/
theorem startRequested_replays {op : PromotionOperation} :
    s.Replays p op (s.startRequested p) := by
  unfold startRequested
  by_cases hrunning : s.executions.has p.id = true
  · rw [if_pos hrunning]
    exact ⟨.inr rfl, .inl rfl, fun _ _ => rfl⟩
  · rw [if_neg hrunning]
    by_cases hstate : p.state ≠ .proposed
    · rw [if_pos hstate]
      exact ⟨.inl rfl, .inl rfl, fun _ hproposed => absurd hproposed hstate⟩
    · rw [if_neg hstate]
      have hproposed : p.state = .proposed := by simpa using hstate
      exact ⟨.inr rfl, .inr ⟨hproposed, by simpa using hrunning, rfl⟩, fun _ _ => rfl⟩

/-- A call that requests under a bound key: it is confused with another one, or the key is kept. -/
theorem requested_kept_iff {op : PromotionOperation} {input : PromotionRequest} (uuid : String)
    {after : PromotionReply × WorkerPromotionCoordinator}
    (hbound : s.Bound input.idempotencyKey p) (hasked : s.Asked p op ↔ input.Asks s.target.id p)
    (hthrown : ∀ error, s.requestPromotion input uuid = .error error → after = (.threw error, s))
    (hreplayed : s.requestPromotion input uuid = .ok (p, s) → s.Replays p op after) :
    s.KeyKept p op after ↔ ¬ s.Confuses p input := by
  rcases @requestPromotion_bound s p input uuid hbound with
    ⟨hrelease, htarget, hrequest⟩ | ⟨hother, error, hcode, hrequest⟩
  · have hreplays := hreplayed hrequest
    rw [← asks_iff_not_confuses hrelease htarget, ← hasked]
    constructor
    · rintro (⟨error, -, hthrew⟩ | ⟨hasks, -⟩)
      · -- a record or a promise was handed out
        have hreply := hreplays.reply
        rw [hthrew] at hreply
        rcases hreply with hreply | hreply <;> cases hreply
      · exact hasks
    · exact fun hasks => .inr ⟨hasks, hreplays⟩
  · constructor
    · rintro - ⟨hrelease, htarget, -⟩
      exact hother ⟨hrelease, htarget⟩
    · exact fun _ => .inl ⟨error, hcode, hthrown _ hrequest⟩

theorem promote_kept_iff {op : PromotionOperation} {input : PromotionRequest} {uuid : String}
    (hbound : s.Bound input.idempotencyKey p) (hasked : s.Asked p op ↔ input.Asks s.target.id p) :
    s.KeyKept p op (s.promote input uuid) ↔ ¬ s.Confuses p input := by
  refine requested_kept_iff uuid hbound hasked ?_ ?_
  · intro error hrequest
    simp only [promote, hrequest]
  · intro hrequest
    simp only [promote, hrequest]
    exact startRequested_replays

theorem retryPromotion_kept {input : PromotionRetryRequest} (hbound : s.Bound input.idempotencyKey p) :
    s.KeyKept p (.retryPromotion input) (s.retryPromotion input) := by
  unfold retryPromotion
  rcases retriedBefore_bound hbound with ⟨hsame, hbefore⟩ | ⟨-, error, hcode, hbefore⟩
  · rw [hbefore]
    refine .inr ⟨hsame, ?_⟩
    by_cases hrunning : s.executions.has p.id = true
    · simp only [if_pos hrunning]
      exact ⟨.inr rfl, .inl rfl, fun hexecutes => absurd hexecutes id⟩
    · simp only [if_neg hrunning]
      exact ⟨.inl rfl, .inl rfl, fun hexecutes => absurd hexecutes id⟩
  · rw [hbefore]
    exact .inl ⟨error, hcode, rfl⟩

/-- A rollback that is not available throws another error. -/
theorem rollbackRequest_error {idempotencyKey : String} {actor : ActorRef} {error : DeliveryError}
    (h : s.rollbackRequest idempotencyKey actor = .error error) :
    ∃ e : PromotionError, error = .promotion e ∧ e.code = .rollbackUnavailable := by
  unfold rollbackRequest at h
  cases hcurrent : truthy s.target.currentReleaseId with
  | none =>
    simp only [hcurrent, orThrow, bind, Except.bind, Except.error.injEq] at h
    exact ⟨_, h.symm, rfl⟩
  | some current =>
    cases hprevious : truthy (previousOf s.target.releaseHistory current) with
    | none =>
      simp only [hcurrent, hprevious, orThrow, bind, Except.bind, Except.error.injEq] at h
      exact ⟨_, h.symm, rfl⟩
    | some previous =>
      simp only [hcurrent, hprevious, orThrow, bind, Except.bind] at h
      cases h

theorem rollbackToPrevious_kept_iff {key : String} {actor : ActorRef} {uuid : String}
    (hbound : s.Bound key p) :
    s.KeyKept p (.rollbackToPrevious key actor uuid) (s.rollbackToPrevious key actor uuid) ↔
      ¬ s.Mistaken p (.rollbackToPrevious key actor uuid) := by
  unfold rollbackToPrevious
  cases hrequest : s.rollbackRequest key actor with
  | error error =>
    have hmistaken : s.Mistaken p (.rollbackToPrevious key actor uuid) := by
      intro input hinput
      rw [hrequest] at hinput
      cases hinput
    obtain ⟨unavailable, rfl, hcode⟩ := rollbackRequest_error hrequest
    constructor
    · rintro (⟨conflict, hconflict, hthrew⟩ | ⟨-, hreplays⟩)
      · simp only [Prod.mk.injEq, PromotionReply.threw.injEq, DeliveryError.promotion.injEq] at hthrew
        rw [← hthrew.1, hcode] at hconflict
        cases hconflict
      · rcases hreplays.reply with hreply | hreply <;> cases hreply
    · exact fun hkept => absurd hmistaken hkept
  | ok input =>
    obtain ⟨-, -, -, hinput, -⟩ := rollbackRequest_ok hrequest
    have hmistaken : s.Mistaken p (.rollbackToPrevious key actor uuid) ↔ s.Confuses p input := by
      constructor
      · exact fun hmistaken => hmistaken input hrequest
      · intro hconfuses input' hrequest'
        rw [hrequest] at hrequest'
        cases hrequest'
        exact hconfuses
    rw [hmistaken]
    exact promote_kept_iff (hinput ▸ hbound) (asks_iff_rollsBack hrequest).symm

/-- **A bound key is kept exactly when it is not mistaken.** -/
theorem key_kept_iff {planDigest : MigrationPlanBody → String} {op : PromotionOperation}
    {key : String} (hkey : op.key = some key) (hbound : s.Bound key p) :
    s.KeyKept p op (step planDigest op s) ↔ ¬ s.Mistaken p op := by
  cases op with
  | requestPromotion input uuid =>
    cases hkey
    refine requested_kept_iff uuid hbound Iff.rfl ?_ ?_
    · intro error hrequest
      simp only [step, request, hrequest]
    · intro hrequest
      simp only [step, request, hrequest]
      exact ⟨.inl rfl, .inl rfl, fun hexecutes => absurd hexecutes id⟩
  | promote input uuid =>
    cases hkey
    exact promote_kept_iff hbound Iff.rfl
  | retryPromotion input =>
    cases hkey
    exact ⟨fun _ => id, fun _ => retryPromotion_kept hbound⟩
  | rollbackToPrevious idempotencyKey actor uuid =>
    cases hkey
    exact rollbackToPrevious_kept_iff hbound
  | registerRelease => cases hkey
  | answer => cases hkey
  | finish => cases hkey
  | cleanup => cases hkey

end WorkerPromotionCoordinator

/-! ## The key of an earlier Promotion -/

namespace Sample

open WorkerPromotionCoordinator

def rollbackUnder (key uuid : String) : PromotionOperation := .rollbackToPrevious key actor uuid

/-- Release `b` was promoted after Release `a`. -/
def upgraded : List PromotionOperation :=
  [register "a", register "b"] ++ promoted "a" "1" ++ promoted "b" "2"

/-- A rollback whose record is on file and that comes again. -/
def rollingBack : WorkerPromotionCoordinator := (ran (upgraded ++ [rollbackUnder "3" "3"])).2

end Sample

open Sample WorkerPromotionCoordinator in
/-- The rollback that comes again is the one that runs. -/
theorem rollback_key_kept : ∃ p, rollingBack.Bound "3" p ∧
    rollingBack.KeyKept p (rollbackUnder "3" "4") (step planDigest (rollbackUnder "3" "4") rollingBack) := by
  have hp : ∃ p, rollingBack.promotions.get? "promotion:3" = some p ∧
      ∀ input ∈ (rollingBack.rollbackRequest "3" actor).toOption,
        p.kind = .rollback ∧ input.kind = some .rollback ∧
        p.rollbackOfPromotionId = truthy input.rollbackOfPromotionId ∧
        ∀ expected ∈ input.expectedCurrentReleaseId, p.expectedCurrentReleaseId = expected := by
    refine ⟨_, rfl, ?_⟩
    decide +kernel
  obtain ⟨p, hget, hsame⟩ := hp
  have hbound : rollingBack.Bound "3" p := ⟨"promotion:3", by decide +kernel, hget⟩
  refine ⟨p, hbound, (key_kept_iff rfl hbound).mpr fun hmistaken => ?_⟩
  have hinput : ∃ input, rollingBack.rollbackRequest "3" actor = .ok input := ⟨_, rfl⟩
  obtain ⟨input, hinput⟩ := hinput
  obtain ⟨hkind, hrollback, hof, hexpected⟩ := hsame input (by rw [hinput]; rfl)
  obtain ⟨-, -, hother | hother | ⟨expected, hmem, hother⟩⟩ := hmistaken input hinput
  · exact hother (by rw [hkind, hrollback]; rfl)
  · exact hother hof
  · exact hother (hexpected expected hmem)

open Sample WorkerPromotionCoordinator in
/-- A rollback under the key of an earlier Promotion of the previous Release returns that
Promotion, `healthy`, and rolls nothing back. -/
theorem rollback_returns_promotion : ∃ p, (ran upgraded).2.Bound "1" p ∧
    p.kind = .promotion ∧ p.state = .healthy ∧
    step planDigest (rollbackUnder "1" "3") (ran upgraded).2 = (.promotion p, (ran upgraded).2) ∧
    ¬ (ran upgraded).2.KeyKept p (rollbackUnder "1" "3")
      (step planDigest (rollbackUnder "1" "3") (ran upgraded).2) := by
  have hp : ∃ p, (ran upgraded).2.promotions.get? "promotion:1" = some p ∧
      p.kind = .promotion ∧ p.state = .healthy ∧
      step planDigest (rollbackUnder "1" "3") (ran upgraded).2 = (.promotion p, (ran upgraded).2) := by
    refine ⟨_, rfl, ?_, ?_, rfl⟩
    · decide +kernel
    · decide +kernel
  obtain ⟨p, hget, hkind, hstate, hstep⟩ := hp
  refine ⟨p, ⟨"promotion:1", by decide +kernel, hget⟩, hkind, hstate, hstep, ?_⟩
  rintro (⟨error, -, hthrew⟩ | ⟨⟨current, hrolls⟩, -⟩)
  · rw [hstep] at hthrew
    cases hthrew
  · have hrollback := hrolls.kind
    rw [hkind] at hrollback
    cases hrollback

end Anyam.Delivery
