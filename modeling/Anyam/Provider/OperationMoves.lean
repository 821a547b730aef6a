import Anyam.Provider.Operation

/-!
# What the methods of the coordinator put

However the calls of a coordinator are interleaved, a step puts the first record of an operation
where there is none, or a record that follows from the one that is there by one of six ways. Between
its steps a call relies on one thing: what was put and what was answered stays so.

- `Follows`: the ways in which a record follows from the one it replaces.
- `Moves`: what one step does to the store and the provider.
- `keeps_program`, **`reached_moves`**: every method keeps to `Moves`, and so does every run.
-/

namespace Anyam.Provider.Operation

open Anyam.Lib CustomerProviderQualificationCoordinator

/-- A run may be one in which only some answers are given to a request. -/
abbrev Given := Request → Answer → Prop

/-- The ways in which a record follows from the one it replaces. -/
inductive Follows (coordinator : CustomerProviderQualificationCoordinator) (given' : Given)
    (calls : List ProviderCall) (record : CustomerProviderOperationRecord) : StoredRecord → Prop
  /-- A new attempt. -/
  | resumed (now : String) (hresumable : IsResumable record)
    (hgiven : ∃ answer, given' (.put (coordinator.pendingRecord record now)) answer) :
    Follows coordinator given' calls record { record := coordinator.pendingRecord record now }
  | failed (observation : CustomerProviderOperationObservation) (now : String)
    (hpending : record.state = .pending) (hrefused : observation.status ≠ .accepted) :
    Follows coordinator given' calls record
      { record := coordinator.failedRecord record observation now }
  | unverified (observation : CustomerProviderOperationObservation)
    (readBack : CustomerProviderReadBack) (now : String) (hpending : record.state = .pending) :
    Follows coordinator given' calls record
      { record := coordinator.indeterminateRecord record observation readBack now }
  | completed (observation : CustomerProviderOperationObservation)
    (readBack : CustomerProviderReadBack) (now : String) (hpending : record.state = .pending)
    (hverified : ¬ Unverified observation readBack)
    (hgiven : ∃ answer, answer.readBack = .ok readBack ∧
      given' (.readBack record (given observation.outputDigest) false) answer)
    (hcall : .readBack record.operationId (.ok readBack) ∈ calls) :
    Follows coordinator given' calls record
      { record := coordinator.completedRecord record observation readBack now }
  | calledBack (input : CallbackInput) (readBack : CustomerProviderReadBack) (now : String)
    (hexpected : Expected input record)
    (hpresent : readBack.status = .present ∧ (given readBack.digest).isSome)
    (hgiven : ∃ answer, answer.readBack = .ok readBack ∧
      given' (.readBack record (given input.outputDigest) true) answer)
    (hcall : .readBack record.operationId (.ok readBack) ∈ calls) :
    Follows coordinator given' calls record {
      record := coordinator.callbackRecord record input readBack now
      callback := some input.expectedStateDigest }
  | cleaned (receipt : CustomerProviderCleanupReceipt) (now : String) :
    Follows coordinator given' calls record
      { record := coordinator.cleanedRecord record receipt now }

/-- The record was put at some time. -/
def World.Knows (world : World) (record : CustomerProviderOperationRecord) : Prop :=
  ∃ stored ∈ world.history, stored.record = record

/-- What one step does. -/
inductive Moves (coordinator : CustomerProviderQualificationCoordinator) (given' : Given)
    (world : World) : World → Prop
  | same : Moves coordinator given' world world
  | called (call : ProviderCall) :
    Moves coordinator given' world { world with calls := world.calls ++ [call] }
  | created (input : CustomerProviderOperationInput) (now : String)
    (hnone : world.records.get? input.operationId = none) :
    Moves coordinator given' world
      (world.store { record := coordinator.host.initialRecord input now })
  | replaced (record : CustomerProviderOperationRecord) (stored : StoredRecord)
    (hknown : world.Knows record)
    (hexpects : world.Expects record.operationId (some record.checkpoint.stateDigest))
    (hfollows : Follows coordinator given' world.calls record stored) :
    Moves coordinator given' world (world.store stored)

/-- What was put and what was answered stays so. -/
structure Grows (world world' : World) : Prop where
  history : world.history <+: world'.history
  calls : world.calls <+: world'.calls

instance : Std.Refl Grows where
  refl _ := ⟨List.prefix_rfl, List.prefix_rfl⟩

instance : IsTrans World Grows where
  trans _ _ _ h h' := ⟨h.history.trans h'.history, h.calls.trans h'.calls⟩

theorem Grows.trans {world₁ world₂ world₃ : World} (h : Grows world₁ world₂)
    (h' : Grows world₂ world₃) : Grows world₁ world₃ := Trans.trans h h'

/-- The store has records that were put, under their own ids. -/
def Recorded (world : World) : Prop :=
  ∀ operationId record, world.records.get? operationId = some record →
    record.operationId = operationId ∧ world.Knows record

variable {coordinator : CustomerProviderQualificationCoordinator} {given' : Given}
  {world world' : World} {record : CustomerProviderOperationRecord} {stored : StoredRecord}

theorem World.Knows.grows (h : world.Knows record) (hgrows : Grows world world') :
    world'.Knows record := by
  obtain ⟨stored, hmem, hrecord⟩ := h
  exact ⟨stored, hgrows.history.subset hmem, hrecord⟩

theorem Follows.operationId {calls : List ProviderCall}
    (h : Follows coordinator given' calls record stored) :
    stored.record.operationId = record.operationId := by
  cases h <;> rfl

theorem Moves.grows (h : Moves coordinator given' world world') : Grows world world' := by
  cases h with
  | same => exact refl world
  | called => exact ⟨List.prefix_rfl, List.prefix_append _ _⟩
  | created | replaced => exact ⟨List.prefix_append _ _, List.prefix_rfl⟩

theorem Recorded.store (h : Recorded world) : Recorded (world.store stored) := by
  intro operationId record hget
  change (world.records.set stored.record.operationId stored.record).get? operationId = some record
    at hget
  by_cases hid : operationId = stored.record.operationId
  · subst hid
    rw [OrderedMap.get?_set_self] at hget
    obtain rfl := Option.some.inj hget
    exact ⟨rfl, stored, List.mem_append_right _ (List.mem_singleton_self _), rfl⟩
  · rw [OrderedMap.get?_set_ne _ _ hid] at hget
    obtain ⟨hown, hknown⟩ := h operationId record hget
    exact ⟨hown, hknown.grows ⟨List.prefix_append _ _, List.prefix_rfl⟩⟩

/-- What a call relies on between its steps, and what its steps do. -/
def contract (coordinator : CustomerProviderQualificationCoordinator) (given' : Given) :
    Process.Contract Request World Answer where
  inv := Recorded
  rely := Grows
  guar := Moves coordinator given'
  admits request answer _ := given' request answer

instance : Std.Refl (contract coordinator given').rely := inferInstanceAs (Std.Refl Grows)

instance : IsTrans World (contract coordinator given').rely := inferInstanceAs (IsTrans World Grows)

/-! ## The steps -/

section

variable {τ : Type} {Q : Except CustomerProviderOperationError τ → World → Prop}

theorem keeps_clock {f : String → Method τ}
    (h : ∀ now world', Grows world world' → Recorded world' →
      (f now).Keeps (contract coordinator given') Q world') :
    (clock >>= f).Keeps (contract coordinator given') Q world := by
  refine Process.keeps_access fun answer world' hgrows hinv _ => ?_
  exact ⟨hinv, .same, h answer.now world' hgrows hinv⟩

theorem keeps_get {operationId : String} {f : Option CustomerProviderOperationRecord → Method τ}
    (h : ∀ found world', Grows world world' → Recorded world' →
      (∀ record, found = some record → record.operationId = operationId ∧ world'.Knows record) →
        (f found).Keeps (contract coordinator given') Q world') :
    (get operationId >>= f).Keeps (contract coordinator given') Q world := by
  refine Process.keeps_access fun answer world' hgrows hinv _ => ⟨hinv, .same, ?_⟩
  exact h _ world' hgrows hinv fun record hfound => hinv operationId record hfound

theorem keeps_called {ρ : Type} {request : Request} {call : Answer → ProviderCall}
    {value : Answer → ρ} {f : ρ → Method τ}
    (h : ∀ answer world', Grows world world' → Recorded world' → given' request answer →
      call answer ∈ world'.calls →
        (f (value answer)).Keeps (contract coordinator given') Q world') :
    (Process.access request (fun answer world =>
      (value answer, { world with calls := world.calls ++ [call answer] })) >>= f).Keeps
        (contract coordinator given') Q world := by
  refine Process.keeps_access fun answer world' hgrows hinv hgiven => ?_
  have hmove : Moves coordinator given' world'
      { world' with calls := world'.calls ++ [call answer] } := .called _
  have hkept : Recorded { world' with calls := world'.calls ++ [call answer] } := hinv
  exact ⟨hkept, hmove, h answer _ (hgrows.trans hmove.grows) hkept hgiven
    (List.mem_append_right _ (List.mem_singleton_self _))⟩

/-- A put that goes through is a move, and what it put is known from then on. -/
theorem keeps_put {expected : Option String} {f : Unit → Method τ} (hinv : Recorded world)
    (hmove : ∀ answer world', Grows world world' → given' (.put stored.record) answer →
      world'.Expects stored.record.operationId expected →
        Moves coordinator given' world' (world'.store stored))
    (herror : ∀ e world', Q (.error e) world')
    (h : ∀ world', Grows world world' → Recorded world' → world'.Knows stored.record →
      (f ()).Keeps (contract coordinator given') Q world') :
    (put stored expected >>= f).Keeps (contract coordinator given') Q world := by
  refine Process.keeps_bind (C := contract coordinator given')
    (R := fun _ world' => Grows world world' ∧ world'.Knows stored.record) hinv ?_
    fun _ world' hinv' hput => h world' hput.1 hinv' hput.2
  refine Process.keeps_access fun answer world' hgrows hinv' hgiven => ?_
  by_cases hexpects : world'.Expects stored.record.operationId expected
  · have hmoved := hmove answer world' hgrows hgiven hexpects
    have hstored : (world'.store stored).Knows stored.record :=
      ⟨stored, List.mem_append_right _ (List.mem_singleton_self _), rfl⟩
    simp only [if_pos hexpects]
    refine ⟨hinv'.store, hmoved, fun world'' hlater _ => ?_⟩
    exact ⟨(hgrows.trans hmoved.grows).trans hlater, hstored.grows hlater⟩
  · simp only [if_neg hexpects]
    exact ⟨hinv', .same, fun world'' _ _ => herror _ world''⟩

end

/-! ## The methods -/

variable {Q : Except CustomerProviderOperationError CustomerProviderOperationRecord → World → Prop}

/-- A record is replaced by one that follows from it. -/
theorem keeps_replace (hQ : ∀ result world, Q result world) (hinv : Recorded world)
    (hknown : world.Knows record)
    (hfollows : ∀ answer, given' (.put stored.record) answer →
      Follows coordinator given' world.calls record stored) :
    (replace record stored).Keeps (contract coordinator given') Q world := by
  refine keeps_put hinv (fun answer world' hgrows hput hexpects => ?_) (fun e => hQ _)
    fun world' _ _ _ => Process.keeps_pure fun world'' _ _ => hQ _ world''
  have hfollows := hfollows answer hput
  rw [hfollows.operationId] at hexpects
  refine .replaced record stored (hknown.grows hgrows) hexpects ?_
  -- what was answered stays answered
  cases hfollows with
  | resumed now hresumable hgiven => exact .resumed now hresumable hgiven
  | failed observation now hpending hrefused => exact .failed observation now hpending hrefused
  | unverified observation readBack now hpending =>
    exact .unverified observation readBack now hpending
  | completed observation readBack now hpending hverified hgiven hcall =>
    exact .completed observation readBack now hpending hverified hgiven
      (hgrows.calls.subset hcall)
  | calledBack input readBack now hexpected hpresent hgiven hcall =>
    exact .calledBack input readBack now hexpected hpresent hgiven (hgrows.calls.subset hcall)
  | cleaned receipt now => exact .cleaned receipt now

theorem keeps_execute (hQ : ∀ result world, Q result world) (hknown : world.Knows record)
    (hpending : record.state = .pending) :
    (coordinator.execute record).Keeps (contract coordinator given') Q world := by
  unfold CustomerProviderQualificationCoordinator.execute adapterExecute
  refine keeps_called fun answer world₁ hgrows₁ _ _ _ => ?_
  dsimp only
  generalize observationOf record answer.execute = observation
  have hknown₁ := hknown.grows hgrows₁
  split
  next hrefused =>
    refine keeps_clock fun now world₂ hgrows₂ hinv₂ => ?_
    exact keeps_replace hQ hinv₂ (hknown₁.grows hgrows₂) fun _ _ =>
      .failed observation now hpending hrefused
  next =>
    unfold adapterReadBack
    refine keeps_called fun answer world₂ hgrows₂ _ hgiven hcall => ?_
    refine keeps_clock fun now world₃ hgrows₃ hinv₃ => ?_
    have hknown₃ := (hknown₁.grows hgrows₂).grows hgrows₃
    split
    next => exact keeps_replace hQ hinv₃ hknown₃ fun _ _ => .unverified observation _ now hpending
    next hverified =>
      cases hanswer : answer.readBack with
      | error name =>
        -- a read-back that throws verifies nothing
        rw [hanswer] at hverified
        exact absurd (.inl (by simp [readBackOf, exceptionReadBack])) hverified
      | ok readBack =>
        rw [hanswer] at hverified hcall
        rw [readBackOf]
        exact keeps_replace hQ hinv₃ hknown₃ fun _ _ => .completed observation readBack now hpending
          hverified ⟨answer, hanswer, hgiven⟩ (hgrows₃.calls.subset hcall)

theorem keeps_requireRecord {operationId : String} {τ : Type}
    {Q : Except CustomerProviderOperationError τ → World → Prop}
    {f : CustomerProviderOperationRecord → Method τ}
    (herror : ∀ e world', Q (.error e) world')
    (h : ∀ record world', Recorded world' → world'.Knows record →
      (f record).Keeps (contract coordinator given') Q world') :
    (requireRecord operationId >>= f).Keeps (contract coordinator given') Q world := by
  rw [requireRecord, get_bind_bind]
  refine keeps_get fun found world' _ hinv hfound => ?_
  cases found with
  | none => exact fun world'' _ _ => herror _ world''
  | some record => exact h record world' hinv (hfound record rfl).2

theorem keeps_run (hQ : ∀ result world, Q result world) (input : CustomerProviderOperationInput)
    (world : World) :
    (coordinator.run input).Keeps (contract coordinator given') Q world := by
  refine Process.keeps_ofExcept (fun _ _ => ?_) fun e _ world' _ _ => hQ _ world'
  refine Process.keeps_require (fun _ => ?_) fun _ world' _ _ => hQ _ world'
  refine keeps_get fun found world₁ _ _ hfound => ?_
  cases found with
  | some existing =>
    refine Process.keeps_require (fun _ => ?_) fun _ world' _ _ => hQ _ world'
    refine Process.keeps_require (fun _ => ?_) fun _ world' _ _ => hQ _ world'
    exact Process.keeps_pure fun world' _ _ => hQ _ world'
  | none =>
    refine keeps_clock fun now world₂ _ hinv₂ => ?_
    refine keeps_put hinv₂ (fun _ world₃ _ _ hexpects => ?_) (fun e => hQ _)
      fun world₃ _ _ hknown => keeps_execute hQ hknown rfl
    exact .created input now (Option.map_eq_none_iff.mp hexpects)

theorem keeps_resume (hQ : ∀ result world, Q result world) (operationId : String)
    (authorization : CustomerProviderOwnerAuthorization) (world : World) :
    (coordinator.resume operationId authorization).Keeps (contract coordinator given') Q world := by
  refine keeps_requireRecord (fun e => hQ _) fun record world₁ _ hknown => ?_
  refine Process.keeps_require (fun _ => ?_) fun _ world' _ _ => hQ _ world'
  split
  · exact Process.keeps_pure fun world' _ _ => hQ _ world'
  · split
    next hpending => exact keeps_execute hQ hknown hpending
    next =>
      refine Process.keeps_require (fun hresumable => ?_) fun _ world' _ _ => hQ _ world'
      refine keeps_clock fun now world₂ hgrows₂ hinv₂ => ?_
      refine keeps_put hinv₂ (fun answer world₃ hgrows₃ hgiven hexpects => ?_) (fun e => hQ _)
        fun world₃ _ _ hpending => keeps_execute hQ hpending rfl
      exact .replaced record _ ((hknown.grows hgrows₂).grows hgrows₃) hexpects
        (.resumed now hresumable ⟨answer, hgiven⟩)

theorem keeps_acceptCallback (hQ : ∀ result world, Q result world) (input : CallbackInput)
    (world : World) :
    (coordinator.acceptCallback input).Keeps (contract coordinator given') Q world := by
  refine keeps_requireRecord (fun e => hQ _) fun record world₁ _ hknown => ?_
  refine Process.keeps_require (fun _ => ?_) fun _ world' _ _ => hQ _ world'
  split
  · exact Process.keeps_pure fun world' _ _ => hQ _ world'
  next hexpected =>
    refine Process.keeps_require (fun _ => ?_) fun _ world' _ _ => hQ _ world'
    unfold adapterReadBack
    refine keeps_called fun answer world₂ hgrows₂ _ hgiven hcall => ?_
    refine Process.keeps_ofExcept (fun readBack hreadBack => ?_) fun e _ world' _ _ => hQ _ world'
    refine Process.keeps_require (fun hpresent => ?_) fun _ world' _ _ => hQ _ world'
    refine keeps_clock fun now world₃ hgrows₃ hinv₃ => ?_
    have hanswer : answer.readBack = .ok readBack := by
      cases h : answer.readBack with
      | error name => rw [h] at hreadBack; cases hreadBack
      | ok found => rw [h] at hreadBack; cases hreadBack; rfl
    rw [hanswer] at hcall
    exact keeps_replace hQ hinv₃ ((hknown.grows hgrows₂).grows hgrows₃) fun _ _ =>
      .calledBack input readBack now (not_not.mp hexpected) hpresent ⟨answer, hanswer, hgiven⟩
        (hgrows₃.calls.subset hcall)

theorem keeps_cleanup (hQ : ∀ result world, Q result world) (operationId : String)
    (authorization : CustomerProviderOwnerAuthorization) (world : World) :
    (cleanup coordinator operationId authorization).Keeps (contract coordinator given') Q world := by
  refine keeps_requireRecord (fun e => hQ _) fun record world₁ _ hknown => ?_
  refine Process.keeps_require (fun _ => ?_) fun _ world' _ _ => hQ _ world'
  split
  · exact Process.keeps_pure fun world' _ _ => hQ _ world'
  next =>
    unfold adapterCleanup
    refine keeps_called fun answer world₂ hgrows₂ _ _ _ => ?_
    refine Process.keeps_ofExcept (fun receipt _ => ?_) fun e _ world' _ _ => hQ _ world'
    refine keeps_clock fun now world₃ hgrows₃ hinv₃ => ?_
    exact keeps_replace hQ hinv₃ ((hknown.grows hgrows₂).grows hgrows₃) fun _ _ =>
      .cleaned receipt now

theorem keeps_program (hQ : ∀ result world, Q result world) (call : Call) (world : World) :
    (coordinator.program call).Keeps (contract coordinator given') Q world := by
  cases call with
  | run input => exact keeps_run hQ input world
  | resume operationId authorization => exact keeps_resume hQ operationId authorization world
  | acceptCallback input => exact keeps_acceptCallback hQ input world
  | cleanup operationId authorization => exact keeps_cleanup hQ operationId authorization world

/-! ## Runs -/

abbrev CoordinatorPool :=
  Pool Call Request World Answer CustomerProviderOperationError CustomerProviderOperationRecord

/-- The interleaved runs of a coordinator with an empty store, with some answers. -/
abbrev CoordinatorRun (coordinator : CustomerProviderQualificationCoordinator) (given' : Given) :=
  Run (Pool.step coordinator.program) (Pool.Admits fun request answer _ => given' request answer)
    { shared := {} }

/-- **Every step of a run is a move.** -/
theorem reached_moves {tr : List (Transition CoordinatorPool (PoolOp Call Answer)
      (Option (Except CustomerProviderOperationError CustomerProviderOperationRecord)))}
    {pool : CoordinatorPool} (hrun : CoordinatorRun coordinator given' tr pool) :
    Recorded pool.shared ∧ ∀ t ∈ tr, Moves coordinator given' t.pre.shared t.post.shared := by
  obtain ⟨hkept, hsteps⟩ := Pool.run_keeps (C := contract coordinator given')
    (Q := fun _ _ _ => True) (fun h => Moves.grows h)
    (fun call world _ => keeps_program (fun _ _ => trivial) call world)
    (show Recorded {} from fun _ _ h => by rw [OrderedMap.get?_empty] at h; cases h)
    hrun
  refine ⟨hkept.inv, fun t ht => ?_⟩
  rcases (hsteps t ht).shared with hshared | hguar
  · rw [hshared]
    exact .same
  · exact hguar

end Anyam.Provider.Operation
