import Anyam.Provider.OperationRecovery

/-!
# Cleanups of provider operations

A cleanup that succeeded stays on the record of its operation, and a later cleanup only returns it.
Methods that run one after another may still reopen the operation in between: a resume asks the
provider again, and keeps the cleanup of the record. So a reported cleanup is the last thing that
happened to the operation at its provider as long as no cleaned operation was resumed, and never is
it after one was.

- `coordinatorStep`: a method that runs alone.
- `Effect`, `program_effect`: what a method does to one operation and its provider.
- **`cleanedLast_iff`**: when a reported cleanup is clean.
-/

namespace Anyam.Provider.Operation

open Anyam.Lib CustomerProviderQualificationCoordinator

/-- A call, with what its steps are answered in turn. -/
structure CoordinatorOperation where
  call : Call
  answers : Nat → Answer

def coordinatorStep (coordinator : CustomerProviderQualificationCoordinator)
    (op : CoordinatorOperation) (world : World) :
    Except CustomerProviderOperationError CustomerProviderOperationRecord × World :=
  (coordinator.program op.call).exec op.answers world

/-- The record of the operation has a cleanup that succeeded. -/
def World.Cleaned (world : World) (operationId : String) : Prop :=
  ∃ record, world.records.get? operationId = some record ∧ IsCleaned record

/-- A resume that asks the provider again about an operation that was cleaned. -/
def Reopens (operationId : String) (world : World) (call : Call) : Prop :=
  ∃ authorization record, call = .resume operationId authorization ∧
    world.records.get? operationId = some record ∧ IsCleaned record ∧
    Owns authorization record ∧ (record.state = .pending ∨ IsResumable record)

/-- The provider was cleaned after it was last asked to execute the operation. -/
def CleanedLast (operationId : String) (calls : List ProviderCall) : Prop :=
  ∃ before receipt after, calls = before ++ .cleanup operationId (.ok receipt) :: after ∧
    receipt.status = .succeeded ∧ ∀ answer, .execute operationId answer ∉ after

/-- A call of an adapter that executes or cleans the operation. -/
def Touches (operationId : String) (call : ProviderCall) : Prop :=
  (∃ answer, call = .execute operationId answer) ∨ ∃ answer, call = .cleanup operationId answer

/-! ## Calls of the provider -/

section

variable {operationId : String} {calls extra : List ProviderCall}

theorem CleanedLast.append (h : CleanedLast operationId calls)
    (hextra : ∀ answer, .execute operationId answer ∉ extra) :
    CleanedLast operationId (calls ++ extra) := by
  obtain ⟨before, receipt, after, rfl, hstatus, hafter⟩ := h
  refine ⟨before, receipt, after ++ extra, by simp, hstatus, fun answer hmem => ?_⟩
  rcases List.mem_append.mp hmem with hold | hnew
  · exact hafter answer hold
  · exact hextra answer hnew

/-- Without a cleanup among them, further calls do not clean. -/
theorem CleanedLast.of_append (h : CleanedLast operationId (calls ++ extra))
    (hextra : ∀ answer, .cleanup operationId answer ∉ extra) :
    CleanedLast operationId calls ∧ ∀ answer, .execute operationId answer ∉ extra := by
  obtain ⟨before, receipt, after, hsplit, hstatus, hafter⟩ := h
  rcases List.append_eq_append_iff.mp hsplit with ⟨middle, hbefore, hextra'⟩ | ⟨middle, hcalls, hafter'⟩
  · -- the cleanup would be one of the further calls
    refine absurd ?_ (hextra (.ok receipt))
    rw [hextra']
    exact List.mem_append_right _ List.mem_cons_self
  · cases middle with
    | nil =>
      rw [List.nil_append] at hafter'
      refine absurd ?_ (hextra (.ok receipt))
      rw [← hafter']
      exact List.mem_cons_self
    | cons call middle =>
      obtain ⟨rfl, rfl⟩ := List.cons.inj hafter'
      refine ⟨⟨before, receipt, middle, hcalls, hstatus, fun answer hmem => ?_⟩,
        fun answer hmem => ?_⟩
      · exact hafter answer (List.mem_append_left _ hmem)
      · exact hafter answer (List.mem_append_right _ hmem)

end

/-! ## Methods that run alone -/

/-- Records are filed under their own ids. -/
def World.Keyed (world : World) : Prop := OrderedMap.SelfKeyed (·.operationId) world.records

/-- Nothing happens between the steps of a method that runs alone. -/
def alone : Process.Contract Request World Answer where
  inv := World.Keyed
  rely := Eq
  guar _ _ := True
  admits _ _ _ := True

instance : Std.Refl alone.rely := ⟨fun _ => rfl⟩

section

variable {τ : Type} {Q : Except CustomerProviderOperationError τ → World → Prop} {world : World}

theorem alone_pure {a : τ} (h : Q (.ok a) world) :
    (pure a : Method τ).Keeps alone Q world := by
  rintro _ rfl _
  exact h

theorem alone_throw {e : CustomerProviderOperationError} (h : Q (.error e) world) :
    (Process.throw e : Method τ).Keeps alone Q world := by
  rintro _ rfl _
  exact h

theorem alone_require {φ : Prop} [Decidable φ] {e : CustomerProviderOperationError}
    {f : Unit → Method τ} (hok : φ → (f ()).Keeps alone Q world)
    (herror : ¬ φ → Q (.error e) world) :
    (Process.require φ e >>= f).Keeps alone Q world := by
  refine Process.keeps_require hok fun hnot world' hrely _ => ?_
  obtain rfl : world = world' := hrely
  exact herror hnot

theorem alone_ofExcept {ρ : Type} {result : Except CustomerProviderOperationError ρ}
    {f : ρ → Method τ} (hok : ∀ a, result = .ok a → (f a).Keeps alone Q world)
    (herror : ∀ e, result = .error e → Q (.error e) world) :
    (Process.ofExcept result >>= f).Keeps alone Q world := by
  refine Process.keeps_ofExcept hok fun e he world' hrely _ => ?_
  obtain rfl : world = world' := hrely
  exact herror e he

theorem alone_clock {f : String → Method τ} (h : ∀ now, (f now).Keeps alone Q world) :
    (clock >>= f).Keeps alone Q world := by
  refine Process.keeps_access fun answer world' hrely hkeyed _ => ?_
  obtain rfl : world = world' := hrely
  exact ⟨hkeyed, trivial, h answer.now⟩

theorem alone_get {operationId : String} {f : Option CustomerProviderOperationRecord → Method τ}
    (h : world.Keyed → (f (world.records.get? operationId)).Keeps alone Q world) :
    (get operationId >>= f).Keeps alone Q world := by
  refine Process.keeps_access fun answer world' hrely hkeyed _ => ?_
  obtain rfl : world = world' := hrely
  exact ⟨hkeyed, trivial, h hkeyed⟩

theorem alone_called {ρ : Type} {request : Request} {call : Answer → ProviderCall}
    {value : Answer → ρ} {f : ρ → Method τ}
    (h : ∀ answer, (f (value answer)).Keeps alone Q
      { world with calls := world.calls ++ [call answer] }) :
    (Process.access request (fun answer world =>
      (value answer, { world with calls := world.calls ++ [call answer] })) >>= f).Keeps alone Q
        world := by
  refine Process.keeps_access fun answer world' hrely hkeyed _ => ?_
  obtain rfl : world = world' := hrely
  exact ⟨hkeyed, trivial, h answer⟩

/-- The record that a put expects is the one that is there. -/
theorem alone_put {stored : StoredRecord} {expected : Option String} {f : Unit → Method τ}
    (hexpects : world.Expects stored.record.operationId expected)
    (h : (f ()).Keeps alone Q (world.store stored)) :
    (put stored expected >>= f).Keeps alone Q world := by
  show (Process.access (.put stored.record) _ >>= fun result =>
    Process.ofExcept result >>= f).Keeps alone Q world
  refine Process.keeps_access fun answer world' hrely hkeyed _ => ?_
  obtain rfl : world = world' := hrely
  simp only [if_pos hexpects]
  exact ⟨OrderedMap.SelfKeyed.set hkeyed rfl, trivial, h⟩

theorem alone_requireRecord {operationId : String} {f : CustomerProviderOperationRecord → Method τ}
    (herror : ∀ e, world.records.get? operationId = none → Q (.error e) world)
    (h : ∀ record, world.records.get? operationId = some record →
      record.operationId = operationId → (f record).Keeps alone Q world) :
    (requireRecord operationId >>= f).Keeps alone Q world := by
  rw [requireRecord, get_bind_bind]
  refine alone_get fun hkeyed => ?_
  cases hfound : world.records.get? operationId with
  | none => exact alone_throw (herror _ hfound)
  | some record => exact h record hfound (hkeyed _ _ hfound)

end

theorem expects_of_get? {world : World} {record : CustomerProviderOperationRecord}
    (hget : world.records.get? record.operationId = some record) :
    world.Expects record.operationId (some record.checkpoint.stateDigest) := by
  rw [World.Expects, hget]
  rfl

theorem alone_replace {Q : Except CustomerProviderOperationError CustomerProviderOperationRecord →
      World → Prop} {world : World} {record : CustomerProviderOperationRecord} {next : StoredRecord}
    (hget : world.records.get? record.operationId = some record)
    (hid : next.record.operationId = record.operationId)
    (h : Q (.ok next.record) (world.store next)) :
    (replace record next).Keeps alone Q world :=
  alone_put (hid ▸ expects_of_get? hget) (alone_pure h)

variable {coordinator : CustomerProviderQualificationCoordinator} {operationId : String}
  {world world' : World} {record : CustomerProviderOperationRecord}

/-- The record of one operation is replaced, by one with the same cleanup. -/
def Rewrites (record : CustomerProviderOperationRecord) (world world' : World) : Prop :=
  ∃ next : CustomerProviderOperationRecord, next.cleanup = record.cleanup ∧
    world'.records = world.records.set record.operationId next

/-- What an execution does. -/
structure Executed (record : CustomerProviderOperationRecord) (world world' : World) : Prop where
  calls : ∃ answer extra, world'.calls =
      world.calls ++ .execute record.operationId answer :: extra ∧
    ∀ call ∈ extra, ∃ answer, call = .readBack record.operationId answer
  records : Rewrites record world world'

theorem alone_execute {Q : Except CustomerProviderOperationError CustomerProviderOperationRecord →
      World → Prop} (hget : world.records.get? record.operationId = some record) (h : ∀ result world', Executed record world world' → Q result world') :
    (coordinator.execute record).Keeps alone Q world := by
  unfold CustomerProviderQualificationCoordinator.execute adapterExecute adapterReadBack
  refine alone_called fun answer => ?_
  dsimp only
  generalize observationOf record answer.execute = observation
  -- the record that is put keeps the cleanup
  have hput {world₁ : World} {extra : List ProviderCall} {next : StoredRecord}
      (hrecords : world₁.records = world.records)
      (hcalls : world₁.calls = world.calls ++ .execute record.operationId answer.execute :: extra)
      (hextra : ∀ call ∈ extra, ∃ answer, call = .readBack record.operationId answer)
      (hid : next.record.operationId = record.operationId)
      (hcleanup : next.record.cleanup = record.cleanup) :
      (replace record next).Keeps alone Q world₁ := by
    refine alone_replace (by rw [hrecords, hget]) hid ?_
    refine h _ _ ⟨⟨_, extra, hcalls, hextra⟩, next.record, hcleanup, ?_⟩
    show world₁.records.set next.record.operationId next.record = _
    rw [hrecords, hid]
  split
  · exact alone_clock fun now => @hput _ [] _ rfl rfl (by rintro _ ⟨⟩) rfl rfl
  · refine alone_called fun answer' => ?_
    have hcalls : (world.calls ++ [.execute record.operationId answer.execute]) ++
        [.readBack record.operationId answer'.readBack] =
          world.calls ++ .execute record.operationId answer.execute ::
            [.readBack record.operationId answer'.readBack] := by simp
    have hextra : ∀ call ∈ [ProviderCall.readBack record.operationId answer'.readBack],
        ∃ answer, call = .readBack record.operationId answer := by simp
    refine alone_clock fun now => ?_
    split
    · exact hput rfl hcalls hextra rfl rfl
    · exact hput rfl hcalls hextra rfl rfl

/-! ## What a method does to one operation -/

/-- What a method does to one operation and its provider. -/
inductive Effect (operationId : String) (world : World) (call : Call) : World → Prop
  | quiet (world' : World) (hcleaned : world'.Cleaned operationId ↔ world.Cleaned operationId)
    (hcalls : ∃ extra, world'.calls = world.calls ++ extra ∧
      ∀ call ∈ extra, ¬ Touches operationId call)
    (hreopens : ¬ Reopens operationId world call) : Effect operationId world call world'
  | executed (world' : World) (hcleaned : world'.Cleaned operationId ↔ world.Cleaned operationId)
    (hcalls : ∃ extra, world'.calls = world.calls ++ extra ∧
      (∃ answer, .execute operationId answer ∈ extra) ∧
        ∀ answer, .cleanup operationId answer ∉ extra)
    (hreopens : world.Cleaned operationId → Reopens operationId world call) :
    Effect operationId world call world'
  | cleaned (world' : World) (answer : Except String CustomerProviderCleanupReceipt)
    (hbefore : ¬ world.Cleaned operationId)
    (hcalls : world'.calls = world.calls ++ [.cleanup operationId answer])
    (hafter : world'.Cleaned operationId →
      ∃ receipt, answer = .ok receipt ∧ receipt.status = .succeeded) :
    Effect operationId world call world'

theorem cleaned_congr (h : world'.records = world.records) :
    world'.Cleaned operationId ↔ world.Cleaned operationId := by
  rw [World.Cleaned, World.Cleaned, h]

theorem cleaned_iff (hget : world.records.get? operationId = some record) :
    world.Cleaned operationId ↔ IsCleaned record := by
  rw [World.Cleaned, hget]
  exact ⟨fun ⟨found, hfound, hcleaned⟩ => Option.some.inj hfound ▸ hcleaned,
    fun hcleaned => ⟨record, rfl, hcleaned⟩⟩

/-- What is put for one operation does not clean another. -/
theorem cleaned_store {stored : StoredRecord} (hid : operationId ≠ stored.record.operationId) :
    (world.store stored).Cleaned operationId ↔ world.Cleaned operationId := by
  have hget : (world.store stored).records.get? operationId = world.records.get? operationId :=
    OrderedMap.get?_set_ne _ _ hid
  rw [World.Cleaned, World.Cleaned, hget]

/-- A rewritten record is cleaned as it was. -/
theorem Rewrites.cleaned (hget : world.records.get? record.operationId = some record)
    (h : Rewrites record world world') :
    world'.Cleaned operationId ↔ world.Cleaned operationId := by
  obtain ⟨next, hcleanup, hset⟩ := h
  by_cases hid : operationId = record.operationId
  · subst hid
    have hget' : world'.records.get? record.operationId = some next := by
      rw [hset, OrderedMap.get?_set_self]
    rw [cleaned_iff hget, cleaned_iff hget', IsCleaned, IsCleaned, hcleanup]
  · rw [World.Cleaned, World.Cleaned, hset, OrderedMap.get?_set_ne _ _ hid]

theorem quiet_of_records {call : Call} (hrecords : world'.records = world.records)
    (hcalls : world'.calls = world.calls) (hreopens : ¬ Reopens operationId world call) :
    Effect operationId world call world' :=
  .quiet world' (cleaned_congr hrecords) ⟨[], by rw [hcalls, List.append_nil], by rintro _ ⟨⟩⟩
    hreopens

/-- An execution of the record that the operation has. -/
theorem Executed.effect {call : Call} {start : World}
    (hcleaned : ∀ operationId, start.Cleaned operationId ↔ world.Cleaned operationId)
    (hcalls : start.calls = world.calls)
    (hget : start.records.get? record.operationId = some record)
    (hreopens : world.Cleaned record.operationId → Reopens record.operationId world call)
    (hother : ∀ operationId ≠ record.operationId, ¬ Reopens operationId world call)
    (h : Executed record start world') : Effect operationId world call world' := by
  obtain ⟨⟨answer, extra, hextra, hread⟩, hrecords⟩ := h
  have hkept : world'.Cleaned operationId ↔ world.Cleaned operationId :=
    (hrecords.cleaned hget).trans (hcleaned operationId)
  rw [hcalls] at hextra
  by_cases hid : operationId = record.operationId
  · subst hid
    refine .executed world' hkept ⟨_, hextra, ⟨answer, List.mem_cons_self⟩, fun answer' hmem => ?_⟩
      hreopens
    rcases List.mem_cons.mp hmem with heq | hmem
    · cases heq
    · obtain ⟨_, heq⟩ := hread _ hmem
      cases heq
  · refine .quiet world' hkept ⟨_, hextra, fun call hmem htouches => ?_⟩ (hother _ hid)
    rcases List.mem_cons.mp hmem with rfl | hmem
    · rcases htouches with ⟨_, heq⟩ | ⟨_, heq⟩ <;> cases heq
      exact hid rfl
    · obtain ⟨_, rfl⟩ := hread call hmem
      rcases htouches with ⟨_, heq⟩ | ⟨_, heq⟩ <;> cases heq

/-- A method that reopens nothing: it is no resume, or a resume of nothing that it would execute. -/
theorem not_reopens {call : Call}
    (h : ∀ authorization record, call = .resume operationId authorization →
      world.records.get? operationId = some record → Owns authorization record →
        ¬ (record.state = .pending ∨ IsResumable record)) :
    ¬ Reopens operationId world call := by
  rintro ⟨authorization, record, hcall, hget, -, howns, hstate⟩
  exact h authorization record hcall hget howns hstate

/-- A reply of a cleanup is that of a cleaned operation only if it is cleaned. -/
def Reports (call : Call) (result : Except CustomerProviderOperationError
    CustomerProviderOperationRecord) (world' : World) : Prop :=
  ∀ operationId authorization record, call = .cleanup operationId authorization →
    result = .ok record → IsCleaned record → world'.Cleaned operationId

theorem run_effect (input : CustomerProviderOperationInput) :
    (coordinator.run input).Keeps alone
      (fun _ world' => Effect operationId world (.run input) world') world := by
  have hquiet : Effect operationId world (.run input) world :=
    quiet_of_records rfl rfl (not_reopens (by rintro _ _ ⟨⟩))
  refine alone_ofExcept (fun _ _ => ?_) fun _ _ => hquiet
  refine alone_require (fun _ => ?_) fun _ => hquiet
  refine alone_get fun _ => ?_
  cases hfound : world.records.get? input.operationId with
  | some existing =>
    refine alone_require (fun _ => ?_) fun _ => hquiet
    refine alone_require (fun _ => ?_) fun _ => hquiet
    exact alone_pure hquiet
  | none =>
    refine alone_clock fun now => alone_put (Option.map_eq_none_iff.mpr hfound) ?_
    -- the first record of an operation is not cleaned
    obtain ⟨first, hfirst, hid, hnew⟩ : ∃ first, coordinator.host.initialRecord input now = first ∧
        first.operationId = input.operationId ∧ first.cleanup = none := ⟨_, rfl, rfl, rfl⟩
    rw [hfirst]
    rw [← hid] at hfound
    have hget : (world.store { record := first }).records.get? first.operationId = some first :=
      OrderedMap.get?_set_self _ _ _
    have hbefore : ¬ world.Cleaned first.operationId := by
      rintro ⟨_, hrecord, _⟩
      rw [hfound] at hrecord
      cases hrecord
    have hafter : ¬ (world.store { record := first }).Cleaned first.operationId := by
      rw [cleaned_iff hget, IsCleaned, hnew]
      rintro ⟨⟩
    have hcleaned (operationId : String) :
        (world.store { record := first }).Cleaned operationId ↔ world.Cleaned operationId := by
      by_cases hid : operationId = first.operationId
      · subst hid
        exact iff_of_false hafter hbefore
      · exact cleaned_store hid
    refine alone_execute hget fun _ world' hexecuted => ?_
    exact hexecuted.effect hcleaned rfl hget (fun hcleaned => absurd hcleaned hbefore)
      fun _ _ => not_reopens (by rintro _ _ ⟨⟩)

theorem resume_effect (resumedId : String) (authorization : CustomerProviderOwnerAuthorization) :
    (coordinator.resume resumedId authorization).Keeps alone
      (fun _ world' => Effect operationId world (.resume resumedId authorization) world') world := by
  -- nothing is reopened but by its owner, in a state to resume
  have hquiet (h : ∀ record, world.records.get? resumedId = some record →
      Owns authorization record → ¬ (record.state = .pending ∨ IsResumable record)) :
      Effect operationId world (.resume resumedId authorization) world := by
    refine quiet_of_records rfl rfl (not_reopens ?_)
    rintro _ record ⟨⟩ hget howns
    exact h record hget howns
  refine alone_requireRecord (fun _ hnone => hquiet (by simp [hnone])) fun record hget hid => ?_
  subst hid
  have hreopens (howns : Owns authorization record)
      (hstate : record.state = .pending ∨ IsResumable record)
      (hcleaned : world.Cleaned record.operationId) :
      Reopens record.operationId world (.resume record.operationId authorization) :=
    ⟨authorization, record, rfl, hget, (cleaned_iff hget).mp hcleaned, howns, hstate⟩
  have hother (operationId : String) (hne : operationId ≠ record.operationId) :
      ¬ Reopens operationId world (.resume record.operationId authorization) := by
    rintro ⟨_, _, hcall, -⟩
    cases hcall
    exact hne rfl
  refine alone_require (fun howns => ?_) fun hnot => hquiet (by simp [hget, hnot])
  split
  next hsucceeded =>
    refine alone_pure (hquiet ?_)
    simp [hget, hsucceeded, IsResumable]
  next hnotSucceeded =>
    split
    next hpending =>
      refine alone_execute hget fun _ world' hexecuted => ?_
      exact hexecuted.effect (fun _ => Iff.rfl) rfl hget (hreopens howns (.inl hpending)) hother
    next hnotPending =>
      refine alone_require (fun hresumable => ?_) fun hnot =>
        hquiet (by simp [hget, hnotPending, hnot])
      refine alone_clock fun now => alone_put (expects_of_get? hget) ?_
      let pending := coordinator.pendingRecord record now
      have hpending : (world.store { record := pending }).records.get? pending.operationId =
          some pending := OrderedMap.get?_set_self _ _ _
      have hrewrites : Rewrites record world (world.store { record := pending }) :=
        ⟨pending, rfl, rfl⟩
      refine alone_execute hpending fun _ world' hexecuted => ?_
      exact hexecuted.effect (fun _ => hrewrites.cleaned hget) rfl hpending
        (hreopens howns (.inr hresumable)) hother

theorem acceptCallback_effect (input : CallbackInput) :
    (coordinator.acceptCallback input).Keeps alone
      (fun _ world' => Effect operationId world (.acceptCallback input) world') world := by
  have hreopens : ¬ Reopens operationId world (.acceptCallback input) :=
    not_reopens (by rintro _ _ ⟨⟩)
  have hquiet : Effect operationId world (.acceptCallback input) world :=
    quiet_of_records rfl rfl hreopens
  refine alone_requireRecord (fun _ _ => hquiet) fun record hget hid => ?_
  refine alone_require (fun _ => ?_) fun _ => hquiet
  split
  · exact alone_pure hquiet
  · refine alone_require (fun _ => ?_) fun _ => hquiet
    unfold adapterReadBack
    refine alone_called fun answer => ?_
    -- a read-back neither executes nor cleans
    have hread {world' : World} (hcleaned : world'.Cleaned operationId ↔ world.Cleaned operationId)
        (hcalls : world'.calls =
          world.calls ++ [.readBack record.operationId answer.readBack]) :
        Effect operationId world (.acceptCallback input) world' := by
      refine .quiet world' hcleaned ⟨_, hcalls, fun call hmem htouches => ?_⟩ hreopens
      obtain rfl := List.mem_singleton.mp hmem
      rcases htouches with ⟨_, heq⟩ | ⟨_, heq⟩ <;> cases heq
    refine alone_ofExcept (fun readBack _ => ?_) fun _ _ => hread Iff.rfl rfl
    refine alone_require (fun _ => ?_) fun _ => hread Iff.rfl rfl
    refine alone_clock fun now => ?_
    rw [← hid] at hget
    refine alone_replace hget rfl (hread ?_ rfl)
    have hrewrites : Rewrites record world (({ world with calls := _ } : World).store {
        record := coordinator.callbackRecord record input readBack now
        callback := some input.expectedStateDigest }) :=
      ⟨coordinator.callbackRecord record input readBack now, rfl, rfl⟩
    exact hrewrites.cleaned hget

theorem cleanup_effect (cleanedId : String) (authorization : CustomerProviderOwnerAuthorization) :
    (cleanup coordinator cleanedId authorization).Keeps alone
      (fun result world' => Effect operationId world (.cleanup cleanedId authorization) world' ∧
        Reports (.cleanup cleanedId authorization) result world') world := by
  have hquiet : Effect operationId world (.cleanup cleanedId authorization) world :=
    quiet_of_records rfl rfl (not_reopens (by rintro _ _ ⟨⟩))
  have herror (e : CustomerProviderOperationError) (world' : World) :
      Reports (.cleanup cleanedId authorization) (.error e) world' := by rintro _ _ _ - ⟨⟩
  refine alone_requireRecord (fun _ _ => ⟨hquiet, herror _ _⟩) fun record hget hid => ?_
  subst hid
  refine alone_require (fun _ => ?_) fun _ => ⟨hquiet, herror _ _⟩
  split
  next hcleaned =>
    refine alone_pure ⟨hquiet, ?_⟩
    rintro _ _ _ ⟨⟩ ⟨⟩ _
    exact (cleaned_iff hget).mpr hcleaned
  next hnot =>
    unfold adapterCleanup
    refine alone_called fun answer => ?_
    have hbefore : ¬ world.Cleaned record.operationId := by rwa [cleaned_iff hget]
    -- the provider was asked to clean this operation, and no other
    have hcalled {world' : World}
        (hcalls : world'.calls = world.calls ++ [.cleanup record.operationId answer.cleanup])
        (hother : operationId ≠ record.operationId →
          (world'.Cleaned operationId ↔ world.Cleaned operationId))
        (hafter : world'.Cleaned record.operationId →
          ∃ receipt, answer.cleanup = .ok receipt ∧ receipt.status = .succeeded) :
        Effect operationId world (.cleanup record.operationId authorization) world' := by
      by_cases hid : operationId = record.operationId
      · subst hid
        exact .cleaned world' answer.cleanup hbefore hcalls hafter
      · refine .quiet world' (hother hid) ⟨_, hcalls, fun call hmem htouches => ?_⟩
          (not_reopens (by rintro _ _ ⟨⟩))
        obtain rfl := List.mem_singleton.mp hmem
        rcases htouches with ⟨_, heq⟩ | ⟨_, heq⟩ <;> cases heq
        exact hid rfl
    refine alone_ofExcept (fun receipt hreceipt => ?_) fun _ _ =>
      ⟨hcalled rfl (fun _ => Iff.rfl) fun hafter => absurd hafter hbefore, herror _ _⟩
    have hanswer : answer.cleanup = .ok receipt := by
      cases h : answer.cleanup with
      | error name => rw [h] at hreceipt; cases hreceipt
      | ok found => rw [h] at hreceipt; cases hreceipt; rfl
    refine alone_clock fun now => alone_replace hget rfl ?_
    let next := coordinator.cleanedRecord record receipt now
    have hnext : (({ world with calls := world.calls ++
        [.cleanup record.operationId answer.cleanup] } : World).store { record := next }).records.get?
          record.operationId = some next := OrderedMap.get?_set_self _ _ _
    refine ⟨hcalled rfl (fun hid => ?_) fun hafter => ⟨receipt, hanswer, ?_⟩, ?_⟩
    · exact cleaned_store hid
    · have hcleaned : IsCleaned next := (cleaned_iff hnext).mp hafter
      exact Option.some.inj hcleaned
    · rintro _ _ _ ⟨⟩ ⟨⟩ hcleaned
      exact (cleaned_iff hnext).mpr hcleaned

/-- **What a method does to one operation.** -/
theorem program_effect (call : Call) :
    (coordinator.program call).Keeps alone
      (fun result world' => Effect operationId world call world' ∧ Reports call result world')
        world := by
  have hreports {call : Call} (hcall : ∀ operationId authorization,
      call ≠ .cleanup operationId authorization) (result : Except CustomerProviderOperationError
        CustomerProviderOperationRecord) (world' : World) : Reports call result world' :=
    fun operationId authorization _ h => absurd h (hcall operationId authorization)
  cases call with
  | run input =>
    exact (run_effect input).mono fun result world' h => ⟨h, hreports (fun _ _ h => by cases h) result world'⟩
  | resume resumedId authorization =>
    exact (resume_effect resumedId authorization).mono fun result world' h =>
      ⟨h, hreports (fun _ _ h => by cases h) result world'⟩
  | acceptCallback input =>
    exact (acceptCallback_effect input).mono fun result world' h => ⟨h, hreports (fun _ _ h => by cases h) result world'⟩
  | cleanup cleanedId authorization => exact cleanup_effect cleanedId authorization

/-! ## Runs -/

abbrev SequentialTransition := Transition World CoordinatorOperation
  (Except CustomerProviderOperationError CustomerProviderOperationRecord)

/-- What a run has done to an operation: while it is not cleaned it was not reopened, and once it
is, it is clean at the provider as long as it was not reopened. -/
structure CleanedSince (operationId : String) (tr : List SequentialTransition) (world : World) :
    Prop where
  keyed : world.Keyed
  before : ¬ world.Cleaned operationId → ∀ t ∈ tr, ¬ Reopens operationId t.pre t.op.call
  since : world.Cleaned operationId → (CleanedLast operationId world.calls ↔
    ∀ t ∈ tr, ¬ Reopens operationId t.pre t.op.call)

theorem CleanedSince.step {tr : List SequentialTransition} {t : SequentialTransition}
    (h : CleanedSince operationId tr t.pre) (hkeyed : t.post.Keyed)
    (heffect : Effect operationId t.pre t.op.call t.post) :
    CleanedSince operationId (tr ++ [t]) t.post := by
  have hsnoc : (∀ t' ∈ tr ++ [t], ¬ Reopens operationId t'.pre t'.op.call) ↔
      (∀ t' ∈ tr, ¬ Reopens operationId t'.pre t'.op.call) ∧
        ¬ Reopens operationId t.pre t.op.call := by
    simp [or_imp, forall_and]
  refine ⟨hkeyed, fun hnot => hsnoc.mpr ?_, fun hcleaned => ?_⟩
  · cases heffect with
    | quiet hiff _ hreopens => exact ⟨h.before (hiff.not.mp hnot), hreopens⟩
    | executed hiff _ _ =>
      have hbefore := hiff.not.mp hnot
      exact ⟨h.before hbefore, fun ⟨_, record, _, hget, hcleaned, _⟩ =>
        hbefore ⟨record, hget, hcleaned⟩⟩
    | cleaned _ hbefore _ _ =>
      exact ⟨h.before hbefore, fun ⟨_, record, _, hget, hcleaned, _⟩ =>
        hbefore ⟨record, hget, hcleaned⟩⟩
  · rw [hsnoc]
    cases heffect with
    | quiet hiff hcalls hreopens =>
      obtain ⟨extra, hcalls, hextra⟩ := hcalls
      rw [hcalls, and_iff_left hreopens, ← h.since (hiff.mp hcleaned)]
      constructor
      · exact fun hlast => (hlast.of_append fun answer hmem =>
          hextra _ hmem (.inr ⟨answer, rfl⟩)).1
      · exact fun hlast => hlast.append fun answer hmem => hextra _ hmem (.inl ⟨answer, rfl⟩)
    | executed hiff hcalls hreopens =>
      obtain ⟨extra, hcalls, ⟨answer, hexecute⟩, hextra⟩ := hcalls
      rw [hcalls]
      refine iff_of_false (fun hlast => (hlast.of_append hextra).2 answer hexecute) ?_
      exact fun hnone => hnone.2 (hreopens (hiff.mp hcleaned))
    | cleaned answer hbefore hcalls hafter =>
      obtain ⟨receipt, rfl, hstatus⟩ := hafter hcleaned
      rw [hcalls]
      refine iff_of_true ⟨t.pre.calls, receipt, [], rfl, hstatus, nofun⟩ ⟨h.before hbefore, ?_⟩
      exact fun ⟨_, record, _, hget, hcleaned, _⟩ => hbefore ⟨record, hget, hcleaned⟩

variable {ok : World → CoordinatorOperation → Prop}

variable (coordinator operationId) in
theorem coordinatorStep_effect (op : CoordinatorOperation) (hkeyed : world.Keyed) :
    (coordinatorStep coordinator op world).2.Keyed ∧
      Effect operationId world op.call (coordinatorStep coordinator op world).2 ∧
      Reports op.call (coordinatorStep coordinator op world).1
        (coordinatorStep coordinator op world).2 :=
  Process.Keeps.exec (fun _ _ _ => trivial) (program_effect op.call) hkeyed op.answers

theorem cleanedSince_of_run {tr : List SequentialTransition}
    (hrun : Run (coordinatorStep coordinator) ok {} tr world) :
    CleanedSince operationId tr world := by
  refine hrun.traceInvariant (CleanedSince operationId) ⟨?_, ?_, ?_⟩ fun tr world op h _ => ?_
  · exact OrderedMap.selfKeyed_empty _
  · rintro _ _ ⟨⟩
  · rintro ⟨_, hget, _⟩
    rw [OrderedMap.get?_empty] at hget
    cases hget
  · obtain ⟨hkeyed, heffect, -⟩ := coordinatorStep_effect coordinator operationId op h.keyed
    exact h.step (t := .of (coordinatorStep coordinator) world op) hkeyed heffect

/-- **A reported cleanup is the last that happened at the provider** iff the operation was not
resumed after it was cleaned. -/
theorem cleanedLast_iff {tr : List SequentialTransition} {i : Nat} {t : SequentialTransition}
    {authorization : CustomerProviderOwnerAuthorization}
    (hrun : Run (coordinatorStep coordinator) ok {} tr world) (hi : tr[i]? = some t)
    (hcall : t.op.call = .cleanup operationId authorization) (hreply : t.reply = .ok record)
    (hcleaned : IsCleaned record) :
    CleanedLast operationId t.post.calls ↔
      ∀ j < i, ∀ t', tr[j]? = some t' → ¬ Reopens operationId t'.pre t'.op.call := by
  obtain ⟨hbefore, hof, hok, -⟩ := hrun.at_position hi
  have hsince : CleanedSince operationId _ _ := cleanedSince_of_run hbefore
  obtain ⟨hkeyed, heffect, hreports⟩ := coordinatorStep_effect coordinator operationId t.op
    hsince.keyed
  have hpost : (coordinatorStep coordinator t.op t.pre).2 = t.post := congrArg (·.post) hof.symm
  have hresult : (coordinatorStep coordinator t.op t.pre).1 = t.reply := congrArg (·.reply) hof.symm
  rw [hpost] at hkeyed heffect hreports
  rw [hresult] at hreports
  have hnot : ¬ Reopens operationId t.pre t.op.call :=
    not_reopens fun _ _ hresume => by rw [hcall] at hresume; cases hresume
  have hafter := (hsince.step hkeyed heffect).since
    (hreports operationId authorization record hcall hreply hcleaned)
  rw [hafter]
  constructor
  · intro h j hj t' ht'
    obtain ⟨hlength, rfl⟩ := List.getElem?_eq_some_iff.mp ht'
    refine h _ (List.mem_append_left _ ?_)
    exact List.mem_take_iff_getElem.mpr ⟨j, by omega, rfl⟩
  · intro h t' ht'
    rcases List.mem_append.mp ht' with hmem | hlast
    · obtain ⟨j, hj, rfl⟩ := List.mem_take_iff_getElem.mp hmem
      exact h j (by omega) _ (List.getElem?_eq_getElem _)
    · obtain rfl := List.mem_singleton.mp hlast
      exact hnot

/-! ## An operation that is resumed after its cleanup -/

def outageObservation : CustomerProviderOperationObservation where
  status := .failed
  providerOperationId := "provider:r2:operation"
  providerStatus := "provider-outage"
  retryable := true
  recoveryAction := "retry the same operation identity"
  receipt := "effect=not-observed"

def sweptReceipt : CustomerProviderCleanupReceipt where
  status := .succeeded
  deletedResourceKeys := []
  remainingResourceKeys := []
  receipt := "remaining=0"
  recoveryAction := "No recovery action is currently required."

/-- A call whose adapters answer with one observation, and clean. -/
def answered (observation : CustomerProviderOperationObservation) (call : Call) :
    CoordinatorOperation where
  call
  answers _ := { answering observation with cleanup := .ok sweptReceipt }

def swept (operations : List CoordinatorOperation) :=
  exec (coordinatorStep scanningCoordinator) {} operations

theorem swept_run (operations : List CoordinatorOperation) :
    Run (coordinatorStep scanningCoordinator) (fun _ _ => True) {} (swept operations).1
      (swept operations).2 :=
  run_exec (.of_forall (fun _ _ => trivial) _ _)

def outageThenCleanup : List CoordinatorOperation :=
  [answered outageObservation (.run bucketInput),
    answered outageObservation (.cleanup "operation" ownerAuthorization)]

theorem cleanedLast_iff_sample :
    ∃ t record, (swept outageThenCleanup).1[1]? = some t ∧ t.reply = .ok record ∧
      (CleanedLast "operation" t.post.calls ↔ ∀ j < 1, ∀ t', (swept outageThenCleanup).1[j]? = some t' →
        ¬ Reopens "operation" t'.pre t'.op.call) :=
  ⟨_, _, rfl, rfl, cleanedLast_iff (swept_run outageThenCleanup) rfl rfl rfl rfl⟩

/-- The operation is resumed, and cleaned again. -/
def resumedAfterCleanup : List CoordinatorOperation :=
  outageThenCleanup ++
    [answered acceptedObservation (.resume "operation" ownerAuthorization),
      answered acceptedObservation (.cleanup "operation" ownerAuthorization)]

/-- The second cleanup is reported, and the provider was not asked for it. -/
theorem resumed_after_cleanup :
    ∃ t record, (swept resumedAfterCleanup).1[3]? = some t ∧
      t.op.call = .cleanup "operation" ownerAuthorization ∧ t.reply = .ok record ∧
      IsCleaned record ∧ record.state = .succeeded ∧ ¬ CleanedLast "operation" t.post.calls := by
  refine ⟨_, _, rfl, rfl, rfl, rfl, rfl, fun hcleaned => ?_⟩
  -- after the cleanup the provider executes the operation, and is not asked to clean
  have hlast : CleanedLast "operation"
      ([_, _] ++ [.execute "operation" (.ok acceptedObservation), .readBack _ _]) := hcleaned
  have hnone := (hlast.of_append fun answer hmem => by
    rcases List.mem_cons.mp hmem with h | h
    · cases h
    · cases List.mem_singleton.mp h).2
  exact hnone _ List.mem_cons_self

end Anyam.Provider.Operation
