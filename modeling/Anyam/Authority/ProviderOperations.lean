import Anyam.Authority.ExecutionIdentity
import Anyam.Authority.SQLiteStore
import Mathlib.Logic.Function.Basic

/-!
# Provider operations over one store

Requests run on coordinators of their own: each opens a snapshot of the store, performs its call,
and commits what the call leaves. A call that hands a Promotion off waits for the executor in
between, and may never come back. The executor is invoked when the wait begins, while the execution
key is recorded with the answer, so that what a later request knows of an invocation is what was
committed before it opened.

- **`stored_forever`**: an execution key that is stored for a Promotion stays, whatever commits.
- **`oneOperation_iff_of_run`**: when all invocations for a Promotion carry one key.
- **`second_operation`**: a request whose answer is lost, and another one under a key of its own.
-/

namespace Anyam.Authority

open Anyam.Lib Anyam.Kernel Anyam.Delivery

/-! ## The plane -/

/-- The handoff a call starts and the context the executor is given: none, when the call does not
get to its executor. -/
def AuthorityCall.handsOff (services : AuthorityServices) (s : AuthorityPlaneSnapshot)
    (call : AuthorityCall) : Option (PromotionHandoff × PromotionExecutionContext) := do
  let input ← call.operation.handoff s
  let context ← (createPromotionExecutionContext services s input.promotionId
    input.executionIdempotencyKey input.session).toOption
  return (input, context)

/-- A request on a coordinator of its own: the snapshot it has read, and how far it has come. -/
inductive Client
  | opened (previous state : AuthorityPlaneSnapshot)
  | waiting (previous state : AuthorityPlaneSnapshot) (call : AuthorityCall)
  | performed (previous next : AuthorityPlaneSnapshot)

/-- An invocation of an executor. -/
structure ProviderInvocation where
  promotionId : String
  executionIdempotencyKey : String
deriving DecidableEq, Repr

structure ProviderPlane where
  rows : AuthorityRows
  clients : Nat → Option Client
  invocations : List ProviderInvocation

inductive PlaneOperation
  | opens (client : Nat)
  | calls (client : Nat) (call : AuthorityCall)
  | answers (client : Nat)
  | commits (client : Nat)
  | crashes (client : Nat)

namespace ProviderPlane

def setClient (plane : ProviderPlane) (client : Nat) (state : Option Client) : ProviderPlane :=
  { plane with clients := Function.update plane.clients client state }

@[simp] theorem setClient_self (plane : ProviderPlane) (client : Nat) (state : Option Client) :
    (plane.setClient client state).clients client = state :=
  Function.update_self ..

theorem setClient_ne {plane : ProviderPlane} {client other : Nat} {state : Option Client}
    (h : other ≠ client) : (plane.setClient client state).clients other = plane.clients other :=
  Function.update_of_ne h ..

/-- A new coordinator on a snapshot that is read from the store. -/
def openClient (services : AuthorityServices) (realmId : String) (rows : AuthorityRows) :
    Except AuthorityFailure (Option Client) := do
  match ← load services rows realmId with
  | none => return none
  | some previous =>
    let state ← normalizeAuthorityPlaneSnapshot services previous
    return some (.opened previous state)

/-- One operation on the plane. A client that is not where the operation needs it is left alone. -/
def step (services : AuthorityServices) (realmId : String) (operation : PlaneOperation)
    (plane : ProviderPlane) : AuthorityReply × ProviderPlane :=
  match operation with
  | .opens client =>
    match openClient services realmId plane.rows with
    | .error failure => (.error failure, plane)
    | .ok opened => (.ok none, plane.setClient client opened)
  | .calls client call =>
    match plane.clients client with
    | some (.opened previous state) =>
      match call.handsOff services state with
      | some (input, context) =>
        (.ok none, {
          plane.setClient client (some (.waiting previous state call)) with
          invocations := plane.invocations ++
            [⟨input.promotionId, context.executionIdempotencyKey⟩] })
      | none =>
        let (reply, next) := Authority.step services call state
        (reply, plane.setClient client (some (.performed previous next)))
    | _ => (.ok none, plane)
  | .answers client =>
    match plane.clients client with
    | some (.waiting previous state call) =>
      let (reply, next) := Authority.step services call state
      (reply, plane.setClient client (some (.performed previous next)))
    | _ => (.ok none, plane)
  | .commits client =>
    match plane.clients client with
    | some (.performed previous next) =>
      match commit previous next plane.rows with
      | .error failure => (.error failure, plane.setClient client none)
      | .ok rows => (.ok none, { plane.setClient client none with rows })
    | _ => (.ok none, plane)
  | .crashes client => (.ok none, plane.setClient client none)

def initial (realmId : String) : ProviderPlane where
  rows := some (emptyAuthorityPlaneSnapshot realmId)
  clients _ := none
  invocations := []

end ProviderPlane

abbrev ProviderTransition := Transition ProviderPlane PlaneOperation AuthorityReply

abbrev ProviderRun (services : AuthorityServices) (realmId : String)
    (tr : List ProviderTransition) (plane : ProviderPlane) : Prop :=
  Lib.Run (ProviderPlane.step services realmId) (fun _ _ => True) (.initial realmId) tr plane

/-! ## What is recorded of an invocation -/

/-- A Promotion is filed under its id, without an execution key or with the key of an invocation. -/
def Identified (invocations : List ProviderInvocation) (s : AuthorityPlaneSnapshot) : Prop :=
  ∀ id promotion, s.promotions.get? id = some promotion → promotion.id = id ∧
    (promotion.executionIdempotencyKey = none ∧ promotion.reconciliationCheckpoint = none ∨
      ∃ key, promotion.executionIdempotencyKey = some key ∧ key ≠ "" ∧ ⟨id, key⟩ ∈ invocations)

/-- The execution keys of the Promotions of `s` are those of `s'`. -/
def KeepsKeys (s s' : AuthorityPlaneSnapshot) : Prop :=
  ∀ id promotion key, s.promotions.get? id = some promotion →
    truthy promotion.executionIdempotencyKey = some key →
      ∃ promotion', s'.promotions.get? id = some promotion' ∧
        truthy promotion'.executionIdempotencyKey = some key

section

variable {services : AuthorityServices} {s s' s'' : AuthorityPlaneSnapshot} {call : AuthorityCall}
  {reply : AuthorityReply} {invocations invocations' : List ProviderInvocation}
  {input : PromotionHandoff} {context : PromotionExecutionContext}

theorem AuthorityCall.handsOff_eq_some :
    call.handsOff services s = some (input, context) ↔
      call.MakesContext services s input context := by
  simp only [AuthorityCall.handsOff, AuthorityCall.MakesContext, Option.bind_eq_bind,
    Option.bind_eq_some_iff, Option.pure_def, Option.some.injEq, Prod.mk.injEq, toOption_eq_some]
  constructor
  · rintro ⟨_, hcall, _, hcontext, rfl, rfl⟩
    exact ⟨hcall, hcontext⟩
  · rintro ⟨hcall, hcontext⟩
    exact ⟨input, hcall, context, hcontext, rfl, rfl⟩

theorem Identified.mono (h : Identified invocations s)
    (hsub : ∀ i ∈ invocations, i ∈ invocations') : Identified invocations' s := by
  intro id promotion hget
  obtain ⟨hid, hkey⟩ := h id promotion hget
  exact ⟨hid, hkey.imp_right fun ⟨key, hsome, hne, hmem⟩ => ⟨key, hsome, hne, hsub _ hmem⟩⟩

theorem promotions_same (h : SameRows s s') (id : String) :
    s'.promotions.get? id = s.promotions.get? id :=
  h.records .promotions (by decide) id

theorem Identified.same (h : Identified invocations s) (hsame : SameRows s s') :
    Identified invocations s' := by
  intro id promotion hget
  rw [promotions_same hsame] at hget
  exact h id promotion hget

theorem KeepsKeys.of_same (h : SameRows s s') : KeepsKeys s s' := by
  intro id promotion key hget hkey
  rw [← promotions_same h] at hget
  exact ⟨promotion, hget, hkey⟩

theorem KeepsKeys.trans (h : KeepsKeys s s') (h' : KeepsKeys s' s'') : KeepsKeys s s'' := by
  intro id promotion key hget hkey
  obtain ⟨promotion', hget', hkey'⟩ := h id promotion key hget hkey
  exact h' id promotion' key hget' hkey'

/-- **Step**: a call that records an answer records it under the key of its handoff. -/
theorem Moves.identified (hmoves : Moves services s call reply s') (h : Identified invocations s)
    (hinvoked : ∀ input context, call.handsOff services s = some (input, context) →
      ⟨input.promotionId, context.executionIdempotencyKey⟩ ∈ invocations) :
    Identified invocations s' := by
  intro id promotion hget
  cases hmoves with
  | alone hpromotions _ =>
    rw [hpromotions] at hget
    exact h id promotion hget
  | configured _ hpromotions _ =>
    rw [hpromotions] at hget
    exact h id promotion hget
  | requested hnew hpromotions _ =>
    rw [hpromotions, OrderedMap.get?_set] at hget
    split at hget
    · rename_i hid
      obtain rfl := Option.some.inj hget
      exact ⟨hid.symm, .inl ⟨hnew.key, hnew.checkpoint⟩⟩
    · exact h id promotion hget
  | @handed input context recorded _ _ hcall hhanded =>
    obtain ⟨checkpoint, -, hpromotions⟩ := hhanded.promotions
    rw [hpromotions, OrderedMap.get?_set] at hget
    split at hget
    · rename_i hid
      obtain rfl := Option.some.inj hget
      have hfrom := hhanded.from_records
      have hat : context.promotion.id = input.promotionId := (h _ _ hfrom.promotion).1
      have hmade : call.handsOff services s = some (input, context) :=
        AuthorityCall.handsOff_eq_some.mpr
          ⟨hcall, createPromotionExecutionContext_eq_ok.mpr hfrom⟩
      obtain ⟨hrecorded, hkey⟩ := hhanded.answer.identity
      refine ⟨hrecorded.trans hid.symm, .inr ⟨_, hkey, ?_, ?_⟩⟩
      · rw [hfrom.key]
        exact (AuthorityOperation.handoff_started hcall).nonempty
      · rw [hid, hat]
        exact hinvoked input context hmade
    · exact h id promotion hget

/-- **Step**: an execution key that is recorded stays recorded. -/
theorem Moves.keepsKeys (hmoves : Moves services s call reply s') (h : Identified invocations s) :
    KeepsKeys s s' := by
  intro id promotion key hget hkey
  cases hmoves with
  | alone hpromotions _ => exact ⟨promotion, hpromotions ▸ hget, hkey⟩
  | configured _ hpromotions _ => exact ⟨promotion, hpromotions ▸ hget, hkey⟩
  | @requested _ _ created hnew hpromotions _ =>
    have hne : id ≠ created.id := by
      rintro rfl
      rw [hnew.unused] at hget
      cases hget
    rw [hpromotions, OrderedMap.get?_set_ne _ _ hne]
    exact ⟨promotion, hget, hkey⟩
  | @handed input context recorded _ _ hcall hhanded =>
    obtain ⟨checkpoint, -, hpromotions⟩ := hhanded.promotions
    rw [hpromotions, OrderedMap.get?_set]
    split
    · rename_i hid
      refine ⟨_, rfl, ?_⟩
      have hstarted := AuthorityOperation.handoff_started hcall
      have hfrom := hhanded.from_records
      have hat : context.promotion.id = input.promotionId := (h _ _ hfrom.promotion).1
      have hsame : promotion = input.promotion := by
        rw [hid, hat, hstarted.promotion] at hget
        exact (Option.some.inj hget).symm
      have hpinned : key = input.executionIdempotencyKey := hstarted.key key (hsame ▸ hkey)
      rw [truthy_eq_some]
      refine ⟨?_, hpinned ▸ hstarted.nonempty⟩
      rw [hpinned, ← hfrom.key]
      exact hhanded.answer.identity.2
    · exact ⟨promotion, hget, hkey⟩

end

/-! ## What holds of the plane -/

def Client.previous : Client → AuthorityPlaneSnapshot
  | .opened previous _ | .waiting previous _ _ | .performed previous _ => previous

/-- The snapshot of the coordinator. -/
def Client.state : Client → AuthorityPlaneSnapshot
  | .opened _ state | .waiting _ state _ => state
  | .performed _ next => next

/-- A request that waits has invoked its executor. -/
def Client.Invoked (services : AuthorityServices) (invocations : List ProviderInvocation) :
    Client → Prop
  | .waiting _ state call => ∃ input context, call.handsOff services state = some (input, context) ∧
      ⟨input.promotionId, context.executionIdempotencyKey⟩ ∈ invocations
  | _ => True

/-- What is known of a request over the rows and the invocations so far. -/
structure Client.Sound (services : AuthorityServices) (rows : AuthorityRows)
    (invocations : List ProviderInvocation) (client : Client) : Prop where
  copied : ∀ stored ∈ rows, CopyOf stored client.previous
  keys : KeepsKeys client.previous client.state
  identified : Identified invocations client.state
  invoked : client.Invoked services invocations

structure ProviderPlane.Sound (services : AuthorityServices) (plane : ProviderPlane) : Prop where
  rows : ∀ stored ∈ plane.rows, Identified plane.invocations stored
  clients : ∀ id client, plane.clients id = some client →
    client.Sound services plane.rows plane.invocations

/-- The execution keys that are stored stay. -/
def KeepsStored (rows rows' : AuthorityRows) : Prop :=
  ∀ stored ∈ rows, ∃ stored' ∈ rows', KeepsKeys stored stored'

section

variable {services : AuthorityServices} {realmId : String} {plane plane' : ProviderPlane}
  {rows rows' : AuthorityRows} {invocations invocations' : List ProviderInvocation}
  {client : Client} {call : AuthorityCall} {previous state next : AuthorityPlaneSnapshot}

theorem KeepsStored.refl (rows : AuthorityRows) : KeepsStored rows rows :=
  fun stored hstored => ⟨stored, hstored, .of_same (.refl stored)⟩

theorem KeepsStored.trans {rows'' : AuthorityRows} (h : KeepsStored rows rows')
    (h' : KeepsStored rows' rows'') : KeepsStored rows rows'' := by
  intro stored hstored
  obtain ⟨stored', hstored', hkeys⟩ := h stored hstored
  obtain ⟨stored'', hstored'', hkeys'⟩ := h' stored' hstored'
  exact ⟨stored'', hstored'', hkeys.trans hkeys'⟩

theorem Client.Sound.mono (h : client.Sound services rows invocations)
    (hsub : ∀ i ∈ invocations, i ∈ invocations') : client.Sound services rows invocations' := by
  refine ⟨h.copied, h.keys, h.identified.mono hsub, ?_⟩
  have hinvoked := h.invoked
  cases client with
  | waiting _ _ _ =>
    obtain ⟨input, context, hcall, hmem⟩ := hinvoked
    exact ⟨input, context, hcall, hsub _ hmem⟩
  | opened | performed => trivial

namespace ProviderPlane.Sound

/-- A client is replaced by one of which as much is known. -/
theorem set (id : Nat) {set : Option Client} (h : plane.Sound services)
    (hset : ∀ client ∈ set, client.Sound services plane.rows plane.invocations) :
    (plane.setClient id set).Sound services := by
  refine ⟨h.rows, fun other client hclient => ?_⟩
  by_cases hid : other = id
  · subst hid
    rw [setClient_self] at hclient
    exact hset client hclient
  · rw [setClient_ne hid] at hclient
    exact h.clients other client hclient

/-- An executor is invoked. -/
theorem invoke (h : plane.Sound services) (invocation : ProviderInvocation) :
    ({ plane with invocations := plane.invocations ++ [invocation] } : ProviderPlane).Sound
      services := by
  have hsub : ∀ i ∈ plane.invocations, i ∈ plane.invocations ++ [invocation] :=
    fun _ hmem => List.mem_append_left _ hmem
  exact ⟨fun stored hstored => (h.rows stored hstored).mono hsub,
    fun id client hclient => (h.clients id client hclient).mono hsub⟩

/-- The rows are written. -/
theorem commit {stored stored' : AuthorityPlaneSnapshot} (h : plane.Sound services)
    (hrows : plane.rows = some stored) (hnewer : stored'.version = stored.version + 1)
    (hidentified : Identified plane.invocations stored') :
    ({ plane with rows := some stored' } : ProviderPlane).Sound services := by
  refine ⟨fun other hother => Option.some.inj hother ▸ hidentified, fun id client hclient => ?_⟩
  have hsound := h.clients id client hclient
  refine ⟨fun other hother => ?_, hsound.keys, hsound.identified, hsound.invoked⟩
  obtain rfl := Option.some.inj hother
  exact (hsound.copied stored hrows).write (by omega)

end ProviderPlane.Sound

/-- A coordinator is opened on what is stored. -/
theorem openClient_sound (hrows : ∀ stored ∈ rows, Identified invocations stored)
    {set : Option Client} (h : ProviderPlane.openClient services realmId rows = .ok set) :
    ∀ client ∈ set, client.Sound services rows invocations := by
  simp only [ProviderPlane.openClient, bind_eq_ok] at h
  obtain ⟨loaded, hload, h⟩ := h
  cases loaded with
  | none =>
    obtain rfl := Except.ok.inj h
    intro client hmem
    cases hmem
  | some previous =>
    simp only [bind_eq_ok, pure_eq_ok] at h
    obtain ⟨state, hstate, rfl⟩ := h
    obtain ⟨stored, rfl, -, hsame, -⟩ := load_ok hload
    have hstate := (normalizeAuthorityPlaneSnapshot_ok hstate).1
    rintro client ⟨⟩
    refine ⟨fun other hother => ?_, .of_same hstate, ((hrows _ rfl).same hsame).same hstate,
      trivial⟩
    obtain rfl := Option.some.inj hother
    exact .of_same hsame.version hsame

/-- A call that is performed records what it was handed off with, if it was. -/
theorem performed_sound (h : client.Sound services rows invocations)
    (hinvoked : ∀ input context, call.handsOff services client.state = some (input, context) →
      ⟨input.promotionId, context.executionIdempotencyKey⟩ ∈ invocations) :
    (Client.performed client.previous (step services call client.state).2).Sound services rows
      invocations := by
  have hmoves := step_moves services call client.state
  exact ⟨h.copied, h.keys.trans (hmoves.keepsKeys h.identified),
    hmoves.identified h.identified hinvoked, trivial⟩

/-- What is committed is what the request has made of the rows as they are. -/
theorem commit_sound (h : (Client.performed previous next).Sound services rows invocations)
    (hcommit : commit previous next rows = .ok rows') :
    rows' = rows ∨ ∃ stored stored', rows = some stored ∧ rows' = some stored' ∧
      stored'.version = stored.version + 1 ∧ KeepsKeys stored stored' ∧
      Identified invocations stored' := by
  rcases commit_ok hcommit with ⟨-, rfl⟩ | ⟨stored, stored', rfl, rfl, hcommitted⟩
  · exact .inl rfl
  · right
    have hcopy : CopyOf stored previous := h.copied stored rfl
    have hsame := hcopy.same_of_version hcommitted.current
    have hnext := hcommitted.same hsame
    exact ⟨stored, stored', rfl, rfl, hcommitted.newer,
      ((KeepsKeys.of_same hsame).trans h.keys).trans (.of_same hnext.symm),
      h.identified.same hnext.symm⟩

/-! ## Steps -/

/-- All invocations for a Promotion carry one key. -/
def OneOperation (plane : ProviderPlane) : Prop :=
  ∀ i ∈ plane.invocations, ∀ j ∈ plane.invocations, j.promotionId = i.promotionId →
    j.executionIdempotencyKey = i.executionIdempotencyKey

/-- A handoff from a snapshot that records no execution key for its Promotion names the key of every
invocation that was made for it. -/
def NamesMadeKey (services : AuthorityServices) (plane : ProviderPlane) :
    PlaneOperation → Prop
  | .calls client call => ∀ previous state, plane.clients client = some (.opened previous state) →
    ∀ input context, call.handsOff services state = some (input, context) →
      truthy input.promotion.executionIdempotencyKey = none →
        ∀ i ∈ plane.invocations, i.promotionId = input.promotionId →
          i.executionIdempotencyKey = input.executionIdempotencyKey
  | _ => True

/-- What an operation does to the rows and the invocations. -/
structure PlaneStep (services : AuthorityServices) (plane : ProviderPlane)
    (operation : PlaneOperation) (plane' : ProviderPlane) : Prop where
  sound : plane'.Sound services
  stored : KeepsStored plane.rows plane'.rows
  oneOperation : OneOperation plane' ↔
    OneOperation plane ∧ NamesMadeKey services plane operation

/-- An operation that invokes no executor. -/
theorem PlaneStep.quiet {operation : PlaneOperation} (hsound : plane'.Sound services)
    (hstored : KeepsStored plane.rows plane'.rows)
    (hinvocations : plane'.invocations = plane.invocations)
    (hnames : NamesMadeKey services plane operation) :
    PlaneStep services plane operation plane' := by
  refine ⟨hsound, hstored, ?_⟩
  rw [OneOperation, hinvocations]
  exact (and_iff_left hnames).symm

/-- The invocation of a handoff carries the key of those before it exactly when they carry the key
that is recorded, or, when none is, the one the request names. -/
theorem oneOperation_invoke {id : Nat} {input : PromotionHandoff}
    {context : PromotionExecutionContext} (h : plane.Sound services)
    (hclient : plane.clients id = some (.opened previous state))
    (hcall : call.handsOff services state = some (input, context)) :
    OneOperation { plane with invocations := plane.invocations ++
        [⟨input.promotionId, context.executionIdempotencyKey⟩] } ↔
      OneOperation plane ∧ NamesMadeKey services plane (.calls id call) := by
  obtain ⟨hhandoff, hcontext⟩ := AuthorityCall.handsOff_eq_some.mp hcall
  have hstarted := AuthorityOperation.handoff_started hhandoff
  have hkey := (createPromotionExecutionContext_eq_ok.mp hcontext).key
  rw [hkey]
  constructor
  · intro hone
    refine ⟨fun i hi j hj => hone i (List.mem_append_left _ hi) j (List.mem_append_left _ hj), ?_⟩
    intro previous' state' hclient' input' context' hcall' _ i hi hpromotion
    obtain ⟨-, rfl⟩ := Client.opened.inj (Option.some.inj (hclient.symm.trans hclient'))
    obtain ⟨rfl, -⟩ := Prod.mk.inj (Option.some.inj (hcall.symm.trans hcall'))
    exact hone ⟨input.promotionId, input.executionIdempotencyKey⟩ (by simp) i
      (List.mem_append_left _ hi) hpromotion
  · rintro ⟨hone, hnames⟩
    -- what was invoked for the Promotion carries the key of the handoff
    have hmade : ∀ i ∈ plane.invocations, i.promotionId = input.promotionId →
        i.executionIdempotencyKey = input.executionIdempotencyKey := by
      intro i hi hpromotion
      have hidentified := (h.clients id _ hclient).identified
      rcases (hidentified _ _ hstarted.promotion).2 with ⟨hnone, -⟩ | ⟨key, hsome, hne, hmem⟩
      · refine hnames previous state hclient input context hcall ?_ i hi hpromotion
        rw [hnone]
        rfl
      · have hpinned := hstarted.key key (truthy_eq_some.mpr ⟨hsome, hne⟩)
        rw [← hpinned]
        exact hone _ hmem i hi hpromotion
    intro i hi j hj hpromotion
    rw [List.mem_append, List.mem_singleton] at hi hj
    rcases hi with hi | rfl
    · rcases hj with hj | rfl
      · exact hone i hi j hj hpromotion
      · exact (hmade i hi hpromotion.symm).symm
    · rcases hj with hj | rfl
      · exact hmade j hj hpromotion
      · rfl

/-- **Step**: an operation keeps the plane sound and the stored keys, and makes a second operation
only when a handoff does not name the key that was made. -/
theorem plane_step (services : AuthorityServices) (realmId : String) (operation : PlaneOperation)
    (h : plane.Sound services) :
    PlaneStep services plane operation (plane.step services realmId operation).2 := by
  have hidle {operation : PlaneOperation} (hnames : NamesMadeKey services plane operation) :
      PlaneStep services plane operation plane := .quiet h (.refl _) rfl hnames
  have hset {id : Nat} {set : Option Client} {operation : PlaneOperation}
      (hnames : NamesMadeKey services plane operation)
      (hset : ∀ client ∈ set, client.Sound services plane.rows plane.invocations) :
      PlaneStep services plane operation (plane.setClient id set) :=
    .quiet (h.set _ hset) (.refl _) rfl hnames
  have hclosed : ∀ client ∈ (none : Option Client),
      client.Sound services plane.rows plane.invocations := fun _ hmem => nomatch hmem
  cases operation with
  | opens id =>
    unfold ProviderPlane.step
    cases hopen : ProviderPlane.openClient services realmId plane.rows with
    | error failure => exact hidle trivial
    | ok opened => exact hset trivial (openClient_sound h.rows hopen)
  | crashes id => exact hset trivial hclosed
  | answers id =>
    simp only [ProviderPlane.step]
    split
    · rename_i previous state call hclient
      have hsound := h.clients id _ hclient
      refine hset trivial fun client hmem => ?_
      obtain rfl := Option.some.inj hmem
      refine performed_sound hsound fun input context hcall => ?_
      obtain ⟨input', context', hcall', hmem⟩ := hsound.invoked
      obtain ⟨rfl, rfl⟩ := Prod.mk.inj (Option.some.inj (hcall.symm.trans hcall'))
      exact hmem
    · exact hidle trivial
  | calls id call =>
    simp only [ProviderPlane.step]
    split
    · rename_i previous state hclient
      have hsound := h.clients id _ hclient
      split
      · rename_i input context hcall
        have hinvoked := h.invoke ⟨input.promotionId, context.executionIdempotencyKey⟩
        refine ⟨hinvoked.set id fun client hmem => ?_, .refl _,
          oneOperation_invoke h hclient hcall⟩
        obtain rfl := Option.some.inj hmem
        have hsub := hsound.mono fun i hi => List.mem_append_left
          [⟨input.promotionId, context.executionIdempotencyKey⟩] hi
        exact ⟨hsub.copied, hsub.keys, hsub.identified, input, context, hcall,
          List.mem_append_right _ (List.mem_singleton_self _)⟩
      · rename_i hnone
        refine hset ?_ fun client hmem => ?_
        · intro previous' state' hclient' input context hcall
          obtain ⟨-, rfl⟩ := Client.opened.inj (Option.some.inj (hclient.symm.trans hclient'))
          exact nomatch hnone.symm.trans hcall
        · obtain rfl := Option.some.inj hmem
          refine performed_sound hsound fun input context hcall => ?_
          exact nomatch hnone.symm.trans hcall
    · rename_i hother
      exact hidle fun previous state hclient => absurd hclient (hother previous state)
  | commits id =>
    simp only [ProviderPlane.step]
    split
    · rename_i previous next hclient
      have hsound := h.clients id _ hclient
      split
      · exact hset trivial hclosed
      · rename_i rows hcommit
        rcases commit_sound hsound hcommit with
          rfl | ⟨stored, stored', hrows, rfl, hnewer, hkeys, hnext⟩
        · exact hset trivial hclosed
        · refine .quiet ((h.set id hclosed).commit hrows hnewer hnext) ?_ rfl trivial
          intro other hother
          obtain rfl := Option.some.inj (hrows.symm.trans hother)
          exact ⟨stored', rfl, hkeys⟩
    · exact hidle trivial

/-! ## Runs -/

variable {tr tr' : List ProviderTransition}

theorem sound_of_run (h : ProviderRun services realmId tr plane) : plane.Sound services := by
  refine h.invariant (ProviderPlane.Sound services) ⟨?_, ?_⟩
    fun _ operation hsound _ => (plane_step services realmId operation hsound).sound
  · intro stored hstored id promotion hget
    obtain rfl := Option.some.inj hstored
    cases (show (none : Option PromotionRecord) = some promotion from hget)
  · intro id client hclient
    cases (show (none : Option Client) = some client from hclient)

/-- **Run**: an execution key that is stored for a Promotion stays, whatever is committed. -/
theorem stored_forever (h : ProviderRun services realmId tr plane)
    (h' : Lib.Run (ProviderPlane.step services realmId) (fun _ _ => True) plane tr' plane') :
    KeepsStored plane.rows plane'.rows :=
  (h'.invariant (fun plane' => plane'.Sound services ∧ KeepsStored plane.rows plane'.rows)
    ⟨sound_of_run h, .refl _⟩ fun _ operation ⟨hsound, hkeeps⟩ _ =>
      have hstep := plane_step services realmId operation hsound
      ⟨hstep.sound, hkeeps.trans hstep.stored⟩).2

/-- **One provider operation for each Promotion**: all invocations of a run for one Promotion carry
one key exactly when every handoff from a snapshot without a recorded key names the key that was
made. -/
theorem oneOperation_iff_of_run (h : ProviderRun services realmId tr plane) :
    OneOperation plane ↔ ∀ t ∈ tr, NamesMadeKey services t.pre t.op := by
  have hrun : plane.Sound services ∧
      (OneOperation plane ↔ ∀ t ∈ tr, NamesMadeKey services t.pre t.op) := by
    refine h.traceInvariant (fun tr plane => plane.Sound services ∧
      (OneOperation plane ↔ ∀ t ∈ tr, NamesMadeKey services t.pre t.op)) ⟨sound_of_run .nil, ?_⟩
      fun tr plane operation ⟨hsound, hiff⟩ _ => ?_
    · exact ⟨fun _ _ ht => absurd ht List.not_mem_nil, fun _ _ hi => absurd hi List.not_mem_nil⟩
    · have hstep := plane_step services realmId operation hsound
      refine ⟨hstep.sound, ?_⟩
      rw [List.forall_mem_append, List.forall_mem_singleton, hstep.oneOperation, hiff]
      rfl
  exact hrun.2

end

namespace Sample

/-- A request that is performed and committed. -/
def committed (client : Nat) (call : AuthorityCall) : List PlaneOperation :=
  [.opens client, .calls client call, .commits client]

def plane (operations : List PlaneOperation) : List ProviderTransition × ProviderPlane :=
  exec (ProviderPlane.step services "realm:1") (.initial "realm:1") operations

theorem run_plane (operations : List PlaneOperation) :
    ProviderRun services "realm:1" (plane operations).1 (plane operations).2 :=
  run_exec (.of_forall (fun _ _ => trivial) ..)

/-- A request that waits for its executor, and is committed. -/
def awaited (client : Nat) (call : AuthorityCall) : List PlaneOperation :=
  [.opens client, .calls client call, .answers client, .commits client]

/-- A Promotion that is requested and handed off, and the answer is committed. -/
def executed : List PlaneOperation :=
  promotionRequested.flatMap (committed 0) ++
    awaited 0 (handOff "9" "promotion:1" "execution:1" (degradedExecutor id))

/-- A Promotion whose handoff crashes before its answer is committed. -/
def lost : List PlaneOperation :=
  promotionRequested.flatMap (committed 0) ++
    [.opens 0, .calls 0 (handOff "9" "promotion:1" "execution:1" healthyExecutor), .answers 0,
      .crashes 0]

/-- A Promotion that is handed off and reconciled. -/
def reconciled : List PlaneOperation :=
  executed ++ awaited 1 (reconcile "10" "promotion:1" "reconciliation:1" healthyExecutor)

/-- A Promotion whose handoff is lost, and that is handed off under another key. -/
def handedOffTwice : List PlaneOperation :=
  lost ++ awaited 1 (handOff "10" "promotion:1" "execution:2" healthyExecutor)

-- both runs start with the same requests: they are evaluated together
theorem plane_invocations :
    (plane reconciled).2.invocations =
      [⟨"promotion:1", "execution:1"⟩, ⟨"promotion:1", "execution:1"⟩] ∧
    (plane handedOffTwice).2.invocations =
      [⟨"promotion:1", "execution:1"⟩, ⟨"promotion:1", "execution:2"⟩] := by
  decide +kernel

end Sample

/-- The key of a handoff stays when the Promotion is reconciled. -/
theorem stored_forever_sample :
    let stored := Sample.plane Sample.executed
    let later := exec (ProviderPlane.step Sample.services "realm:1") stored.2
      (Sample.awaited 1 (Sample.reconcile "10" "promotion:1" "reconciliation:1"
        Sample.healthyExecutor))
    stored.2.rows.isSome ∧ KeepsStored stored.2.rows later.2.rows := by
  intro stored later
  have hlater : Run (ProviderPlane.step Sample.services "realm:1") (fun _ _ => True) stored.2
      later.1 later.2 := run_exec (.of_forall (fun _ _ => trivial) ..)
  exact ⟨by decide +kernel, stored_forever (Sample.run_plane Sample.executed) hlater⟩

/-- A Promotion that is handed off and reconciled: the reconciliation carries the key that was
stored. -/
theorem oneOperation_iff_of_run_sample :
    ∃ tr plane, ProviderRun Sample.services "realm:1" tr plane ∧
      plane.invocations =
        [⟨"promotion:1", "execution:1"⟩, ⟨"promotion:1", "execution:1"⟩] ∧
      ∀ t ∈ tr, NamesMadeKey Sample.services t.pre t.op := by
  have hrun := Sample.run_plane Sample.reconciled
  have hinvocations := Sample.plane_invocations.1
  refine ⟨_, _, hrun, hinvocations, (oneOperation_iff_of_run hrun).mp ?_⟩
  rw [OneOperation, hinvocations]
  decide

/-- **A second provider operation**: a request crashes before its answer is committed, and the
Promotion is handed off again, under another key. -/
theorem second_operation :
    ∃ tr plane, ProviderRun Sample.services "realm:1" tr plane ∧
      plane.invocations =
        [⟨"promotion:1", "execution:1"⟩, ⟨"promotion:1", "execution:2"⟩] ∧
      ¬ OneOperation plane := by
  have hinvocations := Sample.plane_invocations.2
  refine ⟨_, _, Sample.run_plane Sample.handedOffTwice, hinvocations, fun hone => ?_⟩
  rw [OneOperation, hinvocations] at hone
  have hsame := hone _ (List.mem_cons_self ..) _ (List.mem_cons_of_mem _ (List.mem_cons_self ..)) rfl
  exact absurd hsame (by decide)

end Anyam.Authority
