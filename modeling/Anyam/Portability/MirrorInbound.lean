import Anyam.Portability.MirrorSystem

/-!
# Remote changes on the inbound path

An inbound sync records all the refs it observed, and proposes the ones an update of the
adapter lists with their OID. So a ref that moved and is not listed, or was deleted,
enters the boundary without a Change.

- `AwaitedSound`: a sync that awaits a Change has Changes for all updates before it.
- `InboundSound`: the recorded proposal keys are those of the accepted Changes
  (**`inboundSound_of_run`**).
- **`losesNothing_iff_of_run`**: an inbound success represents every ref that moved, exactly
  when the remote state lists it or it has a Change already; a failure leaves the boundary.
-/

namespace Anyam.Portability

open Anyam.Lib Anyam.Kernel MirrorCoordinator

/-- A Change for a remote commit at a ref. -/
def ChangeFor (change : Change) (remoteRef oid : String) : Prop :=
  ∃ origin ∈ change.origin, origin.kind = .mirror ∧ origin.remoteRef = some remoteRef ∧
    origin.remoteCommit = some oid

/-- The updates of a remote state that an inbound sync works through. -/
def inboundUpdates (mappings : List MirrorRefMapping) (remoteState : MirrorRemoteState) :
    List MirrorRefUpdate :=
  relevantUpdates (remoteState.updates.filter fun update =>
    mappingForRemote update.remoteRef mappings ≠ none)

namespace MirrorCoordinator

/-- The key of the update's commit is recorded. -/
def Recorded (c : MirrorCoordinator) (remoteRef oid : String) : Prop :=
  c.inboundChangeIds.get? (c.proposalKey remoteRef oid) ≠ none

instance (c : MirrorCoordinator) (remoteRef oid : String) : Decidable (c.Recorded remoteRef oid) :=
  inferInstanceAs (Decidable (_ ≠ _))

def UpdateRecorded (c : MirrorCoordinator) (update : MirrorRefUpdate) : Prop :=
  ∃ oid ∈ update.currentOid, c.Recorded update.remoteRef oid

/-- The configuration is kept and no recorded key is forgotten. -/
structure Grows (c c' : MirrorCoordinator) : Prop where
  configured : c'.mirror.toMirrorConfiguration = c.mirror.toMirrorConfiguration
  recorded : ∀ key, c.inboundChangeIds.get? key ≠ none → c'.inboundChangeIds.get? key ≠ none

/-- A sync that awaits a Change: the observed refs are the mapped ones, the updates before
the awaited one are recorded, and the proposal is for the commit of the awaited one. -/
structure AwaitedSound (services : MirrorServices) (c : MirrorCoordinator)
    (awaited : AwaitedChange) : Prop where
  refs : awaited.inbound.remoteRefs =
    allowedRemoteRefs services awaited.inbound.remoteState.refs c.mirror.refMappings
  progress : ∃ passed update, inboundUpdates c.mirror.refMappings awaited.inbound.remoteState =
      passed ++ update :: awaited.rest ∧ (∀ before ∈ passed, c.UpdateRecorded before) ∧
    commitFor awaited.inbound.remoteState update = some awaited.proposal.remoteCommit
  keyed : awaited.key =
    c.proposalKey awaited.proposal.remoteCommit.ref awaited.proposal.remoteCommit.oid
  origin : awaited.proposal.origin.kind = .mirror ∧
    awaited.proposal.origin.remoteRef = some awaited.proposal.remoteCommit.ref ∧
    awaited.proposal.origin.remoteCommit = some awaited.proposal.remoteCommit.oid

variable {services : MirrorServices} {c c' c'' : MirrorCoordinator} {frame : SyncFrame}
  {remoteState : MirrorRemoteState} {ended : SyncOutcome × MirrorCoordinator} {completedAt : String}

theorem Grows.rfl : c.Grows c := ⟨Eq.refl _, fun _ h => h⟩

theorem Grows.trans (h : c.Grows c') (h' : c'.Grows c'') : c.Grows c'' :=
  ⟨h'.configured.trans h.configured, fun key hkey => h'.recorded key (h.recorded key hkey)⟩

theorem Keeps.grows (h : c.Keeps c') : c.Grows c' :=
  ⟨by rw [h.mirror], fun _ hkey => h.inboundChangeIds ▸ hkey⟩

theorem grows_of_ids (hmirror : c'.mirror.toMirrorConfiguration = c.mirror.toMirrorConfiguration)
    (hids : c'.inboundChangeIds = c.inboundChangeIds) : c.Grows c' :=
  ⟨hmirror, fun _ hkey => hids ▸ hkey⟩

theorem Grows.proposalKey (h : c.Grows c') (remoteRef oid : String) :
    c'.proposalKey remoteRef oid = c.proposalKey remoteRef oid := by
  have hid : c'.mirror.id = c.mirror.id := congrArg MirrorConfiguration.id h.configured
  unfold MirrorCoordinator.proposalKey
  rw [hid]

theorem Grows.refMappings (h : c.Grows c') : c'.mirror.refMappings = c.mirror.refMappings :=
  congrArg MirrorConfiguration.refMappings h.configured

theorem Recorded.mono (h : c.Grows c') {remoteRef oid : String} (hr : c.Recorded remoteRef oid) :
    c'.Recorded remoteRef oid := by
  unfold Recorded
  rw [h.proposalKey]
  exact h.recorded _ hr

theorem UpdateRecorded.mono (h : c.Grows c') {update : MirrorRefUpdate}
    (hr : c.UpdateRecorded update) : c'.UpdateRecorded update := by
  obtain ⟨oid, hoid, hrecorded⟩ := hr
  exact ⟨oid, hoid, hrecorded.mono h⟩

theorem AwaitedSound.mono (h : c.Grows c') {awaited : AwaitedChange}
    (ha : AwaitedSound services c awaited) : AwaitedSound services c' awaited := by
  obtain ⟨hrefs, ⟨passed, update, hupdates, hpassed, hfound⟩, hkeyed, horigin⟩ := ha
  refine ⟨by rw [h.refMappings, hrefs], ⟨passed, update, by rw [h.refMappings, hupdates], ?_, hfound⟩,
    by rw [h.proposalKey, hkeyed], horigin⟩
  exact fun before hmem => (hpassed before hmem).mono h

/-! ## Updates -/

theorem mapped_iff {mappings : List MirrorRefMapping} {remoteRef : String} :
    mappingForRemote remoteRef mappings ≠ none ↔
      remoteRef ∈ mappings.map MirrorRefMapping.remoteRef := by
  unfold mappingForRemote
  rw [Ne, List.find?_eq_none]
  simp

theorem mem_inboundUpdates {mappings : List MirrorRefMapping} {update : MirrorRefUpdate} :
    update ∈ inboundUpdates mappings remoteState ↔ update ∈ remoteState.updates ∧
      update.remoteRef ∈ mappings.map MirrorRefMapping.remoteRef ∧ update.kind ≠ .unchanged ∧
      update.currentOid ≠ none := by
  unfold inboundUpdates relevantUpdates
  rw [List.mem_filter, List.mem_filter, decide_eq_true_iff, decide_eq_true_iff, mapped_iff, and_assoc]

/-- A settled update of a mapped ref is recorded. -/
theorem Settled.recorded {update : MirrorRefUpdate} (h : c.Settled remoteState update)
    (hmapped : mappingForRemote update.remoteRef c.mirror.refMappings ≠ none) :
    c.UpdateRecorded update := by
  rcases h with hunmapped | ⟨commit, hcommit, -, hknown⟩
  · exact absurd hunmapped hmapped
  · obtain ⟨href, hoid⟩ := commitFor_eq_some hcommit
    refine ⟨commit.oid, hoid, ?_⟩
    obtain ⟨id, hid⟩ := Option.isSome_iff_exists.mp hknown
    rw [Recorded, ← href, (truthy_eq_some.mp hid).1]
    exact Option.some_ne_none id

/-- How a sync goes on from a remote state: it may await a sound Change, an inbound success
has every update recorded and the observed refs as the boundary, and a failure keeps the
boundary. -/
structure InboundEnd (services : MirrorServices) (c : MirrorCoordinator) (frame : SyncFrame)
    (remoteState : MirrorRemoteState) (ended : SyncOutcome × MirrorCoordinator) : Prop where
  grows : c.Grows ended.2
  ids : ended.2.inboundChangeIds = c.inboundChangeIds
  awaits : ∀ inbound key proposal rest,
    ended.1.awaited = some (.createChange inbound key proposal rest) →
      AwaitedSound services ended.2 ⟨inbound, key, proposal, rest⟩
  succeeds : ∀ input value, ended.1 = .finished input (.succeeded value) →
    value.operation.kind = .inbound → input = frame.input ∧ ended.2.mirror.remoteRefs =
        allowedRemoteRefs services remoteState.refs c.mirror.refMappings ∧
      ∀ update ∈ inboundUpdates c.mirror.refMappings remoteState, ended.2.UpdateRecorded update
  fails : ∀ input failure, ended.1 = .finished input (.failed failure) →
    ended.2.mirror.remoteRefs = c.mirror.remoteRefs

theorem inboundEnd_fail {failure : MirrorProviderFailure} {state : MirrorState}
    {generation : Option String} {explicitState : Option MirrorState} {failing : SyncFrame} :
    InboundEnd services c frame remoteState
      (c.fail failing failure state generation explicitState completedAt) := by
  obtain ⟨failed, hfailed⟩ :=
    @fail_outcome c failing failure state generation explicitState completedAt
  refine ⟨grows_of_ids (fail_configuration ..) (fail_inboundChangeIds ..), fail_inboundChangeIds ..,
    ?_, ?_, fun _ _ _ => fail_remoteRefs ..⟩
  · intro inbound key proposal rest hawaits
    rw [fail_awaited] at hawaits
    cases hawaits
  · intro input value hsucceeded
    rw [hfailed] at hsucceeded
    cases (SyncOutcome.finished.inj hsucceeded).2

theorem inboundEnd_succeed {next : MirrorBoundary} {changes : List Change}
    {kind : MirrorOperationKind} {succeeding : SyncFrame} (hkind : kind ≠ .inbound) :
    InboundEnd services c frame remoteState (c.succeed succeeding next changes kind completedAt) := by
  obtain ⟨value, hvalue, hvalueKind⟩ := @succeed_outcome c succeeding next changes kind completedAt
  refine ⟨grows_of_ids (succeed_configuration ..) (succeed_inboundChangeIds ..),
    succeed_inboundChangeIds .., ?_, ?_, ?_⟩
  · intro inbound key proposal rest hawaits
    rw [succeed_awaited] at hawaits
    cases hawaits
  · intro input value' hsucceeded hinbound
    rw [hvalue] at hsucceeded
    cases (SyncOutcome.finished.inj hsucceeded).2
    exact absurd (hvalueKind.symm.trans hinbound) hkind
  · intro input failure hfailed
    rw [hvalue] at hfailed
    cases (SyncOutcome.finished.inj hfailed).2

/-- A stretch that awaits another call than a Change. -/
theorem inboundEnd_awaits {call : MirrorCall} (hcall : call.creating = none) (hkeeps : c.Keeps c') :
    InboundEnd services c frame remoteState (.awaits call, c') := by
  refine ⟨hkeeps.grows, hkeeps.inboundChangeIds, ?_, fun _ _ h => SyncOutcome.noConfusion h,
    fun _ _ h => SyncOutcome.noConfusion h⟩
  intro inbound key proposal rest hawaits
  cases Option.some.inj hawaits
  cases hcall

theorem inboundEnd_proposal {inbound : InboundFrame} {before updates : List MirrorRefUpdate}
    (hrefs : inbound.remoteRefs =
      allowedRemoteRefs services inbound.remoteState.refs c.mirror.refMappings)
    (hall : inboundUpdates c.mirror.refMappings inbound.remoteState = before ++ updates)
    (hbefore : ∀ update ∈ before, c.UpdateRecorded update)
    (hexit : ProposalExit c inbound updates completedAt ended) :
    InboundEnd services c inbound.toSyncFrame inbound.remoteState ended := by
  have hmapped : ∀ update ∈ updates,
      mappingForRemote update.remoteRef c.mirror.refMappings ≠ none := by
    intro update hmem
    have hin : update ∈ inboundUpdates c.mirror.refMappings inbound.remoteState :=
      hall ▸ List.mem_append_right _ hmem
    exact mapped_iff.mpr (mem_inboundUpdates.mp hin).2.1
  cases hexit with
  | refused => exact inboundEnd_fail
  | @asks inbound' passed update rest key proposal hupdates hadvanced hproposes =>
    subst hupdates
    refine ⟨.rfl, rfl, ?_, fun _ _ h => SyncOutcome.noConfusion h,
      fun _ _ h => SyncOutcome.noConfusion h⟩
    intro _ _ _ _ hawaits
    cases Option.some.inj hawaits
    refine ⟨?_, ⟨before ++ passed, update, ?_, ?_, ?_⟩, hproposes.keyed, hproposes.origin⟩
    · rw [hadvanced.remoteRefs, hadvanced.remoteState, hrefs]
    · rw [hadvanced.remoteState, hall, List.append_assoc]
    · intro other hmem
      rcases List.mem_append.mp hmem with hmem | hmem
      · exact hbefore other hmem
      · exact (hadvanced.settled other hmem).recorded
          (hmapped other (List.mem_append_left _ hmem))
    · rw [hadvanced.remoteState]
      exact hproposes.found
  | @exhausted inbound' hadvanced =>
    have hgrows : c.Grows (c.inboundExhausted inbound' completedAt).2 :=
      grows_of_ids (succeed_configuration ..) (succeed_inboundChangeIds ..)
    obtain ⟨value, hvalue, -⟩ := @succeed_outcome c inbound'.toSyncFrame _ inbound'.inboundChanges
      .inbound completedAt
    refine ⟨hgrows, succeed_inboundChangeIds .., ?_, ?_, ?_⟩
    · intro inbound key proposal rest hawaits
      rw [inboundExhausted, succeed_awaited] at hawaits
      cases hawaits
    · intro input value' hsucceeded _
      rw [inboundExhausted, hvalue] at hsucceeded
      refine ⟨?_, ?_, fun update hmem => UpdateRecorded.mono hgrows ?_⟩
      · rw [← (SyncOutcome.finished.inj hsucceeded).1, hadvanced.frame]
      · rw [inboundExhausted, succeed_remoteRefs, hadvanced.remoteRefs, hrefs]
      · rw [hall] at hmem
        rcases List.mem_append.mp hmem with hmem | hmem
        · exact hbefore update hmem
        · exact (hadvanced.settled update hmem).recorded (hmapped update hmem)
    · intro input failure hfailed
      rw [inboundExhausted, hvalue] at hfailed
      cases (SyncOutcome.finished.inj hfailed).2

/-- A sync that starts is not an inbound success. -/
theorem operationKind_ne_inbound (input : MirrorSyncInput) : input.operationKind ≠ .inbound := by
  unfold MirrorSyncInput.operationKind
  split <;> exact fun h => MirrorOperationKind.noConfusion h

theorem inboundEnd_reconcile (hframe : frame.Sound services c.mirror.toMirrorConfiguration)
    (hmirror : c'.mirror = c.mirror)
    (hexit : ReconcileExit services c' (remoteInspected frame (c.observe services frame remoteState))
      (c.observe services frame remoteState) completedAt ended) :
    InboundEnd services c' frame remoteState ended := by
  have hkind : frame.operation.kind ≠ .inbound := by
    rw [hframe.kind]
    exact operationKind_ne_inbound _
  cases hexit with
  | synchronized => exact inboundEnd_succeed hkind
  | settled => exact inboundEnd_succeed hkind
  | outbound => exact inboundEnd_awaits rfl .rfl
  | inbound =>
    rcases processInbound_exit _ (c.observe services frame remoteState) completedAt with
      ⟨-, failure, heq⟩ | ⟨-, inbound, hinbound, hremote, hrefs, hproposal⟩
    · rw [heq]
      exact inboundEnd_fail
    · have hobserved : inbound.remoteRefs =
          allowedRemoteRefs services inbound.remoteState.refs c'.mirror.refMappings := by
        rw [hrefs, hremote, hmirror]
        rfl
      have hupdates : inboundUpdates c'.mirror.refMappings inbound.remoteState =
          [] ++ relevantUpdates (c.observe services frame remoteState).updates := by
        rw [hremote, hmirror]
        rfl
      have hend := inboundEnd_proposal hobserved hupdates
        (fun _ h => absurd h List.not_mem_nil) hproposal
      rw [hinbound, hremote] at hend
      exact ⟨hend.grows, hend.ids, hend.awaits, hend.succeeds, hend.fails⟩
  | _ => exact inboundEnd_fail

end MirrorCoordinator

namespace MirrorSystem

/-- The Change an event reports and the sync accepts, with what the sync awaited. -/
def acceptedChange (s : MirrorSystem) : MirrorEvent → Option (AwaitedChange × Change)
  | .created task (.returned (.succeeded change)) _ =>
    ((s.creating task).filter fun awaited =>
      s.coordinator.Provenance awaited.inbound awaited.proposal change).map (·, change)
  | _ => none

/-- The input of the sync an event reports on, with the remote state it observed. -/
def observing (s : MirrorSystem) : MirrorEvent → Option (MirrorSyncInput × MirrorRemoteState)
  | .inspected task (.returned (.succeeded state)) _ =>
    (s.inspecting task).map fun frame => (frame.input, state)
  | .created task _ _ =>
    (s.creating task).map fun awaited => (awaited.inbound.input, awaited.inbound.remoteState)
  | _ => none

variable {services : MirrorServices} {configuration : MirrorConfiguration} {s : MirrorSystem}
  {event : MirrorEvent} {ended : SyncOutcome × MirrorCoordinator}

theorem acceptedChange_eq_some {awaited : AwaitedChange} {change : Change} :
    s.acceptedChange event = some (awaited, change) ↔ ∃ task clock,
      event = .created task (.returned (.succeeded change)) clock ∧
      s.creating task = some awaited ∧
      s.coordinator.Provenance awaited.inbound awaited.proposal change := by
  unfold acceptedChange
  constructor
  · intro h
    split at h
    · obtain ⟨found, hfound, heq⟩ := Option.map_eq_some_iff.mp h
      cases heq
      obtain ⟨hcreating, hprovenance⟩ := Option.filter_eq_some_iff.mp hfound
      exact ⟨_, _, rfl, hcreating, of_decide_eq_true hprovenance⟩
    · cases h
  · rintro ⟨task, clock, rfl, hcreating, hprovenance⟩
    refine Option.map_eq_some_iff.mpr ⟨awaited, Option.filter_eq_some_iff.mpr ⟨hcreating, ?_⟩, rfl⟩
    exact decide_eq_true hprovenance

/-- The proposal keys after an event: the accepted Change is recorded. -/
def changeIdsAfter (s : MirrorSystem) (event : MirrorEvent) : OrderedMap String String :=
  match s.acceptedChange event with
  | some (awaited, change) => s.coordinator.inboundChangeIds.set awaited.key change.id
  | none => s.coordinator.inboundChangeIds

/-- What a stretch does to the proposals and the boundary. -/
structure InboundStretch (services : MirrorServices) (s : MirrorSystem) (event : MirrorEvent)
    (ended : SyncOutcome × MirrorCoordinator) : Prop where
  grows : s.coordinator.Grows ended.2
  ids : ended.2.inboundChangeIds = s.changeIdsAfter event
  awaits : ∀ inbound key proposal rest,
    ended.1.awaited = some (.createChange inbound key proposal rest) →
      AwaitedSound services ended.2 ⟨inbound, key, proposal, rest⟩
  succeeds : ∀ input value, ended.1 = .finished input (.succeeded value) →
    value.operation.kind = .inbound → ∃ remoteState, s.observing event = some (input, remoteState) ∧
      ended.2.mirror.remoteRefs =
        allowedRemoteRefs services remoteState.refs s.coordinator.mirror.refMappings ∧
      ∀ update ∈ inboundUpdates s.coordinator.mirror.refMappings remoteState,
        ended.2.UpdateRecorded update
  fails : ∀ input failure, ended.1 = .finished input (.failed failure) →
    ended.2.mirror.remoteRefs = s.coordinator.mirror.remoteRefs

/-- A stretch that goes on from an observation, in a coordinator that knows the accepted
Change. -/
theorem InboundEnd.stretch {c : MirrorCoordinator} {frame : SyncFrame}
    {remoteState : MirrorRemoteState} (h : InboundEnd services c frame remoteState ended)
    (hmirror : c.mirror = s.coordinator.mirror) (hgrows : s.coordinator.Grows c)
    (hids : c.inboundChangeIds = s.changeIdsAfter event)
    (hobserving : s.observing event = some (frame.input, remoteState)) :
    InboundStretch services s event ended := by
  refine ⟨hgrows.trans h.grows, h.ids.trans hids, h.awaits, ?_, ?_⟩
  · intro input value hsucceeded hkind
    obtain ⟨hinput, hrefs, hrecorded⟩ := h.succeeds input value hsucceeded hkind
    rw [hmirror] at hrefs hrecorded
    exact ⟨remoteState, hinput ▸ hobserving, hrefs, hrecorded⟩
  · intro input failure hfailed
    rw [h.fails input failure hfailed, hmirror]

/-- A stretch that ends with a failure, or not at all, without an accepted Change. -/
theorem inboundStretch_of_keeps {c : MirrorCoordinator} {call : Option MirrorCall}
    (hkeeps : s.coordinator.Keeps c) (hids : s.acceptedChange event = none)
    (hended : ended.2 = c) (hawaited : ended.1.awaited = call)
    (hcall : ∀ awaited ∈ call, awaited.creating = none)
    (hopen : ∀ input result, ended.1 ≠ .finished input result) :
    InboundStretch services s event ended := by
  subst hended hawaited
  refine ⟨hkeeps.grows, ?_, ?_, fun input value h => absurd h (hopen _ _),
    fun input failure h => absurd h (hopen _ _)⟩
  · rw [hkeeps.inboundChangeIds, changeIdsAfter, hids]
  · intro inbound key proposal rest hawaits
    have hnone := hcall _ hawaits
    cases hnone

theorem inboundStretch_fail {c : MirrorCoordinator} {frame : SyncFrame}
    {failure : MirrorProviderFailure} {state : MirrorState} {generation : Option String}
    {explicitState : Option MirrorState} {completedAt : String} (hkeeps : s.coordinator.Keeps c)
    (hids : s.acceptedChange event = none) :
    InboundStretch services s event
      (c.fail frame failure state generation explicitState completedAt) := by
  obtain ⟨failed, hfailed⟩ :=
    @fail_outcome c frame failure state generation explicitState completedAt
  refine ⟨hkeeps.grows.trans (grows_of_ids (fail_configuration ..) (fail_inboundChangeIds ..)), ?_,
    ?_, ?_, ?_⟩
  · rw [fail_inboundChangeIds, hkeeps.inboundChangeIds, changeIdsAfter, hids]
  · intro inbound key proposal rest hawaits
    rw [fail_awaited] at hawaits
    cases hawaits
  · intro input value hsucceeded
    rw [hfailed] at hsucceeded
    cases (SyncOutcome.finished.inj hsucceeded).2
  · intro input failure _
    rw [fail_remoteRefs, hkeeps.mirror]

theorem inboundStretch_succeed {frame : SyncFrame} {next : MirrorBoundary} {changes : List Change}
    {kind : MirrorOperationKind} {completedAt : String} (hkind : kind ≠ .inbound)
    (hids : s.acceptedChange event = none) :
    InboundStretch services s event (s.coordinator.succeed frame next changes kind completedAt) := by
  obtain ⟨value, hvalue, hvalueKind⟩ :=
    @succeed_outcome s.coordinator frame next changes kind completedAt
  refine ⟨grows_of_ids (succeed_configuration ..) (succeed_inboundChangeIds ..), ?_, ?_, ?_, ?_⟩
  · rw [succeed_inboundChangeIds, changeIdsAfter, hids]
  · intro inbound key proposal rest hawaits
    rw [succeed_awaited] at hawaits
    cases hawaits
  · intro input value' hsucceeded hinbound
    rw [hvalue] at hsucceeded
    cases (SyncOutcome.finished.inj hsucceeded).2
    exact absurd (hvalueKind.symm.trans hinbound) hkind
  · intro input failure hfailed
    rw [hvalue] at hfailed
    cases (SyncOutcome.finished.inj hfailed).2

theorem stretch_inbound {task : Nat} (hs : s.Sound services configuration)
    (hawaited : ∀ task awaited, s.creating task = some awaited →
      AwaitedSound services s.coordinator awaited)
    (h : Stretch services s event task ended) : InboundStretch services s event ended := by
  have hsync : ∀ {input}, SyncExit services s.coordinator input ended →
      s.acceptedChange event = none → InboundStretch services s event ended := by
    intro input hexit hnone
    cases hexit with
    | threw hkeeps =>
      exact inboundStretch_of_keeps hkeeps hnone rfl rfl (fun _ h => absurd h (Option.not_mem_none _))
        fun _ _ h => SyncOutcome.noConfusion h
    | replayed =>
      exact inboundStretch_of_keeps .rfl hnone rfl rfl (fun _ h => absurd h (Option.not_mem_none _))
        fun _ _ h => SyncOutcome.noConfusion h
    | invalid hkeeps => exact inboundStretch_fail hkeeps hnone
    | inspects hkeeps =>
      refine inboundStretch_of_keeps hkeeps hnone rfl rfl ?_ fun _ _ h => SyncOutcome.noConfusion h
      intro call hcall
      cases Option.some.inj hcall
      rfl
  cases h with
  | began hexit => exact hsync hexit rfl
  | resumed _ hexit => exact hsync hexit rfl
  | @inspected _ frame request _ clock _ hcall hexit =>
    have hframe : frame.Sound services configuration := (hs.inFlight _ _ hcall).2
    rw [← hs.configured] at hframe
    cases hexit with
    | failed => exact inboundStretch_fail .rfl rfl
    | incomplete => exact inboundStretch_fail .rfl rfl
    | compared hanswer _ hkeeps hreconcile =>
      subst hanswer
      have hend := inboundEnd_reconcile hframe hkeeps.mirror hreconcile
      refine InboundEnd.stretch hend hkeeps.mirror hkeeps.grows hkeeps.inboundChangeIds ?_
      rw [observing, inspecting_eq_some.mpr ⟨request, hcall⟩, Option.map_some]
  | @created task inbound key proposal rest answer clock _ hcall hexit =>
    have hcreating : s.creating task = some ⟨inbound, key, proposal, rest⟩ :=
      creating_eq_some.mpr hcall
    cases hexit with
    | failed hfailed =>
      refine inboundStretch_fail .rfl ?_
      obtain ⟨_ | _⟩ | _ := answer
      · cases hfailed
      · rfl
      · rfl
    | mismatched hanswer hmismatch =>
      subst hanswer
      refine inboundStretch_fail .rfl (Option.eq_none_iff_forall_not_mem.mpr ?_)
      rintro ⟨awaited, accepted⟩ hmem
      obtain ⟨_, _, hevent, hfound, hprovenance⟩ := acceptedChange_eq_some.mp hmem
      cases hevent
      rw [hcreating] at hfound
      cases hfound
      exact hmismatch hprovenance
    | @accepted change c' _ hanswer hmatches hmirror _ hrecorded hrest =>
      subst hanswer
      have haccepted : s.acceptedChange (.created task (.returned (.succeeded change)) clock) =
          some (⟨inbound, key, proposal, rest⟩, change) :=
        acceptedChange_eq_some.mpr ⟨task, clock, rfl, hcreating, hmatches⟩
      have hids : c'.inboundChangeIds =
          s.changeIdsAfter (.created task (.returned (.succeeded change)) clock) := by
        rw [hrecorded, changeIdsAfter, haccepted]
      have hgrows : s.coordinator.Grows c' := by
        refine ⟨by rw [hmirror], fun other hother => ?_⟩
        rw [hrecorded, OrderedMap.get?_set]
        split
        · exact Option.some_ne_none _
        · exact hother
      obtain ⟨hrefs, ⟨passed, update, hupdates, hpassed, hfound⟩, hkeyed, -⟩ :=
        hawaited task _ hcreating
      obtain ⟨href, hoid⟩ := commitFor_eq_some hfound
      -- the awaited update is recorded now
      have hnow : c'.UpdateRecorded update := by
        refine ⟨_, hoid, ?_⟩
        rw [Recorded, hgrows.proposalKey, ← href, ← hkeyed, hrecorded, OrderedMap.get?_set_self]
        exact Option.some_ne_none _
      have hpast : ∀ other ∈ passed ++ [update], c'.UpdateRecorded other := by
        intro other hmem
        rcases List.mem_append.mp hmem with hmem | hmem
        · exact (hpassed other hmem).mono hgrows
        · exact List.mem_singleton.mp hmem ▸ hnow
      have hall : inboundUpdates c'.mirror.refMappings inbound.remoteState =
          (passed ++ [update]) ++ rest := by
        rw [hmirror, List.append_assoc]
        exact hupdates
      have hobserved : inbound.remoteRefs =
          allowedRemoteRefs services inbound.remoteState.refs c'.mirror.refMappings := by
        rw [hmirror]
        exact hrefs
      have hend := @inboundEnd_proposal _ _ _ _
        (inbound.completedBy change proposal.remoteCommit.oid) _ _ hobserved hall hpast hrest
      refine InboundEnd.stretch hend hmirror hgrows hids ?_
      rw [observing, hcreating]
      rfl
  | pushed hcall hexit =>
    cases hexit with
    | failed => exact inboundStretch_fail .rfl rfl
    | mismatched => exact inboundStretch_fail .rfl rfl
    | synchronized =>
      exact inboundStretch_succeed (by decide) rfl

/-! ## Accepted Changes -/

/-- An update that is worked through names the ref and the OID. -/
def Listed (mappings : List MirrorRefMapping) (remoteState : MirrorRemoteState)
    (remoteRef oid : String) : Prop :=
  ∃ update ∈ inboundUpdates mappings remoteState,
    update.remoteRef = remoteRef ∧ update.currentOid = some oid

instance (mappings : List MirrorRefMapping) (remoteState : MirrorRemoteState)
    (remoteRef oid : String) : Decidable (Listed mappings remoteState remoteRef oid) :=
  inferInstanceAs (Decidable (∃ update ∈ inboundUpdates mappings remoteState, _ ∧ _))

/-- A Change with the awaited provenance is one for the proposed commit alone. -/
theorem changeFor_iff {inbound : InboundFrame} {proposal : MirrorInboundChangeInput} {change : Change}
    {c : MirrorCoordinator} {remoteRef oid : String} (hprovenance : c.Provenance inbound proposal change)
    (horigin : proposal.origin.kind = .mirror ∧
      proposal.origin.remoteRef = some proposal.remoteCommit.ref ∧
      proposal.origin.remoteCommit = some proposal.remoteCommit.oid) :
    ChangeFor change remoteRef oid ↔
      remoteRef = proposal.remoteCommit.ref ∧ oid = proposal.remoteCommit.oid := by
  obtain ⟨-, -, found, hfound, hmirror, -, -, -, hsameRef, hsameOid, -⟩ := hprovenance
  have hfoundRef : found.remoteRef = some proposal.remoteCommit.ref := hsameRef.trans horigin.2.1
  have hfoundOid : found.remoteCommit = some proposal.remoteCommit.oid := hsameOid.trans horigin.2.2
  constructor
  · rintro ⟨origin, hmem, -, href, hoid⟩
    cases Option.mem_unique hfound hmem
    exact ⟨Option.some.inj (href.symm.trans hfoundRef), Option.some.inj (hoid.symm.trans hfoundOid)⟩
  · rintro ⟨rfl, rfl⟩
    exact ⟨found, hfound, hmirror, hfoundRef, hfoundOid⟩

/-- An accepted Change is for one listed commit, and its key is the one of this commit. -/
theorem acceptedChange_listed {awaited : AwaitedChange} {change : Change}
    (hawaited : ∀ task awaited, s.creating task = some awaited →
      AwaitedSound services s.coordinator awaited)
    (h : s.acceptedChange event = some (awaited, change)) : ∃ remoteRef oid,
      awaited.key = s.coordinator.proposalKey remoteRef oid ∧
      Listed s.coordinator.mirror.refMappings awaited.inbound.remoteState remoteRef oid ∧
      ∀ otherRef otherOid, ChangeFor change otherRef otherOid ↔ otherRef = remoteRef ∧ otherOid = oid := by
  obtain ⟨task, clock, -, hcreating, hprovenance⟩ := acceptedChange_eq_some.mp h
  obtain ⟨-, ⟨passed, update, hupdates, -, hfound⟩, hkeyed, horigin⟩ := hawaited task awaited hcreating
  obtain ⟨href, hoid⟩ := commitFor_eq_some hfound
  refine ⟨_, _, hkeyed, ⟨update, ?_, href.symm, hoid⟩, fun _ _ => changeFor_iff hprovenance horigin⟩
  rw [hupdates]
  exact List.mem_append_right _ (List.mem_cons_self ..)

/-- An event that answers no call has no accepted Change. -/
theorem acceptedChange_of_idle (hidle : step services event s = (.idle, s)) :
    s.acceptedChange event = none := by
  refine Option.eq_none_iff_forall_not_mem.mpr fun ⟨awaited, change⟩ hmem => ?_
  obtain ⟨task, clock, rfl, hcreating, -⟩ := acceptedChange_eq_some.mp hmem
  simp only [step, creating_eq_some.mp hcreating] at hidle
  cases congrArg Prod.fst hidle

/-! ## Runs -/

/-- A Change for the commit at the ref was accepted. -/
def Represented (tr : List MirrorTransition) (remoteRef oid : String) : Prop :=
  ∃ t ∈ tr, ∃ accepted ∈ t.pre.acceptedChange t.op, ChangeFor accepted.2 remoteRef oid

variable {tr : List MirrorTransition} {remoteRef oid : String}

theorem represented_snoc {t : MirrorTransition} : Represented (tr ++ [t]) remoteRef oid ↔
    Represented tr remoteRef oid ∨
      ∃ accepted ∈ t.pre.acceptedChange t.op, ChangeFor accepted.2 remoteRef oid := by
  constructor
  · rintro ⟨other, hmem, haccepted⟩
    rcases List.mem_append.mp hmem with hmem | hmem
    · exact .inl ⟨other, hmem, haccepted⟩
    · cases List.mem_singleton.mp hmem
      exact .inr haccepted
  · rintro (⟨other, hmem, haccepted⟩ | haccepted)
    · exact ⟨other, List.mem_append_left _ hmem, haccepted⟩
    · exact ⟨t, List.mem_append_right _ (List.mem_singleton_self t), haccepted⟩

/-- The recorded proposal keys are those of the accepted Changes, each for a mapped ref. -/
structure InboundSound (services : MirrorServices) (tr : List MirrorTransition)
    (s : MirrorSystem) : Prop where
  awaited : ∀ task awaited, s.creating task = some awaited →
    AwaitedSound services s.coordinator awaited
  recorded : ∀ key, s.coordinator.inboundChangeIds.get? key ≠ none → ∃ remoteRef oid,
    remoteRef ∈ s.coordinator.mirror.refMappings.map MirrorRefMapping.remoteRef ∧
      key = s.coordinator.proposalKey remoteRef oid ∧ Represented tr remoteRef oid
  represented : ∀ remoteRef oid, Represented tr remoteRef oid →
    s.coordinator.Recorded remoteRef oid

/-- **One stretch** keeps the proposals sound. -/
theorem InboundSound.stretch {calls task : Nat} {t : MirrorTransition} (hI : InboundSound services tr s)
    (hs : s.Sound services configuration) (hpre : t.pre = s) (hop : t.op = event)
    (h : Stretch services s event task ended) :
    InboundSound services (tr ++ [t]) (s.settle calls task ended).2 := by
  have hstretch := stretch_inbound hs hI.awaited h
  subst hpre hop
  refine ⟨?_, ?_, ?_⟩
  · intro other awaited hcreating
    have hcall := creating_eq_some.mp hcreating
    rw [settle_inFlight] at hcall
    by_cases hother : other = task
    · rw [if_pos hother] at hcall
      exact hstretch.awaits _ _ _ _ hcall
    · rw [if_neg hother] at hcall
      exact (hI.awaited other awaited (creating_eq_some.mpr hcall)).mono hstretch.grows
  · intro key hkey
    have hkeys : ended.2.inboundChangeIds.get? key ≠ none := hkey
    have hold : t.pre.coordinator.inboundChangeIds.get? key ≠ none → ∃ remoteRef oid,
        remoteRef ∈ ended.2.mirror.refMappings.map MirrorRefMapping.remoteRef ∧
          key = ended.2.proposalKey remoteRef oid ∧ Represented (tr ++ [t]) remoteRef oid := by
      intro hbefore
      obtain ⟨remoteRef, oid, hmapped, rfl, hrepresented⟩ := hI.recorded key hbefore
      exact ⟨remoteRef, oid, hstretch.grows.refMappings ▸ hmapped,
        (hstretch.grows.proposalKey _ _).symm, represented_snoc.mpr (.inl hrepresented)⟩
    rw [hstretch.ids, changeIdsAfter] at hkeys
    cases haccepted : t.pre.acceptedChange t.op with
    | none =>
      rw [haccepted] at hkeys
      exact hold hkeys
    | some accepted =>
      obtain ⟨awaited, change⟩ := accepted
      rw [haccepted, OrderedMap.get?_set] at hkeys
      by_cases hsame : key = awaited.key
      · -- the key of the accepted Change
        obtain ⟨remoteRef, oid, hkeyed, ⟨update, hupdate, rfl, -⟩, hfor⟩ :=
          acceptedChange_listed hI.awaited haccepted
        refine ⟨update.remoteRef, oid, ?_, ?_, ?_⟩
        · exact hstretch.grows.refMappings ▸ (mem_inboundUpdates.mp hupdate).2.1
        · exact (hsame.trans hkeyed).trans (hstretch.grows.proposalKey _ _).symm
        · exact represented_snoc.mpr (.inr ⟨_, haccepted, (hfor _ _).mpr ⟨rfl, rfl⟩⟩)
      · rw [if_neg hsame] at hkeys
        exact hold hkeys
  · intro remoteRef oid hrepresented
    rcases represented_snoc.mp hrepresented with hbefore | ⟨⟨awaited, change⟩, haccepted, hchange⟩
    · exact (hI.represented _ _ hbefore).mono hstretch.grows
    · obtain ⟨_, _, hkeyed, -, hfor⟩ := acceptedChange_listed hI.awaited haccepted
      obtain ⟨rfl, rfl⟩ := (hfor _ _).mp hchange
      show ended.2.inboundChangeIds.get? (ended.2.proposalKey remoteRef oid) ≠ none
      rw [hstretch.ids, changeIdsAfter, haccepted, hstretch.grows.proposalKey, ← hkeyed]
      rw [OrderedMap.get?_set_self]
      exact Option.some_ne_none _

variable {c : MirrorCoordinator} {ok : MirrorSystem → MirrorEvent → Prop}

/-- **The proposal keys of a run** are those of its accepted Changes. -/
theorem inboundSound_of_run (hids : c.inboundChangeIds = .empty)
    (hrun : RunFrom services c ok tr s) : InboundSound services tr s := by
  refine (sound_invariant (InboundSound services) ?_ ?_ ?_ hrun).2
  · refine ⟨fun _ _ h => (nomatch h), fun key hkey => ?_, fun _ _ h => ?_⟩
    · rw [start, hids] at hkey
      exact absurd rfl hkey
    · obtain ⟨t, ht, -⟩ := h
      exact absurd ht List.not_mem_nil
  · intro tr s event _ hidle hI
    have hsame : ∀ remoteRef oid, Represented (tr ++ [.of (MirrorSystem.step services) s event])
        remoteRef oid ↔ Represented tr remoteRef oid := by
      intro remoteRef oid
      refine represented_snoc.trans (or_iff_left ?_)
      rintro ⟨accepted, haccepted, -⟩
      have hnone := acceptedChange_of_idle hidle
      exact Option.some_ne_none _ (haccepted.symm.trans hnone)
    refine ⟨hI.awaited, fun key hkey => ?_, fun remoteRef oid h => ?_⟩
    · obtain ⟨remoteRef, oid, hmapped, hkeyed, hrepresented⟩ := hI.recorded key hkey
      exact ⟨remoteRef, oid, hmapped, hkeyed, (hsame _ _).mpr hrepresented⟩
    · exact hI.represented _ _ ((hsame _ _).mp h)
  · intro tr s event calls task ended hs _ hI hended _
    exact hI.stretch hs rfl rfl hended

/-- No mapped ref goes on from another one with a colon. -/
def RefsUnambiguous (mappings : List MirrorRefMapping) : Prop :=
  ∀ mapping ∈ mappings, ∀ other ∈ mappings,
    ¬ (mapping.remoteRef.toList ++ [':']).IsPrefix other.remoteRef.toList

instance (mappings : List MirrorRefMapping) : Decidable (RefsUnambiguous mappings) :=
  inferInstanceAs (Decidable (∀ mapping ∈ mappings, ∀ other ∈ mappings, ¬ _))

/-- Proposals of unambiguous refs have different keys. -/
theorem proposalKey_inj (hrefs : RefsUnambiguous c.mirror.refMappings) {otherRef otherOid : String}
    (href : remoteRef ∈ c.mirror.refMappings.map MirrorRefMapping.remoteRef)
    (hother : otherRef ∈ c.mirror.refMappings.map MirrorRefMapping.remoteRef)
    (h : c.proposalKey remoteRef oid = c.proposalKey otherRef otherOid) :
    remoteRef = otherRef ∧ oid = otherOid := by
  obtain ⟨mapping, hmapping, rfl⟩ := List.mem_map.mp href
  obtain ⟨other, hmem, rfl⟩ := List.mem_map.mp hother
  have hchars := congrArg String.toList h
  simp only [proposalKey, toString, String.toList_append, List.append_assoc] at hchars
  have hrest := List.append_cancel_left (List.append_cancel_left hchars)
  obtain ⟨hname, hoid⟩ := separated_inj hrest (hrefs _ hmapping _ hmem) (hrefs _ hmem _ hmapping)
  exact ⟨String.toList_injective hname, String.toList_injective hoid⟩

/-- A recorded proposal of a mapped ref has its Change. -/
theorem InboundSound.represented_iff (hI : InboundSound services tr s)
    (hrefs : RefsUnambiguous s.coordinator.mirror.refMappings)
    (hmapped : remoteRef ∈ s.coordinator.mirror.refMappings.map MirrorRefMapping.remoteRef) :
    Represented tr remoteRef oid ↔ s.coordinator.Recorded remoteRef oid := by
  constructor
  · exact hI.represented remoteRef oid
  · intro hrecorded
    obtain ⟨_, _, hmem, hkey, hrepresented⟩ := hI.recorded _ hrecorded
    obtain ⟨rfl, rfl⟩ := proposalKey_inj hrefs hmapped hmem hkey
    exact hrepresented

/-! ## What an inbound success loses -/

/-- The OID or absence of a ref is neither the recorded one nor the canonical one. -/
def Moved (services : MirrorServices) (c : MirrorCoordinator) (canonical : MirrorCanonicalState)
    (observed : List GitRef) (remoteRef : String) : Prop :=
  refOid observed remoteRef ≠ refOid c.mirror.remoteRefs remoteRef ∧
    refOid observed remoteRef ≠
      refOid (projectCanonicalRefs services canonical c.mirror.refMappings) remoteRef

instance (services : MirrorServices) (c : MirrorCoordinator) (canonical : MirrorCanonicalState)
    (observed : List GitRef) (remoteRef : String) :
    Decidable (Moved services c canonical observed remoteRef) :=
  inferInstanceAs (Decidable (_ ∧ _))

/-- Each mapped ref that moved against the observed state has an OID, which an update lists
or whose proposal is recorded. -/
def ListsMoved (services : MirrorServices) (s : MirrorSystem) (event : MirrorEvent) : Prop :=
  ∀ seen ∈ s.observing event,
    ∀ remoteRef ∈ s.coordinator.mirror.refMappings.map MirrorRefMapping.remoteRef,
      Moved services s.coordinator seen.1.canonical
          (allowedRemoteRefs services seen.2.refs s.coordinator.mirror.refMappings) remoteRef →
        ∃ oid ∈ refOid (allowedRemoteRefs services seen.2.refs s.coordinator.mirror.refMappings)
            remoteRef,
          Listed s.coordinator.mirror.refMappings seen.2 remoteRef oid ∨
            s.coordinator.Recorded remoteRef oid

instance (services : MirrorServices) (s : MirrorSystem) (event : MirrorEvent) :
    Decidable (s.ListsMoved services event) :=
  inferInstanceAs (Decidable (∀ seen ∈ s.observing event, ∀ remoteRef ∈ List.map _ _,
    _ → ∃ oid ∈ refOid _ remoteRef, _ ∨ _))

/-- A sync that succeeded through `processInbound` in a transition. -/
def inboundSuccess (t : MirrorTransition) : Option (MirrorSyncInput × MirrorSyncValue) :=
  t.reply.succeeded.filter fun done => done.2.operation.kind = .inbound

/-- Every ref that moved is represented by a Change for its OID when an inbound sync
succeeds, and a sync that fails keeps the boundary. -/
def LosesNothing (services : MirrorServices) (tr : List MirrorTransition) : Prop :=
  ∀ (i : Nat) (t : MirrorTransition), tr[i]? = some t →
    (∀ done ∈ inboundSuccess t,
      ∀ remoteRef ∈ t.pre.coordinator.mirror.refMappings.map MirrorRefMapping.remoteRef,
        Moved services t.pre.coordinator done.1.canonical t.post.coordinator.mirror.remoteRefs
            remoteRef →
          ∃ oid ∈ refOid t.post.coordinator.mirror.remoteRefs remoteRef,
            Represented (tr.take (i + 1)) remoteRef oid) ∧
    ∀ done ∈ t.reply.finished, ∀ failure, done.2 = .failed failure →
      t.post.coordinator.mirror.remoteRefs = t.pre.coordinator.mirror.remoteRefs

/-- A ref and OID is recorded after an inbound success exactly when it was listed or
recorded before. -/
theorem InboundStretch.recorded_iff (h : InboundStretch services s event ended)
    (hrefs : RefsUnambiguous s.coordinator.mirror.refMappings)
    (hawaited : ∀ task awaited, s.creating task = some awaited →
      AwaitedSound services s.coordinator awaited)
    {input : MirrorSyncInput} {value : MirrorSyncValue} {remoteState : MirrorRemoteState}
    (hended : ended.1 = .finished input (.succeeded value)) (hkind : value.operation.kind = .inbound)
    (hobserving : s.observing event = some (input, remoteState))
    (hmapped : remoteRef ∈ s.coordinator.mirror.refMappings.map MirrorRefMapping.remoteRef) :
    ended.2.Recorded remoteRef oid ↔ Listed s.coordinator.mirror.refMappings remoteState remoteRef oid ∨
      s.coordinator.Recorded remoteRef oid := by
  constructor
  · intro hrecorded
    rw [Recorded, h.ids, changeIdsAfter, h.grows.proposalKey] at hrecorded
    cases haccepted : s.acceptedChange event with
    | none =>
      rw [haccepted] at hrecorded
      exact .inr hrecorded
    | some accepted =>
      obtain ⟨awaited, change⟩ := accepted
      rw [haccepted, OrderedMap.get?_set] at hrecorded
      by_cases hsame : s.coordinator.proposalKey remoteRef oid = awaited.key
      · -- the Change accepted now is for a listed commit, and keys are unambiguous
        obtain ⟨listedRef, listedOid, hkeyed, hlisted, -⟩ := acceptedChange_listed hawaited haccepted
        obtain ⟨task, clock, rfl, hcreating, -⟩ := acceptedChange_eq_some.mp haccepted
        have hlistedRef : listedRef ∈
            s.coordinator.mirror.refMappings.map MirrorRefMapping.remoteRef := by
          obtain ⟨update, hupdate, rfl, -⟩ := hlisted
          exact (mem_inboundUpdates.mp hupdate).2.1
        obtain ⟨rfl, rfl⟩ := proposalKey_inj hrefs hmapped hlistedRef (hsame.trans hkeyed)
        rw [observing, hcreating, Option.map_some] at hobserving
        cases Option.some.inj hobserving
        exact .inl hlisted
      · rw [if_neg hsame] at hrecorded
        exact .inr hrecorded
  · rintro (⟨update, hupdate, rfl, hoid⟩ | hrecorded)
    · obtain ⟨found, hfound, -, hall⟩ := h.succeeds input value hended hkind
      cases Option.some.inj (hobserving.symm.trans hfound)
      obtain ⟨known, hknown, hrecorded⟩ := hall update hupdate
      cases Option.mem_unique hknown hoid
      exact hrecorded
    · exact hrecorded.mono h.grows

/-- What a transition of a run did to the proposals and the boundary. -/
structure InboundTransition (services : MirrorServices) (tr : List MirrorTransition)
    (t : MirrorTransition) (task : Nat) (ended : SyncOutcome × MirrorCoordinator) : Prop where
  stretch : InboundStretch services t.pre t.op ended
  before : InboundSound services tr t.pre
  after : InboundSound services (tr ++ [t]) t.post
  reply : t.reply = .ended task ended.1
  post : t.post.coordinator = ended.2

variable {mirror : RepositoryMirror} {sourceSpaceClassification : SourceSpaceClassification}

theorem inbound_transition
    (hrun : RunFrom services (.initial mirror sourceSpaceClassification) ok tr s) {i : Nat}
    {t : MirrorTransition} (hi : tr[i]? = some t) :
    t.pre.coordinator.mirror.refMappings = mirror.refMappings ∧
      (t.reply = .idle ∨ ∃ task ended, InboundTransition services (tr.take i) t task ended) := by
  obtain ⟨hbefore, hof, -, -⟩ := hrun.at_position hi
  have hI := inboundSound_of_run rfl hbefore
  obtain ⟨hs, -⟩ := sound_transition hrun (List.mem_of_getElem? hi)
  refine ⟨congrArg MirrorConfiguration.refMappings hs.configured, ?_⟩
  have hreply := congrArg Transition.reply hof
  have hpost := congrArg Transition.post hof
  rcases step_stretch services t.pre t.op with heq | ⟨calls, task, ended, -, -, hended, heq⟩
  · exact .inl (hreply.trans (congrArg Prod.fst heq))
  · have hafter : t.post = (t.pre.settle calls task ended).2 := hpost.trans (congrArg Prod.snd heq)
    refine .inr ⟨task, ended, stretch_inbound hs hI.awaited hended, hI, ?_,
      hreply.trans (congrArg Prod.fst heq), congrArg MirrorSystem.coordinator hafter⟩
    rw [hafter]
    exact hI.stretch hs rfl rfl hended

/-- An inbound success represents what moved exactly when it was listed or recorded. -/
theorem InboundTransition.represents_iff {t : MirrorTransition}
    {task : Nat} (h : InboundTransition services tr t task ended)
    (hrefs : RefsUnambiguous t.pre.coordinator.mirror.refMappings)
    {done : MirrorSyncInput × MirrorSyncValue} (hdone : inboundSuccess t = some done) :
    (∀ remoteRef ∈ t.pre.coordinator.mirror.refMappings.map MirrorRefMapping.remoteRef,
      Moved services t.pre.coordinator done.1.canonical t.post.coordinator.mirror.remoteRefs
          remoteRef →
        ∃ oid ∈ refOid t.post.coordinator.mirror.remoteRefs remoteRef,
          Represented (tr ++ [t]) remoteRef oid) ↔ t.pre.ListsMoved services t.op := by
  obtain ⟨input, value⟩ := done
  obtain ⟨hsucceeded, hkind⟩ := Option.filter_eq_some_iff.mp hdone
  replace hkind := of_decide_eq_true hkind
  obtain ⟨task', hended⟩ := succeeded_eq_some.mp hsucceeded
  have hfinished := (MirrorReply.ended.inj (h.reply.symm.trans hended)).2
  obtain ⟨remoteState, hobserving, hremoteRefs, -⟩ :=
    h.stretch.succeeds input value hfinished hkind
  rw [← h.post] at hremoteRefs
  have hmappings : t.post.coordinator.mirror.refMappings = t.pre.coordinator.mirror.refMappings :=
    h.post ▸ h.stretch.grows.refMappings
  -- a mapped ref and OID has its Change when it was listed or recorded
  have hrepresents : ∀ remoteRef ∈
      t.pre.coordinator.mirror.refMappings.map MirrorRefMapping.remoteRef, ∀ oid,
      Represented (tr ++ [t]) remoteRef oid ↔
        Listed t.pre.coordinator.mirror.refMappings remoteState remoteRef oid ∨
          t.pre.coordinator.Recorded remoteRef oid := by
    intro remoteRef hmapped oid
    rw [h.after.represented_iff (hmappings.symm ▸ hrefs) (hmappings.symm ▸ hmapped), h.post]
    exact h.stretch.recorded_iff hrefs h.before.awaited hfinished hkind hobserving hmapped
  rw [hremoteRefs]
  constructor
  · intro hrepresented seen hseen remoteRef hmapped hmoved
    cases Option.some.inj (hobserving.symm.trans hseen)
    obtain ⟨oid, hoid, hchange⟩ := hrepresented remoteRef hmapped hmoved
    exact ⟨oid, hoid, (hrepresents remoteRef hmapped oid).mp hchange⟩
  · intro hlists remoteRef hmapped hmoved
    obtain ⟨oid, hoid, hknown⟩ := hlists _ hobserving remoteRef hmapped hmoved
    exact ⟨oid, hoid, (hrepresents remoteRef hmapped oid).mpr hknown⟩

/-- **An inbound sync loses nothing** in a run exactly when, at each inbound success, every
ref that moved has an OID that an update lists or a Change is recorded for. -/
theorem losesNothing_iff_of_run (hrefs : RefsUnambiguous mirror.refMappings)
    (hrun : RunFrom services (.initial mirror sourceSpaceClassification) ok tr s) :
    LosesNothing services tr ↔
      ∀ t ∈ tr, inboundSuccess t ≠ none → t.pre.ListsMoved services t.op := by
  constructor
  · intro hlosesNothing t ht hinbound
    obtain ⟨i, hi⟩ := List.getElem?_of_mem ht
    obtain ⟨done, hdone⟩ := Option.ne_none_iff_exists'.mp hinbound
    obtain ⟨hmappings, hidle | ⟨task, ended, htransition⟩⟩ := inbound_transition hrun hi
    · rw [inboundSuccess, hidle] at hdone
      cases hdone
    · refine (htransition.represents_iff (hmappings.symm ▸ hrefs) hdone).mp ?_
      have hrepresented := (hlosesNothing i t hi).1 done hdone
      rw [List.take_add_one, hi] at hrepresented
      exact hrepresented
  · intro hlists i t hi
    obtain ⟨hmappings, hidle | ⟨task, ended, htransition⟩⟩ := inbound_transition hrun hi
    · rw [inboundSuccess, hidle]
      exact ⟨fun _ h => absurd h (Option.not_mem_none _), fun _ h => absurd h (Option.not_mem_none _)⟩
    · refine ⟨fun done hdone => ?_, ?_⟩
      · have hlisted := hlists t (List.mem_of_getElem? hi) (Option.ne_none_iff_exists'.mpr ⟨done, hdone⟩)
        rw [List.take_add_one, hi]
        exact (htransition.represents_iff (hmappings.symm ▸ hrefs) hdone).mpr hlisted
      · rintro ⟨input, result⟩ hdone failure rfl
        obtain ⟨task', hended⟩ := finished_eq_some.mp hdone
        rw [htransition.post]
        exact htransition.stretch.fails input failure
          (MirrorReply.ended.inj (htransition.reply.symm.trans hended)).2

end MirrorSystem

open MirrorSystem

namespace Sample

/-- After the first push a remote commit on `main` is listed and becomes a Change. -/
def listedCommit : List MirrorEvent :=
  firstPush ++ [syncOf "k2" "r1" [("main", "a")] none,
    inspectedAs 1 "g2" [("main", "b")] [("main", "b")], createdAs 1 "change" "r1" "main" "b"]

/-- After the first push `main` is gone and `dev` is new, and only `dev` is listed. -/
def deletedBranch : List MirrorEvent :=
  firstPush ++ [syncOf "k2" "r1" [("main", "a")] none,
    inspectedAs 1 "g2" [("dev", "c")] [("dev", "c")], createdAs 1 "change" "r1" "dev" "c"]

end Sample

theorem losesNothing_iff_of_run_sample :
    LosesNothing Sample.mirrorServices (Sample.mirrorRan Sample.listedCommit).1 := by
  have hrun : RunFrom Sample.mirrorServices (.initial Sample.publicMirror .public) Sequential
      (Sample.mirrorRan Sample.listedCommit).1 (Sample.mirrorRan Sample.listedCommit).2 :=
    run_exec (by decide +kernel)
  exact (losesNothing_iff_of_run (by decide +kernel) hrun).mpr (by decide +kernel)

/-- The deletion of a branch that no update lists enters the boundary without a Change and
without a choice. -/
theorem deleted_branch_lost :
    Admits (step Sample.mirrorServices) Sequential (.start (.initial Sample.publicMirror .public))
        Sample.deletedBranch ∧
      ¬ LosesNothing Sample.mirrorServices (Sample.mirrorRan Sample.deletedBranch).1 := by
  refine ⟨by decide +kernel, fun hlosesNothing => ?_⟩
  obtain ⟨t, ht, done, hdone, hmapped, hmoved, hdeleted⟩ :
      ∃ t ∈ (Sample.mirrorRan Sample.deletedBranch).1[5]?, ∃ done ∈ inboundSuccess t,
        "main" ∈ t.pre.coordinator.mirror.refMappings.map MirrorRefMapping.remoteRef ∧
        Moved Sample.mirrorServices t.pre.coordinator done.1.canonical
          t.post.coordinator.mirror.remoteRefs "main" ∧
        refOid t.post.coordinator.mirror.remoteRefs "main" = none := by
    decide +kernel
  obtain ⟨oid, hoid, -⟩ := (hlosesNothing 5 t ht).1 done hdone "main" hmapped hmoved
  cases hdeleted.symm.trans hoid

end Anyam.Portability
