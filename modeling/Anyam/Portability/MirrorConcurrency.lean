import Anyam.Portability.MirrorInbound

/-!
# Overlapping mirror syncs

A sync reads the recorded results, proposals and boundary before it awaits a call and
writes them after it, whatever was recorded in between. So two syncs in flight may both
push for one key, both ask for a Change of one commit, and the one that inspected first
may write its boundary last.

- `Undisturbed`: what an event has to be like beside the syncs in flight.
- `FlightSound`: the keys in flight are distinct and not recorded.
- **`syncsSafely_of_run`**: in a run of undisturbed events no Change is created and no push
  issued twice, and no older inspection overwrites a newer boundary.
-/

namespace Anyam.Portability

open Anyam.Lib Anyam.Kernel MirrorCoordinator

def MirrorCall.idempotencyKey (call : MirrorCall) : String := call.frame.input.idempotencyKey

/-- The generation a sync goes on from, after its inspection. -/
def MirrorCall.generation : MirrorCall → Option String
  | .inspect _ _ => none
  | .createChange inbound _ _ _ => some inbound.remoteState.generation
  | .push _ remoteState _ => some remoteState.generation

/-- The input of the sync an event starts. -/
def MirrorEvent.started : MirrorEvent → Option MirrorSyncInput
  | .sync input _ | .resume input _ _ => some input
  | _ => none

/-- The sync that finished in a reply. -/
def MirrorReply.endedTask : MirrorReply → Option Nat
  | .ended task (.finished _ _) => some task
  | _ => none

/-- The sync that succeeded in a reply. -/
def MirrorReply.succeededTask : MirrorReply → Option Nat
  | .ended task (.finished _ (.succeeded _)) => some task
  | _ => none

/-- What the next sync compares with. -/
def boundary (mirror : RepositoryMirror) : String × List GitRef × String × List GitRef :=
  (mirror.canonicalProjectRevisionId, mirror.canonicalRefs, mirror.remoteGeneration, mirror.remoteRefs)

namespace MirrorSystem

/-- The inspection an event reports: the sync that awaits it, and the generation. -/
def inspection (s : MirrorSystem) : MirrorEvent → Option (Nat × String)
  | .inspected task (.returned (.succeeded state)) _ =>
    (s.inspecting task).map fun _ => (task, state.generation)
  | _ => none

/-- The remote state an event reports, of an inspection or a push. -/
def report (s : MirrorSystem) : MirrorEvent → Option (Nat × String)
  | .inspected task (.returned (.succeeded state)) _ =>
    (s.inspecting task).map fun _ => (task, state.generation)
  | .pushed task (.returned (.succeeded state)) _ =>
    (s.pushing task).map fun _ => (task, state.generation)
  | _ => none

/-- The Change an event reports, with what the sync awaited. -/
def returnedChange (s : MirrorSystem) : MirrorEvent → Option (AwaitedChange × Change)
  | .created task (.returned (.succeeded change)) _ => (s.creating task).map (·, change)
  | _ => none

/-- A sync starts with a key that none in flight has; a remote state has the generation
that the other syncs go on from; and a Change has the awaited provenance, and is the
recorded one when there is one. -/
structure Undisturbed (s : MirrorSystem) (event : MirrorEvent) : Prop where
  started : ∀ input ∈ event.started, ∀ entry ∈ s.inFlight.entries,
    entry.2.idempotencyKey ≠ input.idempotencyKey
  reported : ∀ report ∈ s.report event, ∀ entry ∈ s.inFlight.entries, entry.1 ≠ report.1 →
    ∀ generation ∈ entry.2.generation, generation = report.2
  returned : ∀ returned ∈ s.returnedChange event,
    s.coordinator.Provenance returned.1.inbound returned.1.proposal returned.2 ∧
      ∀ known ∈ s.coordinator.inboundChangeIds.get? returned.1.key, known = returned.2.id

instance (s : MirrorSystem) (event : MirrorEvent) : Decidable (s.Undisturbed event) :=
  decidable_of_iff
    ((∀ input ∈ event.started, ∀ entry ∈ s.inFlight.entries,
        entry.2.idempotencyKey ≠ input.idempotencyKey) ∧
      (∀ report ∈ s.report event, ∀ entry ∈ s.inFlight.entries, entry.1 ≠ report.1 →
        ∀ generation ∈ entry.2.generation, generation = report.2) ∧
      ∀ returned ∈ s.returnedChange event,
        s.coordinator.Provenance returned.1.inbound returned.1.proposal returned.2 ∧
          ∀ known ∈ s.coordinator.inboundChangeIds.get? returned.1.key, known = returned.2.id)
    ⟨fun h => ⟨h.1, h.2.1, h.2.2⟩, fun h => ⟨h.started, h.reported, h.returned⟩⟩

variable {services : MirrorServices} {s : MirrorSystem} {c : MirrorCoordinator}
  {event : MirrorEvent} {frame : SyncFrame} {ended : SyncOutcome × MirrorCoordinator}
  {key generation completedAt : String} {task : Nat}

/-! ## How a sync goes on -/

/-- The sync of a key awaits a call on a generation, or its result is recorded. -/
def GoesOn (idempotency : OrderedMap String MirrorSyncResult) (key generation : String)
    (ended : SyncOutcome × MirrorCoordinator) : Prop :=
  (ended.2.idempotency = idempotency ∧ ∃ next, ended.1.awaited = some next ∧
      next.idempotencyKey = key ∧ next.generation = some generation) ∨
    (ended.1.awaited = none ∧ ∃ result, ended.2.idempotency = idempotency.set key result)

theorem goesOn_fail {failure : MirrorProviderFailure} {state : MirrorState}
    {actual : Option String} {explicitState : Option MirrorState}
    (hkey : frame.input.idempotencyKey = key) :
    GoesOn c.idempotency key generation
      (c.fail frame failure state actual explicitState completedAt) := by
  subst hkey
  exact .inr ⟨rfl, _, rfl⟩

theorem goesOn_succeed {next : MirrorBoundary} {changes : List Change} {kind : MirrorOperationKind}
    (hkey : frame.input.idempotencyKey = key) :
    GoesOn c.idempotency key generation (c.succeed frame next changes kind completedAt) := by
  subst hkey
  exact .inr ⟨rfl, _, rfl⟩

theorem goesOn_proposal {inbound : InboundFrame} {updates : List MirrorRefUpdate}
    (hexit : ProposalExit c inbound updates completedAt ended) :
    GoesOn c.idempotency inbound.input.idempotencyKey inbound.remoteState.generation ended := by
  cases hexit with
  | refused _ hadvanced =>
    exact goesOn_fail (congrArg (fun frame => frame.input.idempotencyKey) hadvanced.frame)
  | asks _ hadvanced =>
    refine .inl ⟨rfl, _, rfl, ?_, ?_⟩
    · exact congrArg (fun frame => frame.input.idempotencyKey) hadvanced.frame
    · exact congrArg (fun state => some state.generation) hadvanced.remoteState
  | exhausted hadvanced =>
    exact goesOn_succeed (congrArg (fun frame => frame.input.idempotencyKey) hadvanced.frame)

theorem goesOn_reconcile {observed : Observation}
    (hexit : ReconcileExit services c frame observed completedAt ended) :
    GoesOn c.idempotency frame.input.idempotencyKey observed.remoteState.generation ended := by
  cases hexit with
  | inbound =>
    rcases processInbound_exit frame observed completedAt with
      ⟨-, failure, heq⟩ | ⟨-, inbound, hinbound, hremote, -, hproposal⟩
    · rw [heq]
      exact goesOn_fail rfl
    · have hgoes := goesOn_proposal hproposal
      rw [hremote, hinbound] at hgoes
      exact hgoes
  | outbound => exact .inl ⟨rfl, _, rfl, rfl, rfl⟩
  | synchronized | settled => exact goesOn_succeed rfl
  | _ => exact goesOn_fail rfl

/-- A stretch that starts a sync: it is a new one, and awaits its inspection under a key
that is not recorded, or it is over. -/
theorem stretch_started {input : MirrorSyncInput} (hstarted : event.started = some input)
    (h : Stretch services s event task ended) : task = s.calls ∧
      ((ended.2.idempotency = s.coordinator.idempotency ∧ ∀ call ∈ ended.1.awaited,
        call.idempotencyKey = input.idempotencyKey ∧ call.generation = none ∧
          s.coordinator.idempotency.get? input.idempotencyKey = none) ∨
      (ended.1.awaited = none ∧ ∃ result,
        ended.2.idempotency = s.coordinator.idempotency.set input.idempotencyKey result)) := by
  have hsync : ∀ {resumed : MirrorSyncInput}, resumed.idempotencyKey = input.idempotencyKey →
      SyncExit services s.coordinator resumed ended →
      (ended.2.idempotency = s.coordinator.idempotency ∧ ∀ call ∈ ended.1.awaited,
        call.idempotencyKey = input.idempotencyKey ∧ call.generation = none ∧
          s.coordinator.idempotency.get? input.idempotencyKey = none) ∨
      (ended.1.awaited = none ∧ ∃ result,
        ended.2.idempotency = s.coordinator.idempotency.set input.idempotencyKey result) := by
    intro resumed hkey hexit
    rw [← hkey]
    cases hexit with
    | threw hkeeps => exact .inl ⟨hkeeps.idempotency, fun _ h => absurd h (Option.not_mem_none _)⟩
    | replayed => exact .inl ⟨rfl, fun _ h => absurd h (Option.not_mem_none _)⟩
    | invalid hkeeps hinput =>
      refine .inr ⟨rfl, ?_⟩
      rw [← hinput, ← hkeeps.idempotency]
      exact ⟨_, rfl⟩
    | inspects hkeeps hinput hnew =>
      refine .inl ⟨hkeeps.idempotency, fun call hcall => ?_⟩
      cases Option.some.inj hcall
      refine ⟨?_, rfl, hnew⟩
      rw [← hinput]
      rfl
  cases h with
  | began hexit =>
    cases Option.some.inj hstarted
    exact ⟨rfl, hsync rfl hexit⟩
  | resumed hinput hexit =>
    cases Option.some.inj hstarted
    exact ⟨rfl, hsync (by rw [hinput]) hexit⟩
  | inspected => cases hstarted
  | created => cases hstarted
  | pushed => cases hstarted

/-- A stretch that continues a sync in flight goes on from the generation it inspected. -/
theorem stretch_continued (hstarted : event.started = none)
    (h : Stretch services s event task ended) : ∃ call generation,
      s.inFlight.get? task = some call ∧
      GoesOn s.coordinator.idempotency call.idempotencyKey generation ended ∧
      (∀ inspected ∈ call.generation, inspected = generation) ∧
      ∀ report ∈ s.inspection event, report.2 = generation := by
  cases h with
  | began => cases hstarted
  | resumed => cases hstarted
  | @inspected _ frame request answer clock _ hcall hexit =>
    cases hexit with
    | failed hfailed =>
      refine ⟨_, "", hcall, goesOn_fail rfl, fun _ h => absurd h (Option.not_mem_none _), ?_⟩
      obtain ⟨_ | _⟩ | _ := answer
      · cases hfailed
      · exact fun _ h => absurd h (Option.not_mem_none _)
      · exact fun _ h => absurd h (Option.not_mem_none _)
    | @incomplete remoteState _ hanswer =>
      subst hanswer
      refine ⟨_, remoteState.generation, hcall, goesOn_fail rfl,
        fun _ h => absurd h (Option.not_mem_none _), fun report hreport => ?_⟩
      rw [inspection, inspecting_eq_some.mpr ⟨request, hcall⟩] at hreport
      cases Option.some.inj hreport
      rfl
    | @compared remoteState _ _ hanswer _ hkeeps hreconcile =>
      subst hanswer
      refine ⟨_, remoteState.generation, hcall, ?_, fun _ h => absurd h (Option.not_mem_none _),
        fun report hreport => ?_⟩
      · rw [← hkeeps.idempotency]
        exact goesOn_reconcile hreconcile
      · rw [inspection, inspecting_eq_some.mpr ⟨request, hcall⟩] at hreport
        cases Option.some.inj hreport
        rfl
  | @created _ inbound _ _ _ _ _ _ hcall hexit =>
    refine ⟨_, inbound.remoteState.generation, hcall, ?_, ?_,
      fun _ h => absurd h (Option.not_mem_none _)⟩
    · cases hexit with
      | failed => exact goesOn_fail rfl
      | mismatched => exact goesOn_fail rfl
      | accepted _ _ _ hidempotency _ hrest =>
        have hgoes := @goesOn_proposal _ _ _ (inbound.completedBy _ _) _ hrest
        rw [hidempotency] at hgoes
        exact hgoes
    · intro inspected hinspected
      exact (Option.some.inj hinspected).symm
  | @pushed _ _ remoteState _ _ _ _ hcall hexit =>
    refine ⟨_, remoteState.generation, hcall, ?_, ?_, fun _ h => absurd h (Option.not_mem_none _)⟩
    · cases hexit with
      | failed => exact goesOn_fail rfl
      | mismatched => exact goesOn_fail rfl
      | synchronized => exact goesOn_succeed rfl
    · intro inspected hinspected
      exact (Option.some.inj hinspected).symm

/-- A push is issued by a sync that awaited its inspection, under its key. -/
theorem stretch_push {pushing : SyncFrame} {remoteState : MirrorRemoteState} {request : MirrorPush}
    (h : Stretch services s event task ended)
    (hpush : ended.1.awaited = some (.push pushing remoteState request)) :
    ∃ frame inspection, s.inFlight.get? task = some (.inspect frame inspection) ∧
      request.idempotencyKey = frame.input.idempotencyKey ∧
      pushing.input.idempotencyKey = frame.input.idempotencyKey := by
  obtain ⟨frame, inspection, state, clock, c, -, hcall, -, hreconcile⟩ := h.inspected_of_push hpush
  obtain ⟨rfl, hkey, -⟩ := reconcile_push hreconcile hpush
  exact ⟨frame, inspection, hcall, hkey, rfl⟩

/-! ## Changes -/

theorem returnedChange_eq_some {awaited : AwaitedChange} {change : Change} :
    s.returnedChange event = some (awaited, change) ↔ ∃ task clock,
      event = .created task (.returned (.succeeded change)) clock ∧ s.creating task = some awaited := by
  unfold returnedChange
  constructor
  · intro h
    split at h
    · obtain ⟨found, hfound, heq⟩ := Option.map_eq_some_iff.mp h
      cases heq
      exact ⟨_, _, rfl, hfound⟩
    · cases h
  · rintro ⟨task, clock, rfl, hcreating⟩
    exact Option.map_eq_some_iff.mpr ⟨awaited, hcreating, rfl⟩

variable {mirror : RepositoryMirror} {sourceSpaceClassification : SourceSpaceClassification}
  {tr : List MirrorTransition}

/-- Every Change that was returned for a remote commit is the one recorded for it. -/
def CreatedSound (tr : List MirrorTransition) (s : MirrorSystem) : Prop :=
  ∀ t ∈ tr, ∀ returned ∈ t.pre.returnedChange t.op,
    s.coordinator.inboundChangeIds.get? (s.coordinator.proposalKey
      returned.1.proposal.remoteCommit.ref returned.1.proposal.remoteCommit.oid) = some returned.2.id

/-- A recorded Change stays the one of its key in an undisturbed stretch. -/
theorem InboundStretch.recorded (h : InboundStretch services s event ended)
    (hok : s.Undisturbed event) {id : String}
    (hrecorded : s.coordinator.inboundChangeIds.get? key = some id) :
    ended.2.inboundChangeIds.get? key = some id := by
  rw [h.ids, changeIdsAfter]
  cases haccepted : s.acceptedChange event with
  | none => exact hrecorded
  | some accepted =>
    obtain ⟨awaited, change⟩ := accepted
    obtain ⟨task, clock, hevent, hcreating, -⟩ := acceptedChange_eq_some.mp haccepted
    have hreturned : s.returnedChange event = some (awaited, change) :=
      returnedChange_eq_some.mpr ⟨task, clock, hevent, hcreating⟩
    show (s.coordinator.inboundChangeIds.set awaited.key change.id).get? key = some id
    rw [OrderedMap.get?_set]
    by_cases hkey : key = awaited.key
    · -- the sink returned the recorded Change again
      subst hkey
      rw [if_pos rfl, (hok.returned _ hreturned).2 id hrecorded]
    · rw [if_neg hkey]
      exact hrecorded

theorem createdSound_of_run
    (hrun : RunFrom services (.initial mirror sourceSpaceClassification) Undisturbed tr s) :
    CreatedSound tr s := by
  induction hrun with
  | nil => exact fun _ h => absurd h List.not_mem_nil
  | @snoc tr s event hbefore hok ih =>
    obtain ⟨hs, -⟩ := sound_invariant (fun _ _ => True) trivial (fun _ _ _ _ _ _ => trivial)
      (fun _ _ _ _ _ _ _ _ _ _ _ => trivial) hbefore
    have hI := inboundSound_of_run rfl hbefore
    intro t ht returned hreturned
    rcases step_stretch services s event with hidle | ⟨calls, task, ended, -, -, hstretch, heq⟩
    · rw [congrArg Prod.snd hidle]
      rcases List.mem_append.mp ht with ht | ht
      · exact ih t ht returned hreturned
      · -- an event that answers no call returns no Change
        cases List.mem_singleton.mp ht
        replace hreturned : s.returnedChange event = some returned := hreturned
        obtain ⟨task, clock, rfl, hcreating⟩ := returnedChange_eq_some.mp hreturned
        simp only [step, creating_eq_some.mp hcreating] at hidle
        cases congrArg Prod.fst hidle
    · rw [congrArg Prod.snd heq]
      have hinbound := stretch_inbound hs hI.awaited hstretch
      show ended.2.inboundChangeIds.get? (ended.2.proposalKey _ _) = some returned.2.id
      rw [hinbound.grows.proposalKey]
      rcases List.mem_append.mp ht with ht | ht
      · exact hinbound.recorded hok (ih t ht returned hreturned)
      · cases List.mem_singleton.mp ht
        obtain ⟨awaited, change⟩ := returned
        obtain ⟨task, clock, hevent, hcreating⟩ := returnedChange_eq_some.mp hreturned
        have haccepted : s.acceptedChange event = some (awaited, change) :=
          acceptedChange_eq_some.mpr
            ⟨task, clock, hevent, hcreating, (hok.returned _ hreturned).1⟩
        rw [hinbound.ids, changeIdsAfter, haccepted, ← (hI.awaited task awaited hcreating).keyed]
        exact OrderedMap.get?_set_self _ _ _

/-! ## Keys -/

/-- The keys in flight are distinct and not recorded, and the key of a push is recorded or
its sync is still in flight, after its inspection. -/
structure FlightSound (tr : List MirrorTransition) (s : MirrorSystem) : Prop where
  unrecorded : ∀ task call, s.inFlight.get? task = some call →
    s.coordinator.idempotency.get? call.idempotencyKey = none
  distinct : ∀ task call other call', s.inFlight.get? task = some call →
    s.inFlight.get? other = some call' → call.idempotencyKey = call'.idempotencyKey → task = other
  pushed : ∀ t ∈ tr, ∀ push ∈ t.reply.push,
    s.coordinator.idempotency.get? push.2.idempotencyKey ≠ none ∨ ∃ task call,
      s.inFlight.get? task = some call ∧ call.generation ≠ none ∧
        call.idempotencyKey = push.2.idempotencyKey

/-- A stretch of the one sync in flight with its key: it keeps the key unrecorded and
awaits a call, or records it. -/
structure KeyedStretch (s : MirrorSystem) (task : Nat) (key : String)
    (ended : SyncOutcome × MirrorCoordinator) : Prop where
  alone : ∀ other call, s.inFlight.get? other = some call → other ≠ task → call.idempotencyKey ≠ key
  own : ∀ call, s.inFlight.get? task = some call → call.idempotencyKey = key
  awaits : ∀ next ∈ ended.1.awaited, next.idempotencyKey = key ∧
    ended.2.idempotency.get? key = none ∧
    ∀ call, s.inFlight.get? task = some call → next.generation ≠ none
  ends : ended.1.awaited = none → s.inFlight.get? task = none ∨ ended.2.idempotency.get? key ≠ none
  kept : ∀ other, other ≠ key →
    ended.2.idempotency.get? other = s.coordinator.idempotency.get? other
  recorded : s.coordinator.idempotency.get? key ≠ none → ended.2.idempotency.get? key ≠ none

theorem keyedStretch {configuration : MirrorConfiguration} (hI : FlightSound tr s)
    (hs : s.Sound services configuration) (hok : s.Undisturbed event)
    (h : Stretch services s event task ended) : ∃ key, KeyedStretch s task key ended := by
  cases hstarted : event.started with
  | some input =>
    obtain ⟨htask, hledger⟩ := stretch_started hstarted h
    have hnew : ∀ call, s.inFlight.get? task ≠ some call := by
      intro call hcall
      exact Nat.lt_irrefl _ (htask ▸ (hs.inFlight _ _ hcall).1)
    have halone : ∀ other call, s.inFlight.get? other = some call → other ≠ task →
        call.idempotencyKey ≠ input.idempotencyKey := by
      intro other call hcall _
      exact hok.started input hstarted (other, call) (OrderedMap.get?_eq_some_iff.mp hcall)
    refine ⟨input.idempotencyKey, halone, fun call hcall => absurd hcall (hnew call), ?_, ?_, ?_, ?_⟩
    · intro next hnext
      rcases hledger with ⟨hsame, hawaits⟩ | ⟨hnone, -⟩
      · obtain ⟨hkey, -, hunrecorded⟩ := hawaits next hnext
        exact ⟨hkey, hsame ▸ hunrecorded, fun call hcall => absurd hcall (hnew call)⟩
      · cases hnone.symm.trans hnext
    · exact fun _ => .inl (Option.eq_none_iff_forall_ne_some.mpr hnew)
    · intro other hother
      rcases hledger with ⟨hsame, -⟩ | ⟨-, result, hset⟩
      · rw [hsame]
      · rw [hset, OrderedMap.get?_set_ne _ _ hother]
    · intro hrecorded
      rcases hledger with ⟨hsame, -⟩ | ⟨-, result, hset⟩
      · rw [hsame]
        exact hrecorded
      · rw [hset, OrderedMap.get?_set_self]
        exact Option.some_ne_none _
  | none =>
    obtain ⟨call, generation, hcall, hgoes, -, -⟩ := stretch_continued hstarted h
    refine ⟨call.idempotencyKey, ?_, ?_, ?_, ?_, ?_, ?_⟩
    · intro other call' hcall' hother hkey
      exact hother (hI.distinct other call' task call hcall' hcall hkey)
    · intro call' hcall'
      cases hcall.symm.trans hcall'
      rfl
    · intro next hnext
      rcases hgoes with ⟨hsame, next', hnext', hkey, hgeneration⟩ | ⟨hnone, -⟩
      · cases hnext.symm.trans hnext'
        refine ⟨hkey, hsame ▸ hI.unrecorded task call hcall, fun _ _ => ?_⟩
        rw [hgeneration]
        exact Option.some_ne_none _
      · cases hnone.symm.trans hnext
    · intro hnone
      rcases hgoes with ⟨-, next, hnext, -⟩ | ⟨-, result, hset⟩
      · cases hnone.symm.trans hnext
      · right
        rw [hset, OrderedMap.get?_set_self]
        exact Option.some_ne_none _
    · intro other hother
      rcases hgoes with ⟨hsame, -⟩ | ⟨-, result, hset⟩
      · rw [hsame]
      · rw [hset, OrderedMap.get?_set_ne _ _ hother]
    · intro hrecorded
      exact absurd (hI.unrecorded task call hcall) hrecorded

/-- **One undisturbed stretch** keeps the keys sound. -/
theorem FlightSound.stretch {configuration : MirrorConfiguration} {calls : Nat} {t : MirrorTransition}
    (hI : FlightSound tr s) (hs : s.Sound services configuration) (hok : s.Undisturbed event)
    (hreply : t.reply = .ended task ended.1) (h : Stretch services s event task ended) :
    FlightSound (tr ++ [t]) (s.settle calls task ended).2 := by
  obtain ⟨key, hkeyed⟩ := keyedStretch hI hs hok h
  -- what is in flight after the stretch: the call it awaits, or another sync's as before
  have hafter : ∀ other call, (s.settle calls task ended).2.inFlight.get? other = some call →
      (other = task ∧ ended.1.awaited = some call) ∨
        (other ≠ task ∧ s.inFlight.get? other = some call) := by
    intro other call hcall
    rw [settle_inFlight] at hcall
    by_cases hother : other = task
    · rw [if_pos hother] at hcall
      exact .inl ⟨hother, hcall⟩
    · rw [if_neg hother] at hcall
      exact .inr ⟨hother, hcall⟩
  refine ⟨?_, ?_, ?_⟩
  · intro other call hcall
    show ended.2.idempotency.get? call.idempotencyKey = none
    rcases hafter other call hcall with ⟨-, hawaits⟩ | ⟨hother, hbefore⟩
    · obtain ⟨hkey, hunrecorded, -⟩ := hkeyed.awaits call hawaits
      rw [hkey, hunrecorded]
    · rw [hkeyed.kept _ (hkeyed.alone other call hbefore hother)]
      exact hI.unrecorded other call hbefore
  · intro first call second call' hcall hcall' hsame
    rcases hafter first call hcall with ⟨rfl, hawaits⟩ | ⟨hfirst, hbefore⟩
    · rcases hafter second call' hcall' with ⟨rfl, -⟩ | ⟨hsecond, hbefore'⟩
      · rfl
      · refine absurd ?_ (hkeyed.alone second call' hbefore' hsecond)
        rw [← hsame, (hkeyed.awaits call hawaits).1]
    · rcases hafter second call' hcall' with ⟨rfl, hawaits'⟩ | ⟨-, hbefore'⟩
      · refine absurd ?_ (hkeyed.alone first call hbefore hfirst)
        rw [hsame, (hkeyed.awaits call' hawaits').1]
      · exact hI.distinct first call second call' hbefore hbefore' hsame
  · intro t' ht' push hpush
    show ended.2.idempotency.get? push.2.idempotencyKey ≠ none ∨ _
    rcases List.mem_append.mp ht' with ht' | ht'
    · rcases hI.pushed t' ht' push hpush with hrecorded | ⟨other, call, hcall, hgeneration, hkey⟩
      · left
        by_cases hsame : push.2.idempotencyKey = key
        · rw [hsame] at hrecorded ⊢
          exact hkeyed.recorded hrecorded
        · rw [hkeyed.kept _ hsame]
          exact hrecorded
      · by_cases hother : other = task
        · subst hother
          rw [← hkey, hkeyed.own call hcall]
          cases hawaits : ended.1.awaited with
          | none =>
            left
            exact (hkeyed.ends hawaits).resolve_left (hcall ▸ Option.some_ne_none call)
          | some next =>
            obtain ⟨hnext, -, hlater⟩ := hkeyed.awaits next hawaits
            refine .inr ⟨other, next, ?_, hlater call hcall, hnext⟩
            rw [settle_inFlight, if_pos rfl, hawaits]
        · refine .inr ⟨other, call, ?_, hgeneration, hkey⟩
          rw [settle_inFlight, if_neg hother]
          exact hcall
    · -- the push of this stretch: its sync awaits it
      cases List.mem_singleton.mp ht'
      obtain ⟨pushing, request⟩ := push
      obtain ⟨_, remoteState, hended⟩ := push_eq_some hpush
      have hawaits : ended.1.awaited = some (.push pushing remoteState request) :=
        congrArg SyncOutcome.awaited (MirrorReply.ended.inj (hreply.symm.trans hended)).2
      obtain ⟨frame, inspection, -, hrequest, hpushing⟩ := stretch_push h hawaits
      refine .inr ⟨task, .push pushing remoteState request, ?_, ?_, hpushing.trans hrequest.symm⟩
      · rw [settle_inFlight, if_pos rfl, hawaits]
      · exact Option.some_ne_none _

theorem flightSound_of_run (hrun : RunFrom services c Undisturbed tr s) : FlightSound tr s := by
  refine (sound_invariant FlightSound ?_ ?_ ?_ hrun).2
  · exact ⟨fun _ _ h => (nomatch h), fun _ _ _ _ h => (nomatch h), fun _ h => absurd h List.not_mem_nil⟩
  · intro tr s event _ hidle hI
    refine ⟨hI.unrecorded, hI.distinct, fun t ht push hpush => ?_⟩
    rcases List.mem_append.mp ht with ht | ht
    · exact hI.pushed t ht push hpush
    · cases List.mem_singleton.mp ht
      simp only [Transition.of, hidle] at hpush
      cases hpush
  · intro tr s event calls task ended hs hok hI hended heq
    exact hI.stretch hs hok (congrArg Prod.fst heq) hended

/-! ## Boundaries -/

/-- The sync was started, and where it is in flight it goes on from such a generation. -/
def Carries (task : Nat) (generations : String → Prop) (s : MirrorSystem) : Prop :=
  task < s.calls ∧ ∀ call, s.inFlight.get? task = some call →
    ∃ generation, call.generation = some generation ∧ generations generation

/-- **One event** keeps what a sync goes on from. -/
theorem carries_step {generations : String → Prop} (h : Carries task generations s) :
    Carries task generations (step services event s).2 := by
  rcases step_stretch services s event with hidle | ⟨calls, other, ended, hcalls, -, hstretch, heq⟩
  · rw [hidle]
    exact h
  · rw [heq]
    refine ⟨Nat.lt_of_lt_of_le h.1 hcalls, fun next hnext => ?_⟩
    rw [settle_inFlight] at hnext
    by_cases hother : task = other
    · subst hother
      rw [if_pos rfl] at hnext
      cases hstarted : event.started with
      | some input =>
        obtain ⟨htask, -⟩ := stretch_started hstarted hstretch
        exact absurd h.1 (htask ▸ Nat.lt_irrefl _)
      | none =>
        obtain ⟨call, generation, hcall, hgoes, hinspected, -⟩ := stretch_continued hstarted hstretch
        obtain ⟨found, hfound, hgenerations⟩ := h.2 call hcall
        rcases hgoes with ⟨-, next', hnext', -, hgeneration⟩ | ⟨hnone, -⟩
        · cases hnext.symm.trans hnext'
          exact ⟨generation, hgeneration, hinspected found hfound ▸ hgenerations⟩
        · cases hnone.symm.trans hnext
    · rw [if_neg hother] at hnext
      exact h.2 next hnext

/-- A sync that inspected a generation goes on from it. -/
theorem carries_of_inspection {configuration : MirrorConfiguration}
    (hs : s.Sound services configuration)
    (hinspection : s.inspection event = some (task, generation)) :
    Carries task (· = generation) (step services event s).2 := by
  have hevent : ∃ state clock frame, event = .inspected task (.returned (.succeeded state)) clock ∧
      s.inspecting task = some frame := by
    unfold inspection at hinspection
    split at hinspection
    · obtain ⟨frame, hframe, heq⟩ := Option.map_eq_some_iff.mp hinspection
      cases heq
      exact ⟨_, _, frame, rfl, hframe⟩
    · cases hinspection
  obtain ⟨state, clock, frame, rfl, hinspecting⟩ := hevent
  obtain ⟨request, hcall⟩ := inspecting_eq_some.mp hinspecting
  rcases step_stretch services s (.inspected task (.returned (.succeeded state)) clock) with
    hidle | ⟨calls, other, ended, hcalls, -, hstretch, heq⟩
  · simp only [step, hcall] at hidle
    cases congrArg Prod.fst hidle
  · rw [heq]
    refine ⟨Nat.lt_of_lt_of_le (hs.inFlight _ _ hcall).1 hcalls, fun next hnext => ?_⟩
    obtain ⟨call, found, -, hgoes, -, hreports⟩ := stretch_continued rfl hstretch
    have hsame : generation = found := hreports _ hinspection
    have hother : task = other := by
      cases hstretch
      rfl
    rw [settle_inFlight, if_pos hother] at hnext
    rcases hgoes with ⟨-, next', hnext', -, hgeneration⟩ | ⟨hnone, -⟩
    · cases hnext.symm.trans hnext'
      exact ⟨found, hgeneration, hsame.symm⟩
    · cases hnone.symm.trans hnext

theorem endedTask_eq_some {reply : MirrorReply} :
    reply.endedTask = some task ↔ ∃ input result, reply = .ended task (.finished input result) := by
  unfold MirrorReply.endedTask
  constructor
  · intro h
    split at h
    · cases Option.some.inj h
      exact ⟨_, _, rfl⟩
    · cases h
  · rintro ⟨input, result, rfl⟩
    rfl

/-- A sync that is over does not finish again. -/
theorem not_ended_of_over (hover : Carries task (fun _ => False) s) :
    (step services event s).1.endedTask ≠ some task := by
  intro hended
  obtain ⟨input, result, hreply⟩ := endedTask_eq_some.mp hended
  rcases step_stretch services s event with hidle | ⟨calls, other, ended, -, -, hstretch, heq⟩
  · rw [hidle] at hreply
    cases hreply
  · rw [heq] at hreply
    obtain ⟨rfl, -⟩ := MirrorReply.ended.inj hreply
    cases hstarted : event.started with
    | some input =>
      obtain ⟨htask, -⟩ := stretch_started hstarted hstretch
      exact absurd hover.1 (htask ▸ Nat.lt_irrefl _)
    | none =>
      obtain ⟨call, -, hcall, -⟩ := stretch_continued hstarted hstretch
      obtain ⟨-, -, hfalse⟩ := hover.2 call hcall
      exact hfalse

/-! ## Runs -/

/-- The sink returns one Change for each remote commit at a ref. -/
def CreatedOnce (tr : List MirrorTransition) : Prop :=
  ∀ (i : Nat) (t : MirrorTransition), tr[i]? = some t →
    ∀ (j : Nat) (t' : MirrorTransition), tr[j]? = some t' → i < j →
      ∀ first ∈ t.pre.returnedChange t.op, ∀ second ∈ t'.pre.returnedChange t'.op,
        first.1.proposal.remoteCommit.ref = second.1.proposal.remoteCommit.ref →
        first.1.proposal.remoteCommit.oid = second.1.proposal.remoteCommit.oid →
        first.2.id = second.2.id

/-- A push is issued once for a key. -/
def PushedOnce (tr : List MirrorTransition) : Prop :=
  ∀ (i : Nat) (t : MirrorTransition), tr[i]? = some t →
    ∀ (j : Nat) (t' : MirrorTransition), tr[j]? = some t' → i < j →
      ∀ first ∈ t.reply.push, ∀ second ∈ t'.reply.push,
        first.2.idempotencyKey ≠ second.2.idempotencyKey

/-- A sync that ends keeps the boundary that another one recorded after the inspection of
the first, from a remote state reported later with another generation. -/
def BoundaryKept (tr : List MirrorTransition) : Prop :=
  ∀ (i j k l : Nat) (inspected reported recorded ended : MirrorTransition),
    tr[i]? = some inspected → tr[j]? = some reported → tr[k]? = some recorded →
    tr[l]? = some ended → i < j → j ≤ k → k < l →
    ∀ older ∈ inspected.pre.inspection inspected.op, ∀ newer ∈ reported.pre.report reported.op,
      newer.1 ≠ older.1 → newer.2 ≠ older.2 → recorded.reply.succeededTask = some newer.1 →
      ended.reply.endedTask = some older.1 →
      boundary ended.post.coordinator.mirror = boundary ended.pre.coordinator.mirror

/-- What the syncs of a run are kept apart in. -/
structure SyncsSafely (tr : List MirrorTransition) : Prop where
  created : CreatedOnce tr
  pushed : PushedOnce tr
  kept : BoundaryKept tr

theorem createdOnce_of_run
    (hrun : RunFrom services (.initial mirror sourceSpaceClassification) Undisturbed tr s) :
    CreatedOnce tr := by
  intro i t hi j t' hj hij first hfirst second hsecond href hoid
  obtain ⟨hbefore, -, hok, -⟩ := hrun.at_position hj
  have hmem : t ∈ tr.take j := by
    refine List.mem_of_getElem? (i := i) ?_
    rw [List.getElem?_take_of_lt hij]
    exact hi
  have hrecorded := createdSound_of_run hbefore t hmem first hfirst
  obtain ⟨awaited, change⟩ := second
  obtain ⟨task, clock, -, hcreating⟩ := returnedChange_eq_some.mp hsecond
  rw [href, hoid, ← ((inboundSound_of_run rfl hbefore).awaited task awaited hcreating).keyed]
    at hrecorded
  exact (hok.returned _ hsecond).2 _ hrecorded

theorem pushedOnce_of_run (hrun : RunFrom services c Undisturbed tr s) : PushedOnce tr := by
  intro i t hi j t' hj hij first hfirst second hsecond hsame
  obtain ⟨hbefore, hof, -, -⟩ := hrun.at_position hj
  have hmem : t ∈ tr.take j := by
    refine List.mem_of_getElem? (i := i) ?_
    rw [List.getElem?_take_of_lt hij]
    exact hi
  have hI := flightSound_of_run hbefore
  obtain ⟨pushing, request⟩ := second
  obtain ⟨task, remoteState, hended⟩ := push_eq_some hsecond
  rcases step_stretch services t'.pre t'.op with hidle | ⟨calls, other, ended, -, -, hstretch, heq⟩
  · rw [hof, Transition.of, hidle] at hended
    cases hended
  · rw [hof, Transition.of, heq] at hended
    have hawaits : ended.1.awaited = some (.push pushing remoteState request) :=
      congrArg SyncOutcome.awaited (MirrorReply.ended.inj hended).2
    obtain ⟨frame, inspection, hcall, hrequest, -⟩ := stretch_push hstretch hawaits
    have hkey : first.2.idempotencyKey = frame.input.idempotencyKey := hsame.trans hrequest
    rcases hI.pushed t hmem first hfirst with hrecorded | ⟨early, call, hearly, hgeneration, hcallKey⟩
    · exact hrecorded (hkey ▸ hI.unrecorded other _ hcall)
    · -- the sync of the first push is the one that awaits its inspection now
      cases hI.distinct early call other _ hearly hcall (hcallKey.trans hkey)
      cases hearly.symm.trans hcall
      exact hgeneration rfl

/-- What a sync goes on from is kept along a run. -/
theorem carries_of_run {ok : MirrorSystem → MirrorEvent → Prop} {s₀ : MirrorSystem}
    {generations : String → Prop} (h : Carries task generations s₀)
    (hrun : Run (step services) ok s₀ tr s) : Carries task generations s :=
  hrun.invariant (Carries task generations) h fun _ _ hcarries _ => carries_step hcarries

theorem boundaryKept_of_run (hrun : RunFrom services c Undisturbed tr s) : BoundaryKept tr := by
  rintro i j k l inspected reported recorded ended hi hj - hl hij hjk hkl ⟨task, older⟩ holder
    ⟨other, newer⟩ hnewer hother hdiffers - hended
  obtain ⟨-, hof, -, -⟩ := hrun.at_position hi
  obtain ⟨-, hofReport, hok, -⟩ := hrun.at_position hj
  obtain ⟨hsound, -⟩ := sound_transition hrun (List.mem_of_getElem? hi)
  obtain ⟨first, hfirst, -⟩ := hrun.between hi hj hij
  obtain ⟨last, hlast, -, hofEnd, -⟩ := hrun.between hj hl (Nat.lt_of_le_of_lt hjk hkl)
  -- from its inspection on the sync carries the older generation
  have hcarries : Carries task (· = older) reported.pre := by
    have hpost : inspected.post = (step services inspected.op inspected.pre).2 :=
      congrArg Transition.post hof
    rw [hpost] at hfirst
    exact carries_of_run (carries_of_inspection hsound holder) hfirst
  cases hcall : reported.pre.inFlight.get? task with
  | some call =>
    obtain ⟨generation, hgeneration, rfl⟩ := hcarries.2 call hcall
    have hsame := hok.reported _ hnewer (task, call) (OrderedMap.get?_eq_some_iff.mp hcall)
      hother.symm generation hgeneration
    exact absurd hsame.symm hdiffers
  | none =>
    -- it was over before the newer generation was reported
    have hover : Carries task (fun _ => False) reported.pre := by
      refine ⟨hcarries.1, fun call hfound => ?_⟩
      cases hcall.symm.trans hfound
    have hpost : reported.post = (step services reported.op reported.pre).2 :=
      congrArg Transition.post hofReport
    have hreply : ended.reply = (step services ended.op ended.pre).1 :=
      congrArg Transition.reply hofEnd
    rw [hpost] at hlast
    rw [hreply] at hended
    exact absurd hended (not_ended_of_over (carries_of_run (carries_step hover) hlast))

/-- **Overlapping syncs are safe** in every run of undisturbed events: one Change for each
remote commit, one push for each key, and no older boundary over a newer one. -/
theorem syncsSafely_of_run
    (hrun : RunFrom services (.initial mirror sourceSpaceClassification) Undisturbed tr s) :
    SyncsSafely tr :=
  ⟨createdOnce_of_run hrun, pushedOnce_of_run hrun, boundaryKept_of_run hrun⟩

end MirrorSystem

open MirrorSystem

namespace Sample

/-- Two syncs with two keys inspect one new remote commit, and both ask for its Change. -/
def askedTwice : List MirrorEvent :=
  firstPush ++ [syncOf "k2" "r1" [("main", "a")] none, syncOf "k3" "r1" [("main", "a")] none,
    inspectedAs 1 "g2" [("main", "b")] [("main", "b")],
    inspectedAs 2 "g2" [("main", "b")] [("main", "b")],
    createdAs 1 "change1" "r1" "main" "b", createdAs 2 "change2" "r1" "main" "b"]

/-- A sync is retried with its key before it is answered. -/
def retriedInFlight : List MirrorEvent :=
  [syncOf "k1" "r1" [("main", "a")] none, syncOf "k1" "r1" [("main", "a")] none,
    inspectedAs 0 "g0" [] [], inspectedAs 1 "g0" [] []]

/-- A sync inspects `main` at `b`, a later one finds it at `a` again and succeeds, and then
the Change of the first is created. -/
def overtaken : List MirrorEvent :=
  firstPush ++ [syncOf "k2" "r1" [("main", "a")] none, syncOf "k3" "r1" [("main", "a")] none,
    inspectedAs 1 "g2" [("main", "b")] [("main", "b")], inspectedAs 2 "g3" [("main", "a")] [],
    createdAs 1 "change" "r1" "main" "b"]

end Sample

theorem syncsSafely_of_run_sample : SyncsSafely (Sample.mirrorRan Sample.listedCommit).1 := by
  have hrun : RunFrom Sample.mirrorServices (.initial Sample.publicMirror .public) Undisturbed
      (Sample.mirrorRan Sample.listedCommit).1 (Sample.mirrorRan Sample.listedCommit).2 :=
    run_exec (by decide +kernel)
  exact syncsSafely_of_run hrun

/-- Overlapping syncs create two Changes for one commit, push twice for one key, and write
an older boundary over a newer one. -/
theorem overlapping_syncs_unsafe :
    ¬ SyncsSafely (Sample.mirrorRan Sample.askedTwice).1 ∧
      ¬ SyncsSafely (Sample.mirrorRan Sample.retriedInFlight).1 ∧
      ¬ SyncsSafely (Sample.mirrorRan Sample.overtaken).1 := by
  refine ⟨fun hsafely => ?_, fun hsafely => ?_, fun hsafely => ?_⟩
  · obtain ⟨t, ht, t', ht', first, hfirst, second, hsecond, href, hoid, hdiffer⟩ :
        ∃ t ∈ (Sample.mirrorRan Sample.askedTwice).1[7]?,
          ∃ t' ∈ (Sample.mirrorRan Sample.askedTwice).1[8]?,
            ∃ first ∈ t.pre.returnedChange t.op, ∃ second ∈ t'.pre.returnedChange t'.op,
              first.1.proposal.remoteCommit.ref = second.1.proposal.remoteCommit.ref ∧
              first.1.proposal.remoteCommit.oid = second.1.proposal.remoteCommit.oid ∧
              first.2.id ≠ second.2.id := by
      decide +kernel
    exact hdiffer (hsafely.created 7 t ht 8 t' ht' (by decide) first hfirst second hsecond href hoid)
  · obtain ⟨t, ht, t', ht', first, hfirst, second, hsecond, hsame⟩ :
        ∃ t ∈ (Sample.mirrorRan Sample.retriedInFlight).1[2]?,
          ∃ t' ∈ (Sample.mirrorRan Sample.retriedInFlight).1[3]?,
            ∃ first ∈ t.reply.push, ∃ second ∈ t'.reply.push,
              first.2.idempotencyKey = second.2.idempotencyKey := by
      decide +kernel
    exact hsafely.pushed 2 t ht 3 t' ht' (by decide) first hfirst second hsecond hsame
  · obtain ⟨t, ht, hinspection⟩ : ∃ t ∈ (Sample.mirrorRan Sample.overtaken).1[5]?,
        t.pre.inspection t.op = some (1, "g2") := by
      decide +kernel
    obtain ⟨t', ht', hreport, hrecorded⟩ : ∃ t' ∈ (Sample.mirrorRan Sample.overtaken).1[6]?,
        t'.pre.report t'.op = some (2, "g3") ∧ t'.reply.succeededTask = some 2 := by
      decide +kernel
    obtain ⟨ended, hended, hends, hmoved⟩ : ∃ ended ∈ (Sample.mirrorRan Sample.overtaken).1[7]?,
        ended.reply.endedTask = some 1 ∧
          boundary ended.post.coordinator.mirror ≠ boundary ended.pre.coordinator.mirror := by
      decide +kernel
    exact hmoved (hsafely.kept 5 6 6 7 t t' t' ended ht ht' ht' hended (by decide) (by decide)
      (by decide) _ hinspection _ hreport (by decide) (by decide) hrecorded hends)

end Anyam.Portability
