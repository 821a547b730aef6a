import Anyam.Lib.Run
import Anyam.Portability.MirrorSpec

/-!
# Mirror syncs as a system

Callers start and resume syncs at any time, and the adapter and the Change sink answer
the calls in flight in any order, with anything, or by throwing. One event runs one
stretch of one sync.

- **`step_stretch`**: an event runs a stretch, or nothing.
- `Sound`: the configuration is the one of the start, and every sync in flight carries a
  checked canonical state and its projection.
- **`sound_invariant`**: the run rule.
- `Sequential`: a sync is started when none is in flight.
-/

namespace Anyam.Portability

open Anyam.Lib Anyam.Kernel

structure MirrorSystem where
  coordinator : MirrorCoordinator
  inFlight : OrderedMap Nat MirrorCall
  /-- How many syncs were started. -/
  calls : Nat
deriving DecidableEq, Repr

inductive MirrorEvent
  | sync (input : MirrorSyncInput) (clock : Clock)
  | resume (input : MirrorSyncInput) (checkpointId : String) (clock : Clock)
  /-- `remote.inspect` answers the sync `task`. -/
  | inspected (task : Nat) (answer : MirrorAnswer MirrorRemoteState) (clock : Clock)
  /-- `changeSink.createChange` answers the sync `task`. -/
  | created (task : Nat) (answer : MirrorAnswer Change) (clock : Clock)
  /-- `remote.push` answers the sync `task`. -/
  | pushed (task : Nat) (answer : MirrorAnswer MirrorRemoteState) (clock : Clock)

/-- The sync an event ran a stretch of, with how it ended; or the event answered no call. -/
inductive MirrorReply
  | ended (task : Nat) (outcome : SyncOutcome)
  | idle
deriving DecidableEq, Repr

def MirrorCall.frame : MirrorCall → SyncFrame
  | .inspect frame _ => frame
  | .createChange inbound _ _ _ => inbound.toSyncFrame
  | .push frame _ _ => frame

/-- The sync that awaits an inspection. -/
def MirrorCall.inspecting : MirrorCall → Option SyncFrame
  | .inspect frame _ => some frame
  | _ => none

/-- A sync that awaits a Change, with the key and the proposal and the updates after it. -/
structure AwaitedChange where
  inbound : InboundFrame
  key : String
  proposal : MirrorInboundChangeInput
  rest : List MirrorRefUpdate
deriving DecidableEq, Repr

def MirrorCall.creating : MirrorCall → Option AwaitedChange
  | .createChange inbound key proposal rest => some ⟨inbound, key, proposal, rest⟩
  | _ => none

/-- The sync that awaits a push. -/
def MirrorCall.pushing : MirrorCall → Option SyncFrame
  | .push frame _ _ => some frame
  | _ => none

/-- The remote state an event answers with. -/
def MirrorEvent.remoteState : MirrorEvent → Option MirrorRemoteState
  | .inspected _ (.returned (.succeeded value)) _ => some value
  | .pushed _ (.returned (.succeeded value)) _ => some value
  | _ => none

/-- The adapter lists no ref name twice. -/
def MirrorEvent.ListsRefsOnce (event : MirrorEvent) : Prop :=
  ∀ state ∈ event.remoteState, NamesDistinct state.refs

instance (event : MirrorEvent) : Decidable event.ListsRefsOnce :=
  inferInstanceAs (Decidable (∀ state ∈ event.remoteState, NamesDistinct state.refs))

/-- The sync that finished in a reply, with its result. -/
def MirrorReply.finished : MirrorReply → Option (MirrorSyncInput × MirrorSyncResult)
  | .ended _ (.finished input result) => some (input, result)
  | _ => none

/-- The sync that succeeded in a reply. -/
def MirrorReply.succeeded : MirrorReply → Option (MirrorSyncInput × MirrorSyncValue)
  | .ended _ (.finished input (.succeeded value)) => some (input, value)
  | _ => none

/-- The push a reply issues, with the sync that issues it. -/
def MirrorReply.push : MirrorReply → Option (SyncFrame × MirrorPush)
  | .ended _ (.awaits (.push frame _ request)) => some (frame, request)
  | _ => none

/-- What a call in flight carries from the start of its sync. -/
def MirrorCall.Sound (services : MirrorServices) (configuration : MirrorConfiguration) :
    MirrorCall → Prop
  | .inspect frame _ => frame.Sound services configuration
  | .createChange inbound _ _ _ => inbound.toSyncFrame.Sound services configuration
  | .push frame _ request =>
    frame.Sound services configuration ∧ request.desiredRefs = frame.projectedCanonical

namespace MirrorSystem

/-- A new coordinator with no sync in flight. -/
def start (coordinator : MirrorCoordinator) : MirrorSystem := ⟨coordinator, .empty, 0⟩

/-- The stretch of `task` is over: it awaits its next call or is not in flight any more. -/
def settle (s : MirrorSystem) (calls task : Nat) (ended : SyncOutcome × MirrorCoordinator) :
    MirrorReply × MirrorSystem :=
  (.ended task ended.1, {
    coordinator := ended.2
    inFlight :=
      match ended.1.awaited with
      | some call => s.inFlight.set task call
      | none => s.inFlight.delete task
    calls })

def step (services : MirrorServices) (event : MirrorEvent) (s : MirrorSystem) :
    MirrorReply × MirrorSystem :=
  match event with
  | .sync input clock => s.settle (s.calls + 1) s.calls (s.coordinator.sync services input clock)
  | .resume input checkpointId clock =>
    s.settle (s.calls + 1) s.calls (s.coordinator.resume services input checkpointId clock)
  | .inspected task answer clock =>
    match s.inFlight.get? task with
    | some (.inspect frame _) =>
      s.settle s.calls task (s.coordinator.inspected services frame answer clock)
    | _ => (.idle, s)
  | .created task answer clock =>
    match s.inFlight.get? task with
    | some (.createChange inbound key proposal rest) =>
      s.settle s.calls task (s.coordinator.created services inbound key proposal rest answer clock)
    | _ => (.idle, s)
  | .pushed task answer clock =>
    match s.inFlight.get? task with
    | some (.push frame remoteState request) =>
      s.settle s.calls task (s.coordinator.pushed services frame remoteState request answer clock)
    | _ => (.idle, s)

variable {services : MirrorServices} {s : MirrorSystem} {event : MirrorEvent}

/-! ## Stretches -/

/-- The stretch an event runs: of which sync, and how it ends. -/
inductive Stretch (services : MirrorServices) (s : MirrorSystem) :
    MirrorEvent → Nat → SyncOutcome × MirrorCoordinator → Prop
  | began {input ended clock} (hexit : MirrorCoordinator.SyncExit services s.coordinator input ended) :
      Stretch services s (.sync input clock) s.calls ended
  | resumed {input resumed checkpointId ended clock}
      (hinput : resumed = { input with resumeCheckpointId := resumed.resumeCheckpointId })
      (hexit : MirrorCoordinator.SyncExit services s.coordinator resumed ended) :
      Stretch services s (.resume input checkpointId clock) s.calls ended
  | inspected {task frame request answer clock ended}
      (hcall : s.inFlight.get? task = some (.inspect frame request))
      (hexit : MirrorCoordinator.InspectedExit services s.coordinator frame answer (clock 0) ended) :
      Stretch services s (.inspected task answer clock) task ended
  | created {task inbound key proposal rest answer clock ended}
      (hcall : s.inFlight.get? task = some (.createChange inbound key proposal rest))
      (hexit : MirrorCoordinator.CreatedExit s.coordinator inbound key proposal rest answer (clock 0)
        ended) :
      Stretch services s (.created task answer clock) task ended
  | pushed {task frame remoteState request answer clock ended}
      (hcall : s.inFlight.get? task = some (.push frame remoteState request))
      (hexit : MirrorCoordinator.PushedExit services s.coordinator frame remoteState answer (clock 0)
        ended) :
      Stretch services s (.pushed task answer clock) task ended

/-- **One event** runs one stretch, or answers no call. -/
theorem step_stretch (services : MirrorServices) (s : MirrorSystem) (event : MirrorEvent) :
    step services event s = (.idle, s) ∨
      ∃ calls task ended, s.calls ≤ calls ∧ (task < calls ∨ (s.inFlight.get? task).isSome) ∧
        Stretch services s event task ended ∧ step services event s = s.settle calls task ended := by
  cases event with
  | sync input clock =>
    exact .inr ⟨s.calls + 1, s.calls, _, Nat.le_succ _, .inl (Nat.lt_succ_self _),
      .began (MirrorCoordinator.sync_exit input clock), rfl⟩
  | resume input checkpointId clock =>
    obtain ⟨resumed, hinput, hexit⟩ := MirrorCoordinator.resume_exit input checkpointId clock
    exact .inr ⟨s.calls + 1, s.calls, _, Nat.le_succ _, .inl (Nat.lt_succ_self _),
      .resumed hinput hexit, rfl⟩
  | inspected task answer clock =>
    simp only [step]
    split
    · rename_i frame request hcall
      exact .inr ⟨s.calls, task, _, Nat.le_refl _, .inr (hcall ▸ rfl),
        .inspected hcall (MirrorCoordinator.inspected_exit frame answer clock), rfl⟩
    · exact .inl rfl
  | created task answer clock =>
    simp only [step]
    split
    · rename_i inbound key proposal rest hcall
      exact .inr ⟨s.calls, task, _, Nat.le_refl _, .inr (hcall ▸ rfl),
        .created hcall (MirrorCoordinator.created_exit inbound key proposal rest answer clock), rfl⟩
    · exact .inl rfl
  | pushed task answer clock =>
    simp only [step]
    split
    · rename_i frame remoteState request hcall
      exact .inr ⟨s.calls, task, _, Nat.le_refl _, .inr (hcall ▸ rfl),
        .pushed hcall (MirrorCoordinator.pushed_exit frame remoteState request answer clock), rfl⟩
    · exact .inl rfl

/-- A stretch that issues a push compared the inspection it was answered. -/
theorem Stretch.inspected_of_push {task : Nat} {ended : SyncOutcome × MirrorCoordinator}
    {pushing : SyncFrame} {remoteState : MirrorRemoteState} {request : MirrorPush}
    (h : Stretch services s event task ended)
    (hpush : ended.1.awaited = some (.push pushing remoteState request)) :
    ∃ frame inspection state clock c,
      event = .inspected task (.returned (.succeeded state)) clock ∧
      s.inFlight.get? task = some (.inspect frame inspection) ∧ s.coordinator.Keeps c ∧
      MirrorCoordinator.ReconcileExit services c
        (MirrorCoordinator.remoteInspected frame (s.coordinator.observe services frame state))
        (s.coordinator.observe services frame state) (clock 0) ended := by
  cases h with
  | began hexit => cases hexit <;> cases hpush
  | resumed _ hexit => cases hexit <;> cases hpush
  | created hcall hexit =>
    cases hexit with
    | accepted _ _ _ _ _ hrest => exact absurd hpush (MirrorCoordinator.proposal_awaits hrest)
    | _ => cases hpush
  | pushed hcall hexit => cases hexit <;> cases hpush
  | @inspected _ frame inspection _ clock _ hcall hexit =>
    cases hexit with
    | failed => cases hpush
    | incomplete => cases hpush
    | @compared state _ _ hanswer _ hkeeps hreconcile =>
      subst hanswer
      exact ⟨frame, inspection, state, clock, _, rfl, hcall, hkeeps, hreconcile⟩

/-- What is in flight after a stretch. -/
theorem settle_inFlight (calls task : Nat) (ended : SyncOutcome × MirrorCoordinator) (other : Nat) :
    (s.settle calls task ended).2.inFlight.get? other =
      if other = task then ended.1.awaited else s.inFlight.get? other := by
  unfold settle
  simp only []
  cases ended.1.awaited with
  | some call => exact OrderedMap.get?_set _ _ _ _
  | none => exact OrderedMap.get?_delete _ _ _

/-- The sync that awaits the inspection `task`. -/
def inspecting (s : MirrorSystem) (task : Nat) : Option SyncFrame :=
  (s.inFlight.get? task).bind MirrorCall.inspecting

/-- The sync that awaits the Change `task`. -/
def creating (s : MirrorSystem) (task : Nat) : Option AwaitedChange :=
  (s.inFlight.get? task).bind MirrorCall.creating

/-- The sync that awaits the push `task`. -/
def pushing (s : MirrorSystem) (task : Nat) : Option SyncFrame :=
  (s.inFlight.get? task).bind MirrorCall.pushing

/-- The inspection an event reports: the sync that awaits it, and the remote state. -/
def inspectedBy (s : MirrorSystem) : MirrorEvent → Option (SyncFrame × MirrorRemoteState)
  | .inspected task (.returned (.succeeded state)) _ => (s.inspecting task).map fun frame => (frame, state)
  | _ => none

/-- The accepted push an event reports: the sync that awaits it, and the remote state. -/
def pushedBy (s : MirrorSystem) : MirrorEvent → Option (SyncFrame × MirrorRemoteState)
  | .pushed task (.returned (.succeeded state)) _ => (s.pushing task).map fun frame => (frame, state)
  | _ => none

theorem inspecting_eq_some {task : Nat} {frame : SyncFrame} :
    s.inspecting task = some frame ↔
      ∃ request, s.inFlight.get? task = some (.inspect frame request) := by
  unfold inspecting
  cases s.inFlight.get? task with
  | none => simp
  | some call => cases call <;> simp [MirrorCall.inspecting]

theorem creating_eq_some {task : Nat} {awaited : AwaitedChange} :
    s.creating task = some awaited ↔ s.inFlight.get? task =
      some (.createChange awaited.inbound awaited.key awaited.proposal awaited.rest) := by
  unfold creating
  cases s.inFlight.get? task with
  | none => simp
  | some call =>
    obtain ⟨inbound, key, proposal, rest⟩ := awaited
    cases call <;> simp [MirrorCall.creating]

theorem pushing_eq_some {task : Nat} {frame : SyncFrame} :
    s.pushing task = some frame ↔
      ∃ remoteState request, s.inFlight.get? task = some (.push frame remoteState request) := by
  unfold pushing
  cases s.inFlight.get? task with
  | none => simp
  | some call => cases call <;> simp [MirrorCall.pushing]

theorem inspectedBy_eq_some {frame : SyncFrame} {state : MirrorRemoteState}
    (h : s.inspectedBy event = some (frame, state)) :
    ∃ task request clock, event = .inspected task (.returned (.succeeded state)) clock ∧
      s.inFlight.get? task = some (.inspect frame request) := by
  unfold inspectedBy at h
  split at h
  · obtain ⟨found, hfound, heq⟩ := Option.map_eq_some_iff.mp h
    cases heq
    obtain ⟨request, hcall⟩ := inspecting_eq_some.mp hfound
    exact ⟨_, request, _, rfl, hcall⟩
  · cases h

theorem pushedBy_eq_some {frame : SyncFrame} {state : MirrorRemoteState}
    (h : s.pushedBy event = some (frame, state)) :
    ∃ task expected request clock, event = .pushed task (.returned (.succeeded state)) clock ∧
      s.inFlight.get? task = some (.push frame expected request) := by
  unfold pushedBy at h
  split at h
  · obtain ⟨found, hfound, heq⟩ := Option.map_eq_some_iff.mp h
    cases heq
    obtain ⟨expected, request, hcall⟩ := pushing_eq_some.mp hfound
    exact ⟨_, expected, request, _, rfl, hcall⟩
  · cases h

theorem inspectedBy_of_call {task : Nat} {frame : SyncFrame} {remoteState : MirrorRemoteState}
    {request : MirrorInspection} {clock : Clock}
    (hcall : s.inFlight.get? task = some (.inspect frame request)) :
    s.inspectedBy (.inspected task (.returned (.succeeded remoteState)) clock) =
      some (frame, remoteState) := by
  rw [inspectedBy, inspecting_eq_some.mpr ⟨request, hcall⟩, Option.map_some]

theorem pushedBy_of_call {task : Nat} {frame : SyncFrame} {remoteState expected : MirrorRemoteState}
    {request : MirrorPush} {clock : Clock} (hcall : s.inFlight.get? task = some (.push frame expected request)) :
    s.pushedBy (.pushed task (.returned (.succeeded remoteState)) clock) =
      some (frame, remoteState) := by
  rw [pushedBy, pushing_eq_some.mpr ⟨expected, request, hcall⟩, Option.map_some]

theorem finished_eq_some {reply : MirrorReply} {done : MirrorSyncInput × MirrorSyncResult} :
    reply.finished = some done ↔ ∃ task, reply = .ended task (.finished done.1 done.2) := by
  unfold MirrorReply.finished
  constructor
  · intro h
    split at h
    · cases Option.some.inj h
      exact ⟨_, rfl⟩
    · cases h
  · rintro ⟨task, rfl⟩
    rfl

theorem succeeded_eq_some {reply : MirrorReply} {input : MirrorSyncInput} {value : MirrorSyncValue} :
    reply.succeeded = some (input, value) ↔
      ∃ task, reply = .ended task (.finished input (.succeeded value)) := by
  unfold MirrorReply.succeeded
  constructor
  · intro h
    split at h
    · cases Option.some.inj h
      exact ⟨_, rfl⟩
    · cases h
  · rintro ⟨task, rfl⟩
    rfl

theorem push_eq_some {reply : MirrorReply} {frame : SyncFrame} {request : MirrorPush}
    (h : reply.push = some (frame, request)) :
    ∃ task remoteState, reply = .ended task (.awaits (.push frame remoteState request)) := by
  unfold MirrorReply.push at h
  split at h
  · cases h
    exact ⟨_, _, rfl⟩
  · cases h

/-! ## Soundness -/

variable {configuration : MirrorConfiguration} {c : MirrorCoordinator} {frame : SyncFrame}
  {ended : SyncOutcome × MirrorCoordinator} {completedAt : String}

/-- A stretch that keeps the configuration and awaits a sound call, or none. -/
structure EndsSound (services : MirrorServices) (configuration : MirrorConfiguration)
    (ended : SyncOutcome × MirrorCoordinator) : Prop where
  configured : ended.2.mirror.toMirrorConfiguration = configuration
  awaited : ∀ call ∈ ended.1.awaited, call.Sound services configuration

theorem endsSound_fail {failure : MirrorProviderFailure} {state : MirrorState}
    {generation : Option String} {explicitState : Option MirrorState}
    (hc : c.mirror.toMirrorConfiguration = configuration) :
    EndsSound services configuration
      (c.fail frame failure state generation explicitState completedAt) := by
  refine ⟨by rw [MirrorCoordinator.fail_configuration, hc], ?_⟩
  rw [MirrorCoordinator.fail_awaited]
  exact fun _ h => absurd h (Option.not_mem_none _)

theorem endsSound_succeed {next : MirrorBoundary} {changes : List Change}
    {kind : MirrorOperationKind} (hc : c.mirror.toMirrorConfiguration = configuration) :
    EndsSound services configuration (c.succeed frame next changes kind completedAt) := by
  refine ⟨by rw [MirrorCoordinator.succeed_configuration, hc], ?_⟩
  rw [MirrorCoordinator.succeed_awaited]
  exact fun _ h => absurd h (Option.not_mem_none _)

theorem endsSound_proposal {inbound : InboundFrame} {updates : List MirrorRefUpdate}
    (hc : c.mirror.toMirrorConfiguration = configuration)
    (hframe : inbound.toSyncFrame.Sound services configuration)
    (hexit : MirrorCoordinator.ProposalExit c inbound updates completedAt ended) :
    EndsSound services configuration ended := by
  cases hexit with
  | refused => exact endsSound_fail hc
  | @asks inbound' _ _ _ _ _ _ hadvanced _ =>
    have hadvancedFrame : inbound'.toSyncFrame.Sound services configuration :=
      hadvanced.frame ▸ hframe
    refine ⟨hc, ?_⟩
    rintro call hcall
    cases Option.some.inj hcall
    exact hadvancedFrame
  | exhausted => exact endsSound_succeed hc

theorem endsSound_reconcile {observed : Observation}
    (hc : c.mirror.toMirrorConfiguration = configuration) (hframe : frame.Sound services configuration)
    (hexit : MirrorCoordinator.ReconcileExit services c frame observed completedAt ended) :
    EndsSound services configuration ended := by
  cases hexit with
  | inbound =>
    rcases MirrorCoordinator.processInbound_exit frame observed completedAt with
      ⟨-, failure, heq⟩ | ⟨-, inbound, hinbound, -, -, hproposal⟩
    · rw [heq]
      exact endsSound_fail hc
    · exact endsSound_proposal hc (hinbound ▸ hframe) hproposal
  | outbound =>
    refine ⟨hc, ?_⟩
    rintro call hcall
    cases Option.some.inj hcall
    exact ⟨hframe, rfl⟩
  | synchronized | settled => exact endsSound_succeed hc
  | _ => exact endsSound_fail hc

/-- The configuration is kept, and the calls in flight are sound and numbered. -/
structure Sound (services : MirrorServices) (configuration : MirrorConfiguration)
    (s : MirrorSystem) : Prop where
  configured : s.coordinator.mirror.toMirrorConfiguration = configuration
  inFlight : ∀ task call, s.inFlight.get? task = some call →
    task < s.calls ∧ call.Sound services configuration

theorem endsSound_sync {input : MirrorSyncInput}
    (hc : c.mirror.toMirrorConfiguration = configuration)
    (hexit : MirrorCoordinator.SyncExit services c input ended) :
    EndsSound services configuration ended := by
  cases hexit with
  | threw hkeeps => exact ⟨hkeeps.mirror ▸ hc, fun _ h => absurd h (Option.not_mem_none _)⟩
  | replayed => exact ⟨hc, fun _ h => absurd h (Option.not_mem_none _)⟩
  | invalid hkeeps => exact endsSound_fail (hkeeps.mirror ▸ hc)
  | inspects hkeeps _ _ hsound =>
    refine ⟨hkeeps.mirror ▸ hc, ?_⟩
    rintro call hcall
    cases Option.some.inj hcall
    exact hc ▸ hsound

/-- A stretch in a sound state ends sound. -/
theorem Stretch.endsSound (hs : s.Sound services configuration) {task : Nat}
    (h : Stretch services s event task ended) : EndsSound services configuration ended := by
  cases h with
  | began hexit => exact endsSound_sync hs.configured hexit
  | resumed _ hexit => exact endsSound_sync hs.configured hexit
  | @inspected _ frame _ _ _ _ hcall hexit =>
    have hframe : frame.Sound services configuration := (hs.inFlight _ _ hcall).2
    cases hexit with
    | failed => exact endsSound_fail hs.configured
    | incomplete => exact endsSound_fail hs.configured
    | compared _ _ hkeeps hreconcile =>
      refine endsSound_reconcile (hkeeps.mirror ▸ hs.configured) ?_ hreconcile
      exact ⟨hframe.projected, hframe.mirrored, hframe.kind⟩
  | @created _ inbound _ _ _ _ _ _ hcall hexit =>
    have hframe : inbound.toSyncFrame.Sound services configuration := (hs.inFlight _ _ hcall).2
    cases hexit with
    | failed => exact endsSound_fail hs.configured
    | mismatched => exact endsSound_fail hs.configured
    | accepted _ _ hmirror _ _ hrest =>
      refine endsSound_proposal (hmirror ▸ hs.configured) ?_ hrest
      exact ⟨hframe.projected, hframe.mirrored, hframe.kind⟩
  | pushed hcall hexit =>
    cases hexit with
    | failed => exact endsSound_fail hs.configured
    | mismatched => exact endsSound_fail hs.configured
    | synchronized => exact endsSound_succeed hs.configured

/-- **One event** keeps a sound state sound. -/
theorem Sound.step (hs : s.Sound services configuration) :
    (step services event s).2.Sound services configuration := by
  rcases step_stretch services s event with heq | ⟨calls, task, ended, hcalls, htask, hstretch, heq⟩
  · rw [heq]
    exact hs
  · have hended := hstretch.endsSound hs
    rw [heq]
    refine ⟨hended.configured, fun other call hcall => ?_⟩
    rw [settle_inFlight] at hcall
    by_cases hother : other = task
    · subst hother
      rw [if_pos rfl] at hcall
      refine ⟨htask.elim id fun hin => ?_, hended.awaited _ hcall⟩
      obtain ⟨before, hbefore⟩ := Option.isSome_iff_exists.mp hin
      exact Nat.lt_of_lt_of_le (hs.inFlight _ _ hbefore).1 hcalls
    · rw [if_neg hother] at hcall
      obtain ⟨hlt, hsound⟩ := hs.inFlight _ _ hcall
      exact ⟨Nat.lt_of_lt_of_le hlt hcalls, hsound⟩

/-! ## New coordinators -/

/-- Mappings that pass the constructor name no remote ref twice. -/
theorem checkMappings_distinct {mirrorId : String} :
    ∀ {mappings : List MirrorRefMapping} {localRefs remoteRefs : List String},
      MirrorCoordinator.checkMappings mirrorId mappings localRefs remoteRefs = .ok () →
      RemoteRefsDistinct mappings ∧ ∀ mapping ∈ mappings, mapping.remoteRef ∉ remoteRefs
  | [], _, _, _ => ⟨List.nodup_nil, fun _ h => absurd h List.not_mem_nil⟩
  | mapping :: mappings, localRefs, remoteRefs, h => by
    simp only [MirrorCoordinator.checkMappings, bind_eq_ok, exists_unit, require_eq_ok] at h
    obtain ⟨-, -, hnew, hrest⟩ := h
    obtain ⟨hdistinct, hfresh⟩ := checkMappings_distinct hrest
    refine ⟨List.nodup_cons.mpr ⟨?_, hdistinct⟩, ?_⟩
    · intro hmem
      obtain ⟨other, hother, heq⟩ := List.mem_map.mp hmem
      exact hfresh other hother (heq ▸ List.mem_cons_self ..)
    · intro other hother
      rcases List.mem_cons.mp hother with rfl | hother
      · exact fun hmem => hnew (.inr hmem)
      · exact fun hmem => hfresh other hother (List.mem_cons_of_mem _ hmem)

theorem create_eq_ok {mirror : RepositoryMirror}
    {sourceSpaceClassification : SourceSpaceClassification}
    (h : MirrorCoordinator.create mirror sourceSpaceClassification = .ok c) :
    c = .initial mirror sourceSpaceClassification ∧ RemoteRefsDistinct mirror.refMappings := by
  simp only [MirrorCoordinator.create, bind_eq_ok, exists_unit, pure_eq_ok] at h
  obtain ⟨-, -, -, -, -, -, hmappings, -, rfl⟩ := h
  exact ⟨rfl, (checkMappings_distinct hmappings).1⟩

/-! ## Runs -/

/-- One event of a run, with its reply and the states around it. -/
abbrev MirrorTransition := Transition MirrorSystem MirrorEvent MirrorReply

/-- A run of a new coordinator. -/
abbrev RunFrom (services : MirrorServices) (c : MirrorCoordinator)
    (ok : MirrorSystem → MirrorEvent → Prop) : List MirrorTransition → MirrorSystem → Prop :=
  Run (step services) ok (start c)

/-- A sync is started only when none is in flight. -/
def Sequential (s : MirrorSystem) : MirrorEvent → Prop
  | .sync _ _ | .resume _ _ _ => s.inFlight.keys = []
  | _ => True

instance (s : MirrorSystem) (event : MirrorEvent) : Decidable (s.Sequential event) := by
  cases event <;> unfold Sequential <;> infer_instance

variable {mirror : RepositoryMirror} {sourceSpaceClassification : SourceSpaceClassification}
  {ok : MirrorSystem → MirrorEvent → Prop} {tr : List MirrorTransition}

/-- **The run rule**: what holds at the start and every stretch in a sound state keeps
holds along every run. -/
theorem sound_invariant (I : List MirrorTransition → MirrorSystem → Prop)
    (h0 : I [] (start c))
    (hidle : ∀ tr s event, ok s event → MirrorSystem.step services event s = (.idle, s) → I tr s →
      I (tr ++ [.of (MirrorSystem.step services) s event]) s)
    (hstretch : ∀ tr s event calls task ended, s.Sound services c.mirror.toMirrorConfiguration →
      ok s event → I tr s → Stretch services s event task ended →
      MirrorSystem.step services event s = s.settle calls task ended →
      I (tr ++ [.of (MirrorSystem.step services) s event]) (s.settle calls task ended).2)
    (hrun : RunFrom services c ok tr s) :
    s.Sound services c.mirror.toMirrorConfiguration ∧ I tr s := by
  refine hrun.traceInvariant
    (fun tr s => s.Sound services c.mirror.toMirrorConfiguration ∧ I tr s)
    ⟨⟨rfl, fun _ _ h => nomatch h⟩, h0⟩ ?_
  rintro tr s event ⟨hs, hI⟩ hok
  refine ⟨hs.step, ?_⟩
  rcases step_stretch services s event with heq | ⟨calls, task, ended, -, -, hended, heq⟩
  · rw [show (MirrorSystem.step services event s).2 = s from congrArg Prod.snd heq]
    exact hidle tr s event hok heq hI
  · rw [show (MirrorSystem.step services event s).2 = (s.settle calls task ended).2 from
      congrArg Prod.snd heq]
    exact hstretch tr s event calls task ended hs hok hI hended heq

/-- What a transition of a run did: it answered no call, or ran a stretch; in a sound
state. -/
theorem sound_transition (hrun : RunFrom services c ok tr s) {t : MirrorTransition} (ht : t ∈ tr) :
    t.pre.Sound services c.mirror.toMirrorConfiguration ∧
      (step services t.op t.pre = (.idle, t.pre) ∧ t.reply = .idle ∨
        ∃ task ended, Stretch services t.pre t.op task ended ∧ t.reply = .ended task ended.1 ∧
          t.post.coordinator = ended.2) := by
  obtain ⟨before, after, rfl⟩ := List.append_of_mem ht
  obtain ⟨hbefore, hof, -, -⟩ := hrun.split
  have hs : t.pre.Sound services c.mirror.toMirrorConfiguration :=
    (sound_invariant (fun _ _ => True) trivial (fun _ _ _ _ _ _ => trivial)
      (fun _ _ _ _ _ _ _ _ _ _ _ => trivial) hbefore).1
  refine ⟨hs, ?_⟩
  rw [hof]
  rcases step_stretch services t.pre t.op with hidle | ⟨calls, task, ended, -, -, hstretch, heq⟩
  · exact .inl ⟨hidle, congrArg Prod.fst hidle⟩
  · exact .inr ⟨task, ended, hstretch, congrArg Prod.fst heq,
      congrArg (fun r => r.2.coordinator) heq⟩

end MirrorSystem

/-! ## Concrete runs -/

namespace Sample

/-- Digests are their texts, and names are compared by their characters. -/
def mirrorServices : MirrorServices where
  digest text := text
  localeCompare := compare

/-- Every reading of the clock is the earliest date. -/
def early : Clock := fun _ => ""

def refsOf (refs : List (String × String)) : List GitRef := refs.map fun ref => ⟨ref.1, ref.2⟩

/-- A public Mirror of the branches `main` and `dev`, never synchronized. -/
def publicMirror : RepositoryMirror where
  id := "mirror"
  projectId := "project"
  sourceSpaceId := "space"
  provider := "provider"
  remoteRepository := "repository"
  direction := "bidirectional"
  canonicalAuthority := "anyam"
  refMappings := [⟨"main", "main"⟩, ⟨"dev", "dev"⟩]
  disclosure := .public
  state := .healthy
  canonicalProjectRevisionId := "r0"
  canonicalRefs := []
  remoteGeneration := "g0"
  remoteRefs := []
  pendingInboundChangeIds := []
  updatedAt := ""
  receipt := "receipt"

/-- A sync of a verified public Project Revision with the given refs. -/
def syncOf (key revision : String) (refs : List (String × String))
    (reconciliation : Option MirrorReconciliation) : MirrorEvent :=
  .sync {
    canonical := {
      projectRevisionId := revision
      sourceSpaceId := "space"
      sourceSpaceClassification := .public
      disclosure := .public
      verified := true
      verificationReceipt := "verified"
      refs := refsOf refs }
    idempotencyKey := key
    reconciliation } early

/-- A remote state whose updates, of one kind, each have their commit. -/
def remoteStateOf (generation : String) (refs updates : List (String × String))
    (kind : MirrorRefUpdateKind) : MirrorRemoteState where
  generation
  refs := refsOf refs
  updates := updates.map fun update =>
    { remoteRef := update.1, currentOid := some update.2, kind, receipt := "receipt" }
  commits := updates.map fun update =>
    { oid := update.2, ref := update.1, author := ⟨"author", none⟩, disclosure := .public }
  receipt := "receipt"

/-- The adapter answers an inspection with fast-forward updates. -/
def inspectedAs (task : Nat) (generation : String) (refs updates : List (String × String)) :
    MirrorEvent :=
  .inspected task (.returned (.succeeded (remoteStateOf generation refs updates .fastForward))) early

def pushedAs (task : Nat) (generation : String) (refs : List (String × String)) : MirrorEvent :=
  .pushed task (.returned (.succeeded (remoteStateOf generation refs [] .unchanged))) early

/-- The sink answers with a Change for a commit at a remote ref, on a base revision. -/
def createdAs (task : Nat) (id revision ref oid : String) : MirrorEvent :=
  .created task (.returned (.succeeded {
    id
    projectId := "project"
    intentId := "intent"
    baseProjectRevisionId := revision
    status := .draft
    latestRevisionId := none
    workspaceId := none
    revertsChangeRevisionId := none
    author := none
    origin := some {
      kind := .mirror
      source := "provider"
      mirrorId := some "mirror"
      remoteRepository := some "repository"
      remoteRef := some ref
      remoteCommit := some oid
      remoteAuthor := none
      disclosure := .public
      receipt := "receipt" } })) early

/-- The first push of a branch `main` at `a`. -/
def firstPush : List MirrorEvent :=
  [syncOf "k1" "r1" [("main", "a")] none, inspectedAs 0 "g0" [] [], pushedAs 0 "g1" [("main", "a")]]

/-- The trace and final state of a list of events on a new coordinator. -/
def mirrorRan (events : List MirrorEvent) : List MirrorSystem.MirrorTransition × MirrorSystem :=
  exec (MirrorSystem.step mirrorServices) (.start (.initial publicMirror .public)) events

theorem publicMirror_created :
    MirrorCoordinator.create publicMirror .public = .ok (.initial publicMirror .public) := by
  decide +kernel

end Sample

end Anyam.Portability
