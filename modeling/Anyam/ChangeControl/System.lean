import Anyam.ChangeControl.LocalSpec
import Anyam.Lib.Run

/-!
# The coordinator as a system

A `LocalChangeCoordinator` is shared by callers whose `rebaseChange` calls may be
suspended while others run. `LocalSystem` is the coordinator with its suspended
calls, `step` applies one operation, and a run is any sequence of operations:
every interleaving of the atomic methods with the two halves of any number of
rebases.

- `Effect`, `step_effect`: everything one step can do, one constructor per
  outcome. Every invariant of the later modules is a case analysis on it.
- `Fresh`, `FreshChoices`: `randomUUID` draws, and callers choose, identifiers
  that are not in use.
-/

namespace Anyam.ChangeControl

open Anyam.Lib Anyam.Kernel

structure LocalSystem where
  control : LocalChangeCoordinator
  inFlight : List RebaseCall
deriving DecidableEq, Repr

/-- One call into the coordinator, with the identifiers drawn for it. -/
inductive Operation
  | createWorkspace (input : CreateWorkspaceInput) (storage : StorageOutcome) (uuid : String)
  | createChange (input : CreateChangeInput) (uuid : String)
  | registerConflict (input : RegisterConflictInput) (uuid : String)
  | resolveConflict (conflictId : String)
  | publishRevision (input : PublishRevisionInput) (uuid : String)
  | beginRebase (input : RebaseChangeInput)
  | finishRebase (index : Nat) (storage : StorageOutcome) (workspaceUuid revisionUuid : String)
  | handoffChange (changeId actorId : String)
  | revertChange (input : RevertChangeInput) (uuid : String)
  | landCohort (input : LandCohortInput) (revisionUuid landingUuid : String)
deriving DecidableEq, Repr

inductive Reply
  | workspace (workspace : Workspace)
  | change (change : Change)
  | conflict (conflict : Conflict)
  | revision (revision : ChangeRevision)
  | suspended (call : RebaseCall)
  | rebased (workspace : Workspace) (revision : ChangeRevision)
  | landing (landing : Landing)
  | failed (failure : MaterializeFailure)
  | idle
deriving DecidableEq, Repr

namespace LocalSystem

/-- A fresh coordinator with nothing in flight. -/
def initial (project : Project) (canonicalRevision : ProjectRevision) : LocalSystem :=
  ⟨.initial project canonicalRevision, []⟩

/-- The reply and next state of an atomic method: its result, or its error and
nothing changed. -/
def atomically {ε α : Type} (s : LocalSystem) (fault : ε → MaterializeFailure) (reply : α → Reply) :
    Except ε (α × LocalChangeCoordinator) → Reply × LocalSystem
  | .ok (a, control) => (reply a, { s with control })
  | .error e => (.failed (fault e), s)

/-- Start a rebase, up to its suspension. -/
def suspend (text : UnicodeText) (s : LocalSystem) (input : RebaseChangeInput) :
    Reply × LocalSystem :=
  match s.control.beginRebase text input with
  | .ok call => (.suspended call, { s with inFlight := s.inFlight ++ [call] })
  | .error e => (.failed (.rejected e), s)

/-- Resume the suspended rebase at `index`. -/
def resume (s : LocalSystem) (index : Nat) (storage : StorageOutcome)
    (workspaceUuid revisionUuid : String) : Reply × LocalSystem :=
  match s.inFlight[index]? with
  | none => (.idle, s)
  | some call =>
    let (outcome, control) := s.control.finishRebase call storage workspaceUuid revisionUuid
    let next : LocalSystem := ⟨control, s.inFlight.eraseIdx index⟩
    match outcome with
    | .ok (workspace, revision) => (.rebased workspace revision, next)
    | .error failure => (.failed failure, next)

/-- Apply one operation. -/
def step (text : UnicodeText) : Operation → LocalSystem → Reply × LocalSystem
  | .createWorkspace input storage uuid, s =>
    s.atomically id .workspace (s.control.createWorkspace text input storage uuid)
  | .createChange input uuid, s =>
    s.atomically .rejected .change (s.control.createChange input uuid)
  | .registerConflict input uuid, s =>
    s.atomically .rejected .conflict (s.control.registerConflict input uuid)
  | .resolveConflict conflictId, s =>
    s.atomically .rejected .conflict (s.control.resolveConflict conflictId)
  | .publishRevision input uuid, s =>
    s.atomically .rejected .revision (s.control.publishRevision input uuid)
  | .beginRebase input, s => s.suspend text input
  | .finishRebase index storage workspaceUuid revisionUuid, s =>
    s.resume index storage workspaceUuid revisionUuid
  | .handoffChange changeId actorId, s =>
    s.atomically .rejected .workspace (s.control.handoffChange changeId actorId)
  | .revertChange input uuid, s =>
    s.atomically .rejected .change (s.control.revertChange input uuid)
  | .landCohort input revisionUuid landingUuid, s =>
    s.atomically .rejected .landing (s.control.landCohort input revisionUuid landingUuid)

/-- The state with another coordinator state and the same calls in flight. -/
abbrev withControl (s : LocalSystem) (control : LocalChangeCoordinator) : LocalSystem :=
  { s with control }

/-! ## What one step does -/

/-- Everything one operation can reply and leave. -/
inductive Effect (s : LocalSystem) : Operation → Reply → LocalSystem → Prop
  /-- A refused operation, or a resumption of nothing. -/
  | unchanged {op reply} (h : reply = .idle ∨ ∃ failure, reply = .failed failure) :
      Effect s op reply s
  /-- A rebase whose materialization failed. -/
  | abandoned {index storage workspaceUuid revisionUuid failure call}
      (hcall : s.inFlight[index]? = some call) (hstorage : storage ≠ .written) :
      Effect s (.finishRebase index storage workspaceUuid revisionUuid) (.failed failure)
        ⟨s.control, s.inFlight.eraseIdx index⟩
  | createdWorkspace {input storage uuid} {ws : Workspace}
      (hbase : ws.projectRevisionId ∈ s.control.projectRevisions.keys)
      (hid : ws.id = input.id.getD (opaqueId "workspace" uuid)) (hstate : ws.state = .active)
      (hfree : ws.changeId = none) :
      Effect s (.createWorkspace input storage uuid) (.workspace ws)
        (s.withControl { s.control with workspaces := s.control.workspaces.set ws.id ws })
  | createdChange {input uuid} {change : Change} {ws : Workspace}
      (hws : s.control.workspaces.get? input.workspaceId = some ws) (hstate : ws.state = .active)
      (hfree : truthy ws.changeId = none)
      (hid : change.id = input.id.getD (opaqueId "change" uuid))
      (hbase : change.baseProjectRevisionId = ws.projectRevisionId)
      (hstatus : change.status = .active) (hlatest : change.latestRevisionId = none)
      (hattached : change.workspaceId = some ws.id) :
      Effect s (.createChange input uuid) (.change change)
        (s.withControl { s.control with
          changes := s.control.changes.set change.id change
          workspaces := s.control.workspaces.set ws.id { ws with changeId := some change.id } })
  | registered {input uuid} {conflict : Conflict} {change : Change} {ws : Workspace}
      (hchange : s.control.changes.get? input.changeId = some change)
      (hws : s.control.workspaces.get? input.workspaceId = some ws)
      (hattached : change.workspaceId = some ws.id)
      (hid : conflict.id = input.id.getD (opaqueId "conflict" uuid))
      (howner : conflict.changeId = change.id) (hplace : conflict.workspaceId = ws.id)
      (hopen : conflict.state = .«open») :
      Effect s (.registerConflict input uuid) (.conflict conflict)
        (s.withControl { s.control with
          conflicts := s.control.conflicts.set conflict.id conflict
          workspaces := s.control.workspaces.set ws.id { ws with state := .blocked } })
  | resolved {conflictId} {conflict : Conflict}
      (hconflict : s.control.conflicts.get? conflictId = some conflict) :
      Effect s (.resolveConflict conflictId) (.conflict { conflict with state := .resolved })
        (s.withControl { s.control with
          conflicts := s.control.conflicts.set conflict.id { conflict with state := .resolved }
          workspaces := s.control.unblockWorkspace
            (s.control.conflicts.set conflict.id { conflict with state := .resolved })
            conflict.workspaceId })
  | published {input uuid change ws} (h : s.control.Publishable input change ws) :
      Effect s (.publishRevision input uuid)
        (.revision (s.control.publishedRevision input uuid change ws))
        (s.withControl (s.control.filePublished change ws
          (s.control.publishedRevision input uuid change ws)))
  | suspended {input call} (hchange : s.control.changes.get? input.changeId = some call.change)
      (hprevious : truthy call.change.workspaceId = none ∧ call.previousWorkspace = none ∨
        ∃ id ws, truthy call.change.workspaceId = some id ∧
          s.control.workspaces.get? id = some ws ∧ call.previousWorkspace = some ws)
      (hbase : call.request.view.projectRevisionId ∈ s.control.projectRevisions.keys)
      (hid : call.request.id = none) :
      Effect s (.beginRebase input) (.suspended call) { s with inFlight := s.inFlight ++ [call] }
  | rebased {index workspaceUuid revisionUuid call rebased}
      (hcall : s.inFlight[index]? = some call)
      (hrebased : rebased = s.control.rebasedWorkspace call workspaceUuid)
      (h : s.control.RebasePublishes call rebased) :
      Effect s (.finishRebase index .written workspaceUuid revisionUuid)
        (.rebased rebased (s.control.rebaseRevision call rebased revisionUuid))
        ⟨s.control.afterRebase call rebased revisionUuid, s.inFlight.eraseIdx index⟩
  /-- A rebase whose publication was refused, and undone. -/
  | restored {index workspaceUuid revisionUuid call rebased failure}
      (hcall : s.inFlight[index]? = some call)
      (hrebased : rebased = s.control.rebasedWorkspace call workspaceUuid)
      (h : ¬ s.control.RebasePublishes call rebased) :
      Effect s (.finishRebase index .written workspaceUuid revisionUuid) (.failed failure)
        ⟨s.control.afterRefusedRebase call rebased, s.inFlight.eraseIdx index⟩
  | handedOff {changeId actorId} {change : Change} {id} {ws : Workspace}
      (hchange : s.control.changes.get? changeId = some change)
      (hattached : change.workspaceId = some id)
      (hws : s.control.workspaces.get? id = some ws) :
      Effect s (.handoffChange changeId actorId) (.workspace { ws with actorId := some actorId })
        (s.withControl { s.control with
          workspaces := s.control.workspaces.set ws.id { ws with actorId := some actorId } })
  | reverted {input uuid landed ws}
      (hrevision : s.control.revisions.get? input.landedChangeRevisionId = some landed)
      (hlanded : s.control.wasLanded landed.id)
      (hws : s.control.RevertWorkspace input.workspaceId ws) :
      Effect s (.revertChange input uuid)
        (.change (s.control.revertingChange input uuid landed ws))
        (s.withControl { s.control with
          changes := s.control.changes.set (s.control.revertingChange input uuid landed ws).id
            (s.control.revertingChange input uuid landed ws) })
  | landed {input revisionUuid landingUuid selected next landing}
      (h : s.control.Landable input selected next)
      (hids : landing.changeRevisionIds = some (selected.map fun sel => sel.revision.id)) :
      Effect s (.landCohort input revisionUuid landingUuid) (.landing landing)
        (s.withControl (s.control.fileLanding selected
          (s.control.landedRevision input.cohortId selected next revisionUuid)))

variable {s : LocalSystem}

/-- An atomic method either returned, or changed nothing. -/
theorem atomically_cases {ε α : Type} {op : Operation} (fault : ε → MaterializeFailure)
    (reply : α → Reply) {x : Except ε (α × LocalChangeCoordinator)}
    (hok : ∀ a control, x = .ok (a, control) → Effect s op (reply a) (s.withControl control)) :
    Effect s op (s.atomically fault reply x).1 (s.atomically fault reply x).2 := by
  obtain e | ⟨a, control⟩ := x
  · exact .unchanged (.inr ⟨_, rfl⟩)
  · exact hok a control rfl

theorem suspend_effect (text : UnicodeText) (input : RebaseChangeInput) :
    Effect s (.beginRebase input) (s.suspend text input).1 (s.suspend text input).2 := by
  unfold suspend
  cases h : s.control.beginRebase text input with
  | error e => exact .unchanged (.inr ⟨_, rfl⟩)
  | ok call =>
    obtain ⟨hchange, hprevious, hbase, hid⟩ := LocalChangeCoordinator.beginRebase_ok h
    exact .suspended hchange hprevious hbase hid

theorem resume_effect (index : Nat) (storage : StorageOutcome)
    (workspaceUuid revisionUuid : String) :
    Effect s (.finishRebase index storage workspaceUuid revisionUuid)
      (s.resume index storage workspaceUuid revisionUuid).1
      (s.resume index storage workspaceUuid revisionUuid).2 := by
  unfold resume
  cases hcall : s.inFlight[index]? with
  | none => exact .unchanged (.inl rfl)
  | some call =>
    by_cases hstorage : storage = .written
    · subst hstorage
      by_cases hpub : s.control.RebasePublishes call
          (s.control.rebasedWorkspace call workspaceUuid)
      · simp only [LocalChangeCoordinator.finishRebase_of_publishes revisionUuid hpub]
        exact .rebased hcall rfl hpub
      · obtain ⟨failure, hfail⟩ :=
          LocalChangeCoordinator.finishRebase_of_refused revisionUuid hpub
        simp only [hfail]
        exact .restored hcall rfl hpub
    · obtain ⟨failure, hfail⟩ :=
        s.control.finishRebase_of_not_written call workspaceUuid revisionUuid hstorage
      simp only [hfail]
      exact .abandoned hcall hstorage

/-- **What one step does.** -/
theorem step_effect (text : UnicodeText) (op : Operation) (s : LocalSystem) :
    Effect s op (step text op s).1 (step text op s).2 := by
  cases op with
  | createWorkspace input storage uuid =>
    refine atomically_cases _ _ fun ws control h => ?_
    obtain ⟨hbase, hid, hstate, hfree, rfl⟩ := LocalChangeCoordinator.createWorkspace_ok h
    exact .createdWorkspace hbase hid hstate hfree
  | createChange input uuid =>
    refine atomically_cases _ _ fun change control h => ?_
    obtain ⟨ws, hws, hstate, hfree, hid, hbase, hstatus, hlatest, hattached, rfl⟩ :=
      LocalChangeCoordinator.createChange_ok h
    exact .createdChange hws hstate hfree hid hbase hstatus hlatest hattached
  | registerConflict input uuid =>
    refine atomically_cases _ _ fun conflict control h => ?_
    obtain ⟨change, ws, hchange, hws, hattached, hid, howner, hplace, hopen, rfl⟩ :=
      LocalChangeCoordinator.registerConflict_ok h
    exact .registered hchange hws hattached hid howner hplace hopen
  | resolveConflict conflictId =>
    refine atomically_cases _ _ fun updated control h => ?_
    obtain ⟨conflict, hconflict, rfl, rfl⟩ := LocalChangeCoordinator.resolveConflict_ok h
    exact .resolved hconflict
  | publishRevision input uuid =>
    refine atomically_cases _ _ fun revision control h => ?_
    obtain ⟨change, ws, hpub, rfl, rfl⟩ := LocalChangeCoordinator.publishRevision_eq_ok.mp h
    exact .published hpub
  | beginRebase input => exact suspend_effect text input
  | finishRebase index storage workspaceUuid revisionUuid =>
    exact resume_effect index storage workspaceUuid revisionUuid
  | handoffChange changeId actorId =>
    refine atomically_cases _ _ fun ws control h => ?_
    obtain ⟨change, id, old, hchange, hattached, hold, rfl, rfl⟩ :=
      LocalChangeCoordinator.handoffChange_ok h
    exact .handedOff hchange hattached hold
  | revertChange input uuid =>
    refine atomically_cases _ _ fun change control h => ?_
    obtain ⟨landed, ws, hrevision, hlanded, hws, rfl, rfl⟩ :=
      LocalChangeCoordinator.revertChange_eq_ok.mp h
    exact .reverted hrevision hlanded hws
  | landCohort input revisionUuid landingUuid =>
    refine atomically_cases _ _ fun landing control h => ?_
    obtain ⟨selected, next, hland, hids, -, rfl⟩ := LocalChangeCoordinator.landCohort_ok h
    exact .landed hland hids

end LocalSystem

/-! ## Concrete runs

A one-space Project and short-hands for calls on it, for the runs the theorems of
the later modules are instantiated at. -/

namespace Sample

/-- Text operations on ASCII, where normalization does nothing. -/
def ascii : UnicodeText where
  nfkc := id
  toLowerCase := fun value => String.ofList (value.toList.map Char.toLower)

def project : Project := ⟨"project", ["docs"]⟩

def canonicalRevision : ProjectRevision where
  id := "r0"
  projectId := "project"
  sourceSpaceSnapshots := OrderedMap.ofList [("docs", "c")]
  parentProjectRevisionId := none
  landedChangeRevisionId := none
  landedChangeRevisionIds := none
  landingCohortId := none

def view (projectRevisionId snapshotId : String) : ProjectView :=
  ⟨"view", "project", projectRevisionId, ["docs"], OrderedMap.ofList [("docs", snapshotId)]⟩

/-- A Workspace request over a Project Revision that has `docs` at a snapshot. -/
def request (projectRevisionId snapshotId : String) : CreateWorkspaceInput where
  view := view projectRevisionId snapshotId
  sources := [⟨"docs", snapshotId, OrderedMap.empty⟩]
  mounts := [⟨"docs", "docs"⟩]
  directory := "/work"

def rebaseInput (changeId projectRevisionId snapshotId : String) : RebaseChangeInput where
  changeId := changeId
  view := view projectRevisionId snapshotId
  sources := [⟨"docs", snapshotId, OrderedMap.empty⟩]
  mounts := [⟨"docs", "docs"⟩]
  directory := "/work"
  declaredEffects := []

/-- A Change `change:uuid` in its own Workspace `workspace:uuid` over `r0`. -/
def startChange (uuid : String) : List Operation :=
  [.createWorkspace (request "r0" "c") .written uuid,
   .createChange { intentId := "intent", workspaceId := opaqueId "workspace" uuid } uuid]

/-- Publish `change-revision:uuid`, with `docs` at a new snapshot or left alone. -/
def publish (changeId : String) (snapshotId : Option String) (uuid : String) : Operation :=
  .publishRevision {
    changeId
    declaredEffects := []
    sourceSpaceSnapshots := snapshotId.map fun s => OrderedMap.ofList [("docs", s)] } uuid

def conflictIn (changeId workspaceId : String) : RegisterConflictInput where
  changeId := changeId
  workspaceId := workspaceId
  kind := .textual
  sourceSpaceIds := ["docs"]
  paths := []
  description := "both sides edit"

def land (members : List LandingMember) (expected uuid : String) : Operation :=
  .landCohort { members, expectedCanonicalProjectRevisionId := expected } uuid uuid

/-- The trace and final state of a list of calls on the sample Project. -/
def ran (ops : List Operation) : List (Transition LocalSystem Operation Reply) × LocalSystem :=
  exec (LocalSystem.step ascii) (.initial project canonicalRevision) ops

end Sample

end Anyam.ChangeControl
