import Mathlib.Data.List.Dedup
import Mathlib.Data.List.Sort
import Anyam.ChangeControl.Materialize

/-!
# The local change coordinator

`LocalChangeCoordinator` of `change-control/local.ts`: the canonical Project
Revision with its lineage, and the Workspaces, Changes, Change Revisions and
Conflicts of one Project.

A synchronous method throws before its first write, so it is a function into
`Except`: an error, or a result with the next state. Generated identifiers are
arguments (the `uuid` drawn by `opaqueId`). `rebaseChange` suspends between its
reads and its writes and repairs its writes when it fails; it is split at the
suspension into `beginRebase` and `finishRebase`, and the second returns the
state in both outcomes.
-/

namespace Anyam.ChangeControl

open Anyam.Lib Anyam.Kernel

structure LocalChangeCoordinator where
  project : Project
  canonical : ProjectRevision
  projectRevisions : OrderedMap String ProjectRevision
  workspaces : OrderedMap String Workspace
  changes : OrderedMap String Change
  revisions : OrderedMap String ChangeRevision
  conflicts : OrderedMap String Conflict
deriving DecidableEq, Repr

structure CreateChangeInput where
  intentId : String
  workspaceId : String
  id : Option String := none
  author : Option ActorRef := none
  origin : Option ChangeOrigin := none
deriving DecidableEq, Repr

structure RegisterConflictInput where
  changeId : String
  workspaceId : String
  kind : ConflictKind
  sourceSpaceIds : List String
  paths : List String
  description : String
  id : Option String := none
deriving DecidableEq, Repr

structure PublishRevisionInput where
  changeId : String
  workspaceId : Option String := none
  declaredEffects : List String
  sourceSpaceSnapshots : Option Snapshots := none
  conflictIds : Option (List String) := none
  kind : Option ChangeRevisionKind := none
  actor : Option ActorRef := none
  affectedModuleIds : Option (List String) := none
  affectedTargetIds : Option (List String) := none
deriving DecidableEq, Repr

structure RebaseChangeInput where
  changeId : String
  view : ProjectView
  sources : List WorkspaceSource
  mounts : List WorkspaceMountInput
  directory : String
  actorId : Option String := none
  declaredEffects : List String
deriving DecidableEq, Repr

structure RevertChangeInput where
  landedChangeRevisionId : String
  intentId : String
  workspaceId : Option String := none
  id : Option String := none
deriving DecidableEq, Repr

structure LandingMember where
  changeId : String
  changeRevisionId : String
deriving DecidableEq, Repr

structure LandCohortInput where
  cohortId : Option String := none
  members : List LandingMember
  expectedCanonicalProjectRevisionId : String
deriving DecidableEq, Repr

/-- An exact Change Revision selected for Landing, with its Change. -/
structure Selected where
  change : Change
  revision : ChangeRevision
deriving DecidableEq, Repr

/-- A `rebaseChange` call between its suspension and its writes: what it read, and
the mounts its Workspace request was checked to have. -/
structure RebaseCall where
  change : Change
  previousWorkspace : Option Workspace
  request : CreateWorkspaceInput
  mounts : List WorkspaceMount
  declaredEffects : List String
deriving DecidableEq, Repr

namespace LocalChangeCoordinator

/-! ## Construction -/

/-- The constructor's state: no work yet, and the canonical revision known. -/
def initial (project : Project) (canonicalRevision : ProjectRevision) :
    LocalChangeCoordinator where
  project := project
  canonical := canonicalRevision
  projectRevisions := OrderedMap.empty.set canonicalRevision.id canonicalRevision
  workspaces := OrderedMap.empty
  changes := OrderedMap.empty
  revisions := OrderedMap.empty
  conflicts := OrderedMap.empty

def create (project : Project) (canonicalRevision : ProjectRevision) :
    Except ChangeControlError LocalChangeCoordinator := do
  require (canonicalRevision.projectId = project.id) {
    code := .projectMismatch
    message := "Canonical Project Revision does not belong to the Project."
    affectedObject := canonicalRevision.id
    recoveryAction := "load a canonical revision for the requested Project"
    receipt := s!"project={project.id}; revision={canonicalRevision.id}" }
  return initial project canonicalRevision

variable (s : LocalChangeCoordinator)

/-! ## Lookups -/

def requireWorkspace (workspaceId : Option String) : Except ChangeControlError Workspace := do
  let workspaceId ← orThrow (truthy workspaceId) {
    code := .workspaceNotFound
    message := "Change operation requires an attached Workspace."
    affectedObject := "change"
    recoveryAction := "create or attach a Workspace and retry"
    receipt := "workspace=missing" }
  orThrow (s.workspaces.get? workspaceId) {
    code := .workspaceNotFound
    message := "Requested Workspace is not known to this coordinator."
    affectedObject := workspaceId
    recoveryAction := "restore the Workspace or create a new one"
    receipt := s!"workspace={workspaceId}; known=false" }

/-- `workspaceId ? this.requireWorkspace(workspaceId) : undefined`. -/
def optionalWorkspace (workspaceId : Option String) :
    Except ChangeControlError (Option Workspace) :=
  match truthy workspaceId with
  | none => .ok none
  | some _ => (s.requireWorkspace workspaceId).map some

def requireChange (changeId : String) : Except ChangeControlError Change :=
  orThrow (s.changes.get? changeId) {
    code := .changeNotFound
    message := "Requested Change is not known to this coordinator."
    affectedObject := changeId
    recoveryAction := "refresh the Project and select an existing Change"
    receipt := s!"change={changeId}; known=false" }

/-- The Conflicts of a Change in one Workspace, in registration order. -/
def conflictsOf (changeId workspaceId : String) : List Conflict :=
  s.conflicts.values.filter fun conflict =>
    conflict.changeId = changeId ∧ conflict.workspaceId = workspaceId

/-! ## Workspaces -/

/-- The checks of `createWorkspace`, which all run before it first suspends. -/
def createWorkspaceMounts (text : UnicodeText) (input : CreateWorkspaceInput) :
    Except ChangeControlError (List WorkspaceMount) := do
  let projectRevision ← orThrow (s.projectRevisions.get? input.view.projectRevisionId) {
    code := .unknownProjectRevision
    message := "Workspace base Project Revision is not known to this coordinator."
    affectedObject := input.view.id
    recoveryAction := "refresh the canonical Project Revision and derive a new Project View"
    receipt := s!"view={input.view.id}; revision={input.view.projectRevisionId}" }
  require (projectRevision.projectId = s.project.id) {
    code := .projectMismatch
    message := "Workspace base Project Revision belongs to a different Project."
    affectedObject := input.view.id
    recoveryAction := "derive the Project View from this Project"
    receipt := s!"view={input.view.id}; project={s.project.id}" }
  forM input.view.visibleSourceSpaceIds fun sourceSpaceId =>
    require (projectRevision.sourceSpaceSnapshots.get? sourceSpaceId
        = input.view.disclosedSourceSpaceSnapshots.get? sourceSpaceId) {
      code := .workspaceSourceMismatch
      message := "Project View disclosure does not match its exact Project Revision."
      affectedObject := input.view.id
      recoveryAction := "derive a fresh Project View from the exact Project Revision"
      receipt := s!"view={input.view.id}; revision={projectRevision.id}; snapshot-mismatch=true" }
  materializeMounts text s.project input

/-- `createWorkspace`, taken as one step at the moment it files its Workspace. Its
checks read Project Revisions only, and those are never changed or removed. -/
def createWorkspace (text : UnicodeText) (input : CreateWorkspaceInput)
    (storage : StorageOutcome) (uuid : String) :
    Except MaterializeFailure (Workspace × LocalChangeCoordinator) := do
  let mounts ← (s.createWorkspaceMounts text input).mapError .rejected
  storage.result input.directory
  let workspace := materializedWorkspace s.project input mounts uuid
  return (workspace, { s with workspaces := s.workspaces.set workspace.id workspace })

/-! ## Changes and Conflicts -/

def createChange (input : CreateChangeInput) (uuid : String) :
    Except ChangeControlError (Change × LocalChangeCoordinator) := do
  let workspace ← orThrow (s.workspaces.get? input.workspaceId) {
    code := .workspaceNotFound
    message := "Cannot create a Change without a known Workspace."
    affectedObject := input.workspaceId
    recoveryAction := "create or restore the Workspace and retry"
    receipt := s!"workspace={input.workspaceId}; operation=change.create" }
  require (workspace.state = .active) {
    code := .workspaceState
    message := "Cannot attach a Change to a non-active Workspace."
    affectedObject := workspace.id
    recoveryAction := "create a fresh active Workspace from the desired Project Revision"
    receipt := s!"workspace={workspace.id}; state={workspace.state}" }
  let owner := workspace.changeId.getD ""
  require (truthy workspace.changeId = none) {
    code := .changeWorkspaceMismatch
    message := "Workspace already belongs to a Change."
    affectedObject := workspace.id
    recoveryAction := "reuse the existing Change or create another Workspace"
    receipt := s!"workspace={workspace.id}; change={owner}" }
  let change : Change := {
    id := input.id.getD (opaqueId "change" uuid)
    projectId := s.project.id
    intentId := input.intentId
    baseProjectRevisionId := workspace.projectRevisionId
    status := .active
    latestRevisionId := none
    workspaceId := some workspace.id
    revertsChangeRevisionId := none
    author := input.author
    origin := input.origin }
  return (change, { s with
    changes := s.changes.set change.id change
    workspaces := s.workspaces.set workspace.id { workspace with changeId := some change.id } })

def registerConflict (input : RegisterConflictInput) (uuid : String) :
    Except ChangeControlError (Conflict × LocalChangeCoordinator) := do
  let change ← s.requireChange input.changeId
  let workspace ← s.requireWorkspace (some input.workspaceId)
  require (change.workspaceId = some workspace.id) {
    code := .changeWorkspaceMismatch
    message := "Conflict Workspace is not the current Workspace for this Change."
    affectedObject := change.id
    recoveryAction := "handoff or rebase the Change onto its current Workspace before recording a conflict"
    receipt := s!"change={change.id}; workspace={workspace.id}" }
  forM input.sourceSpaceIds fun sourceSpaceId => do
    require (sourceSpaceId ∈ s.project.sourceSpaceIds) {
      code := .workspaceSourceNotAuthorized
      message := "Conflict references a Source Space outside the Project."
      affectedObject := change.id
      recoveryAction := "record the conflict against a Project Source Space"
      receipt := s!"change={change.id}; rule=project-source-spaces-only" }
    require (∃ mount ∈ workspace.mounts, mount.sourceSpaceId = sourceSpaceId) {
      code := .workspaceSourceNotAuthorized
      message := "Conflict references a Source Space outside the current Workspace View."
      affectedObject := change.id
      recoveryAction := "record the conflict only against Source Spaces materialized in this Workspace"
      receipt := s!"change={change.id}; rule=workspace-view-only" }
  let paths ← input.paths.mapM normalizedFilePath
  let conflict : Conflict := {
    id := input.id.getD (opaqueId "conflict" uuid)
    projectId := s.project.id
    changeId := change.id
    workspaceId := workspace.id
    kind := input.kind
    sourceSpaceIds := input.sourceSpaceIds
    paths := paths
    description := input.description
    state := .«open»
    resolutionRevisionId := none }
  return (conflict, { s with
    conflicts := s.conflicts.set conflict.id conflict
    workspaces := s.workspaces.set workspace.id { workspace with state := .blocked } })

/-- The Workspace map after a Conflict of `workspaceId` was resolved. -/
def unblockWorkspace (conflicts : OrderedMap String Conflict) (workspaceId : String) :
    OrderedMap String Workspace :=
  match s.workspaces.get? workspaceId with
  | none => s.workspaces
  | some workspace =>
    let hasOpenConflict := ∃ candidate ∈ conflicts.values,
      candidate.workspaceId = workspace.id ∧ candidate.state = .«open»
    s.workspaces.set workspace.id
      { workspace with state := if hasOpenConflict then .blocked else .active }

/-- `resolveConflict`; the resolution note is not state. -/
def resolveConflict (conflictId : String) :
    Except ChangeControlError (Conflict × LocalChangeCoordinator) := do
  let conflict ← orThrow (s.conflicts.get? conflictId) {
    code := .conflictNotFound
    message := "Conflict cannot be resolved because it is not known to this coordinator."
    affectedObject := conflictId
    recoveryAction := "refresh the Change and resolve an active Conflict"
    receipt := s!"conflict={conflictId}; operation=conflict.resolve" }
  let updated : Conflict := { conflict with state := .resolved }
  let conflicts := s.conflicts.set updated.id updated
  return (updated, { s with
    conflicts := conflicts
    workspaces := s.unblockWorkspace conflicts updated.workspaceId })

/-! ## Publication -/

/-- The requested snapshots name exactly the mounted Source Spaces, none empty. -/
def snapshotsMatchMounts (requested : Snapshots) (mounts : List WorkspaceMount) : Prop :=
  requested.keys.insertionSort (· ≤ ·)
      = (mounts.map WorkspaceMount.sourceSpaceId).insertionSort (· ≤ ·) ∧
    ∀ snapshotId ∈ requested.values, trim snapshotId ≠ ""

instance (requested : Snapshots) (mounts : List WorkspaceMount) :
    Decidable (snapshotsMatchMounts requested mounts) :=
  inferInstanceAs (Decidable (_ ∧ _))

/-- The snapshots a revision records: the requested one of each mount, or the
mount's baseline. -/
def publishedSnapshots (requested : Option Snapshots) (mounts : List WorkspaceMount) :
    Snapshots :=
  OrderedMap.ofList (mounts.map fun mount =>
    (mount.sourceSpaceId,
      (requested.bind fun snapshots => snapshots.get? mount.sourceSpaceId).getD mount.snapshotId))

/-- The checks of `publishRevision`, ending in the Change and its Workspace. -/
def publishChecks (input : PublishRevisionInput) :
    Except ChangeControlError (Change × Workspace) := do
  let change ← s.requireChange input.changeId
  let workspaceId ← orThrow (truthy (input.workspaceId.or change.workspaceId)) {
    code := .workspaceNotFound
    message := "Change has no Workspace from which to publish a revision."
    affectedObject := change.id
    recoveryAction := "attach an active Workspace before publishing a Change Revision"
    receipt := s!"change={change.id}; operation=change.publish-revision" }
  let workspace ← s.requireWorkspace (some workspaceId)
  require (change.workspaceId = some workspace.id) {
    code := .changeWorkspaceMismatch
    message := "Requested Workspace is not attached to the Change."
    affectedObject := change.id
    recoveryAction := "handoff or rebase the Change onto the requested Workspace"
    receipt := s!"change={change.id}; workspace={workspace.id}" }
  require (workspace.state ≠ .closed) {
    code := .workspaceState
    message := "Closed Workspaces cannot publish new Change Revisions."
    affectedObject := workspace.id
    recoveryAction := "create a new Workspace from the latest Change Revision"
    receipt := s!"workspace={workspace.id}; state=closed" }
  forM (input.conflictIds.getD []) fun conflictId => do
    let conflict ← orThrow (s.conflicts.get? conflictId) {
      code := .conflictNotFound
      message := "Change Revision names a Conflict that is not known to this coordinator."
      affectedObject := change.id
      recoveryAction := "refresh the Change and publish with known Conflict IDs"
      receipt := s!"change={change.id}; conflict={conflictId}" }
    require (conflict.changeId = change.id ∧ conflict.workspaceId = workspace.id) {
      code := .conflictChangeMismatch
      message := "Change Revision names a Conflict from another Change or Workspace."
      affectedObject := change.id
      recoveryAction := "publish only the Conflicts attached to the current Change Workspace"
      receipt := s!"change={change.id}; conflict={conflictId}" }
  let openConflicts := (s.conflictsOf change.id workspace.id).filter (·.state = .«open»)
  require (openConflicts = []) {
    code := .conflictOpen
    message := "Change Revision publication is blocked by unresolved explicit conflicts."
    affectedObject := change.id
    recoveryAction := "resolve every listed Conflict, then publish a new Change Revision"
    receipt := s!"change={change.id}; open-conflicts={openConflicts.length}"
    conflictingIds := openConflicts.map Conflict.id }
  match input.sourceSpaceSnapshots with
  | none => return (change, workspace)
  | some requested =>
    require (snapshotsMatchMounts requested workspace.mounts) {
      code := .workspaceSourceNotAuthorized
      message := "Change Revision snapshot updates must name exactly the Source Spaces materialized in the Workspace."
      affectedObject := change.id
      recoveryAction := "import the external result into the authorized Workspace Source Spaces and retry with one non-empty snapshot per mount"
      receipt := s!"change={change.id}; rule=revision-snapshot-subset-of-workspace-view; requested={requested.keys.length}; mounted={workspace.mounts.length}" }
    return (change, workspace)

/-- The revision `publishRevision` builds once its checks passed. -/
def publishedRevision (input : PublishRevisionInput) (uuid : String) (change : Change)
    (workspace : Workspace) : ChangeRevision :=
  let priorRevision := (truthy change.latestRevisionId).bind s.revisions.get?
  { id := opaqueId "change-revision" uuid
    changeId := change.id
    projectRevisionId := workspace.projectRevisionId
    projectViewId := workspace.projectViewId
    sequence := (priorRevision.map ChangeRevision.sequence).getD 0 + 1
    parentRevisionId := priorRevision.map ChangeRevision.id
    declaredEffects := input.declaredEffects
    baseProjectRevisionId := some workspace.projectRevisionId
    workspaceId := some workspace.id
    sourceSpaceSnapshots := some (publishedSnapshots input.sourceSpaceSnapshots workspace.mounts)
    affectedSourceSpaceIds := some (workspace.mounts.map WorkspaceMount.sourceSpaceId)
    affectedModuleIds := input.affectedModuleIds
    affectedTargetIds := input.affectedTargetIds
    author := input.actor.or change.author
    conflictIds := some
      (input.conflictIds.getD ((s.conflictsOf change.id workspace.id).map Conflict.id))
    kind := some (input.kind.getD .implementation) }

/-- Resolved Conflicts of the published Workspace name the revision as their
resolution. -/
def markResolutions (conflicts : OrderedMap String Conflict) (relevant : List Conflict)
    (revisionId : String) : OrderedMap String Conflict :=
  relevant.foldl (fun conflicts conflict =>
    if conflict.state = .resolved then
      conflicts.set conflict.id { conflict with resolutionRevisionId := some revisionId }
    else conflicts) conflicts

/-- The Change once a revision of it is published. -/
def updatedChange (change : Change) (workspace : Workspace) (revision : ChangeRevision) : Change :=
  { change with
    latestRevisionId := some revision.id
    status := .submitted
    workspaceId := some workspace.id }

/-- The writes of `publishRevision`. -/
def filePublished (change : Change) (workspace : Workspace) (revision : ChangeRevision) :
    LocalChangeCoordinator :=
  { s with
    revisions := s.revisions.set revision.id revision
    changes := s.changes.set change.id (updatedChange change workspace revision)
    conflicts := markResolutions s.conflicts (s.conflictsOf change.id workspace.id) revision.id }

def publishRevision (input : PublishRevisionInput) (uuid : String) :
    Except ChangeControlError (ChangeRevision × LocalChangeCoordinator) := do
  let (change, workspace) ← s.publishChecks input
  let revision := s.publishedRevision input uuid change workspace
  return (revision, s.filePublished change workspace revision)

/-! ## Rebase, handoff and revert -/

/-- `rebaseChange` up to its suspension: it reads the Change and its Workspace and
checks the Workspace request. -/
def beginRebase (text : UnicodeText) (input : RebaseChangeInput) :
    Except ChangeControlError RebaseCall := do
  let change ← s.requireChange input.changeId
  let previousWorkspace ← s.optionalWorkspace change.workspaceId
  let request : CreateWorkspaceInput := {
    view := input.view
    sources := input.sources
    mounts := input.mounts
    directory := input.directory
    actorId := truthy input.actorId }
  let mounts ← s.createWorkspaceMounts text request
  return { change, previousWorkspace, request, mounts, declaredEffects := input.declaredEffects }

/-- The Workspace a rebase files for its Change. -/
def rebasedWorkspace (call : RebaseCall) (uuid : String) : Workspace :=
  { materializedWorkspace s.project call.request call.mounts uuid with
    changeId := some call.change.id }

/-- The Change as it was *read*, moved onto its rebased Workspace. -/
def rebasedChange (call : RebaseCall) (rebased : Workspace) : Change :=
  { call.change with
    baseProjectRevisionId := rebased.projectRevisionId
    workspaceId := some rebased.id
    status := .active }

/-- The state `rebaseChange` publishes from. -/
def attachRebased (call : RebaseCall) (rebased : Workspace) : LocalChangeCoordinator :=
  { s with
    workspaces := s.workspaces.set rebased.id rebased
    changes := s.changes.set call.change.id (rebasedChange call rebased) }

/-- The publication a rebase ends with. -/
def rebasePublication (call : RebaseCall) (rebased : Workspace) : PublishRevisionInput where
  changeId := call.change.id
  workspaceId := some rebased.id
  declaredEffects := call.declaredEffects
  kind := some .rebase

/-- A Workspace unbound from its Change and closed. -/
def closedWorkspace (workspace : Workspace) : Workspace :=
  { workspace with changeId := none, state := .closed }

/-- Close the Workspace the Change was rebased from. -/
def closePrevious (previous : Option Workspace) (rebasedId : String) : LocalChangeCoordinator :=
  match previous with
  | none => s
  | some workspace =>
    if workspace.id = rebasedId then s
    else { s with workspaces := s.workspaces.set workspace.id (closedWorkspace workspace) }

/-- `rebaseChange` from its resumption on. No caller has seen the new Workspace's
id before the call returns, so filing it and continuing are one step. -/
def finishRebase (call : RebaseCall) (storage : StorageOutcome) (workspaceUuid revisionUuid : String) :
    Except MaterializeFailure (Workspace × ChangeRevision) × LocalChangeCoordinator :=
  match storage.result call.request.directory with
  | .error failure => (.error failure, s)
  | .ok () =>
    let rebased := s.rebasedWorkspace call workspaceUuid
    let attached := s.attachRebased call rebased
    match attached.publishRevision (rebasePublication call rebased) revisionUuid with
    | .ok (revision, published) =>
      (.ok (rebased, revision), published.closePrevious call.previousWorkspace rebased.id)
    | .error error =>
      (.error (.rejected error), { attached with
        workspaces := attached.workspaces.delete rebased.id
        changes := attached.changes.set call.change.id call.change })

def handoffChange (changeId actorId : String) :
    Except ChangeControlError (Workspace × LocalChangeCoordinator) := do
  let change ← s.requireChange changeId
  let workspace ← s.requireWorkspace change.workspaceId
  let updated : Workspace := { workspace with actorId := some actorId }
  return (updated, { s with workspaces := s.workspaces.set updated.id updated })

/-- Some known Project Revision names the Change Revision in its singular lineage
field: what `revertChange` takes for landed. -/
def wasLanded (revisionId : String) : Prop :=
  ∃ revision ∈ s.projectRevisions.values, revision.landedChangeRevisionId = some revisionId

instance (revisionId : String) : Decidable (s.wasLanded revisionId) :=
  inferInstanceAs (Decidable (∃ revision ∈ s.projectRevisions.values, _ = _))

/-- The Change `revertChange` files. -/
def revertingChange (input : RevertChangeInput) (uuid : String) (landedRevision : ChangeRevision)
    (workspace : Option Workspace) : Change where
  id := input.id.getD (opaqueId "change-revert" uuid)
  projectId := s.project.id
  intentId := input.intentId
  baseProjectRevisionId := (workspace.map Workspace.projectRevisionId).getD s.canonical.id
  status := .active
  latestRevisionId := none
  workspaceId := workspace.map Workspace.id
  revertsChangeRevisionId := some landedRevision.id
  author := none
  origin := none

def revertChange (input : RevertChangeInput) (uuid : String) :
    Except ChangeControlError (Change × LocalChangeCoordinator) := do
  let landedRevision ← orThrow (s.revisions.get? input.landedChangeRevisionId) {
    code := .revertSourceNotFound
    message := "Revert source Change Revision is not known to this coordinator."
    affectedObject := input.landedChangeRevisionId
    recoveryAction := "select a landed Change Revision from the canonical lineage"
    receipt := s!"change-revision={input.landedChangeRevisionId}; operation=revert" }
  require (s.wasLanded landedRevision.id) {
    code := .revertSourceNotFound
    message := "Revert source Change Revision is known but has not been landed."
    affectedObject := landedRevision.id
    recoveryAction := "select a Change Revision from the canonical Project Revision lineage"
    receipt := s!"change-revision={landedRevision.id}; landed=false" }
  let workspace ← s.optionalWorkspace input.workspaceId
  forM workspace.toList fun workspace =>
    require (workspace.projectRevisionId = s.canonical.id) {
      code := .changeRevisionBaseMismatch
      message := "Revert Workspace is not based on the current canonical Project Revision."
      affectedObject := workspace.id
      recoveryAction := "rebase the revert Workspace onto the current canonical Project Revision"
      receipt := s!"workspace={workspace.id}; canonical={s.canonical.id}" }
  let change := s.revertingChange input uuid landedRevision workspace
  return (change, { s with changes := s.changes.set change.id change })

/-! ## Landing -/

/-- The checks of one member, in the loop before the compare-and-swap. -/
def selectMember (member : LandingMember) : Except ChangeControlError Selected := do
  let change ← s.requireChange member.changeId
  let revision ← orThrow (s.revisions.get? member.changeRevisionId) {
    code := .changeRevisionNotFound
    message := "Landing requested an unknown Change Revision."
    affectedObject := member.changeRevisionId
    recoveryAction := "refresh the Change and select an immutable published revision"
    receipt := s!"change={change.id}; revision={member.changeRevisionId}" }
  require (revision.changeId = change.id) {
    code := .changeRevisionNotFound
    message := "Landing requested a Change Revision from another Change."
    affectedObject := member.changeRevisionId
    recoveryAction := "select a revision belonging to the requested Change"
    receipt := s!"change={change.id}; revision={member.changeRevisionId}" }
  let latest := change.latestRevisionId.getD "none"
  require (change.latestRevisionId = some revision.id) {
    code := .changeRevisionNotLatest
    message := "Only the latest immutable Change Revision can be landed."
    affectedObject := change.id
    recoveryAction := "land the latest revision or publish a new revision from it"
    receipt := s!"change={change.id}; latest={latest}; requested={revision.id}" }
  let openConflicts := s.conflicts.values.filter fun conflict =>
    conflict.changeId = change.id ∧ some conflict.workspaceId = revision.workspaceId ∧
      conflict.state = .«open»
  require (openConflicts = []) {
    code := .landingBlocked
    message := "Landing is blocked by unresolved explicit Conflicts."
    affectedObject := change.id
    recoveryAction := "resolve the Conflicts, publish a new Change Revision, and retry Landing"
    receipt := s!"change={change.id}; open-conflicts={openConflicts.length}"
    conflictingIds := openConflicts.map Conflict.id }
  return { change, revision }

/-- A member's declared base is the canonical revision. -/
def checkBase (selected : Selected) : Except ChangeControlError Unit :=
  require (selected.revision.base = s.canonical.id ∧
      selected.change.baseProjectRevisionId = s.canonical.id) {
    code := .changeRevisionBaseMismatch
    message := "Change Revision is not based on the canonical Project Revision."
    affectedObject := selected.change.id
    recoveryAction := s!"rebase {selected.change.id} onto {s.canonical.id}, then publish and verify a new revision"
    receipt := s!"change-base={selected.change.baseProjectRevisionId}; revision-base={selected.revision.base}; canonical={s.canonical.id}" }

/-- One entry of a member's snapshots, composed into the next snapshot map. -/
def composeEntry (cohortId : Option String) (change : Change) (next : Snapshots)
    (entry : String × String) : Except ChangeControlError Snapshots := do
  require (entry.1 ∈ s.project.sourceSpaceIds) {
    code := .landingSourceSpaceInvalid
    message := "Change Revision names a Source Space outside the Project."
    affectedObject := change.id
    recoveryAction := "publish a revision containing only Project Source Spaces"
    receipt := s!"change={change.id}; sourceSpace={entry.1}; rule=project-source-spaces-only" }
  let existing := next.get? entry.1
  let held := existing.getD ""
  require (¬ (existing ≠ none ∧ existing ≠ some entry.2 ∧
      existing ≠ s.canonical.sourceSpaceSnapshots.get? entry.1)) {
    code := .landingBlocked
    message := "Integration Cohort contains incompatible Snapshots for one Source Space."
    affectedObject := cohortId.getD change.id
    recoveryAction := "resolve the Source Space conflict in a new Change Revision, then refresh the Integration Cohort"
    receipt := s!"sourceSpace={entry.1}; existing={held}; incoming={entry.2}" }
  return next.set entry.1 entry.2

/-- The two nested loops that compose the members over the canonical snapshots. -/
def composeSnapshots (cohortId : Option String) (selected : List Selected) :
    Except ChangeControlError Snapshots :=
  selected.foldlM (fun next sel =>
    sel.revision.snapshotEntries.foldlM (s.composeEntry cohortId sel.change) next)
    s.canonical.sourceSpaceSnapshots

/-- All validation of `landCohort`, ending in the members and the next snapshots. -/
def landingChecks (input : LandCohortInput) :
    Except ChangeControlError (List Selected × Snapshots) := do
  require (input.members ≠ []) {
    code := .landingBlocked
    message := "Landing requires at least one Change Revision."
    affectedObject := input.cohortId.getD "landing"
    recoveryAction := "compose a non-empty Integration Cohort and retry Landing"
    receipt := "members=0" }
  let changeIds := input.members.map LandingMember.changeId
  require changeIds.Nodup {
    code := .landingBlocked
    message := "Landing cannot include the same Change more than once."
    affectedObject := input.cohortId.getD "landing"
    recoveryAction := "select one exact Change Revision for each stable Change"
    receipt := s!"members={input.members.length}; uniqueChanges={changeIds.dedup.length}" }
  let selected ← input.members.mapM s.selectMember
  require (s.canonical.id = input.expectedCanonicalProjectRevisionId) {
    code := .staleCanonicalRevision
    message := "Landing is stale because the canonical Project Revision advanced."
    affectedObject := input.cohortId.getD ((selected.map fun sel => sel.change.id).headD "")
    recoveryAction := "rebase every Change in the Integration Cohort onto the current canonical Project Revision and reverify"
    receipt := s!"expected={input.expectedCanonicalProjectRevisionId}; actual={s.canonical.id}; compare-and-swap=false" }
  forM selected s.checkBase
  let nextSnapshots ← s.composeSnapshots input.cohortId selected
  return (selected, nextSnapshots)

/-- The new canonical revision a Landing creates. -/
def landedRevision (cohortId : Option String) (selected : List Selected)
    (nextSnapshots : Snapshots) (uuid : String) : ProjectRevision :=
  let changeRevisionIds := selected.map fun sel => sel.revision.id
  createProjectRevision {
    projectId := s.project.id
    sourceSpaceSnapshots := nextSnapshots
    id := none
    parentProjectRevisionId := some s.canonical.id
    landedChangeRevisionId := changeRevisionIds.head?
    landedChangeRevisionIds := some changeRevisionIds
    landingCohortId := truthy cohortId } uuid

def landedChange (change : Change) : Change := { change with status := .landed }

/-- Every member Change becomes landed. -/
def markLanded (changes : OrderedMap String Change) (selected : List Selected) :
    OrderedMap String Change :=
  selected.foldl (fun changes sel => changes.set sel.change.id (landedChange sel.change)) changes

/-- The writes of `landCohort`: the compare-and-swap. -/
def fileLanding (selected : List Selected) (next : ProjectRevision) : LocalChangeCoordinator :=
  { s with
    projectRevisions := s.projectRevisions.set next.id next
    canonical := next
    changes := markLanded s.changes selected }

/-- `landCohort`: all validation, then the compare-and-swap. -/
def landCohort (input : LandCohortInput) (revisionUuid landingUuid : String) :
    Except ChangeControlError (Landing × LocalChangeCoordinator) := do
  let (selected, nextSnapshots) ← s.landingChecks input
  let next := s.landedRevision input.cohortId selected nextSnapshots revisionUuid
  let changeIds := selected.map fun sel => sel.change.id
  let changeRevisionIds := selected.map fun sel => sel.revision.id
  let changeList := ",".intercalate changeIds
  let cohort := input.cohortId.getD "single-change"
  let landing : Landing := {
    id := opaqueId "landing" landingUuid
    projectId := s.project.id
    changeId := changeIds.headD ""
    changeRevisionId := changeRevisionIds.headD ""
    previousProjectRevisionId := s.canonical.id
    projectRevisionId := next.id
    receipt := s!"compare-and-swap=true; previous={s.canonical.id}; next={next.id}; changes={changeList}; cohort={cohort}"
    cohortId := truthy input.cohortId
    changeIds := some changeIds
    changeRevisionIds := some changeRevisionIds }
  return (landing, s.fileLanding selected next)

/-- `landChange`: a cohort of one. -/
def landChange (changeId changeRevisionId expectedCanonicalProjectRevisionId : String)
    (revisionUuid landingUuid : String) :
    Except ChangeControlError (Landing × LocalChangeCoordinator) :=
  s.landCohort { members := [⟨changeId, changeRevisionId⟩], expectedCanonicalProjectRevisionId }
    revisionUuid landingUuid

end LocalChangeCoordinator

end Anyam.ChangeControl
