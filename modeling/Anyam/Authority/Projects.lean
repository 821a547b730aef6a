import Anyam.Authority.PullRequests
import Anyam.Kernel.WorkspaceMounts

/-!
# Project, Workspace and Change commands

`AuthorityPlaneCoordinator.apply` on `project.create`, `workspace.create` and `change.create`: a
Project with its Source Spaces and first canonical Revision, a Workspace with the View its mounts
are disclosed by, and a Change that may claim a Workspace of its base.

- **`projectCreate_ok`**, **`workspaceCreate_ok`**, **`changeCreate_ok`**: what an accepted
  command writes, and what it checked of the records it names.
-/

namespace Anyam.Authority

open Anyam.Lib Anyam.Kernel

/-! ## Projects -/

def sourceSpaceClassifications : List SourceSpaceClassification :=
  [.public, .internal, .restricted, .resultOnly]

/-- One entry of `sourceSpaces`, at its index. -/
def declaredSourceSpace (value : Json) (index : Nat) : Except AuthorityFailure SourceSpace := do
  let source ← orThrow value.asRecord (refusal .invalidRequest
    s!"sourceSpaces[{index}] must be an object."
    "declare Source Space objects with id, name, classification, and snapshotId"
    s!"sourceSpaces[{index}]=object-required; transition=not-applied")
  let id ← requiredString (source.get? "id") s!"sourceSpaces[{index}].id"
  let given ← requiredString (source.get? "classification")
    s!"sourceSpaces[{index}].classification"
  let classification ← orThrow
    (sourceSpaceClassifications.find? fun entry => toString entry = given)
    (refusal .invalidRequest
      s!"Source Space {id} has an unsupported classification."
      "choose public, internal, restricted, or result-only"
      s!"sourceSpace={id}; classification={given}; transition=not-applied")
  let name ← requiredString (source.get? "name") s!"sourceSpaces[{index}].name"
  return {
    id
    name
    classification
    repositoryId := optionalString (source.get? "repositoryId") }

/-- The loop over `sourceSpaces`: each is filed before the next is read, so a repeated one is
refused like one that is there. -/
def declareSourceSpaces : AuthorityPlaneSnapshot → List (Json × Nat) →
    Except AuthorityFailure (AuthorityPlaneSnapshot × List SourceSpace)
  | next, [] => return (next, [])
  | next, (value, index) :: rest => do
    let source ← declaredSourceSpace value index
    require (next.sourceSpaces.get? source.id = none) (refusal .conflict
      s!"Source Space {source.id} already exists."
      "use a new Source Space identity"
      s!"sourceSpace={source.id}; exists=true; transition=not-applied")
    let declared ← declareSourceSpaces (next.put .sourceSpaces source.id source) rest
    return (declared.1, source :: declared.2)

/-- The snapshot an entry of `sourceSpaces` starts from. -/
def declaredSnapshot (value : Json) : Except AuthorityFailure (String × String) := do
  let source := castObject (some value)
  let id ← requiredString (source.get? "id") "sourceSpace.id"
  let snapshotId ← requiredString (source.get? "snapshotId") "sourceSpace.snapshotId"
  return (id, snapshotId)

def projectCreate (next : AuthorityPlaneSnapshot) (payload : Payload) (drawn : Drawn) :
    Applied := do
  let id := (optionalString (payload.get? "projectId")).getD (drawn.opaqueId "project")
  require (next.projects.get? id = none) (refusal .conflict
    s!"Project {id} already exists."
    "reuse the original idempotency key or choose a new Project identity"
    s!"project={id}; exists=true; transition=not-applied")
  let sources ← orThrow
    (((payload.get? "sourceSpaces").bind Json.asArray).filter fun sources => sources ≠ [])
    (refusal .invalidRequest
      "sourceSpaces must contain at least one declared Source Space."
      "declare each Source Space with an immutable snapshot identifier"
      "sourceSpaces=non-empty-required; transition=not-applied")
  let declared ← declareSourceSpaces next sources.zipIdx
  let name ← requiredString (payload.get? "name") "name"
  let project : Project := {
    id
    name
    referenceType := (optionalString (payload.get? "referenceType")).getD "git"
    sourceSpaceIds := declared.2.map SourceSpace.id }
  let snapshots ← sources.mapM declaredSnapshot
  let initialRevision := createProjectRevision {
    id := optionalString (payload.get? "projectRevisionId")
    projectId := id
    sourceSpaceSnapshots := .ofList snapshots
    parentProjectRevisionId := none
    landedChangeRevisionId := none
    landedChangeRevisionIds := none
    landingCohortId := none } (drawn.uuid "project-revision")
  let next := ((declared.1.put .projects id project).put .projectRevisions initialRevision.id
    initialRevision).put .canonicalByProject id initialRevision.id
  return (next, success .projectCreate next
    [.project project, .canonicalRevision initialRevision, .sourceSpaces declared.2]
    s!"project={id}; canonicalRevision={initialRevision.id}; sourceTransfer=not-performed; authority=coordinator")

/-! ## Workspaces -/

/-- The mount of a validated path, with the snapshot of its Source Space. -/
def authorityWorkspaceMount (projectId : String) (revision : ProjectRevision)
    (mount : WorkspaceMountInput) : Except AuthorityFailure WorkspaceMount := do
  let snapshotId ← orThrow (revision.sourceSpaceSnapshots.get? mount.sourceSpaceId)
    (refusal .notFound
      s!"Project Revision {revision.id} has no snapshot for Source Space {mount.sourceSpaceId}."
      "read the exact Project Revision and retry with its complete Source Space set"
      s!"project={projectId}; revision={revision.id}; sourceSpace={mount.sourceSpaceId}; workspace=not-created")
  return {
    sourceSpaceId := mount.sourceSpaceId
    snapshotId
    mountPath := mount.mountPath }

def authorityWorkspaceMounts (text : UnicodeText) (sourceSpaceIds mounts : List String)
    (projectId : String) (revision : ProjectRevision) :
    Except AuthorityFailure (List WorkspaceMount) := do
  let validated ← (validateWorkspaceMountPaths text sourceSpaceIds mounts).mapError fun error =>
    refusal .invalidRequest error.message error.recoveryAction error.receipt
  validated.mapM (authorityWorkspaceMount projectId revision)

/-- `deriveProjectView`, with its error's message. -/
def deriveProjectView (project : Project) (revision : ProjectRevision)
    (sourceSpaces : List SourceSpace) (allowedSourceSpaceIds : List String)
    (projectionId : String) (classification : Option String) (drawn : Drawn) :
    Except String ProjectView := do
  require (revision.projectId = project.id)
    s!"Project Revision {revision.id} belongs to {revision.projectId}, not Project {project.id}."
  require (sourceSpaces.map SourceSpace.id).Nodup
    "A Project View projection catalog cannot contain duplicate Source Space IDs."
  require allowedSourceSpaceIds.Nodup
    "A Project View cannot disclose the same Source Space more than once."
  forM allowedSourceSpaceIds fun id => do
    let sourceSpace ← orThrow (sourceSpaces.find? fun space => space.id = id)
      s!"Source Space {id} is not present in the projection catalog."
    require (id ∈ project.sourceSpaceIds)
      s!"Source Space {id} is not owned by Project {project.id}."
    require (revision.sourceSpaceSnapshots.get? id).isSome
      s!"Project Revision {revision.id} has no snapshot for Source Space {id}."
    require (classification ≠ some "public" ∨ sourceSpace.classification = .public)
      s!"Public Project View cannot disclose Source Space {id} classified as {sourceSpace.classification}."
  return {
    id := drawn.opaqueId "project-view"
    projectId := project.id
    projectRevisionId := revision.id
    projectionId
    classification := classification.getD "project"
    visibleSourceSpaceIds := allowedSourceSpaceIds
    disclosedSourceSpaceSnapshots := .ofList (allowedSourceSpaceIds.filterMap fun id =>
      (revision.sourceSpaceSnapshots.get? id).map fun snapshot => (id, snapshot)) }

/-- `sourceSpaceId.replaceAll(":", "-")`. -/
def defaultMountPath (sourceSpaceId : String) : String :=
  String.ofList (sourceSpaceId.toList.map fun c => if c = ':' then '-' else c)

/-- `payload.mounts`, or a path for each Source Space. -/
def requestedMounts (value : Option Json) (sourceSpaceIds : List String) :
    Except AuthorityFailure (List String) :=
  match value with
  | none => .ok (sourceSpaceIds.map defaultMountPath)
  | some value => stringArray (some value) "mounts" false false

def workspaceCreate (services : AuthorityServices) (next : AuthorityPlaneSnapshot)
    (payload : Payload) (session : AuthoritySession) (drawn : Drawn) : Applied := do
  let project ← currentProject next payload
    "create or import the Project before creating a Workspace" "workspace=not-created"
  require (payload.get? "changeId" = none) (refusal .invalidRequest
    "Workspace creation cannot pre-assign a Change."
    "create the active Workspace first, then let change.create atomically claim it"
    s!"project={project.id}; workspaceBinding=change-create-only; transition=not-applied")
  let revisionId ← requiredString (payload.get? "projectRevisionId") "projectRevisionId"
  let revision ← orThrow
    ((next.projectRevisions.get? revisionId).filter fun revision =>
      revision.projectId = project.id)
    (refusal .notFound
      s!"Project Revision {revisionId} is not available for Project {project.id}."
      "read the current canonical Project Revision and retry"
      s!"project={project.id}; revision={revisionId}; workspace=not-created")
  let sourceIds ← stringArray
    (some ((nullish (payload.get? "sourceSpaceIds")).getD (.ofStrings project.sourceSpaceIds)))
    "sourceSpaceIds" false false
  let mountPaths ← requestedMounts (payload.get? "mounts") sourceIds
  let mounts ← authorityWorkspaceMounts services.text sourceIds mountPaths project.id revision
  let view ← (deriveProjectView project revision (sourceIds.filterMap next.sourceSpaces.get?)
    sourceIds
    ((optionalString (payload.get? "projectionId")).getD (drawn.opaqueId "projection"))
    (optionalString (payload.get? "classification")) drawn).mapError AuthorityFailure.untranslated
  let workspace : Workspace := {
    id := (optionalString (payload.get? "workspaceId")).getD (drawn.opaqueId "workspace")
    projectId := project.id
    projectRevisionId := revision.id
    projectViewId := view.id
    mounts
    state := .active
    changeId := none
    actorId := some session.actorId }
  require (next.workspaces.get? workspace.id = none) (refusal .conflict
    s!"Workspace {workspace.id} already exists."
    "reuse the original idempotency key or choose a new Workspace identity"
    s!"workspace={workspace.id}; exists=true; transition=not-applied")
  return ((next.put .projectViews view.id view).put .workspaces workspace.id workspace,
    success .workspaceCreate next [.workspace workspace, .view view]
      s!"workspace={workspace.id}; base={revision.id}; actor={session.actorId}; sourceTransfer=not-performed; mountValidation={workspaceMountValidationProtocol}")

/-! ## Changes -/

/-- The Workspace `payload.workspaceId` names, when a Change of the base may claim it. -/
def claimableWorkspace (next : AuthorityPlaneSnapshot) (project : Project)
    (baseRevisionId : String) (workspaceId : Option String) :
    Except AuthorityFailure (Option Workspace) :=
  match workspaceId with
  | none => return none
  | some workspaceId => do
    let workspace ← orThrow
      ((next.workspaces.get? workspaceId).filter fun workspace =>
        workspace.projectId = project.id)
      (refusal .notFound
        s!"Workspace {workspaceId} is not available for Project {project.id}."
        "create a Workspace for this Project before creating the Change"
        s!"workspace={workspaceId}; change=not-created")
    let claimedBy := workspace.changeId.getD "none"
    require (workspace.state = .active ∧ workspace.changeId = none ∧
        workspace.projectRevisionId = baseRevisionId) (refusal .conflict
      s!"Workspace {workspaceId} cannot be claimed by Change creation because its state or base does not match the requested Change."
      "create a fresh active Workspace from the requested base Project Revision"
      s!"workspace={workspaceId}; workspaceState={workspace.state}; workspaceChange={claimedBy}; workspaceBase={workspace.projectRevisionId}; changeBase={baseRevisionId}; change=not-created")
    let view := next.projectViews.get? workspace.projectViewId
    let viewBase := (view.map fun view => view.projectRevisionId).getD "missing"
    require (∃ found ∈ view, found.projectId = project.id ∧
        found.projectRevisionId = baseRevisionId) (refusal .conflict
      s!"Workspace {workspaceId} has a Project View that is not derived from the requested Change base."
      "derive a fresh Project View and Workspace from the requested base Project Revision"
      s!"workspace={workspaceId}; projectView={workspace.projectViewId}; viewBase={viewBase}; changeBase={baseRevisionId}; change=not-created")
    return some workspace

/-- The Intent of a Change is made when it is not there. -/
def materializedIntent (next : AuthorityPlaneSnapshot) (projectId intentId : String)
    (actor : ActorRef) (now : String) : AuthorityPlaneSnapshot :=
  match next.intents.get? intentId with
  | some _ => next
  | none => next.put .intents intentId {
    id := intentId
    projectId
    title := intentId
    description := ""
    status := .open
    author := actor
    assigneePrincipalIds := []
    labels := []
    disclosure := .project
    createdAt := now
    updatedAt := now
    receipt := s!"intent=legacy-materialized; id={intentId}; source=change.create; canonicalWrite=false" }

/-- The claim of a Change on its Workspace. -/
def claimWorkspace (next : AuthorityPlaneSnapshot) (changeId : String) :
    Option String → Option Workspace → AuthorityPlaneSnapshot
  | some workspaceId, some workspace =>
    next.put .workspaces workspaceId { workspace with changeId := some changeId }
  | _, _ => next

def changeCreate (services : AuthorityServices) (next : AuthorityPlaneSnapshot)
    (payload : Payload) (session : AuthoritySession) (drawn : Drawn) : Applied := do
  let project ← currentProject next payload
    "create the Project before creating a Change" "change=not-created"
  let baseRevisionId ← orThrow
    (truthy ((optionalString (payload.get? "baseProjectRevisionId")).or
      (next.canonicalByProject.get? project.id)))
    (refusal .notFound
      "The Change base Project Revision is unavailable."
      "read the canonical Project Revision and retry the Change creation"
      s!"project={project.id}; baseRevision=missing; change=not-created")
  require (∃ base ∈ next.projectRevisions.get? baseRevisionId, base.projectId = project.id)
    (refusal .notFound
      "The Change base Project Revision is unavailable for this Project."
      "read a Project Revision belonging to this Project and retry the Change creation"
      s!"project={project.id}; baseRevision={baseRevisionId}; change=not-created")
  let workspaceId := optionalString (payload.get? "workspaceId")
  let workspace ← claimableWorkspace next project baseRevisionId workspaceId
  let origin ← changeOriginFromPayload services (payload.get? "origin")
  let intentId ← requiredString (payload.get? "intentId") "intentId"
  let intentProject := ((next.intents.get? intentId).map Intent.projectId).getD project.id
  require (intentProject = project.id) (refusal .conflict
    s!"Intent {intentId} belongs to Project {intentProject}, not {project.id}."
    "create the Change from an Intent belonging to the same Project"
    s!"intent={intentId}; intentProject={intentProject}; changeProject={project.id}; transition=not-applied")
  let change : Change := {
    id := (optionalString (payload.get? "changeId")).getD (drawn.opaqueId "change")
    projectId := project.id
    intentId
    baseProjectRevisionId := baseRevisionId
    status := .active
    latestRevisionId := none
    workspaceId
    author := actorRef session
    origin }
  require (next.changes.get? change.id = none) (refusal .conflict
    s!"Change {change.id} already exists."
    "reuse the original idempotency key or choose a new Change identity"
    s!"change={change.id}; exists=true; transition=not-applied")
  let created := (materializedIntent next project.id intentId change.author drawn.now).put
    .changes change.id change
  return (claimWorkspace created change.id workspaceId workspace,
    success .changeCreate next [.change change]
      s!"change={change.id}; base={baseRevisionId}; canonicalWrite=false")

/-! ## What they write -/

section

variable {services : AuthorityServices} {next next' : AuthorityPlaneSnapshot} {payload : Payload}
  {session : AuthoritySession} {drawn : Drawn} {result : AuthorityCommandResult}

/-- Declaring Source Spaces only adds them. -/
theorem declareSourceSpaces_ok {entries : List (Json × Nat)} {sources : List SourceSpace}
    (h : declareSourceSpaces next entries = .ok (next', sources)) :
    next.WritesOnly [.sourceSpaces] next' ∧
      OrderedMap.Kept next.sourceSpaces next'.sourceSpaces := by
  induction entries generalizing next sources with
  | nil =>
    obtain ⟨rfl, -⟩ := Prod.mk.inj (Except.ok.inj h)
    exact ⟨.refl .., .refl _⟩
  | cons entry rest ih =>
    simp only [declareSourceSpaces, bind_eq_ok, require_eq_ok, exists_unit, pure_eq_ok,
      Prod.mk.injEq] at h
    obtain ⟨source, -, hnew, ⟨_, _⟩, hrest, rfl, -⟩ := h
    obtain ⟨hwrites, hkept⟩ := ih hrest
    refine ⟨((AuthorityPlaneSnapshot.WritesOnly.refl _ next).put
      (List.mem_singleton_self _) _ source).trans hwrites, .trans ?_ hkept⟩
    exact AuthorityPlaneSnapshot.kept_put (c := .sourceSpaces) hnew .sourceSpaces

/-- A Project is filed under a new id, with its first Revision canonical. -/
theorem projectCreate_ok (h : projectCreate next payload drawn = .ok (next', result)) :
    ∃ (declared : AuthorityPlaneSnapshot) (id revisionId : String) (project : Project)
      (revision : ProjectRevision),
      next.projects.get? id = none ∧
      next.WritesOnly [.sourceSpaces] declared ∧
      OrderedMap.Kept next.sourceSpaces declared.sourceSpaces ∧
      revisionId = (optionalString (payload.get? "projectRevisionId")).getD
        (drawn.opaqueId "project-revision") ∧
      project.id = id ∧ revision.id = revisionId ∧ revision.projectId = id ∧
      revision.landedChangeRevisionId = none ∧
      next' = ((declared.put .projects id project).put .projectRevisions revisionId
        revision).put .canonicalByProject id revisionId := by
  simp only [projectCreate, bind_eq_ok, require_eq_ok, orThrow_eq_ok, exists_unit, pure_eq_ok,
    Prod.mk.injEq] at h
  obtain ⟨hnew, sources, -, ⟨declared, spaces⟩, hdeclared, name, -, snapshots, -, rfl, -⟩ := h
  obtain ⟨hwrites, hkept⟩ := declareSourceSpaces_ok hdeclared
  exact ⟨declared, _, _, _, _, hnew, hwrites, hkept, rfl, rfl, rfl, rfl, rfl, rfl⟩

/-- A Workspace is filed under a new id, active and unclaimed, with the View it is mounted by. -/
theorem workspaceCreate_ok
    (h : workspaceCreate services next payload session drawn = .ok (next', result)) :
    ∃ (project : Project) (revisionId : String) (revision : ProjectRevision)
      (sourceIds mountPaths : List String) (mounts : List WorkspaceMount) (view : ProjectView)
      (id : String),
      requestedProject next payload = some project ∧
      next.projectRevisions.get? revisionId = some revision ∧
      revision.projectId = project.id ∧
      authorityWorkspaceMounts services.text sourceIds mountPaths project.id revision =
        .ok mounts ∧
      (∃ catalog projectionId classification, deriveProjectView project revision catalog
        sourceIds projectionId classification drawn = .ok view) ∧
      next.workspaces.get? id = none ∧
      next' = (next.put .projectViews view.id view).put .workspaces id {
        id
        projectId := project.id
        projectRevisionId := revision.id
        projectViewId := view.id
        mounts
        state := .active
        changeId := none
        actorId := some session.actorId } := by
  simp only [workspaceCreate, bind_eq_ok, require_eq_ok, orThrow_eq_ok, mapError_eq_ok,
    Option.filter_eq_some_iff, exists_unit, pure_eq_ok, Prod.mk.injEq] at h
  obtain ⟨project, hproject, -, revisionId, -, revision, ⟨hrevision, hbelongs⟩, sourceIds, -,
    mountPaths, -, mounts, hmounts, view, hview, hnew, rfl, -⟩ := h
  exact ⟨project, revisionId, revision, sourceIds, mountPaths, mounts, view, _,
    currentProject_ok hproject, hrevision, of_decide_eq_true hbelongs, hmounts,
    ⟨_, _, _, hview⟩, hnew, rfl⟩

/-- The Intent of a Change is the only record materializing it writes. -/
theorem materializedIntent_writes (projectId intentId : String) (actor : ActorRef) (now : String) :
    next.WritesOnly [.intents] (materializedIntent next projectId intentId actor now) := by
  unfold materializedIntent
  split
  · exact .refl ..
  · exact .put (.refl ..) (List.mem_singleton_self _) ..

theorem claimWorkspace_writes (changeId : String) (workspaceId : Option String)
    (workspace : Option Workspace) :
    next.WritesOnly [.workspaces] (claimWorkspace next changeId workspaceId workspace) := by
  unfold claimWorkspace
  split
  · exact .put (.refl ..) (List.mem_singleton_self _) ..
  · exact .refl ..

/-- A Change is filed under a new id, on a base Revision of its Project, and claims the Workspace
it names. -/
theorem changeCreate_ok
    (h : changeCreate services next payload session drawn = .ok (next', result)) :
    ∃ (project : Project) (base : ProjectRevision) (workspace : Option Workspace)
      (change : Change),
      requestedProject next payload = some project ∧
      change.projectId = project.id ∧ change.status = .active ∧ change.latestRevisionId = none ∧
      next.projectRevisions.get? change.baseProjectRevisionId = some base ∧
      base.projectId = project.id ∧
      claimableWorkspace next project change.baseProjectRevisionId change.workspaceId =
        .ok workspace ∧
      change.workspaceId = optionalString (payload.get? "workspaceId") ∧
      change.id = (optionalString (payload.get? "changeId")).getD (drawn.opaqueId "change") ∧
      next.changes.get? change.id = none ∧
      next' = claimWorkspace ((materializedIntent next project.id change.intentId change.author
        drawn.now).put .changes change.id change) change.id change.workspaceId workspace ∧
      result.value = [.change change] := by
  simp only [changeCreate, bind_eq_ok, require_eq_ok, orThrow_eq_ok, exists_unit, pure_eq_ok,
    Prod.mk.injEq] at h
  obtain ⟨project, hproject, base, -, ⟨revision, hrevision, hbelongs⟩, workspace, hworkspace,
    origin, -, intentId, -, -, hnew, rfl, rfl⟩ := h
  exact ⟨project, revision, workspace, _, currentProject_ok hproject, rfl, rfl, rfl, hrevision,
    hbelongs, hworkspace, rfl, rfl, hnew, rfl, rfl⟩

end

end Anyam.Authority
