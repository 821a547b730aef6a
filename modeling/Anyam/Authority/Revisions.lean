import Anyam.Authority.Observations
import Anyam.Authority.Projects

/-!
# Publishing and landing Revisions

`AuthorityPlaneCoordinator.apply` on `revision.publish` and `landing.apply`. A Change Revision is
filed with the candidate Project Revision id its caller chose; a Landing makes a new Project
Revision, under an id of its own, and moves the canonical pointer of the Project to it.

- **`revisionPublish_ok`**, **`landingApply_ok`**: what an accepted command writes, and what it
  checked of the Change, its Workspace and the canonical Revision.
-/

namespace Anyam.Authority

open Anyam.Lib Anyam.Kernel

/-! ## Publishing -/

/-- The Workspace a Revision of the Change is published from, when one is named. -/
def publishingWorkspace (next : AuthorityPlaneSnapshot) (changeId : String) (change : Change)
    (workspaceId : Option String) : Except AuthorityFailure (Option Workspace) :=
  match workspaceId with
  | none => return none
  | some workspaceId => do
    let workspace := next.workspaces.get? workspaceId
    let workspaceState := (workspace.map fun workspace => toString workspace.state).getD "missing"
    let found ← orThrow
      (workspace.filter fun workspace => workspace.changeId = some changeId ∧
        workspace.projectId = change.projectId ∧ workspace.state = .active)
      (refusal .conflict
        s!"Workspace {workspaceId} is not an active Workspace assigned to Change {changeId}."
        "publish from the active Change Workspace in the same Project"
        s!"change={changeId}; workspace={workspaceId}; workspaceState={workspaceState}; revision=not-created")
    return some found

/-- The checks of the View a Workspace publishes with; without a Workspace there are none. -/
def requireWorkspaceBase (next : AuthorityPlaneSnapshot) (changeId : String) (change : Change)
    (projectViewId : String) : Option Workspace → Except AuthorityFailure Unit
  | none => .ok ()
  | some workspace => do
    require (workspace.projectViewId = projectViewId) (refusal .conflict
      s!"Project View {projectViewId} is not the View mounted by Workspace {workspace.id}."
      "publish with the Project View bound to the assigned Workspace"
      s!"workspace={workspace.id}; projectView={projectViewId}; revision=not-created")
    let base := next.projectRevisions.get? change.baseProjectRevisionId
    let view := next.projectViews.get? projectViewId
    let viewBase := (view.map fun view => view.projectRevisionId).getD "missing"
    require ((∃ revision ∈ base, revision.projectId = change.projectId) ∧
        workspace.projectRevisionId = change.baseProjectRevisionId ∧
        ∃ found ∈ view, found.projectId = change.projectId ∧
          found.projectRevisionId = change.baseProjectRevisionId) (refusal .conflict
      s!"Workspace {workspace.id}, Project View {projectViewId}, and Change {changeId} do not share one Project Revision base."
      "rebase the Change onto a fresh Workspace and Project View derived from its declared base"
      s!"change={changeId}; changeBase={change.baseProjectRevisionId}; workspaceBase={workspace.projectRevisionId}; viewBase={viewBase}; revision=not-created")

/-- The snapshots of a Revision published from a Workspace cover what its View discloses. -/
def requireDisclosedSnapshots (changeId : String) (snapshots : Payload)
    (workspace : Option Workspace) : Option ProjectView → Except AuthorityFailure Unit
  | none => .ok ()
  | some view =>
    let visibleIds := view.visibleSourceSpaceIds
    let workspaceId := (workspace.map Workspace.id).getD "undefined"
    require (snapshots.keys.length = visibleIds.length ∧ (∀ id ∈ snapshots.keys, id ∈ visibleIds) ∧
        ∀ value ∈ snapshots.values, (optionalString (some value)).isSome) (refusal .conflict
      "Change Revision snapshots must cover exactly the Source Spaces disclosed by its Workspace View."
      "publish one non-empty snapshot per disclosed Source Space; request a separately authorized Workspace to change another scope"
      s!"change={changeId}; workspace={workspaceId}; requested={snapshots.keys.length}; disclosed={visibleIds.length}; rule=workspace-view-snapshots-only; revision=not-created")

/-- The check of one observation of a Source Space. -/
def requireBoundObservation (next : AuthorityPlaneSnapshot) (change : Change)
    (workspaceId : Option String) (projectViewId : String) (snapshots : Snapshots)
    (sourceSpaceId : String) (observation : RepositoryObservation) :
    Except AuthorityFailure Unit := do
  let baseSnapshot := (next.projectRevisions.get? change.baseProjectRevisionId).bind
    fun base => base.sourceSpaceSnapshots.get? sourceSpaceId
  let repositoryId ← orThrow
    (truthy ((next.sourceSpaces.get? sourceSpaceId).bind SourceSpace.repositoryId))
    (refusal .blocked
      s!"Source Space {sourceSpaceId} has no authoritative Repository identity."
      "bind the Source Space to a Realm-issued Repository identity before hosted revision publication"
      s!"sourceSpace={sourceSpaceId}; repositoryIdentity=missing; revision=not-created")
  require (observation.repositoryId = repositoryId ∧ observation.sourceSpaceId = sourceSpaceId ∧
      workspaceId = some observation.workspaceId ∧ observation.projectViewId = projectViewId ∧
      snapshots.get? sourceSpaceId = some observation.commitOid ∧
      baseSnapshot = some observation.baseCommitOid) (refusal .conflict
    s!"RepositoryDriver observation for Source Space {sourceSpaceId} is not bound to the requested hosted revision."
    "reinspect the exact Workspace and publish a fresh observation bound to this Change, Workspace, Project View, and base revision"
    s!"sourceSpace={sourceSpaceId}; observation=binding-mismatch; revision=not-created")

def requireBoundObservations (next : AuthorityPlaneSnapshot) (change : Change)
    (workspaceId : Option String) (projectViewId projectId : String) (snapshots : Snapshots) :
    Option (OrderedMap String RepositoryObservation) → Except AuthorityFailure Unit
  | none => .ok ()
  | some observations => do
    require (observations.keys.length = snapshots.keys.length ∧
        ∀ id ∈ observations.keys, (snapshots.get? id).isSome) (refusal .conflict
      "RepositoryDriver observations must cover exactly the Source Space snapshot set."
      "publish one verified observation for every Source Space disclosed by the Project View"
      s!"project={projectId}; observationSet=source-snapshot-mismatch; revision=not-created")
    forM observations.entries fun entry =>
      requireBoundObservation next change workspaceId projectViewId snapshots entry.1 entry.2

/-- The first Source Space of `ids` that is not one of `known`; an empty id is not reported. -/
def unknownSourceSpace (ids known : List String) : Option String :=
  truthy (ids.find? fun id => id ∉ known)

/-- The session of the coordinator or the fixture of a Mirror. -/
def isMirrorIngestion (session : AuthoritySession) : Prop :=
  session.kind = some .mirror ∧
    (session.clientId = "anyam-mirror-coordinator" ∨ session.clientId = "anyam-mirror-fixture")

instance (session : AuthoritySession) : Decidable (isMirrorIngestion session) :=
  inferInstanceAs (Decidable (_ ∧ _))

def revisionPublish (next : AuthorityPlaneSnapshot) (payload : Payload)
    (session : AuthoritySession) (drawn : Drawn) : Applied := do
  let changeId ← requiredString (payload.get? "changeId") "changeId"
  let change ← orThrow (next.changes.get? changeId) (refusal .notFound
    s!"Change {changeId} does not exist."
    "create the Change before publishing a Revision"
    s!"change={changeId}; revision=not-created")
  let requestedProjectId := optionalString (payload.get? "projectId")
  let requested := requestedProjectId.getD ""
  require (∀ id ∈ requestedProjectId, id = change.projectId) (refusal .notFound
    s!"Change {changeId} is not available for Project {requested}."
    "verify the Project and Change identifiers without probing hidden resources"
    s!"project={requested}; change=not-available; discoverable=false")
  require (change.status ≠ .landed ∧ change.status ≠ .abandoned) (refusal .conflict
    s!"Change {changeId} is {change.status} and cannot publish another Revision."
    "create a new Change from the current canonical Project Revision"
    s!"change={changeId}; status={change.status}; revision=not-created")
  let workspaceId := (optionalString (payload.get? "workspaceId")).or change.workspaceId
  let workspace ← publishingWorkspace next changeId change workspaceId
  let projectViewId ← requiredString
    ((nullish (payload.get? "projectViewId")).or
      (workspace.map fun workspace => .string workspace.projectViewId)) "projectViewId"
  requireWorkspaceBase next changeId change projectViewId workspace
  let workspaceView := workspace.bind fun workspace =>
    next.projectViews.get? workspace.projectViewId
  let snapshots ← record
    (((nullish (payload.get? "sourceSpaceSnapshots")).or
      (workspaceView.map fun view => .ofTexts view.disclosedSourceSpaceSnapshots)).or
      ((next.projectRevisions.get? change.baseProjectRevisionId).map fun base =>
        .ofTexts base.sourceSpaceSnapshots)) "sourceSpaceSnapshots"
  requireDisclosedSnapshots changeId snapshots workspace workspaceView
  let sourceSnapshots : Snapshots := snapshots.map castText
  let project ← orThrow (next.projects.get? change.projectId) (refusal .indeterminate
    s!"Change {changeId} refers to a Project that is not readable."
    "reconcile the Authority snapshot before publishing a Revision"
    s!"change={changeId}; project={change.projectId}; revision=not-created")
  let unknown := unknownSourceSpace sourceSnapshots.keys project.sourceSpaceIds
  let unknownId := unknown.getD ""
  require (unknown = none) (refusal .conflict
    s!"Source Space {unknownId} is not part of Project {project.id}."
    "publish only snapshots belonging to the Change Project View"
    s!"project={project.id}; sourceSpace={unknownId}; revision=not-created")
  let sourceSpaceObservations ← whenDefined
    (repositoryObservationRecord · "sourceSpaceObservations")
    (payload.get? "sourceSpaceObservations")
  let mirrorRepositoryObservations ← whenDefined
    (mirrorRepositoryObservationRecord · "mirrorRepositoryObservations")
    (payload.get? "mirrorRepositoryObservations")
  require (mirrorRepositoryObservations = none ∨ isMirrorIngestion session)
    (refusal .invalidRequest
      "Mirror Repository observations are accepted only through the internal signed Mirror-ingestion transition."
      "submit the proposal through the internal Mirror handoff; no Authority state was changed"
      "mirrorRepositoryObservations=internal-only; transition=not-applied")
  requireBoundObservations next change workspaceId projectViewId project.id sourceSnapshots
    sourceSpaceObservations
  let sequence := (next.changeRevisions.values.filter fun revision =>
    revision.changeId = changeId).length + 1
  let declaredEffects ← optionalStrings (payload.get? "declaredEffects") "declaredEffects"
  let revision : ChangeRevision := {
    id := (optionalString (payload.get? "revisionId")).getD (drawn.opaqueId "change-revision")
    changeId
    projectRevisionId := (optionalString (payload.get? "projectRevisionId")).getD
      (drawn.opaqueId "candidate-revision")
    projectViewId
    sequence
    parentRevisionId := change.latestRevisionId
    declaredEffects
    baseProjectRevisionId := change.baseProjectRevisionId
    workspaceId
    sourceSpaceSnapshots := sourceSnapshots
    sourceSpaceObservations
    mirrorRepositoryObservations
    affectedSourceSpaceIds := sourceSnapshots.keys
    author := actorRef session
    kind := optionalString (payload.get? "kind") }
  require (next.changeRevisions.get? revision.id = none) (refusal .conflict
    s!"Change Revision {revision.id} already exists."
    "reuse the original idempotency key or choose a new Revision identity"
    s!"revision={revision.id}; exists=true; transition=not-applied")
  let submitted : Change := {
    change with
    latestRevisionId := some revision.id
    status := .submitted }
  return ((next.put .changeRevisions revision.id revision).put .changes changeId submitted,
    success .revisionPublish next [.revision revision, .change submitted]
      s!"change={changeId}; revision={revision.id}; sequence={sequence}; canonicalWrite=false")

/-! ## Landing -/

/-- A Change that claimed a Workspace lands only from it. -/
def requireLandingLineage (next : AuthorityPlaneSnapshot) (change : Change)
    (revision : ChangeRevision) : Except AuthorityFailure Unit :=
  match change.workspaceId with
  | none => .ok ()
  | some workspaceId =>
    let workspace := next.workspaces.get? workspaceId
    let workspaceBase := (workspace.map Workspace.projectRevisionId).getD "missing"
    require (∃ found ∈ workspace, found.changeId = some change.id ∧
        found.projectId = change.projectId ∧
        found.projectRevisionId = change.baseProjectRevisionId ∧
        ∃ view ∈ next.projectViews.get? found.projectViewId,
          view.projectId = change.projectId ∧
          view.projectRevisionId = change.baseProjectRevisionId ∧
          revision.workspaceId = some found.id ∧ revision.projectViewId = view.id ∧
          revision.baseProjectRevisionId = change.baseProjectRevisionId) (refusal .conflict
      s!"Change {change.id}, Workspace, Project View, and Change Revision do not share one lineage before Landing."
      "publish a fresh Revision from a Workspace and View derived from the Change base before Landing"
      s!"change={change.id}; workspace={workspaceId}; changeBase={change.baseProjectRevisionId}; workspaceBase={workspaceBase}; revisionBase={revision.baseProjectRevisionId}; landing=not-created")

/-- `{ ...snapshots, ...changed }`. -/
def mergedSnapshots (snapshots changed : Snapshots) : Snapshots :=
  changed.entries.foldl (fun merged entry => merged.set entry.1 entry.2) snapshots

/-- The Workspace of a landed Change is closed. -/
def closeWorkspace (next : AuthorityPlaneSnapshot) (workspaceId : Option String) :
    AuthorityPlaneSnapshot :=
  match workspaceId with
  | none => next
  | some workspaceId =>
    match next.workspaces.get? workspaceId with
    | none => next
    | some workspace => next.put .workspaces workspaceId { workspace with state := .closed }

def landingApply (next : AuthorityPlaneSnapshot) (payload : Payload) (drawn : Drawn) :
    Applied := do
  let changeRevisionId ← requiredString (payload.get? "changeRevisionId") "changeRevisionId"
  let revision ← orThrow (next.changeRevisions.get? changeRevisionId) (refusal .notFound
    s!"Change Revision {changeRevisionId} does not exist."
    "publish the Change Revision before Landing"
    s!"changeRevision={changeRevisionId}; landing=not-created")
  let change ← orThrow (next.changes.get? revision.changeId) (refusal .notFound
    s!"Change {revision.changeId} does not exist for Change Revision {changeRevisionId}."
    "restore the stable Change record before Landing"
    s!"changeRevision={changeRevisionId}; landing=not-created")
  let projectId := change.projectId
  requireLandingLineage next change revision
  let requestedProjectId := optionalString (payload.get? "projectId")
  let requestedProject := requestedProjectId.getD ""
  require (∀ id ∈ requestedProjectId, id = projectId) (refusal .notFound
    s!"Change Revision {changeRevisionId} is not available for Project {requestedProject}."
    "verify the Project and Change Revision identifiers without probing hidden resources"
    s!"project={requestedProject}; changeRevision={changeRevisionId}; landing=not-created; discoverable=false")
  let requestedChangeId := optionalString (payload.get? "changeId")
  let requestedChange := requestedChangeId.getD ""
  require (∀ id ∈ requestedChangeId, id = change.id) (refusal .notFound
    s!"Change Revision {changeRevisionId} is not available for Change {requestedChange}."
    "verify the Change and Change Revision identifiers without probing hidden resources"
    s!"change={requestedChange}; changeRevision={changeRevisionId}; landing=not-created; discoverable=false")
  let expected := optionalString (payload.get? "expectedCanonicalProjectRevisionId")
  let actual := next.canonicalByProject.get? projectId
  let expectedText := expected.getD ""
  let actualText := actual.getD "undefined"
  require (∀ id ∈ expected, some id = actual) (refusal .staleState
    s!"Canonical Project Revision changed before Landing {changeRevisionId}."
    "read the current canonical Project Revision, rebase or compose the Change, and retry with a new idempotency key"
    s!"project={projectId}; expectedCanonical={expectedText}; actualCanonical={actualText}; landing=not-created")
  require (actual = some change.baseProjectRevisionId) (refusal .conflict
    s!"Change {change.id} was based on {change.baseProjectRevisionId}, not the current canonical Project Revision {actualText}."
    "publish a rebase or conflict-resolution Revision before Landing"
    s!"change={change.id}; base={change.baseProjectRevisionId}; canonical={actualText}; landing=not-created")
  let canonical := change.baseProjectRevisionId
  let latest := change.latestRevisionId.getD "none"
  require (change.status = .submitted ∧ change.latestRevisionId = some revision.id)
    (refusal .conflict
      s!"Change {change.id} is not ready to Land at Change Revision {revision.id}."
      "publish the latest Revision and submit the Change before Landing"
      s!"change={change.id}; status={change.status}; latest={latest}; requested={revision.id}; landing=not-created")
  let requestedLandedRevisionId := optionalString (payload.get? "projectRevisionId")
  let requestedLanded := requestedLandedRevisionId.getD ""
  require (∀ id ∈ requestedLandedRevisionId, next.projectRevisions.get? id = none)
    (refusal .conflict
      s!"Project Revision {requestedLanded} already exists."
      "reuse the original idempotency key or choose a new Project Revision identity"
      s!"projectRevision={requestedLanded}; exists=true; landing=not-created")
  let current ← orThrow
    ((next.projectRevisions.get? canonical).filter fun revision => revision.projectId = projectId)
    (refusal .indeterminate
      s!"Current canonical Project Revision {canonical} is not readable for Project {projectId}."
      "restore the canonical Project Revision before Landing this Change"
      s!"project={projectId}; canonical={canonical}; landing=not-created; lineage=incomplete")
  let known := ((next.projects.get? projectId).map fun project => project.sourceSpaceIds).getD []
  let unknown := unknownSourceSpace revision.sourceSpaceSnapshots.keys known
  let unknownId := unknown.getD ""
  require (unknown = none) (refusal .conflict
    s!"Change Revision {revision.id} names Source Space {unknownId} outside Project {projectId}."
    "publish only Source Spaces belonging to the Project before Landing"
    s!"project={projectId}; sourceSpace={unknownId}; landing=not-created")
  let landed := createProjectRevision {
    id := requestedLandedRevisionId
    projectId
    sourceSpaceSnapshots :=
      mergedSnapshots current.sourceSpaceSnapshots revision.sourceSpaceSnapshots
    parentProjectRevisionId := some canonical
    landedChangeRevisionId := some revision.id
    landedChangeRevisionIds := none
    landingCohortId := none } (drawn.uuid "project-revision")
  let landing : Landing := {
    id := (optionalString (payload.get? "landingId")).getD (drawn.opaqueId "landing")
    projectId
    changeId := change.id
    changeRevisionId := revision.id
    previousProjectRevisionId := canonical
    projectRevisionId := landed.id
    receipt := s!"landing=accepted; canonicalMutation=coordinator-only; previous={canonical}; next={landed.id}"
    cohortId := none
    changeIds := none
    changeRevisionIds := none }
  let landedChange : Change := { change with status := .landed }
  let written := (((next.put .projectRevisions landed.id landed).put .canonicalByProject projectId
    landed.id).put .landings landing.id landing).put .changes change.id landedChange
  return (closeWorkspace written change.workspaceId,
    success .landingApply next
      [.landing landing, .canonicalRevision landed, .change landedChange]
      s!"landing={landing.id}; canonicalMutation=accepted; sourceWrite=landing-only")

/-! ## What they write -/

section

variable {next next' : AuthorityPlaneSnapshot} {payload : Payload} {session : AuthoritySession}
  {drawn : Drawn} {result : AuthorityCommandResult}

/-- A Revision is filed under a new id, and is the latest of a Change that has not ended. -/
theorem revisionPublish_ok
    (h : revisionPublish next payload session drawn = .ok (next', result)) :
    ∃ (changeId id : String) (change : Change) (revision : ChangeRevision) (snapshots : Payload),
      optionalString (payload.get? "changeId") = some changeId ∧
      next.changes.get? changeId = some change ∧
      change.status ≠ .landed ∧ change.status ≠ .abandoned ∧
      next.changeRevisions.get? id = none ∧
      revision.id = id ∧
      id = (optionalString (payload.get? "revisionId")).getD (drawn.opaqueId "change-revision") ∧
      revision.changeId = changeId ∧
      revision.projectRevisionId = (optionalString (payload.get? "projectRevisionId")).getD
        (drawn.opaqueId "candidate-revision") ∧
      (∀ given, nullish (payload.get? "sourceSpaceSnapshots") = some given →
        given.asRecord = some snapshots) ∧
      revision.sourceSpaceSnapshots = snapshots.map castText ∧
      next' = (next.put .changeRevisions id revision).put .changes changeId
        { change with latestRevisionId := some id, status := .submitted } ∧
      result.value = [.revision revision,
        .change { change with latestRevisionId := some id, status := .submitted }] := by
  simp only [revisionPublish, bind_eq_ok, require_eq_ok, orThrow_eq_ok, requiredString_eq_ok,
    record, exists_unit, pure_eq_ok, Prod.mk.injEq] at h
  obtain ⟨changeId, hchangeId, change, hchange, -, hstatus, workspace, -, _, -, -, snapshots,
    hsnapshots, -, project, -, -, _, -, _, -, -, -, _, -, hnew, rfl, rfl⟩ := h
  refine ⟨changeId, _, change, _, snapshots, hchangeId, hchange, hstatus.1, hstatus.2, hnew, rfl,
    rfl, rfl, rfl, fun given hgiven => ?_, rfl, rfl, rfl⟩
  rw [hgiven] at hsnapshots
  exact hsnapshots

/-- Closing a Workspace writes no other collection. -/
theorem closeWorkspace_writes (workspaceId : Option String) :
    next.WritesOnly [.workspaces] (closeWorkspace next workspaceId) := by
  unfold closeWorkspace
  split
  · exact .refl ..
  · split
    · exact .refl ..
    · exact .put (.refl ..) (List.mem_singleton_self _) ..

/-- A Landing moves the canonical pointer of the Project from the base of the Change to a new
Revision, which records the Change Revision that was landed. -/
theorem landingApply_ok (h : landingApply next payload drawn = .ok (next', result)) :
    ∃ (changeRevisionId landedId landingId : String) (revision : ChangeRevision)
      (change : Change) (current landed : ProjectRevision) (landing : Landing),
      next.changeRevisions.get? changeRevisionId = some revision ∧
      next.changes.get? revision.changeId = some change ∧
      requireLandingLineage next change revision = .ok () ∧
      next.canonicalByProject.get? change.projectId = some change.baseProjectRevisionId ∧
      change.status = .submitted ∧ change.latestRevisionId = some revision.id ∧
      (∀ id ∈ optionalString (payload.get? "projectRevisionId"),
        next.projectRevisions.get? id = none) ∧
      next.projectRevisions.get? change.baseProjectRevisionId = some current ∧
      current.projectId = change.projectId ∧
      landedId = (optionalString (payload.get? "projectRevisionId")).getD
        (drawn.opaqueId "project-revision") ∧
      landed.id = landedId ∧ landed.projectId = change.projectId ∧
      landed.landedChangeRevisionId = truthy (some revision.id) ∧
      landingId = (optionalString (payload.get? "landingId")).getD (drawn.opaqueId "landing") ∧
      (landing.id = landingId ∧ landing.projectRevisionId = landedId) ∧
      next' = closeWorkspace ((((next.put .projectRevisions landedId landed).put
        .canonicalByProject change.projectId landedId).put .landings landingId landing).put
        .changes change.id { change with status := .landed }) change.workspaceId := by
  simp only [landingApply, bind_eq_ok, require_eq_ok, orThrow_eq_ok, Option.filter_eq_some_iff,
    exists_unit, pure_eq_ok, Prod.mk.injEq] at h
  obtain ⟨changeRevisionId, -, revision, hrevision, change, hchange, hlineage, -, -, -, hactual,
    hready, hfree, current, ⟨hcurrent, hbelongs⟩, -, rfl, -⟩ := h
  exact ⟨changeRevisionId, _, _, revision, change, current, _, _, hrevision, hchange, hlineage,
    hactual, hready.1, hready.2, hfree, hcurrent, of_decide_eq_true hbelongs, rfl, rfl, rfl, rfl,
    rfl, ⟨rfl, rfl⟩, rfl⟩

end

end Anyam.Authority
