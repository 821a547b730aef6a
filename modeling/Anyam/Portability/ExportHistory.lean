import Anyam.ChangeControl.Binding
import Anyam.Portability.ExportManifest

/-!
# Exporting the history of a coordinator

The verifier of a manifest wants every Change Revision to name the base and the Workspace
its Change has. A rebase moves the Change and publishes a new revision; it leaves the old
ones, which are immutable, with the base and the Workspace they had.

- `historyProblems_eq_nil_iff`: what the verifier wants of a coordinator's history.
- **`exportable_iff_of_run`**: the history of a run is accepted exactly when no rebase
  finished on a Change that had a revision.
-/

namespace Anyam.Portability

open Anyam.Lib Anyam.Kernel Anyam.ChangeControl LocalSystem

/-- A revision as it is exported: the coordinator records no observations. -/
def exportedRevision (revision : ChangeRevision) : ObservedChangeRevision where
  toChangeRevision := revision
  sourceSpaceObservations := none
  mirrorRepositoryObservations := none

/-- The manifest carries the coordinator's Project with its whole history. -/
structure CarriesHistory (c : LocalChangeCoordinator) (manifest : ProjectExport) : Prop where
  project : manifest.project = c.project
  projectRevisions : manifest.projectRevisions = c.projectRevisions.values
  changes : manifest.changes = c.changes.values
  changeRevisions : manifest.changeRevisions = c.revisions.values.map exportedRevision

/-- The rest of the manifest has no problem, it has no credentials, and its digest is its
own. -/
structure SoundBesidesHistory (services : ManifestServices) (manifest : ProjectExport) :
    Prop where
  protocol : manifest.protocol = "anyam.export/v1" ∧ manifest.version = "v1"
  repositories :
    repositoriesProblems services.cwd manifest.project [] manifest.repositories = []
  lifecycle : lifecycleProblems manifest.toProjectExportContents = []
  artifacts : artifactProblems services.cwd manifest.toProjectExportContents = []
  credentialFree : isProjectExportCredentialFree services manifest = true
  digest : manifest.integrity.manifestDigest =
    manifestDigest services manifest.toProjectExportContents

/-- The Project has an id and distinct Source Spaces. -/
structure ProjectIdentified (project : Project) : Prop where
  id : project.id ≠ ""
  sourceSpaces : project.sourceSpaceIds ≠ []
  distinct : project.sourceSpaceIds.Nodup

/-! ## What the verifier wants of a history -/

theorem byId_values {α : Type} {id : α → String} {m : OrderedMap String α}
    (h : OrderedMap.SelfKeyed id m) : byId id m.values = m := by
  rw [byId, h.entries_eq, OrderedMap.ofList_entries]

theorem changeProblems_eq_nil {projectRevisions : OrderedMap String ProjectRevision}
    {change : Change} : changeProblems projectRevisions change = [] ↔
      ∃ base, projectRevisions.get? change.baseProjectRevisionId = some base ∧
        base.projectId = change.projectId := by
  rw [changeProblems, problem_eq_nil, not_not]
  rfl

/-- A coordinator's revision has no problem when it has its identity and records what its
Change is bound to. -/
theorem changeRevisionProblems_eq_nil {changes : OrderedMap String Change}
    {revision : ChangeRevision} :
    changeRevisionProblems changes (exportedRevision revision) = [] ↔
      (revision.id ≠ "" ∧ revision.changeId ≠ "" ∧ revision.projectViewId ≠ "") ∧
        ∃ change, changes.get? revision.changeId = some change ∧
          revision.baseProjectRevisionId = some change.baseProjectRevisionId ∧
          revision.workspaceId = change.workspaceId := by
  have hobserved : ∀ kind, observationProblems revision.id kind none = [] := fun _ => rfl
  show problem (revision.id = "" ∨ revision.changeId = "" ∨ revision.projectViewId = "") _ ++
    ownerProblems revision (changes.get? revision.changeId) ++
    observationProblems revision.id "observation" none ++
    observationProblems revision.id "mirror observation" none = [] ↔ _
  rw [hobserved, hobserved, List.append_nil, List.append_nil, List.append_eq_nil_iff,
    problem_eq_nil, not_or, not_or]
  refine and_congr_right fun _ => ?_
  cases changes.get? revision.changeId with
  | none => exact ⟨nofun, fun ⟨_, h, _⟩ => nomatch h⟩
  | some change =>
    simp only [ownerProblems, List.append_eq_nil_iff, problem_eq_nil, not_not, Option.some.injEq,
      exists_eq_left']

/-- **What the verifier wants of a coordinator's history.** -/
theorem historyProblems_eq_nil_iff {c : LocalChangeCoordinator} {manifest : ProjectExport}
    (hk : c.Keyed) (hcarries : CarriesHistory c manifest) :
    historyProblems manifest.toProjectExportContents = [] ↔
      (∀ change ∈ c.changes.values,
        ∃ base, c.projectRevisions.get? change.baseProjectRevisionId = some base ∧
          base.projectId = change.projectId) ∧
      ∀ revision ∈ c.revisions.values,
        (revision.id ≠ "" ∧ revision.changeId ≠ "" ∧ revision.projectViewId ≠ "") ∧
          ∃ change, c.changes.get? revision.changeId = some change ∧
            revision.baseProjectRevisionId = some change.baseProjectRevisionId ∧
            revision.workspaceId = change.workspaceId := by
  rw [historyProblems, hcarries.projectRevisions, hcarries.changes, hcarries.changeRevisions]
  simp only [byId_values hk.projectRevisions, byId_values hk.changes, List.append_eq_nil_iff,
    List.flatMap_eq_nil_iff, List.forall_mem_map, changeProblems_eq_nil,
    changeRevisionProblems_eq_nil]

theorem projectProblems_eq_nil {manifest : ProjectExportContents}
    (h : ProjectIdentified manifest.project) : projectProblems manifest = [] := by
  rw [projectProblems, List.append_eq_nil_iff, problem_eq_nil, problem_eq_nil, not_or, not_not]
  exact ⟨⟨h.id, h.sourceSpaces⟩, h.distinct⟩

/-- With the rest in order, a manifest is accepted when its history has no problem. -/
theorem verifyProjectExportManifest_iff_history {services : ManifestServices}
    {manifest : ProjectExport} (hproject : ProjectIdentified manifest.project)
    (hrest : SoundBesidesHistory services manifest) :
    verifyProjectExportManifest services manifest = .ok manifest ↔
      historyProblems manifest.toProjectExportContents = [] := by
  have hshape : manifestProblems services.cwd manifest.toProjectExportContents = [] ↔
      historyProblems manifest.toProjectExportContents = [] := by
    rw [manifestProblems, projectProblems_eq_nil hproject, hrest.repositories, hrest.lifecycle,
      hrest.artifacts, List.append_nil, List.append_nil, List.append_nil, List.nil_append]
  rw [verifyProjectExportManifest_eq_ok]
  constructor
  · rintro ⟨hsound, -⟩
    exact hshape.mp hsound.shape
  · intro hhistory
    exact ⟨⟨hrest.protocol, hshape.mpr hhistory, hrest.credentialFree, hrest.digest⟩, rfl⟩

/-! ## The histories of runs -/

section Run

variable {text : UnicodeText} {project : Project} {canonicalRevision : ProjectRevision}
  {tr : List (Transition LocalSystem Operation Reply)} {s : LocalSystem}

/-- Every base a Change of a run has is a Project Revision of the Project. -/
theorem base_known (hs : Sound s) (hfiled : FiledSound project s) :
    ∀ change ∈ s.control.changes.values,
      ∃ base, s.control.projectRevisions.get? change.baseProjectRevisionId = some base ∧
        base.projectId = change.projectId := by
  intro change hchange
  obtain ⟨base, hbase⟩ := OrderedMap.mem_keys_iff.mp (hs.changes change hchange).1
  refine ⟨base, hbase, ?_⟩
  rw [hfiled.projectRevisions base (OrderedMap.mem_values_of_get? hbase),
    (hfiled.changes change hchange).2]

/-- The history of a run has no problem exactly when its revisions record what their
Changes are bound to. -/
theorem historyProblems_eq_nil_of_run {manifest : ProjectExport} (hs : Sound s)
    (hfiled : FiledSound project s) (hb : BindingSound s)
    (hcarries : CarriesHistory s.control manifest) :
    historyProblems manifest.toProjectExportContents = [] ↔
      ∀ revision ∈ s.control.revisions.values, RecordsBinding s.control revision := by
  rw [historyProblems_eq_nil_iff hs.keyed hcarries]
  constructor
  · rintro ⟨-, hall⟩ revision hrevision change hget
    obtain ⟨-, change', hget', hbinding⟩ := hall revision hrevision
    rw [hget] at hget'
    cases hget'
    exact hbinding
  · intro hall
    refine ⟨base_known hs hfiled, fun revision hrevision => ?_⟩
    obtain ⟨change, hget⟩ := OrderedMap.mem_keys_iff.mp (hb.revisions revision hrevision).1
    exact ⟨hfiled.revisions revision hrevision, change, hget, hall revision hrevision change hget⟩

/-- **A run's history is accepted exactly when it moved no published Change**: no rebase
finished on a Change that had a revision. -/
theorem exportable_iff_of_run {services : ManifestServices} {manifest : ProjectExport}
    (hcreate : LocalChangeCoordinator.create project canonicalRevision =
      .ok (.initial project canonicalRevision))
    (hproject : ProjectIdentified project)
    (hrun : RunFrom text project canonicalRevision NamedCall tr s)
    (hcarries : CarriesHistory s.control manifest)
    (hrest : SoundBesidesHistory services manifest) :
    verifyProjectExportManifest services manifest = .ok manifest ↔
      ∀ t ∈ tr, ¬ t.pre.MovesPublished t.op := by
  have hcanonical : canonicalRevision.projectId = project.id := by
    simp only [LocalChangeCoordinator.create, bind_eq_ok, require_eq_ok, exists_unit] at hcreate
    exact hcreate.1
  obtain ⟨hs, hfiled, hb, hagrees⟩ := recordsBinding_of_run hcanonical hrun
  rw [verifyProjectExportManifest_iff_history (by rw [hcarries.project, hfiled.inProject]; exact hproject)
    hrest, historyProblems_eq_nil_of_run hs hfiled hb hcarries]
  rcases hagrees with ⟨hstays, hall⟩ | ⟨⟨t, ht, hmoved⟩, revision, hrevision, hleft⟩
  · exact ⟨fun _ => hstays, fun _ => hall⟩
  · constructor
    · intro hall
      exact absurd (hall revision hrevision) hleft.not_recordsBinding
    · intro hstays
      exact absurd hmoved (hstays t ht)

end Run

namespace Sample

/-- A working directory, with texts and digests short enough to compute. -/
def manifestServices : ManifestServices where
  cwd := ["srv"]
  digestText := fun value => "digest of " ++ value
  stableStringify := fun value => value.manifest.exportId ++ " " ++ value.receipt
  credentialField := fun _ => none

def docsRepository : RepositoryExport where
  repositoryId := "repository"
  sourceSpaceId := "docs"
  objectFormat := .sha1
  defaultBranch := some "main"
  refs := [⟨"refs/heads/main", "c"⟩]
  bundle := ⟨"repository.bundle", "digest", 4⟩
  lfs := ⟨.empty, []⟩

/-- The export of a coordinator's history, with the repository of `docs`. -/
def historyContents (c : LocalChangeCoordinator) : ProjectExportContents where
  protocol := "anyam.export/v1"
  version := "v1"
  exportId := "export"
  project := c.project
  repositories := [docsRepository]
  largeObjects := []
  projectRevisions := c.projectRevisions.values
  changeRevisions := c.revisions.values.map exportedRevision
  intents := []
  intentComments := []
  pullRequests := []
  changes := c.changes.values
  artifacts := []
  artifactFiles := some []

def historyExport (c : LocalChangeCoordinator) : ProjectExport where
  toProjectExportContents := historyContents c
  integrity := {
    manifestDigest := manifestDigest manifestServices (historyContents c)
    repositoryDigests := ["digest"]
    credentialFree := true
    receipt := "repositories=1; largeObjects=0; credentialFields=none" }

/-- The export of the history a list of calls leaves. -/
def historyExportOf (ops : List Operation) : ProjectExport :=
  historyExport (ChangeControl.Sample.ran ops).2.control

/-- `change:A` is published twice and landed; a rebase of `change:B` publishes its first
revision. -/
def historyKept : List Operation :=
  ChangeControl.Sample.startChange "A" ++ ChangeControl.Sample.startChange "B" ++
    [ChangeControl.Sample.publish "change:A" (some "u") "a",
     ChangeControl.Sample.publish "change:A" (some "v") "b",
     .handoffChange "change:A" "actor",
     ChangeControl.Sample.land [⟨"change:A", "change-revision:b"⟩] "r0" "p",
     .beginRebase (ChangeControl.Sample.rebaseInput "change:B" "project-revision:p" "v"),
     .finishRebase 0 .written "2" "d"]

/-- `change:A` is rebased after its first revision. -/
def historyMoved : List Operation :=
  ChangeControl.Sample.startChange "A" ++
    [ChangeControl.Sample.publish "change:A" (some "u") "a",
     .beginRebase (ChangeControl.Sample.rebaseInput "change:A" "r0" "c"),
     .finishRebase 0 .written "2" "b"]

end Sample

theorem exportable_iff_of_run_sample :
    verifyProjectExportManifest Sample.manifestServices
        (Sample.historyExportOf Sample.historyKept) =
        .ok (Sample.historyExportOf Sample.historyKept) ↔
      ∀ t ∈ (ChangeControl.Sample.ran Sample.historyKept).1, ¬ t.pre.MovesPublished t.op :=
  exportable_iff_of_run rfl ⟨by decide, by decide, by decide⟩ (run_exec (by decide +kernel))
    ⟨rfl, rfl, rfl, rfl⟩
    ⟨⟨rfl, rfl⟩, by decide +kernel, rfl, rfl, rfl, rfl⟩

/-- The export of the moved history is whole and has its own digest, and is rejected for its
shape. -/
theorem rebased_history_rejected :
    Admits (step ChangeControl.Sample.ascii) NamedCall
        (.initial ChangeControl.Sample.project ChangeControl.Sample.canonicalRevision)
        Sample.historyMoved ∧
      CarriesHistory (ChangeControl.Sample.ran Sample.historyMoved).2.control
        (Sample.historyExportOf Sample.historyMoved) ∧
      SoundBesidesHistory Sample.manifestServices (Sample.historyExportOf Sample.historyMoved) ∧
      (verifyProjectExportManifest Sample.manifestServices
        (Sample.historyExportOf Sample.historyMoved)).mapError PortabilityFailure.errorCode =
          .error "export.shape_invalid" := by
  refine ⟨by decide +kernel, ⟨rfl, rfl, rfl, rfl⟩, ⟨⟨rfl, rfl⟩, ?_, rfl, rfl, rfl, rfl⟩, ?_⟩
  · decide +kernel
  · decide +kernel

end Anyam.Portability
