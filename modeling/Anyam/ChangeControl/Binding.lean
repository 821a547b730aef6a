import Anyam.ChangeControl.Attachment

/-!
# What a Change is bound to

A Change has a base Project Revision and a Workspace, and each of its revisions records
the ones it was published from. A publication leaves the Change where it is; a rebase
moves it to a new Workspace and leaves the revisions published before.

- `FiledSound`: every record belongs to the Project and has its identifiers.
- `BindingSound`: a Change's base is the one of its Workspace, and a Workspace keeps its
  base.
- **`recordsBinding_of_run`**: in a run, either no rebase finished on a Change that had a
  revision and every revision records what its Change is bound to, or some did and a
  revision is left behind for good.
-/

namespace Anyam.ChangeControl

open Anyam.Lib Anyam.Kernel LocalChangeCoordinator

/-- The Project Revision a Workspace was made over. -/
def baseOf (c : LocalChangeCoordinator) (workspaceId : String) : Option String :=
  (c.workspaces.get? workspaceId).map Workspace.projectRevisionId

/-- The revision records the base and the Workspace of its Change. -/
def RecordsBinding (c : LocalChangeCoordinator) (revision : ChangeRevision) : Prop :=
  ∀ change, c.changes.get? revision.changeId = some change →
    revision.baseProjectRevisionId = some change.baseProjectRevisionId ∧
      revision.workspaceId = change.workspaceId

/-- The Change of the revision is in another Workspace. -/
def LeftBehind (c : LocalChangeCoordinator) (revision : ChangeRevision) : Prop :=
  ∃ change, c.changes.get? revision.changeId = some change ∧
    revision.workspaceId ≠ change.workspaceId

theorem LeftBehind.not_recordsBinding {c : LocalChangeCoordinator} {revision : ChangeRevision}
    (h : LeftBehind c revision) : ¬ RecordsBinding c revision := by
  obtain ⟨change, hget, hne⟩ := h
  exact fun hrecords => hne (hrecords change hget).2

/-- A revision goes on recording the binding of a Change that keeps it. -/
theorem RecordsBinding.congr {c c' : LocalChangeCoordinator} {revision : ChangeRevision}
    (h : RecordsBinding c revision)
    (hchanges : ∀ change', c'.changes.get? revision.changeId = some change' →
      ∃ change, c.changes.get? revision.changeId = some change ∧
        change'.baseProjectRevisionId = change.baseProjectRevisionId ∧
        change'.workspaceId = change.workspaceId) : RecordsBinding c' revision := by
  intro change' hget'
  obtain ⟨change, hget, hbase, hworkspace⟩ := hchanges change' hget'
  rw [hbase, hworkspace]
  exact h change hget

namespace LocalSystem

variable {s s' : LocalSystem} {op : Operation} {reply : Reply} {project : Project}

/-- The identifiers the caller chooses or passes on are not empty. -/
def Named : Operation → Prop
  | .createWorkspace input _ _ => input.view.id ≠ ""
  | .beginRebase input => input.view.id ≠ ""
  | .createChange input _ => input.id ≠ some ""
  | .revertChange input _ => input.id ≠ some ""
  | _ => True

instance : (op : Operation) → Decidable (Named op)
  | .createWorkspace .. | .beginRebase _ | .createChange .. | .revertChange .. =>
    inferInstanceAs (Decidable (_ ≠ _))
  | .registerConflict .. | .resolveConflict _ | .publishRevision .. | .finishRebase ..
  | .handoffChange .. | .landCohort .. => .isTrue trivial

/-- A call whose identifiers are new and not empty. -/
def NamedCall (s : LocalSystem) (op : Operation) : Prop := s.AllFresh op ∧ Named op

instance (s : LocalSystem) (op : Operation) : Decidable (s.NamedCall op) :=
  inferInstanceAs (Decidable (_ ∧ _))

/-- The operation finishes a rebase of a Change that has a published revision. -/
def MovesPublished (s : LocalSystem) : Operation → Prop
  | .finishRebase index storage _ _ => storage = .written ∧
    ∃ call ∈ s.inFlight[index]?, ∃ revision ∈ s.control.revisions.values,
      revision.changeId = call.change.id
  | _ => False

instance (s : LocalSystem) : (op : Operation) → Decidable (s.MovesPublished op)
  | .finishRebase .. => inferInstanceAs (Decidable (_ ∧ ∃ call ∈ _, ∃ revision ∈ _, _ = _))
  | .createWorkspace .. | .createChange .. | .registerConflict .. | .resolveConflict _
  | .publishRevision .. | .beginRebase _ | .handoffChange .. | .revertChange ..
  | .landCohort .. => .isFalse id

/-! ## What a record takes from its request -/

/-- What the effect of a step leaves out: the view of a Workspace, and the Project of a
Change. -/
def FiledAs (s : LocalSystem) : Operation → Reply → Prop
  | .createWorkspace input _ _, .workspace ws => ws.projectViewId = input.view.id
  | .createChange _ _, .change change => change.projectId = s.control.project.id
  | .beginRebase input, .suspended call => call.request.view.id = input.view.id
  | _, _ => True

theorem createWorkspace_filedAs (text : UnicodeText) (input : CreateWorkspaceInput)
    (storage : StorageOutcome) (uuid : String) :
    s.FiledAs (.createWorkspace input storage uuid)
      (step text (.createWorkspace input storage uuid) s).1 := by
  show s.FiledAs _ (s.atomically id .workspace _).1
  cases h : s.control.createWorkspace text input storage uuid with
  | error e => trivial
  | ok result =>
    obtain ⟨ws, c⟩ := result
    simp only [createWorkspace, bind_eq_ok, pure_eq_ok, exists_unit, Prod.mk.injEq] at h
    obtain ⟨mounts, -, -, rfl, -⟩ := h
    rfl

theorem createChange_filedAs (text : UnicodeText) (input : CreateChangeInput) (uuid : String) :
    s.FiledAs (.createChange input uuid) (step text (.createChange input uuid) s).1 := by
  show s.FiledAs _ (s.atomically .rejected .change _).1
  cases h : s.control.createChange input uuid with
  | error e => trivial
  | ok result =>
    obtain ⟨change, c⟩ := result
    simp only [createChange, bind_eq_ok, require_eq_ok, exists_unit, pure_eq_ok,
      Prod.mk.injEq] at h
    obtain ⟨ws, -, -, -, rfl, -⟩ := h
    rfl

theorem beginRebase_filedAs (text : UnicodeText) (input : RebaseChangeInput) :
    s.FiledAs (.beginRebase input) (step text (.beginRebase input) s).1 := by
  show s.FiledAs _ (s.suspend text input).1
  unfold suspend
  cases h : s.control.beginRebase text input with
  | error e => trivial
  | ok call =>
    simp only [beginRebase, bind_eq_ok, pure_eq_ok] at h
    obtain ⟨change, -, previous, -, mounts, -, rfl⟩ := h
    rfl

theorem step_filedAs (text : UnicodeText) (op : Operation) (s : LocalSystem) :
    s.FiledAs op (step text op s).1 := by
  cases op with
  | createWorkspace input storage uuid => exact createWorkspace_filedAs text input storage uuid
  | createChange input uuid => exact createChange_filedAs text input uuid
  | beginRebase input => exact beginRebase_filedAs text input
  | registerConflict | resolveConflict | publishRevision | finishRebase | handoffChange
  | revertChange | landCohort => trivial

/-! ## Records of the Project -/

/-- The Change has an id and belongs to the Project. -/
def OwnChange (project : Project) (change : Change) : Prop :=
  change.id ≠ "" ∧ change.projectId = project.id

/-- Every record belongs to the Project and names what it must. -/
structure FiledSound (project : Project) (s : LocalSystem) : Prop where
  inProject : s.control.project = project
  projectRevisions : ∀ revision ∈ s.control.projectRevisions.values,
    revision.projectId = project.id
  workspaces : ∀ ws ∈ s.control.workspaces.values, ws.projectViewId ≠ ""
  changes : ∀ change ∈ s.control.changes.values, OwnChange project change
  revisions : ∀ revision ∈ s.control.revisions.values,
    revision.id ≠ "" ∧ revision.changeId ≠ "" ∧ revision.projectViewId ≠ ""
  calls : ∀ call ∈ s.inFlight, call.request.view.id ≠ "" ∧ OwnChange project call.change ∧
    ∀ ws ∈ call.previousWorkspace, ws.projectViewId ≠ ""

theorem filedSound_initial {canonicalRevision : ProjectRevision}
    (h : canonicalRevision.projectId = project.id) :
    FiledSound project (initial project canonicalRevision) where
  inProject := rfl
  projectRevisions := OrderedMap.forall_values_set (fun _ h => nomatch h) h
  workspaces := fun _ h => nomatch h
  changes := fun _ h => nomatch h
  revisions := fun _ h => nomatch h
  calls := fun _ h => nomatch h

theorem Effect.project_eq (h : Effect s op reply s') : s'.control.project = s.control.project := by
  cases h with
  | rebased => exact afterRebase_project
  | unchanged | abandoned | createdWorkspace | createdChange | registered | resolved | published
  | suspended | restored | handedOff | reverted | landed => rfl

theorem Effect.projectRevisions_own (h : Effect s op reply s') (hf : FiledSound project s) :
    ∀ revision ∈ s'.control.projectRevisions.values, revision.projectId = project.id := by
  cases h with
  | landed =>
    exact OrderedMap.forall_values_set hf.projectRevisions (congrArg Project.id hf.inProject)
  | rebased =>
    rw [afterRebase_projectRevisions]
    exact hf.projectRevisions
  | unchanged | abandoned | createdWorkspace | createdChange | registered | resolved | published
  | suspended | restored | handedOff | reverted => exact hf.projectRevisions

theorem Effect.workspaces_named (h : Effect s op reply s') (hs : Sound s)
    (hok : s.NamedCall op) (hfiled : s.FiledAs op reply) (hf : FiledSound project s) :
    ∀ ws ∈ s'.control.workspaces.values, ws.projectViewId ≠ "" := by
  have hold : ∀ {id ws}, s.control.workspaces.get? id = some ws → ws.projectViewId ≠ "" :=
    fun hws => hf.workspaces _ (OrderedMap.mem_values_of_get? hws)
  cases h with
  | unchanged | abandoned | suspended | published | reverted | landed => exact hf.workspaces
  | createdWorkspace =>
    refine OrderedMap.forall_values_set hf.workspaces ?_
    rw [hfiled]
    exact hok.2
  | createdChange hws | registered _ hws | handedOff _ _ hws =>
    have hview := hold hws
    exact OrderedMap.forall_values_set hf.workspaces hview
  | @resolved _ conflict =>
    show ∀ ws ∈ (s.control.unblockWorkspace _ conflict.workspaceId).values, _
    unfold unblockWorkspace
    split
    · exact hf.workspaces
    · rename_i ws hws
      have hview := hold hws
      exact OrderedMap.forall_values_set hf.workspaces hview
  | @rebased _ workspaceUuid _ call rebased hcall hrebased =>
    obtain ⟨hview, -, hprevious⟩ := hf.calls call (List.mem_of_getElem? hcall)
    have hnew : ∀ ws ∈ (s.control.workspaces.set rebased.id rebased).values,
        ws.projectViewId ≠ "" := by
      refine OrderedMap.forall_values_set hf.workspaces ?_
      rw [hrebased]
      exact hview
    exact afterRebase_workspaces_induction (fun m => ∀ ws ∈ m.values, ws.projectViewId ≠ "") hnew
      fun previous hprev _ => OrderedMap.forall_values_set hnew (hprevious previous hprev)
  | restored hcall hrebased hrefused =>
    exact absurd (hrebased ▸ hs.rebasePublishes hcall hok.1.1.1) hrefused

theorem Effect.changes_own (h : Effect s op reply s') (hs : Sound s) (hok : s.NamedCall op)
    (hfiled : s.FiledAs op reply) (hf : FiledSound project s) :
    ∀ change ∈ s'.control.changes.values, OwnChange project change := by
  have hold := hf.changes
  cases h with
  | unchanged | abandoned | createdWorkspace | registered | resolved | suspended | handedOff =>
    exact hold
  | createdChange _ _ _ hid =>
    refine OrderedMap.forall_values_set hold ⟨?_, ?_⟩
    · rw [hid]
      exact getD_ne_empty _ _ hok.2
    · rw [hfiled, hf.inProject]
  | published hpub =>
    have hown := hold _ (OrderedMap.mem_values_of_get? hpub.known)
    exact OrderedMap.forall_values_set hold hown
  | @rebased _ _ _ call rebased hcall =>
    rw [afterRebase_changes]
    obtain ⟨-, hown, -⟩ := hf.calls call (List.mem_of_getElem? hcall)
    exact OrderedMap.forall_values_set (OrderedMap.forall_values_set hold hown) hown
  | restored hcall hrebased hrefused =>
    exact absurd (hrebased ▸ hs.rebasePublishes hcall hok.1.1.1) hrefused
  | reverted =>
    refine OrderedMap.forall_values_set hold ⟨?_, ?_⟩
    · exact getD_ne_empty _ _ hok.2
    · exact congrArg Project.id hf.inProject
  | landed hland =>
    intro change hchange
    obtain ⟨id, hid⟩ := OrderedMap.mem_values_iff.mp hchange
    rcases markLanded_get?_cases hid with hkept | ⟨sel, hsel, -, rfl⟩
    · exact hold change (OrderedMap.mem_values_of_get? hkept)
    · obtain ⟨member, -, hready⟩ := hland.ready hsel
      exact hold sel.change (OrderedMap.mem_values_of_get? hready.knownChange)

theorem Effect.revisions_named (h : Effect s op reply s') (hf : FiledSound project s) :
    ∀ revision ∈ s'.control.revisions.values,
      revision.id ≠ "" ∧ revision.changeId ≠ "" ∧ revision.projectViewId ≠ "" := by
  have hold := hf.revisions
  cases h with
  | unchanged | abandoned | createdWorkspace | createdChange | registered | resolved | suspended
  | restored | handedOff | reverted | landed => exact hold
  | published hpub =>
    obtain ⟨id, -, -, hws⟩ := hpub.selected
    refine OrderedMap.forall_values_set hold ⟨opaqueId_ne_empty _ _, ?_, ?_⟩
    · exact (hf.changes _ (OrderedMap.mem_values_of_get? hpub.known)).1
    · exact hf.workspaces _ (OrderedMap.mem_values_of_get? hws)
  | @rebased _ _ _ call rebased hcall hrebased =>
    rw [afterRebase_revisions]
    obtain ⟨hview, hown, -⟩ := hf.calls call (List.mem_of_getElem? hcall)
    refine OrderedMap.forall_values_set hold ⟨opaqueId_ne_empty _ _, hown.1, ?_⟩
    rw [hrebased]
    exact hview

theorem Effect.calls_own (h : Effect s op reply s') (hok : s.NamedCall op)
    (hfiled : s.FiledAs op reply) (hf : FiledSound project s) :
    ∀ call ∈ s'.inFlight, call.request.view.id ≠ "" ∧ OwnChange project call.change ∧
      ∀ ws ∈ call.previousWorkspace, ws.projectViewId ≠ "" := by
  cases h with
  | unchanged | createdWorkspace | createdChange | registered | resolved | published | handedOff
  | reverted | landed => exact hf.calls
  | abandoned | rebased | restored =>
    exact fun call hcall => hf.calls call (List.mem_of_mem_eraseIdx hcall)
  | suspended hchange hprevious =>
    intro call hcall
    rcases List.mem_append.mp hcall with hmem | hnew
    · exact hf.calls call hmem
    · cases List.mem_singleton.mp hnew
      refine ⟨?_, hf.changes _ (OrderedMap.mem_values_of_get? hchange), fun ws hws => ?_⟩
      · rw [hfiled]
        exact hok.2
      · rcases hprevious with ⟨-, hnone⟩ | ⟨id, found, -, hfound, hsome⟩
        · rw [hnone] at hws
          cases hws
        · rw [hsome] at hws
          cases hws
          exact hf.workspaces _ (OrderedMap.mem_values_of_get? hfound)

/-- **A step keeps every record the Project's own.** -/
theorem Effect.filedSound (h : Effect s op reply s') (hs : Sound s) (hok : s.NamedCall op)
    (hfiled : s.FiledAs op reply) (hf : FiledSound project s) : FiledSound project s' where
  inProject := h.project_eq.trans hf.inProject
  projectRevisions := h.projectRevisions_own hf
  workspaces := h.workspaces_named hs hok hfiled hf
  changes := h.changes_own hs hok hfiled hf
  revisions := h.revisions_named hf
  calls := h.calls_own hok hfiled hf

/-! ## Bases and Workspaces -/

/-- A Change's base is the one its Workspace has, and what a revision or a suspended
rebase says of a Workspace is so. -/
structure BindingSound (s : LocalSystem) : Prop where
  changes : ∀ change ∈ s.control.changes.values, ∀ id ∈ change.workspaceId,
    baseOf s.control id = some change.baseProjectRevisionId
  revisions : ∀ revision ∈ s.control.revisions.values,
    revision.changeId ∈ s.control.changes.keys ∧
      ∃ id, revision.workspaceId = some id ∧ id ∈ s.control.workspaces.keys
  calls : ∀ call ∈ s.inFlight, ∀ ws ∈ call.previousWorkspace,
    baseOf s.control ws.id = some ws.projectRevisionId

theorem bindingSound_initial (project : Project) (canonicalRevision : ProjectRevision) :
    BindingSound (initial project canonicalRevision) where
  changes := fun _ h => nomatch h
  revisions := fun _ h => nomatch h
  calls := fun _ h => nomatch h

/-- The bases of Workspaces that the first state knows are those of the second. -/
def KeepsBases (c c' : LocalChangeCoordinator) : Prop :=
  ∀ id base, baseOf c id = some base → baseOf c' id = some base

/-- Filing a Workspace that is new, or keeps the base of the one it replaces, keeps the
bases. -/
theorem keepsBases_set {c c' : LocalChangeCoordinator} {id : String} {ws : Workspace}
    (hworkspaces : c'.workspaces = c.workspaces.set id ws)
    (hbase : ∀ base, baseOf c id = some base → ws.projectRevisionId = base) :
    KeepsBases c c' := by
  intro id' base hold
  rw [baseOf, hworkspaces, OrderedMap.get?_set]
  split
  · rename_i hid
    rw [hid] at hold
    exact congrArg some (hbase base hold)
  · exact hold

theorem baseOf_eq_none {c : LocalChangeCoordinator} {id : String}
    (h : id ∉ c.workspaces.keys) : baseOf c id = none := by
  rw [baseOf, OrderedMap.not_mem_keys_iff.mp h]
  rfl

/-- A Workspace of the state is found under its id, with its base. -/
theorem Sound.baseOf_of_get? (hs : Sound s) {id : String} {ws : Workspace}
    (hws : s.control.workspaces.get? id = some ws) :
    baseOf s.control ws.id = some ws.projectRevisionId := by
  rw [hs.keyed.workspaces _ _ hws, baseOf, hws]
  rfl

/-- A rebase keeps the bases: its Workspace is new, and the one it closes keeps its own. -/
theorem BindingSound.afterRebase_keepsBases (hb : BindingSound s) {index : Nat} {uuid : String}
    {call : RebaseCall} {rebased : Workspace} (hcall : s.inFlight[index]? = some call)
    (hnew : rebased.id ∉ s.control.workspaces.keys) :
    KeepsBases s.control (s.control.afterRebase call rebased uuid) := by
  have hfiled : KeepsBases s.control
      { s.control with workspaces := s.control.workspaces.set rebased.id rebased } :=
    keepsBases_set rfl fun base hbase => by rw [baseOf_eq_none hnew] at hbase; cases hbase
  refine afterRebase_workspaces_induction
    (fun m => KeepsBases s.control { s.control with workspaces := m }) hfiled
    fun previous hprevious _ id base hold => ?_
  have hbase := hb.calls call (List.mem_of_getElem? hcall) previous hprevious
  refine keepsBases_set (c := { s.control with
    workspaces := s.control.workspaces.set rebased.id rebased }) rfl ?_ id base
    (hfiled id base hold)
  intro base' hbase'
  rw [hfiled _ _ hbase] at hbase'
  exact Option.some.inj hbase'

theorem Effect.keepsBases (h : Effect s op reply s') (hs : Sound s) (hok : s.AllFresh op)
    (hb : BindingSound s) : KeepsBases s.control s'.control := by
  have hsame : ∀ {id} {ws ws' : Workspace}, s.control.workspaces.get? id = some ws →
      ws'.projectRevisionId = ws.projectRevisionId →
      ∀ base, baseOf s.control ws.id = some base → ws'.projectRevisionId = base := by
    intro id ws ws' hws heq base hbase
    rw [hs.baseOf_of_get? hws] at hbase
    exact heq.trans (Option.some.inj hbase)
  cases h with
  | unchanged | abandoned | suspended | published | reverted | landed => exact fun _ _ h => h
  | createdWorkspace _ hid =>
    refine keepsBases_set rfl fun base hbase => ?_
    rw [baseOf_eq_none (hid ▸ not_mem_getD hok.1 hok.2)] at hbase
    cases hbase
  | createdChange hws | registered _ hws | handedOff _ _ hws =>
    exact keepsBases_set rfl (hsame hws rfl)
  | @resolved _ conflict =>
    intro id base hold
    have hcases := @unblockWorkspace_get? s.control (s.control.conflicts.set conflict.id
      { conflict with state := .resolved }) conflict.workspaceId hs.keyed.workspaces id
    rcases hcases with hkept | ⟨ws, state, -, hws, -, hset⟩
    · rw [baseOf, hkept]
      exact hold
    · rw [baseOf, hset]
      rw [baseOf, hws] at hold
      exact hold
  | @rebased index workspaceUuid revisionUuid call rebased hcall hrebased =>
    refine hb.afterRebase_keepsBases hcall ?_
    rw [hrebased, hs.rebased_id workspaceUuid hcall]
    exact hok.1.1
  | restored hcall hrebased hrefused =>
    exact absurd (hrebased ▸ hs.rebasePublishes hcall hok.1.1) hrefused

/-- The Workspace of a finished rebase has the base of its request. -/
theorem afterRebase_baseOf {c : LocalChangeCoordinator} {call : RebaseCall} {rebased : Workspace}
    (uuid : String) :
    baseOf (c.afterRebase call rebased uuid) rebased.id = some rebased.projectRevisionId := by
  refine afterRebase_workspaces_induction
    (fun m => (m.get? rebased.id).map Workspace.projectRevisionId = some rebased.projectRevisionId)
    ?_ fun previous _ hne => ?_
  · rw [OrderedMap.get?_set_self]
    rfl
  · rw [OrderedMap.get?_set_ne _ _ hne.symm, OrderedMap.get?_set_self]
    rfl

theorem Effect.changes_bound (h : Effect s op reply s') (hs : Sound s) (hok : s.AllFresh op)
    (hb : BindingSound s) : ∀ change ∈ s'.control.changes.values, ∀ id ∈ change.workspaceId,
      baseOf s'.control id = some change.baseProjectRevisionId := by
  have hkeep := h.keepsBases hs hok hb
  have hold : ∀ change ∈ s.control.changes.values, ∀ id ∈ change.workspaceId,
      baseOf s'.control id = some change.baseProjectRevisionId :=
    fun change hchange id hid => hkeep _ _ (hb.changes change hchange id hid)
  cases h with
  | unchanged | abandoned | createdWorkspace | registered | resolved | suspended | handedOff =>
    exact hold
  | createdChange hws _ _ _ hbase _ _ hattached =>
    refine OrderedMap.forall_values_set hold fun id hid => ?_
    rw [hattached] at hid
    cases hid
    rw [hbase]
    exact hkeep _ _ (hs.baseOf_of_get? hws)
  | published hpub =>
    refine OrderedMap.forall_values_set hold fun id hid => ?_
    cases hid
    exact hold _ (OrderedMap.mem_values_of_get? hpub.known) _ hpub.attached
  | rebased =>
    rw [afterRebase_changes]
    refine OrderedMap.forall_values_set (OrderedMap.forall_values_set hold ?_) ?_
    all_goals
      intro id hid
      cases hid
      exact afterRebase_baseOf _
  | restored hcall hrebased hrefused =>
    exact absurd (hrebased ▸ hs.rebasePublishes hcall hok.1.1) hrefused
  | reverted _ _ hws =>
    refine OrderedMap.forall_values_set hold fun id hid => ?_
    rcases hws with ⟨-, rfl⟩ | ⟨_, found, -, hfound, rfl, -⟩
    · cases hid
    · cases hid
      exact hkeep _ _ (hs.baseOf_of_get? hfound)
  | landed hland =>
    intro change hchange
    obtain ⟨id, hid⟩ := OrderedMap.mem_values_iff.mp hchange
    rcases markLanded_get?_cases hid with hkept | ⟨sel, hsel, -, rfl⟩
    · exact hold change (OrderedMap.mem_values_of_get? hkept)
    · obtain ⟨member, -, hready⟩ := hland.ready hsel
      have hbound := hold sel.change (OrderedMap.mem_values_of_get? hready.knownChange)
      exact hbound

theorem Effect.revisions_bound (h : Effect s op reply s') (hs : Sound s) (hok : s.AllFresh op)
    (hb : BindingSound s) : ∀ revision ∈ s'.control.revisions.values,
      revision.changeId ∈ s'.control.changes.keys ∧
        ∃ id, revision.workspaceId = some id ∧ id ∈ s'.control.workspaces.keys := by
  have hext := h.extends hs hok.1
  have hold : ∀ revision ∈ s.control.revisions.values,
      revision.changeId ∈ s'.control.changes.keys ∧
        ∃ id, revision.workspaceId = some id ∧ id ∈ s'.control.workspaces.keys := by
    intro revision hrevision
    obtain ⟨hchange, id, hid, hmem⟩ := hb.revisions revision hrevision
    exact ⟨hext.changes hchange, id, hid, hext.workspaces hmem⟩
  cases h with
  | unchanged | abandoned | createdWorkspace | createdChange | registered | resolved | suspended
  | restored | handedOff | reverted | landed => exact hold
  | @published input uuid change ws hpub =>
    refine OrderedMap.forall_values_set hold ⟨OrderedMap.mem_keys_set.mpr (.inl rfl), ws.id, rfl, ?_⟩
    obtain ⟨id, -, -, hws⟩ := hpub.selected
    exact (hs.workspace hws).1
  | @rebased _ _ _ call rebased hcall =>
    rw [afterRebase_revisions]
    refine OrderedMap.forall_values_set hold ⟨?_, rebased.id, rfl, ?_⟩
    · rw [afterRebase_changes]
      exact OrderedMap.mem_keys_set.mpr (.inl rfl)
    · refine afterRebase_workspaces_induction (fun m => rebased.id ∈ m.keys)
        (OrderedMap.mem_keys_set.mpr (.inl rfl)) fun previous _ _ => ?_
      exact OrderedMap.keys_subset_set _ _ _ (OrderedMap.mem_keys_set.mpr (.inl rfl))

theorem Effect.calls_bound (h : Effect s op reply s') (hs : Sound s) (hok : s.AllFresh op)
    (hb : BindingSound s) : ∀ call ∈ s'.inFlight, ∀ ws ∈ call.previousWorkspace,
      baseOf s'.control ws.id = some ws.projectRevisionId := by
  have hkeep := h.keepsBases hs hok hb
  have hold : ∀ call ∈ s.inFlight, ∀ ws ∈ call.previousWorkspace,
      baseOf s'.control ws.id = some ws.projectRevisionId :=
    fun call hcall ws hws => hkeep _ _ (hb.calls call hcall ws hws)
  cases h with
  | unchanged | createdWorkspace | createdChange | registered | resolved | published | handedOff
  | reverted | landed => exact hold
  | abandoned | rebased | restored =>
    exact fun call hcall => hold call (List.mem_of_mem_eraseIdx hcall)
  | suspended hchange hprevious =>
    intro call hcall
    rcases List.mem_append.mp hcall with hmem | hnew
    · exact hold call hmem
    · cases List.mem_singleton.mp hnew
      intro ws hws
      rcases hprevious with ⟨-, hnone⟩ | ⟨id, found, -, hfound, hsome⟩
      · rw [hnone] at hws
        cases hws
      · rw [hsome] at hws
        cases hws
        exact hs.baseOf_of_get? hfound

theorem Effect.bindingSound (h : Effect s op reply s') (hs : Sound s) (hok : s.AllFresh op)
    (hb : BindingSound s) : BindingSound s' where
  changes := h.changes_bound hs hok hb
  revisions := h.revisions_bound hs hok hb
  calls := h.calls_bound hs hok hb

/-! ## Revisions and their Changes -/

/-- A landed Change keeps its binding. -/
theorem landed_binding {input : LandCohortInput} {selected : List Selected} {next : Snapshots}
    (hk : s.control.Keyed) (hland : s.control.Landable input selected next) {id : String}
    {change' : Change} (hget : (markLanded s.control.changes selected).get? id = some change') :
    ∃ change, s.control.changes.get? id = some change ∧
      change'.baseProjectRevisionId = change.baseProjectRevisionId ∧
      change'.workspaceId = change.workspaceId := by
  rw [hland.marked hk] at hget
  split at hget
  · obtain ⟨change, hchange, rfl⟩ := Option.map_eq_some_iff.mp hget
    exact ⟨change, hchange, rfl, rfl⟩
  · exact ⟨change', hget, rfl, rfl⟩

/-- A published Change keeps its binding, and its revision records it. -/
theorem published_binding {input : PublishRevisionInput} {uuid : String} {change : Change}
    {ws : Workspace} (hs : Sound s) (hb : BindingSound s)
    (hpub : s.control.Publishable input change ws) :
    (s.control.publishedRevision input uuid change ws).baseProjectRevisionId
        = some change.baseProjectRevisionId ∧
      (s.control.publishedRevision input uuid change ws).workspaceId = change.workspaceId := by
  obtain ⟨id, -, -, hws⟩ := hpub.selected
  refine ⟨?_, hpub.attached.symm⟩
  have hbase := hb.changes change (OrderedMap.mem_values_of_get? hpub.known) ws.id hpub.attached
  rw [hs.baseOf_of_get? hws] at hbase
  exact hbase

/-- **A step that moves no published Change keeps the revisions in agreement.** -/
theorem Effect.recordsBinding (h : Effect s op reply s') (hs : Sound s) (hok : s.AllFresh op)
    (hb : BindingSound s) (hstays : ¬ s.MovesPublished op)
    (hall : ∀ revision ∈ s.control.revisions.values, RecordsBinding s.control revision) :
    ∀ revision ∈ s'.control.revisions.values, RecordsBinding s'.control revision := by
  -- a Change filed under a new id has no revisions
  have hadded : ∀ {id : String} {change : Change}, id ∉ s.control.changes.keys →
      ∀ revision ∈ s.control.revisions.values, ∀ change',
        (s.control.changes.set id change).get? revision.changeId = some change' →
          ∃ change, s.control.changes.get? revision.changeId = some change ∧
            change'.baseProjectRevisionId = change.baseProjectRevisionId ∧
            change'.workspaceId = change.workspaceId := by
    intro id change hnew revision hrevision change' hget
    have hne : revision.changeId ≠ id := fun heq => hnew (heq ▸ (hb.revisions _ hrevision).1)
    rw [OrderedMap.get?_set_ne _ _ hne] at hget
    exact ⟨change', hget, rfl, rfl⟩
  cases h with
  | unchanged | abandoned | createdWorkspace | registered | resolved | suspended | handedOff =>
    exact hall
  | createdChange _ _ _ hid =>
    intro revision hrevision
    exact (hall revision hrevision).congr
      (hadded (hid ▸ not_mem_getD hok.1 hok.2) revision hrevision)
  | reverted =>
    intro revision hrevision
    exact (hall revision hrevision).congr
      (hadded (not_mem_getD hok.1 hok.2) revision hrevision)
  | @published input uuid change ws hpub =>
    obtain ⟨hbase, hworkspace⟩ := @published_binding s input uuid change ws hs hb hpub
    have hid := hs.keyed.changes _ _ hpub.known
    intro revision hrevision change' hget
    rcases OrderedMap.mem_values_set hrevision with rfl | hold
    · -- the new revision, of the Change as it is filed
      have hself : change' = updatedChange change ws
          (s.control.publishedRevision input uuid change ws) :=
        Option.some.inj (hget.symm.trans (OrderedMap.get?_set_self _ _ _))
      rw [hself]
      exact ⟨hbase, rfl⟩
    · refine (hall revision hold).congr (fun change' hget => ?_) change' hget
      by_cases howner : revision.changeId = change.id
      · rw [howner] at hget ⊢
        cases Option.some.inj (hget.symm.trans (OrderedMap.get?_set_self _ _ _))
        exact ⟨change, hid ▸ hpub.known, rfl, hpub.attached.symm⟩
      · exact ⟨change', (OrderedMap.get?_set_ne _ _ howner).symm.trans hget, rfl, rfl⟩
  | @rebased index workspaceUuid revisionUuid call rebased hcall =>
    have hunpublished : ∀ revision ∈ s.control.revisions.values,
        revision.changeId ≠ call.change.id :=
      fun revision hrevision howner => hstays ⟨rfl, call, hcall, revision, hrevision, howner⟩
    intro revision hrevision
    rw [afterRebase_revisions] at hrevision
    intro change' hget
    rw [afterRebase_changes_get?] at hget
    rcases OrderedMap.mem_values_set hrevision with rfl | hold
    · -- the revision of the rebase, published from where it moved the Change
      rw [if_pos (by rfl)] at hget
      cases hget
      exact ⟨rfl, rfl⟩
    · rw [if_neg (hunpublished revision hold)] at hget
      exact hall revision hold change' hget
  | restored hcall hrebased hrefused =>
    exact absurd (hrebased ▸ hs.rebasePublishes hcall hok.1.1) hrefused
  | landed hland =>
    intro revision hrevision
    exact (hall revision hrevision).congr fun change' hget => landed_binding hs.keyed hland hget

/-- A revision left behind stays so: only a rebase moves a Change, and always to a new
Workspace. -/
theorem Effect.leftBehind (h : Effect s op reply s') (hs : Sound s) (hok : s.AllFresh op)
    (hb : BindingSound s) {revision : ChangeRevision}
    (hrevision : revision ∈ s.control.revisions.values) (hleft : LeftBehind s.control revision) :
    LeftBehind s'.control revision := by
  obtain ⟨change, hget, hne⟩ := hleft
  have hmem := OrderedMap.mem_keys_of_get? hget
  have hother : ∀ {id : String} {v : Change}, id ∉ s.control.changes.keys →
      (s.control.changes.set id v).get? revision.changeId = some change := by
    intro id v hnew
    have hne' : revision.changeId ≠ id := fun heq => hnew (heq ▸ hmem)
    rw [OrderedMap.get?_set_ne _ _ hne', hget]
  cases h with
  | unchanged | abandoned | createdWorkspace | registered | resolved | suspended | handedOff =>
    exact ⟨change, hget, hne⟩
  | createdChange _ _ _ hid => exact ⟨change, hother (hid ▸ not_mem_getD hok.1 hok.2), hne⟩
  | reverted => exact ⟨change, hother (not_mem_getD hok.1 hok.2), hne⟩
  | @published input uuid change' ws hpub =>
    have hid := hs.keyed.changes _ _ hpub.known
    by_cases howner : revision.changeId = change'.id
    · have hsame : change' = change := by
        rw [howner, hid, hpub.known] at hget
        exact Option.some.inj hget
      subst hsame
      refine ⟨updatedChange change' ws (s.control.publishedRevision input uuid change' ws), ?_, ?_⟩
      · rw [howner]
        exact OrderedMap.get?_set_self _ _ _
      · rw [hpub.attached] at hne
        exact hne
    · exact ⟨change, (OrderedMap.get?_set_ne _ _ howner).trans hget, hne⟩
  | @rebased index workspaceUuid revisionUuid call rebased hcall hrebased =>
    unfold LeftBehind
    rw [afterRebase_changes_get?]
    by_cases howner : revision.changeId = call.change.id
    · rw [if_pos howner]
      refine ⟨_, rfl, fun heq => ?_⟩
      obtain ⟨-, id, hid, hknown⟩ := hb.revisions revision hrevision
      rw [hid] at heq
      have hnew : id = rebased.id := Option.some.inj heq
      rw [hnew, hrebased, hs.rebased_id workspaceUuid hcall] at hknown
      exact hok.1.1 hknown
    · rw [if_neg howner]
      exact ⟨change, hget, hne⟩
  | restored hcall hrebased hrefused =>
    exact absurd (hrebased ▸ hs.rebasePublishes hcall hok.1.1) hrefused
  | landed hland =>
    have hmarked := hland.marked hs.keyed revision.changeId
    rw [hget] at hmarked
    split at hmarked
    · exact ⟨landedChange change, hmarked, hne⟩
    · exact ⟨change, hmarked, hne⟩

/-- A step drops no revision. -/
theorem Effect.revisions_kept (h : Effect s op reply s') (hok : s.AllFresh op) :
    s.control.revisions.values ⊆ s'.control.revisions.values := by
  cases h with
  | unchanged | abandoned | createdWorkspace | createdChange | registered | resolved | suspended
  | restored | handedOff | reverted | landed => exact fun _ h => h
  | @published input uuid change ws =>
    intro revision hrevision
    have hnew : (s.control.publishedRevision input uuid change ws).id ∉ s.control.revisions.keys :=
      hok.1.1
    rw [filePublished_revisions, OrderedMap.values_set_of_not_mem _ hnew]
    exact List.mem_append_left _ hrevision
  | rebased =>
    intro revision hrevision
    rw [afterRebase_revisions, OrderedMap.values_set_of_not_mem _ hok.1.2.1]
    exact List.mem_append_left _ hrevision

/-- Finishing a rebase of a published Change leaves its revisions behind. -/
theorem leftBehind_of_movesPublished (text : UnicodeText) (hs : Sound s) (hok : s.AllFresh op)
    (hb : BindingSound s) (hmoves : s.MovesPublished op) :
    ∃ revision ∈ (step text op s).2.control.revisions.values,
      LeftBehind (step text op s).2.control revision := by
  cases op with
  | finishRebase index storage workspaceUuid revisionUuid =>
    obtain ⟨rfl, call, hcall, revision, hrevision, howner⟩ := hmoves
    have hcall : s.inFlight[index]? = some call := hcall
    have hpub := hs.rebasePublishes hcall hok.1.1
    have hpost : (step text (.finishRebase index .written workspaceUuid revisionUuid) s).2.control
        = s.control.afterRebase call (s.control.rebasedWorkspace call workspaceUuid)
          revisionUuid := by
      show (s.resume index .written workspaceUuid revisionUuid).2.control = _
      unfold resume
      rw [hcall]
      simp only [finishRebase_of_publishes revisionUuid hpub]
    refine ⟨revision, (step_effect text _ s).revisions_kept hok hrevision, ?_⟩
    rw [hpost]
    unfold LeftBehind
    rw [afterRebase_changes_get?, if_pos howner]
    refine ⟨_, rfl, fun heq => ?_⟩
    obtain ⟨-, id, hid, hknown⟩ := hb.revisions revision hrevision
    rw [hid] at heq
    have hnew : id = (s.control.rebasedWorkspace call workspaceUuid).id := Option.some.inj heq
    rw [hnew, hs.rebased_id workspaceUuid hcall] at hknown
    exact hok.1.1 hknown
  | createWorkspace | createChange | registerConflict | resolveConflict | publishRevision
  | beginRebase | handoffChange | revertChange | landCohort => exact hmoves.elim

end LocalSystem

open LocalSystem

section Run

variable {text : UnicodeText} {project : Project} {canonicalRevision : ProjectRevision}
  {tr : List (Transition LocalSystem Operation Reply)} {s : LocalSystem}

/-- What a run leaves of its revisions: all in agreement, or one left behind. -/
def AgreesOrLeft (tr : List (Transition LocalSystem Operation Reply)) (s : LocalSystem) : Prop :=
  (∀ t ∈ tr, ¬ t.pre.MovesPublished t.op) ∧
      (∀ revision ∈ s.control.revisions.values, RecordsBinding s.control revision) ∨
    (∃ t ∈ tr, t.pre.MovesPublished t.op) ∧
      ∃ revision ∈ s.control.revisions.values, LeftBehind s.control revision

theorem agreesOrLeft_step {op : Operation} (hs : Sound s) (hok : s.AllFresh op)
    (hb : BindingSound s) (h : AgreesOrLeft tr s) :
    AgreesOrLeft (tr ++ [.of (step text) s op]) (step text op s).2 := by
  have heff := step_effect text op s
  by_cases hmoves : s.MovesPublished op
  · exact .inr ⟨⟨_, List.mem_append_right _ (List.mem_singleton_self _), hmoves⟩,
      leftBehind_of_movesPublished text hs hok hb hmoves⟩
  · rcases h with ⟨hstays, hall⟩ | ⟨⟨t, ht, hmoved⟩, revision, hrevision, hleft⟩
    · refine .inl ⟨fun t ht => ?_, heff.recordsBinding hs hok hb hmoves hall⟩
      rcases List.mem_append.mp ht with hold | hnew
      · exact hstays t hold
      · cases List.mem_singleton.mp hnew
        exact hmoves
    · exact .inr ⟨⟨t, List.mem_append_left _ ht, hmoved⟩, revision,
        heff.revisions_kept hok hrevision, heff.leftBehind hs hok hb hrevision hleft⟩

/-- **Along a run** every record is the Project's own, and the revisions agree with their
Changes or one is left behind. -/
theorem recordsBinding_of_run (hproject : canonicalRevision.projectId = project.id)
    (hrun : RunFrom text project canonicalRevision NamedCall tr s) :
    Sound s ∧ FiledSound project s ∧ BindingSound s ∧ AgreesOrLeft tr s := by
  refine hrun.traceInvariant
    (fun tr s => Sound s ∧ FiledSound project s ∧ BindingSound s ∧ AgreesOrLeft tr s)
    ⟨sound_initial _ _, filedSound_initial hproject, bindingSound_initial _ _,
      .inl ⟨(fun _ h => nomatch h), (fun _ h => nomatch h)⟩⟩ ?_
  rintro tr s op ⟨hs, hfiled, hb, hleft⟩ hok
  have heff := step_effect text op s
  exact ⟨heff.sound hs hok.1.1, heff.filedSound hs hok (step_filedAs text op s) hfiled,
    heff.bindingSound hs hok.1 hb, agreesOrLeft_step hs hok.1 hb hleft⟩

end Run

end Anyam.ChangeControl
