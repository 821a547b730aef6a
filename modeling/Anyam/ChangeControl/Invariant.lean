import Anyam.ChangeControl.System

/-!
# What every reachable coordinator state has

- `Keyed`: each record is filed under its own id, and the canonical revision
  under its. This needs no assumption on identifiers.
- `Sound`: every reference a record holds (to a Project Revision, a Change
  Revision, a Workspace) is to something the coordinator knows. This needs
  `Fresh`: the identifiers `opaqueId` draws are new. Under it a rebase is never
  undone (`Sound.rebasePublishes`).

`sound_invariant` and `sound_traceInvariant` are the run rules the later modules
use: they hand the step its `Effect` and the soundness of the state before it.
-/

namespace Anyam.ChangeControl

open Anyam.Lib Anyam.Kernel

/-! ## Records under their own ids -/

structure LocalChangeCoordinator.Keyed (s : LocalChangeCoordinator) : Prop where
  projectRevisions : OrderedMap.SelfKeyed ProjectRevision.id s.projectRevisions
  workspaces : OrderedMap.SelfKeyed Workspace.id s.workspaces
  changes : OrderedMap.SelfKeyed Change.id s.changes
  revisions : OrderedMap.SelfKeyed ChangeRevision.id s.revisions
  conflicts : OrderedMap.SelfKeyed Conflict.id s.conflicts
  canonical : s.projectRevisions.get? s.canonical.id = some s.canonical

namespace LocalSystem

variable {s s' : LocalSystem} {op : Operation} {reply : Reply}

theorem keyed_initial (project : Project) (canonicalRevision : ProjectRevision) :
    (initial project canonicalRevision).control.Keyed where
  projectRevisions := (OrderedMap.selfKeyed_empty _).set rfl
  workspaces := OrderedMap.selfKeyed_empty _
  changes := OrderedMap.selfKeyed_empty _
  revisions := OrderedMap.selfKeyed_empty _
  conflicts := OrderedMap.selfKeyed_empty _
  canonical := OrderedMap.get?_set_self _ _ _

theorem unblockWorkspace_selfKeyed {c : LocalChangeCoordinator}
    (h : OrderedMap.SelfKeyed Workspace.id c.workspaces) (conflicts : OrderedMap String Conflict)
    (workspaceId : String) :
    OrderedMap.SelfKeyed Workspace.id (c.unblockWorkspace conflicts workspaceId) := by
  unfold LocalChangeCoordinator.unblockWorkspace
  split
  · exact h
  · exact h.set rfl

theorem Effect.keyed (h : Effect s op reply s') (hk : s.control.Keyed) : s'.control.Keyed := by
  cases h with
  | unchanged | abandoned | suspended => exact hk
  | createdWorkspace => exact { hk with workspaces := hk.workspaces.set rfl }
  | createdChange =>
    exact { hk with changes := hk.changes.set rfl, workspaces := hk.workspaces.set rfl }
  | registered =>
    exact { hk with conflicts := hk.conflicts.set rfl, workspaces := hk.workspaces.set rfl }
  | resolved =>
    exact { hk with
      conflicts := hk.conflicts.set rfl
      workspaces := unblockWorkspace_selfKeyed hk.workspaces _ _ }
  | published =>
    exact { hk with
      revisions := hk.revisions.set rfl
      changes := hk.changes.set rfl
      conflicts := LocalChangeCoordinator.markResolutions_selfKeyed hk.conflicts }
  | rebased =>
    refine ⟨?_, ?_, ?_, ?_, ?_, ?_⟩
    · simpa using hk.projectRevisions
    · exact LocalChangeCoordinator.afterRebase_workspaces_induction
        (OrderedMap.SelfKeyed Workspace.id) (hk.workspaces.set rfl) fun previous _ _ => (hk.workspaces.set rfl).set rfl
    · rw [LocalChangeCoordinator.afterRebase_changes]
      exact (hk.changes.set (by rfl)).set (by rfl)
    · rw [LocalChangeCoordinator.afterRebase_revisions]
      exact hk.revisions.set rfl
    · rw [LocalChangeCoordinator.afterRebase_conflicts]
      exact LocalChangeCoordinator.markResolutions_selfKeyed hk.conflicts
    · simpa using hk.canonical
  | restored =>
    exact { hk with
      workspaces := (hk.workspaces.set rfl).delete _
      changes := (hk.changes.set (by rfl)).set (by rfl) }
  | handedOff => exact { hk with workspaces := hk.workspaces.set rfl }
  | reverted => exact { hk with changes := hk.changes.set rfl }
  | landed =>
    exact { hk with
      projectRevisions := hk.projectRevisions.set rfl
      changes := LocalChangeCoordinator.markLanded_selfKeyed hk.changes
      canonical := OrderedMap.get?_set_self _ _ _ }

/-- The states of a coordinator constructed with `canonicalRevision`, after a run
whose operations each satisfied `ok`. -/
abbrev RunFrom (text : UnicodeText) (project : Project) (canonicalRevision : ProjectRevision)
    (ok : LocalSystem → Operation → Prop) :
    List (Transition LocalSystem Operation Reply) → LocalSystem → Prop :=
  Run (step text) ok (initial project canonicalRevision)

variable {text : UnicodeText} {project : Project} {canonicalRevision : ProjectRevision}
  {ok : LocalSystem → Operation → Prop} {tr : List (Transition LocalSystem Operation Reply)}

theorem keyed_of_run (h : RunFrom text project canonicalRevision ok tr s) : s.control.Keyed :=
  h.invariant (fun s => s.control.Keyed) (keyed_initial project canonicalRevision)
    fun s op hk _ => (step_effect text op s).keyed hk

/-- The effect of a transition of a run. -/
theorem effect_of_eq {t : Transition LocalSystem Operation Reply}
    (h : t = .of (step text) t.pre t.op) : Effect t.pre t.op t.reply t.post := by
  have hreply := congrArg Transition.reply h
  have hpost := congrArg Transition.post h
  rw [hreply, hpost]
  exact step_effect text t.op t.pre

/-- A suspended rebase holds the record of its Change, and wrote nothing. -/
theorem Effect.suspended_reads {call : RebaseCall} (h : Effect s op (.suspended call) s')
    (hk : s.control.Keyed) :
    s.control.changes.get? call.change.id = some call.change ∧ s'.control = s.control := by
  cases h with
  | unchanged hreply =>
    rcases hreply with hidle | ⟨failure, hfailed⟩
    · cases hidle
    · cases hfailed
  | suspended hchange =>
    rw [hk.changes _ _ hchange]
    exact ⟨hchange, rfl⟩

/-! ## Fresh identifiers -/

/-- A Change Revision id that names nothing: no stored revision, and no member of
a known Landing. -/
def NewRevisionId (s : LocalSystem) (id : String) : Prop :=
  id ∉ s.control.revisions.keys ∧ ∀ revision ∈ s.control.projectRevisions.values,
    revision.landedChangeRevisionId ≠ some id ∧
      id ∉ revision.landedChangeRevisionIds.getD []

instance (s : LocalSystem) (id : String) : Decidable (s.NewRevisionId id) :=
  inferInstanceAs (Decidable (_ ∧ _))

/-- The identifiers `opaqueId` draws for the operation are not in use. -/
def Fresh (s : LocalSystem) : Operation → Prop
  | .createWorkspace input _ uuid =>
    input.id = none → opaqueId "workspace" uuid ∉ s.control.workspaces.keys
  | .createChange input uuid => input.id = none → opaqueId "change" uuid ∉ s.control.changes.keys
  | .registerConflict input uuid =>
    input.id = none → opaqueId "conflict" uuid ∉ s.control.conflicts.keys
  | .publishRevision _ uuid => s.NewRevisionId (opaqueId "change-revision" uuid)
  | .finishRebase _ _ workspaceUuid revisionUuid =>
    opaqueId "workspace" workspaceUuid ∉ s.control.workspaces.keys ∧
      s.NewRevisionId (opaqueId "change-revision" revisionUuid)
  | .revertChange input uuid =>
    input.id = none → opaqueId "change-revert" uuid ∉ s.control.changes.keys
  | .landCohort _ revisionUuid _ =>
    opaqueId "project-revision" revisionUuid ∉ s.control.projectRevisions.keys
  | .resolveConflict _ | .beginRebase _ | .handoffChange _ _ => True

/-- The identifiers the caller chooses for the operation are not in use. -/
def FreshChoices (s : LocalSystem) : Operation → Prop
  | .createWorkspace input _ _ => ∀ id ∈ input.id, id ∉ s.control.workspaces.keys
  | .createChange input _ => ∀ id ∈ input.id, id ∉ s.control.changes.keys
  | .registerConflict input _ => ∀ id ∈ input.id, id ∉ s.control.conflicts.keys
  | .revertChange input _ => ∀ id ∈ input.id, id ∉ s.control.changes.keys
  | _ => True

instance (s : LocalSystem) : (op : Operation) → Decidable (s.Fresh op)
  | .createWorkspace .. | .createChange .. | .registerConflict .. | .revertChange .. =>
    inferInstanceAs (Decidable (_ → _))
  | .finishRebase .. | .publishRevision .. => inferInstanceAs (Decidable (_ ∧ _))
  | .landCohort .. => inferInstanceAs (Decidable (¬ _))
  | .resolveConflict _ | .beginRebase _ | .handoffChange _ _ => .isTrue trivial

instance (s : LocalSystem) : (op : Operation) → Decidable (s.FreshChoices op)
  | .createWorkspace .. | .createChange .. | .registerConflict .. | .revertChange .. =>
    inferInstanceAs (Decidable (∀ id ∈ _, id ∉ _))
  | .finishRebase .. | .publishRevision .. | .landCohort .. | .resolveConflict _
  | .beginRebase _ | .handoffChange _ _ => .isTrue trivial

/-- Identifiers drawn and identifiers chosen are new. -/
def AllFresh (s : LocalSystem) (op : Operation) : Prop := s.Fresh op ∧ s.FreshChoices op

instance (s : LocalSystem) (op : Operation) : Decidable (s.AllFresh op) :=
  inferInstanceAs (Decidable (_ ∧ _))

/-- An identifier that is drawn or chosen is new when both are. -/
theorem not_mem_getD {keys : List String} {choice : Option String} {drawn : String}
    (hdrawn : choice = none → drawn ∉ keys) (hchosen : ∀ id ∈ choice, id ∉ keys) :
    choice.getD drawn ∉ keys := by
  cases choice with
  | none => exact hdrawn rfl
  | some id => exact hchosen id rfl

/-! ## Known references -/

/-- The second state knows everything the first does. -/
structure Extends (c c' : LocalChangeCoordinator) : Prop where
  projectRevisions : c.projectRevisions.keys ⊆ c'.projectRevisions.keys
  workspaces : c.workspaces.keys ⊆ c'.workspaces.keys
  changes : c.changes.keys ⊆ c'.changes.keys
  revisions : c.revisions.keys ⊆ c'.revisions.keys

theorem Extends.refl (c : LocalChangeCoordinator) : Extends c c :=
  ⟨fun _ h => h, fun _ h => h, fun _ h => h, fun _ h => h⟩

/-- The Change's base and latest revision are known. -/
def KnownChange (c : LocalChangeCoordinator) (change : Change) : Prop :=
  change.baseProjectRevisionId ∈ c.projectRevisions.keys ∧
    ∀ id ∈ change.latestRevisionId, id ∈ c.revisions.keys

/-- What a suspended rebase refers to is known, and its request leaves the choice
of the Workspace id to `opaqueId`. -/
structure KnownCall (c : LocalChangeCoordinator) (call : RebaseCall) : Prop where
  unnamed : call.request.id = none
  base : call.request.view.projectRevisionId ∈ c.projectRevisions.keys
  change : KnownChange c call.change
  changeId : call.change.id ∈ c.changes.keys
  previous : ∀ ws ∈ call.previousWorkspace,
    ws.id ∈ c.workspaces.keys ∧ ws.projectRevisionId ∈ c.projectRevisions.keys

structure Sound (s : LocalSystem) : Prop where
  keyed : s.control.Keyed
  workspaces : ∀ ws ∈ s.control.workspaces.values,
    ws.projectRevisionId ∈ s.control.projectRevisions.keys
  changes : ∀ change ∈ s.control.changes.values, KnownChange s.control change
  revisions : ∀ revision ∈ s.control.revisions.values,
    revision.base ∈ s.control.projectRevisions.keys
  conflicts : ∀ conflict ∈ s.control.conflicts.values,
    conflict.workspaceId ∈ s.control.workspaces.keys ∧
      conflict.changeId ∈ s.control.changes.keys
  calls : ∀ call ∈ s.inFlight, KnownCall s.control call

section Extends

variable {c c' : LocalChangeCoordinator}

theorem Extends.trans {c'' : LocalChangeCoordinator} (h : Extends c c') (h' : Extends c' c'') :
    Extends c c'' :=
  ⟨fun _ hk => h'.1 (h.1 hk), fun _ hk => h'.2 (h.2 hk), fun _ hk => h'.3 (h.3 hk),
    fun _ hk => h'.4 (h.4 hk)⟩

theorem KnownChange.mono {change : Change} (h : KnownChange c change) (hext : Extends c c') :
    KnownChange c' change :=
  ⟨hext.projectRevisions h.1, fun id hid => hext.revisions (h.2 id hid)⟩

theorem KnownCall.mono {call : RebaseCall} (h : KnownCall c call) (hext : Extends c c') :
    KnownCall c' call :=
  ⟨h.unnamed, hext.projectRevisions h.base, h.change.mono hext, hext.changes h.changeId,
    fun ws hws => ⟨hext.workspaces (h.previous ws hws).1,
      hext.projectRevisions (h.previous ws hws).2⟩⟩

end Extends

theorem Sound.canonical_known (h : Sound s) :
    s.control.canonical.id ∈ s.control.projectRevisions.keys :=
  OrderedMap.mem_keys_of_get? h.keyed.canonical

theorem Sound.call (h : Sound s) {index : Nat} {call : RebaseCall}
    (hcall : s.inFlight[index]? = some call) : KnownCall s.control call :=
  h.calls call (List.mem_of_getElem? hcall)

theorem Sound.change (h : Sound s) {id : String} {change : Change}
    (hchange : s.control.changes.get? id = some change) : KnownChange s.control change :=
  h.changes change (OrderedMap.mem_values_of_get? hchange)

theorem Sound.workspace (h : Sound s) {id : String} {ws : Workspace}
    (hws : s.control.workspaces.get? id = some ws) :
    ws.id ∈ s.control.workspaces.keys ∧
      ws.projectRevisionId ∈ s.control.projectRevisions.keys := by
  refine ⟨?_, h.workspaces ws (OrderedMap.mem_values_of_get? hws)⟩
  rw [h.keyed.workspaces _ _ hws]
  exact OrderedMap.mem_keys_of_get? hws

/-- The Workspace of a rebase is new. -/
theorem Sound.rebased_id (h : Sound s) {index : Nat} {call : RebaseCall} (workspaceUuid : String)
    (hcall : s.inFlight[index]? = some call) :
    (s.control.rebasedWorkspace call workspaceUuid).id = opaqueId "workspace" workspaceUuid := by
  show call.request.id.getD _ = _
  rw [(h.call hcall).unnamed]
  rfl

/-- With a new Workspace id, the publication of a rebase is not refused. -/
theorem Sound.rebasePublishes (h : Sound s) {index : Nat} {call : RebaseCall}
    {workspaceUuid : String} (hcall : s.inFlight[index]? = some call)
    (hfresh : opaqueId "workspace" workspaceUuid ∉ s.control.workspaces.keys) :
    s.control.RebasePublishes call (s.control.rebasedWorkspace call workspaceUuid) := by
  unfold LocalChangeCoordinator.RebasePublishes
  rw [h.rebased_id workspaceUuid hcall]
  refine ⟨opaqueId_ne_empty _ _, fun conflict hconflict => ?_⟩
  obtain ⟨hmem, -, hplace⟩ := LocalChangeCoordinator.mem_conflictsOf.mp hconflict
  exact absurd (hplace ▸ (h.conflicts conflict hmem).1) hfresh

theorem sound_initial (project : Project) (canonicalRevision : ProjectRevision) :
    Sound (initial project canonicalRevision) where
  keyed := keyed_initial project canonicalRevision
  workspaces := fun _ h => nomatch h
  changes := fun _ h => nomatch h
  revisions := fun _ h => nomatch h
  conflicts := fun _ h => nomatch h
  calls := fun _ h => nomatch h

/-! ## Soundness of a step -/

theorem keys_subset_unblockWorkspace (c : LocalChangeCoordinator)
    (conflicts : OrderedMap String Conflict) (workspaceId : String) :
    c.workspaces.keys ⊆ (c.unblockWorkspace conflicts workspaceId).keys := by
  unfold LocalChangeCoordinator.unblockWorkspace
  split
  · exact fun _ h => h
  · exact OrderedMap.keys_subset_set _ _ _

/-- Under fresh identifiers no step forgets anything: the only removal, of the
Workspace of a refused rebase, does not happen. -/
theorem Effect.extends (h : Effect s op reply s') (hs : Sound s) (hf : s.Fresh op) :
    Extends s.control s'.control := by
  have hrefl := Extends.refl s.control
  cases h with
  | unchanged | abandoned | suspended => exact hrefl
  | createdWorkspace => exact { hrefl with workspaces := OrderedMap.keys_subset_set _ _ _ }
  | createdChange =>
    exact { hrefl with
      changes := OrderedMap.keys_subset_set _ _ _
      workspaces := OrderedMap.keys_subset_set _ _ _ }
  | registered => exact { hrefl with workspaces := OrderedMap.keys_subset_set _ _ _ }
  | resolved => exact { hrefl with workspaces := keys_subset_unblockWorkspace _ _ _ }
  | published =>
    exact { hrefl with
      changes := OrderedMap.keys_subset_set _ _ _
      revisions := OrderedMap.keys_subset_set _ _ _ }
  | @rebased index workspaceUuid revisionUuid call rebased =>
    refine ⟨by simp, ?_, ?_, ?_⟩
    · exact LocalChangeCoordinator.afterRebase_workspaces_induction
        (fun m => s.control.workspaces.keys ⊆ m.keys)
        (OrderedMap.keys_subset_set _ _ _) fun previous _ _ =>
          List.Subset.trans (OrderedMap.keys_subset_set _ _ _) (OrderedMap.keys_subset_set _ _ _)
    · rw [LocalChangeCoordinator.afterRebase_changes]
      exact List.Subset.trans (OrderedMap.keys_subset_set _ _ _) (OrderedMap.keys_subset_set _ _ _)
    · rw [LocalChangeCoordinator.afterRebase_revisions]
      exact OrderedMap.keys_subset_set _ _ _
  | restored hcall hrebased hrefused =>
    exact absurd (hrebased ▸ hs.rebasePublishes hcall hf.1) hrefused
  | handedOff => exact { hrefl with workspaces := OrderedMap.keys_subset_set _ _ _ }
  | reverted => exact { hrefl with changes := OrderedMap.keys_subset_set _ _ _ }
  | landed =>
    exact { hrefl with
      projectRevisions := OrderedMap.keys_subset_set _ _ _
      changes := LocalChangeCoordinator.keys_subset_markLanded }

theorem Effect.workspaces_known (h : Effect s op reply s') (hs : Sound s) :
    ∀ ws ∈ s'.control.workspaces.values,
      ws.projectRevisionId ∈ s.control.projectRevisions.keys := by
  have hold := hs.workspaces
  cases h with
  | unchanged | abandoned | suspended | published | reverted | landed => exact hold
  | createdWorkspace hbase => exact OrderedMap.forall_values_set hold hbase
  | createdChange hws | registered _ hws | handedOff _ _ hws =>
    exact OrderedMap.forall_values_set hold (hs.workspace hws).2
  | @resolved _ conflict =>
    show ∀ ws ∈ (s.control.unblockWorkspace _ conflict.workspaceId).values, _
    unfold LocalChangeCoordinator.unblockWorkspace
    split
    · exact hold
    · rename_i ws hws
      exact OrderedMap.forall_values_set hold (hs.workspace hws).2
  | @rebased _ _ _ call rebased hcall hrebased =>
    have hbase : rebased.projectRevisionId ∈ s.control.projectRevisions.keys := by
      subst hrebased
      exact (hs.call hcall).base
    exact LocalChangeCoordinator.afterRebase_workspaces_induction
      (fun m => ∀ ws ∈ m.values, ws.projectRevisionId ∈ s.control.projectRevisions.keys)
      (OrderedMap.forall_values_set hold hbase) fun previous hprevious _ =>
        OrderedMap.forall_values_set (OrderedMap.forall_values_set hold hbase)
          ((hs.call hcall).previous previous hprevious).2
  | restored hcall hrebased =>
    intro ws hws
    obtain ⟨id, hid⟩ := OrderedMap.mem_values_iff.mp hws
    refine hold ws (OrderedMap.mem_values_iff.mpr ⟨id, ?_⟩)
    unfold LocalChangeCoordinator.afterRefusedRebase at hid
    grind

/-- Landing marks known Changes. -/
theorem landing_changes_known {input : LandCohortInput} {selected : List Selected}
    {next : Snapshots} (hs : Sound s) (h : s.control.Landable input selected next) :
    ∀ change ∈ (LocalChangeCoordinator.markLanded s.control.changes selected).values,
      KnownChange s.control change := by
  intro change hchange
  obtain ⟨id, hid⟩ := OrderedMap.mem_values_iff.mp hchange
  rcases LocalChangeCoordinator.markLanded_get?_cases hid with hkept | ⟨sel, hsel, -, rfl⟩
  · exact hs.change hkept
  · obtain ⟨member, -, hready⟩ := h.ready hsel
    have hknown := hs.change hready.knownChange
    exact hknown

theorem Effect.changes_known (h : Effect s op reply s') (hs : Sound s) (hf : s.Fresh op) :
    ∀ change ∈ s'.control.changes.values, KnownChange s'.control change := by
  have hext := h.extends hs hf
  have hold : ∀ change ∈ s.control.changes.values, KnownChange s'.control change :=
    fun change hchange => (hs.changes change hchange).mono hext
  have hcanonical := hext.projectRevisions hs.canonical_known
  cases h with
  | unchanged | abandoned | suspended | createdWorkspace | registered | resolved | handedOff =>
    exact hold
  | createdChange hws _ _ _ hbase _ hlatest =>
    refine OrderedMap.forall_values_set hold ⟨?_, ?_⟩
    · rw [hbase]
      exact hext.projectRevisions (hs.workspace hws).2
    · rw [hlatest]
      exact nofun
  | published hpub =>
    refine OrderedMap.forall_values_set hold ⟨(hold _ (OrderedMap.mem_values_of_get? hpub.known)).1, ?_⟩
    rintro id hid
    cases Option.some.inj hid
    exact OrderedMap.mem_keys_set.mpr (.inl rfl)
  | rebased hcall hrebased =>
    rw [LocalChangeCoordinator.afterRebase_changes]
    have hbase := hext.projectRevisions (hs.call hcall).base
    subst hrebased
    refine OrderedMap.forall_values_set (OrderedMap.forall_values_set hold ⟨hbase, ?_⟩)
      ⟨hbase, ?_⟩
    · exact ((hs.call hcall).change.mono hext).2
    · rintro id hid
      cases Option.some.inj hid
      rw [LocalChangeCoordinator.afterRebase_revisions]
      exact OrderedMap.mem_keys_set.mpr (.inl rfl)
  | restored hcall hrebased hrefused =>
    exact absurd (hrebased ▸ hs.rebasePublishes hcall hf.1) hrefused
  | reverted _ _ hws =>
    refine OrderedMap.forall_values_set hold ⟨?_, nofun⟩
    show (_ : Option String).getD _ ∈ _
    rw [hws.base]
    exact hcanonical
  | landed hland =>
    intro change hchange
    exact (landing_changes_known hs hland change hchange).mono hext

theorem Effect.revisions_known (h : Effect s op reply s') (hs : Sound s) :
    ∀ revision ∈ s'.control.revisions.values,
      revision.base ∈ s.control.projectRevisions.keys := by
  have hold := hs.revisions
  cases h with
  | unchanged | abandoned | suspended | createdWorkspace | createdChange | registered | resolved
  | restored | handedOff | reverted | landed => exact hold
  | published hpub =>
    obtain ⟨id, -, -, hws⟩ := hpub.selected
    exact OrderedMap.forall_values_set hold (hs.workspace hws).2
  | rebased hcall hrebased =>
    rw [LocalChangeCoordinator.afterRebase_revisions]
    subst hrebased
    exact OrderedMap.forall_values_set hold (hs.call hcall).base

theorem Effect.conflicts_known (h : Effect s op reply s') (hs : Sound s) (hf : s.Fresh op) :
    ∀ conflict ∈ s'.control.conflicts.values,
      conflict.workspaceId ∈ s'.control.workspaces.keys ∧
        conflict.changeId ∈ s'.control.changes.keys := by
  have hext := h.extends hs hf
  have hold : ∀ conflict ∈ s.control.conflicts.values,
      conflict.workspaceId ∈ s'.control.workspaces.keys ∧
        conflict.changeId ∈ s'.control.changes.keys := fun conflict hconflict =>
    ⟨hext.workspaces (hs.conflicts conflict hconflict).1,
      hext.changes (hs.conflicts conflict hconflict).2⟩
  -- publication rewrites Conflicts, but only the revision that resolved them
  have hmarked : ∀ {changeId workspaceId revisionId : String}, ∀ conflict ∈
      (LocalChangeCoordinator.markResolutions s.control.conflicts
        (s.control.conflictsOf changeId workspaceId) revisionId).values,
      conflict.workspaceId ∈ s'.control.workspaces.keys ∧
        conflict.changeId ∈ s'.control.changes.keys := by
    intro changeId workspaceId revisionId conflict hconflict
    obtain ⟨old, hmem, resolution, rfl⟩ :=
      LocalChangeCoordinator.mem_marked hs.keyed.conflicts hconflict
    exact hold old hmem
  cases h with
  | unchanged | abandoned | suspended | createdWorkspace | createdChange | handedOff | reverted
  | landed => exact hold
  | registered hchange hws _ _ howner hplace =>
    refine OrderedMap.forall_values_set hold ⟨?_, ?_⟩
    · rw [hplace]
      exact hext.workspaces (hs.workspace hws).1
    · rw [howner, hs.keyed.changes _ _ hchange]
      exact hext.changes (OrderedMap.mem_keys_of_get? hchange)
  | resolved hconflict =>
    have hknown := hold _ (OrderedMap.mem_values_of_get? hconflict)
    exact OrderedMap.forall_values_set hold hknown
  | published => exact hmarked
  | rebased =>
    rw [LocalChangeCoordinator.afterRebase_conflicts]
    exact hmarked
  | restored hcall hrebased hrefused =>
    exact absurd (hrebased ▸ hs.rebasePublishes hcall hf.1) hrefused

theorem Effect.calls_known (h : Effect s op reply s') (hs : Sound s) (hf : s.Fresh op) :
    ∀ call ∈ s'.inFlight, KnownCall s'.control call := by
  have hext := h.extends hs hf
  have hold : ∀ call ∈ s.inFlight, KnownCall s'.control call := fun call hcall =>
    (hs.calls call hcall).mono hext
  cases h with
  | unchanged | createdWorkspace | createdChange | registered | resolved | published | handedOff
  | reverted | landed => exact hold
  | abandoned | rebased | restored =>
    exact fun call hcall => hold call (List.mem_of_mem_eraseIdx hcall)
  | suspended hchange hprevious hbase hid =>
    intro call hcall
    rcases List.mem_append.mp hcall with hmem | hnew
    · exact hold call hmem
    · cases List.mem_singleton.mp hnew
      refine ⟨hid, hbase, hs.change hchange, ?_, fun ws hws => ?_⟩
      · rw [hs.keyed.changes _ _ hchange]
        exact OrderedMap.mem_keys_of_get? hchange
      · rcases hprevious with ⟨-, hnone⟩ | ⟨id, found, -, hfound, hsome⟩
        · rw [hnone] at hws
          cases hws
        · rw [hsome] at hws
          cases hws
          exact hs.workspace hfound

/-- **Soundness is preserved by every step with fresh identifiers.** -/
theorem Effect.sound (h : Effect s op reply s') (hs : Sound s) (hf : s.Fresh op) : Sound s' where
  keyed := h.keyed hs.keyed
  workspaces := fun ws hws =>
    (h.extends hs hf).projectRevisions (h.workspaces_known hs ws hws)
  changes := h.changes_known hs hf
  revisions := fun revision hrevision =>
    (h.extends hs hf).projectRevisions (h.revisions_known hs revision hrevision)
  conflicts := h.conflicts_known hs hf
  calls := h.calls_known hs hf

/-! ## Run rules -/

/-- What a step takes from soundness and its effect to preserve, a run has. -/
theorem sound_traceInvariant {s₀ : LocalSystem} (hs₀ : Sound s₀)
    (I : List (Transition LocalSystem Operation Reply) → LocalSystem → Prop)
    (hok : ∀ s op, ok s op → s.Fresh op) (h0 : I [] s₀)
    (hstep : ∀ tr (t : Transition LocalSystem Operation Reply), I tr t.pre → Sound t.pre →
      ok t.pre t.op → Effect t.pre t.op t.reply t.post → I (tr ++ [t]) t.post)
    (h : Run (step text) ok s₀ tr s) : Sound s ∧ I tr s := by
  refine h.traceInvariant (fun tr s => Sound s ∧ I tr s) ⟨hs₀, h0⟩ ?_
  rintro tr s op ⟨hs, hI⟩ hsok
  have heff := step_effect text op s
  exact ⟨heff.sound hs (hok s op hsok), hstep tr (.of (step text) s op) hI hs hsok heff⟩

theorem sound_invariant {s₀ : LocalSystem} (hs₀ : Sound s₀) (I : LocalSystem → Prop)
    (hok : ∀ s op, ok s op → s.Fresh op) (h0 : I s₀)
    (hstep : ∀ s op reply s', I s → Sound s → ok s op → Effect s op reply s' → I s')
    (h : Run (step text) ok s₀ tr s) : Sound s ∧ I s :=
  sound_traceInvariant hs₀ (fun _ s => I s) hok h0
    (fun _ t hI hs hsok heff => hstep t.pre t.op t.reply t.post hI hs hsok heff) h

end LocalSystem

end Anyam.ChangeControl
