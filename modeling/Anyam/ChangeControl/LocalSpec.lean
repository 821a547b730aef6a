import Anyam.ChangeControl.Local

/-!
# What each coordinator method establishes

One lemma per method of `LocalChangeCoordinator`: what held of the state when it
returned, and what it returned. The run-level proofs use these and never unfold a
method. The last section has the two bulk writes, `markResolutions` and
`markLanded`, by what they leave under each key.
-/

namespace Anyam.ChangeControl

open Anyam.Lib Anyam.Kernel

namespace LocalChangeCoordinator

variable {s s' : LocalChangeCoordinator} {text : UnicodeText} {uuid : String}

/-! ## Lookups and Workspaces -/

theorem requireWorkspace_eq_ok {workspaceId : Option String} {ws : Workspace} :
    s.requireWorkspace workspaceId = .ok ws ↔
      ∃ id, workspaceId = some id ∧ id ≠ "" ∧ s.workspaces.get? id = some ws := by
  simp only [requireWorkspace, bind_eq_ok, orThrow_eq_ok, truthy_eq_some, and_assoc]

/-- An optional Workspace is absent or known. -/
theorem optionalWorkspace_eq_ok {workspaceId : Option String} {ws : Option Workspace} :
    s.optionalWorkspace workspaceId = .ok ws ↔
      truthy workspaceId = none ∧ ws = none ∨
        ∃ id found, truthy workspaceId = some id ∧ s.workspaces.get? id = some found ∧
          ws = some found := by
  unfold optionalWorkspace
  cases hid : truthy workspaceId with
  | none => simp [eq_comm]
  | some id =>
    obtain ⟨hsome, hne⟩ := truthy_eq_some.mp hid
    rw [map_eq_ok]
    simp only [requireWorkspace_eq_ok, hsome, Option.some.injEq]
    constructor
    · rintro ⟨found, ⟨_, rfl, -, hfound⟩, rfl⟩
      exact .inr ⟨id, found, rfl, hfound, rfl⟩
    · rintro (⟨h, -⟩ | ⟨_, found, rfl, hfound, rfl⟩)
      · cases h
      · exact ⟨found, ⟨id, rfl, hne, hfound⟩, rfl⟩

theorem requireChange_eq_ok {changeId : String} {change : Change} :
    s.requireChange changeId = .ok change ↔ s.changes.get? changeId = some change := by
  simp only [requireChange, orThrow_eq_ok]

theorem mem_conflictsOf {changeId workspaceId : String} {k : Conflict} :
    k ∈ s.conflictsOf changeId workspaceId ↔
      k ∈ s.conflicts.values ∧ k.changeId = changeId ∧ k.workspaceId = workspaceId := by
  simp [conflictsOf]

/-- An accepted Workspace request is over a known Project Revision. -/
theorem createWorkspaceMounts_base {input : CreateWorkspaceInput} {mounts : List WorkspaceMount}
    (h : s.createWorkspaceMounts text input = .ok mounts) :
    input.view.projectRevisionId ∈ s.projectRevisions.keys := by
  simp only [createWorkspaceMounts, bind_eq_ok, orThrow_eq_ok] at h
  obtain ⟨revision, hrev, -⟩ := h
  exact OrderedMap.mem_keys_of_get? hrev

theorem createWorkspace_ok {input : CreateWorkspaceInput} {storage : StorageOutcome}
    {ws : Workspace} (h : s.createWorkspace text input storage uuid = .ok (ws, s')) :
    ws.projectRevisionId ∈ s.projectRevisions.keys ∧
      ws.id = input.id.getD (opaqueId "workspace" uuid) ∧ ws.state = .active ∧
      ws.changeId = none ∧ s' = { s with workspaces := s.workspaces.set ws.id ws } := by
  simp only [createWorkspace, bind_eq_ok, pure_eq_ok, mapError_eq_ok, exists_unit,
    Prod.mk.injEq] at h
  obtain ⟨mounts, hmounts, -, rfl, rfl⟩ := h
  exact ⟨createWorkspaceMounts_base hmounts, rfl, rfl, rfl, rfl⟩

/-! ## Changes and Conflicts -/

theorem createChange_ok {input : CreateChangeInput} {change : Change}
    (h : s.createChange input uuid = .ok (change, s')) :
    ∃ ws, s.workspaces.get? input.workspaceId = some ws ∧ ws.state = .active ∧
      truthy ws.changeId = none ∧ change.id = input.id.getD (opaqueId "change" uuid) ∧
      change.baseProjectRevisionId = ws.projectRevisionId ∧ change.status = .active ∧
      change.latestRevisionId = none ∧ change.workspaceId = some ws.id ∧
      s' = { s with
        changes := s.changes.set change.id change
        workspaces := s.workspaces.set ws.id { ws with changeId := some change.id } } := by
  simp only [createChange, bind_eq_ok, orThrow_eq_ok, require_eq_ok, exists_unit, pure_eq_ok,
    Prod.mk.injEq] at h
  obtain ⟨ws, hws, hstate, hfree, rfl, rfl⟩ := h
  exact ⟨ws, hws, hstate, hfree, rfl, rfl, rfl, rfl, rfl, rfl⟩

theorem registerConflict_ok {input : RegisterConflictInput} {conflict : Conflict}
    (h : s.registerConflict input uuid = .ok (conflict, s')) :
    ∃ change ws, s.changes.get? input.changeId = some change ∧
      s.workspaces.get? input.workspaceId = some ws ∧ change.workspaceId = some ws.id ∧
      conflict.id = input.id.getD (opaqueId "conflict" uuid) ∧ conflict.changeId = change.id ∧
      conflict.workspaceId = ws.id ∧ conflict.state = .«open» ∧
      s' = { s with
        conflicts := s.conflicts.set conflict.id conflict
        workspaces := s.workspaces.set ws.id { ws with state := .blocked } } := by
  simp only [registerConflict, bind_eq_ok, requireChange_eq_ok, requireWorkspace_eq_ok,
    require_eq_ok, exists_unit, pure_eq_ok, Prod.mk.injEq, Option.some.injEq] at h
  obtain ⟨change, hchange, ws, ⟨id, rfl, -, hws⟩, hattached, -, paths, -, rfl, rfl⟩ := h
  exact ⟨change, ws, hchange, hws, hattached, rfl, rfl, rfl, rfl, rfl⟩

theorem resolveConflict_ok {conflictId : String} {updated : Conflict}
    (h : s.resolveConflict conflictId = .ok (updated, s')) :
    ∃ conflict, s.conflicts.get? conflictId = some conflict ∧
      updated = { conflict with state := .resolved } ∧
      s' = { s with
        conflicts := s.conflicts.set updated.id updated
        workspaces := s.unblockWorkspace (s.conflicts.set updated.id updated)
          updated.workspaceId } := by
  simp only [resolveConflict, bind_eq_ok, orThrow_eq_ok, pure_eq_ok, Prod.mk.injEq] at h
  obtain ⟨conflict, hconflict, rfl, rfl⟩ := h
  exact ⟨conflict, hconflict, rfl, rfl⟩

/-- The Conflict's Workspace, if known, is rewritten with a new state; every other
Workspace is left. -/
theorem unblockWorkspace_get? {conflicts : OrderedMap String Conflict} {workspaceId : String}
    (hkeyed : OrderedMap.SelfKeyed Workspace.id s.workspaces) (id : String) :
    (s.unblockWorkspace conflicts workspaceId).get? id = s.workspaces.get? id ∨
      ∃ ws state, id = workspaceId ∧ s.workspaces.get? id = some ws ∧ state ≠ .closed ∧
        (s.unblockWorkspace conflicts workspaceId).get? id = some { ws with state := state } := by
  unfold unblockWorkspace
  cases hws : s.workspaces.get? workspaceId with
  | none => exact .inl rfl
  | some ws =>
    have hid : ws.id = workspaceId := hkeyed _ _ hws
    by_cases hk : id = ws.id
    · subst hk
      right
      by_cases hopen : ∃ candidate ∈ conflicts.values,
          candidate.workspaceId = ws.id ∧ candidate.state = .«open»
      · exact ⟨ws, .blocked, hid, hid ▸ hws, by decide, by simp [hopen]⟩
      · exact ⟨ws, .active, hid, hid ▸ hws, by decide, by simp [hopen]⟩
    · exact .inl (OrderedMap.get?_set_ne _ _ hk)

/-! ## Publication -/

/-- What `publishRevision` checks of the Change, its Workspace and the request. -/
structure Publishable (s : LocalChangeCoordinator) (input : PublishRevisionInput)
    (change : Change) (ws : Workspace) : Prop where
  known : s.changes.get? input.changeId = some change
  selected : ∃ id, input.workspaceId.or change.workspaceId = some id ∧ id ≠ "" ∧
    s.workspaces.get? id = some ws
  attached : change.workspaceId = some ws.id
  notClosed : ws.state ≠ .closed
  named : ∀ id ∈ input.conflictIds.getD [], ∃ conflict, s.conflicts.get? id = some conflict ∧
    conflict.changeId = change.id ∧ conflict.workspaceId = ws.id
  noOpen : ∀ conflict ∈ s.conflictsOf change.id ws.id, conflict.state ≠ .«open»
  snapshots : ∀ requested, input.sourceSpaceSnapshots = some requested →
    snapshotsMatchMounts requested ws.mounts

theorem publishChecks_eq_ok {input : PublishRevisionInput} {change : Change} {ws : Workspace} :
    s.publishChecks input = .ok (change, ws) ↔ s.Publishable input change ws := by
  simp only [publishChecks, bind_eq_ok, orThrow_eq_ok, truthy_eq_some, requireChange_eq_ok,
    requireWorkspace_eq_ok, require_eq_ok, forM_eq_ok, exists_unit, List.filter_eq_nil_iff,
    decide_eq_true_eq, Option.some.injEq]
  constructor
  · rintro ⟨change', hchange, id, ⟨hor, hne⟩, ws', ⟨_, rfl, -, hws⟩, hatt, hclosed, hnamed, hopen,
      hmatch⟩
    cases hreq : input.sourceSpaceSnapshots with
    | none =>
      rw [hreq] at hmatch
      cases hmatch
      exact ⟨hchange, ⟨id, hor, hne, hws⟩, hatt, hclosed, hnamed, hopen, by simp [hreq]⟩
    | some requested =>
      rw [hreq] at hmatch
      obtain ⟨u, hsnap, hpair⟩ := bind_eq_ok.mp hmatch
      cases hpair
      refine ⟨hchange, ⟨id, hor, hne, hws⟩, hatt, hclosed, hnamed, hopen, fun r hr => ?_⟩
      rw [hreq] at hr
      cases hr
      exact require_eq_ok.mp hsnap
  · intro h
    obtain ⟨id, hor, hne, hws⟩ := h.selected
    refine ⟨change, h.known, id, ⟨hor, hne⟩, ws, ⟨id, rfl, hne, hws⟩, h.attached, h.notClosed,
      h.named, h.noOpen, ?_⟩
    cases hreq : input.sourceSpaceSnapshots with
    | none => rfl
    | some requested =>
      exact bind_eq_ok.mpr ⟨(), require_eq_ok.mpr (h.snapshots _ hreq), rfl⟩

theorem publishRevision_eq_ok {input : PublishRevisionInput} {revision : ChangeRevision} :
    s.publishRevision input uuid = .ok (revision, s') ↔
      ∃ change ws, s.Publishable input change ws ∧
        revision = s.publishedRevision input uuid change ws ∧
        s' = s.filePublished change ws revision := by
  simp only [publishRevision, bind_eq_ok, pure_eq_ok, Prod.mk.injEq, Prod.exists,
    publishChecks_eq_ok]
  constructor
  · rintro ⟨change, ws, hpub, rfl, rfl⟩
    exact ⟨change, ws, hpub, rfl, rfl⟩
  · rintro ⟨change, ws, hpub, rfl, rfl⟩
    exact ⟨change, ws, hpub, rfl, rfl⟩

@[simp] theorem filePublished_revisions {change : Change} {ws : Workspace}
    {revision : ChangeRevision} : (s.filePublished change ws revision).revisions =
      s.revisions.set revision.id revision := rfl

/-! ## Rebase, handoff and revert -/

theorem beginRebase_ok {input : RebaseChangeInput} {call : RebaseCall}
    (h : s.beginRebase text input = .ok call) :
    s.changes.get? input.changeId = some call.change ∧
      (truthy call.change.workspaceId = none ∧ call.previousWorkspace = none ∨
        ∃ id ws, truthy call.change.workspaceId = some id ∧ s.workspaces.get? id = some ws ∧
          call.previousWorkspace = some ws) ∧
      call.request.view.projectRevisionId ∈ s.projectRevisions.keys ∧
      call.request.id = none := by
  simp only [beginRebase, bind_eq_ok, requireChange_eq_ok, optionalWorkspace_eq_ok,
    pure_eq_ok] at h
  obtain ⟨change, hchange, previous, hprevious, mounts, hmounts, rfl⟩ := h
  exact ⟨hchange, hprevious, createWorkspaceMounts_base hmounts, rfl⟩

/-- The checks of the publication a rebase ends with that are left to fail. -/
def RebasePublishes (s : LocalChangeCoordinator) (call : RebaseCall) (rebased : Workspace) : Prop :=
  rebased.id ≠ "" ∧
    ∀ conflict ∈ s.conflictsOf call.change.id rebased.id, conflict.state ≠ .«open»

theorem attachRebased_publishable_iff {call : RebaseCall} {rebased : Workspace} {change : Change}
    {ws : Workspace} (hactive : rebased.state = .active) :
    (s.attachRebased call rebased).Publishable (rebasePublication call rebased) change ws ↔
      change = rebasedChange call rebased ∧ ws = rebased ∧ s.RebasePublishes call rebased := by
  constructor
  · intro h
    have hchange : rebasedChange call rebased = change := by
      have hknown := h.known
      rw [attachRebased, rebasePublication, OrderedMap.get?_set_self] at hknown
      exact Option.some.inj hknown
    subst hchange
    obtain ⟨id, hid, hne, hget⟩ := h.selected
    cases Option.some.inj hid
    rw [attachRebased, OrderedMap.get?_set_self] at hget
    cases hget
    exact ⟨rfl, rfl, hne, h.noOpen⟩
  · rintro ⟨rfl, rfl, hne, hopen⟩
    refine ⟨OrderedMap.get?_set_self _ _ _, ⟨_, rfl, hne, OrderedMap.get?_set_self _ _ _⟩, rfl,
      by rw [hactive]; decide, nofun, hopen, nofun⟩

/-- The revision a rebase publishes. -/
def rebaseRevision (s : LocalChangeCoordinator) (call : RebaseCall) (rebased : Workspace)
    (uuid : String) : ChangeRevision :=
  (s.attachRebased call rebased).publishedRevision (rebasePublication call rebased) uuid
    (rebasedChange call rebased) rebased

/-- The state a rebase leaves when it publishes. -/
def afterRebase (s : LocalChangeCoordinator) (call : RebaseCall) (rebased : Workspace)
    (uuid : String) : LocalChangeCoordinator :=
  ((s.attachRebased call rebased).filePublished (rebasedChange call rebased) rebased
    (s.rebaseRevision call rebased uuid)).closePrevious call.previousWorkspace rebased.id

/-- The state a rebase leaves when its publication is refused. -/
def afterRefusedRebase (s : LocalChangeCoordinator) (call : RebaseCall) (rebased : Workspace) :
    LocalChangeCoordinator :=
  { s with
    workspaces := (s.workspaces.set rebased.id rebased).delete rebased.id
    changes := (s.changes.set call.change.id (rebasedChange call rebased)).set
      call.change.id call.change }

theorem finishRebase_of_not_written (s : LocalChangeCoordinator) (call : RebaseCall)
    {storage : StorageOutcome} (workspaceUuid revisionUuid : String) (h : storage ≠ .written) :
    ∃ failure, s.finishRebase call storage workspaceUuid revisionUuid = (.error failure, s) := by
  unfold finishRebase
  cases hstorage : storage.result call.request.directory with
  | error failure => exact ⟨failure, rfl⟩
  | ok u => exact absurd (StorageOutcome.result_eq_ok.mp hstorage) h

theorem finishRebase_of_publishes {call : RebaseCall} {workspaceUuid : String} (revisionUuid : String)
    (h : s.RebasePublishes call (s.rebasedWorkspace call workspaceUuid)) :
    s.finishRebase call .written workspaceUuid revisionUuid =
      (.ok (s.rebasedWorkspace call workspaceUuid,
        s.rebaseRevision call (s.rebasedWorkspace call workspaceUuid) revisionUuid),
        s.afterRebase call (s.rebasedWorkspace call workspaceUuid) revisionUuid) := by
  have hpub : (s.attachRebased call (s.rebasedWorkspace call workspaceUuid)).publishRevision
      (rebasePublication call (s.rebasedWorkspace call workspaceUuid)) revisionUuid = .ok _ :=
    publishRevision_eq_ok.mpr
      ⟨_, _, (attachRebased_publishable_iff rfl).mpr ⟨rfl, rfl, h⟩, rfl, rfl⟩
  simp only [finishRebase, StorageOutcome.result, hpub]
  rfl

theorem finishRebase_of_refused {call : RebaseCall} {workspaceUuid : String} (revisionUuid : String)
    (h : ¬ s.RebasePublishes call (s.rebasedWorkspace call workspaceUuid)) :
    ∃ failure, s.finishRebase call .written workspaceUuid revisionUuid =
      (.error failure, s.afterRefusedRebase call (s.rebasedWorkspace call workspaceUuid)) := by
  have hpub : ¬ ∃ published,
      (s.attachRebased call (s.rebasedWorkspace call workspaceUuid)).publishRevision
        (rebasePublication call (s.rebasedWorkspace call workspaceUuid)) revisionUuid
          = .ok published := by
    rintro ⟨⟨revision, s'⟩, hok⟩
    obtain ⟨change, ws, hp, -, -⟩ := publishRevision_eq_ok.mp hok
    exact h ((attachRebased_publishable_iff rfl).mp hp).2.2
  obtain ⟨error, herror⟩ := exists_error_iff.mpr hpub
  refine ⟨.rejected error, ?_⟩
  simp only [finishRebase, StorageOutcome.result, herror]
  rfl

/-! What a finished rebase leaves in each map. -/

theorem afterRebase_project {call : RebaseCall} {rebased : Workspace} :
    (s.afterRebase call rebased uuid).project = s.project := by
  unfold afterRebase closePrevious
  repeat' split
  all_goals rfl

@[simp] theorem afterRebase_projectRevisions {call : RebaseCall} {rebased : Workspace} :
    (s.afterRebase call rebased uuid).projectRevisions = s.projectRevisions := by
  unfold afterRebase closePrevious
  repeat' split
  all_goals rfl

@[simp] theorem afterRebase_canonical {call : RebaseCall} {rebased : Workspace} :
    (s.afterRebase call rebased uuid).canonical = s.canonical := by
  unfold afterRebase closePrevious
  repeat' split
  all_goals rfl

@[simp] theorem afterRebase_revisions {call : RebaseCall} {rebased : Workspace} :
    (s.afterRebase call rebased uuid).revisions =
      s.revisions.set (opaqueId "change-revision" uuid) (s.rebaseRevision call rebased uuid) := by
  unfold afterRebase closePrevious
  repeat' split
  all_goals rfl

@[simp] theorem afterRebase_conflicts {call : RebaseCall} {rebased : Workspace} :
    (s.afterRebase call rebased uuid).conflicts =
      markResolutions s.conflicts (s.conflictsOf call.change.id rebased.id)
        (opaqueId "change-revision" uuid) := by
  unfold afterRebase closePrevious
  repeat' split
  all_goals rfl

theorem afterRebase_changes {call : RebaseCall} {rebased : Workspace} :
    (s.afterRebase call rebased uuid).changes =
      (s.changes.set call.change.id (rebasedChange call rebased)).set call.change.id
        (updatedChange (rebasedChange call rebased) rebased
          (s.rebaseRevision call rebased uuid)) := by
  unfold afterRebase closePrevious
  repeat' split
  all_goals rfl

/-- The Change of a finished rebase is the record read at its start, moved and
submitted; the others are left. -/
theorem afterRebase_changes_get? {call : RebaseCall} {rebased : Workspace} (id : String) :
    (s.afterRebase call rebased uuid).changes.get? id =
      if id = call.change.id then
        some (updatedChange (rebasedChange call rebased) rebased
          (s.rebaseRevision call rebased uuid))
      else s.changes.get? id := by
  rw [afterRebase_changes, OrderedMap.get?_set, OrderedMap.get?_set]
  split <;> rfl

theorem afterRebase_workspaces_of_none {call : RebaseCall} {rebased : Workspace}
    (h : call.previousWorkspace = none) :
    (s.afterRebase call rebased uuid).workspaces = s.workspaces.set rebased.id rebased := by
  unfold afterRebase closePrevious
  rw [h]
  rfl

/-- A finished rebase files the new Workspace and closes the previous one. -/
theorem afterRebase_workspaces_of_some {call : RebaseCall} {rebased previous : Workspace}
    (h : call.previousWorkspace = some previous) (hne : previous.id ≠ rebased.id) :
    (s.afterRebase call rebased uuid).workspaces =
      (s.workspaces.set rebased.id rebased).set previous.id (closedWorkspace previous) := by
  unfold afterRebase closePrevious
  rw [h]
  simp only [if_neg hne]
  rfl

/-- Whatever holds of the new Workspace, the closed one and every old one, holds
after a finished rebase. -/
theorem afterRebase_workspaces_induction {call : RebaseCall} {rebased : Workspace}
    (p : OrderedMap String Workspace → Prop)
    (hfiled : p (s.workspaces.set rebased.id rebased))
    (hclosed : ∀ previous, call.previousWorkspace = some previous → previous.id ≠ rebased.id →
      p ((s.workspaces.set rebased.id rebased).set previous.id (closedWorkspace previous))) :
    p (s.afterRebase call rebased uuid).workspaces := by
  cases hprev : call.previousWorkspace with
  | none =>
    rw [afterRebase_workspaces_of_none hprev]
    exact hfiled
  | some previous =>
    by_cases hid : previous.id = rebased.id
    · have hsame : (s.afterRebase call rebased uuid).workspaces
          = s.workspaces.set rebased.id rebased := by
        unfold afterRebase closePrevious
        rw [hprev]
        simp only [if_pos hid]
        rfl
      rw [hsame]
      exact hfiled
    · rw [afterRebase_workspaces_of_some hprev hid]
      exact hclosed previous hprev hid

theorem handoffChange_ok {changeId actorId : String} {ws : Workspace}
    (h : s.handoffChange changeId actorId = .ok (ws, s')) :
    ∃ change id old, s.changes.get? changeId = some change ∧ change.workspaceId = some id ∧
      s.workspaces.get? id = some old ∧ ws = { old with actorId := some actorId } ∧
      s' = { s with workspaces := s.workspaces.set ws.id ws } := by
  simp only [handoffChange, bind_eq_ok, requireChange_eq_ok, requireWorkspace_eq_ok, pure_eq_ok,
    Prod.mk.injEq] at h
  obtain ⟨change, hchange, old, ⟨id, hid, -, hold⟩, rfl, rfl⟩ := h
  exact ⟨change, id, old, hchange, hid, hold, rfl, rfl⟩

/-- The Workspace a revert names, if any: known, and based on the canonical
revision. -/
def RevertWorkspace (s : LocalChangeCoordinator) (workspaceId : Option String)
    (ws : Option Workspace) : Prop :=
  truthy workspaceId = none ∧ ws = none ∨
    ∃ id found, truthy workspaceId = some id ∧ s.workspaces.get? id = some found ∧
      ws = some found ∧ found.projectRevisionId = s.canonical.id

theorem RevertWorkspace.base {workspaceId : Option String} {ws : Option Workspace}
    (h : s.RevertWorkspace workspaceId ws) :
    (ws.map Workspace.projectRevisionId).getD s.canonical.id = s.canonical.id := by
  rcases h with ⟨-, rfl⟩ | ⟨_, found, -, -, rfl, hbase⟩
  · rfl
  · exact hbase

theorem revertChange_eq_ok {input : RevertChangeInput} {change : Change} :
    s.revertChange input uuid = .ok (change, s') ↔
      ∃ landed ws, s.revisions.get? input.landedChangeRevisionId = some landed ∧
        s.wasLanded landed.id ∧ s.RevertWorkspace input.workspaceId ws ∧
        change = s.revertingChange input uuid landed ws ∧
        s' = { s with changes := s.changes.set change.id change } := by
  simp only [revertChange, bind_eq_ok, orThrow_eq_ok, require_eq_ok, exists_unit, forM_eq_ok,
    pure_eq_ok, Prod.mk.injEq, optionalWorkspace_eq_ok]
  constructor
  · rintro ⟨landed, hlanded, hwas, ws, hws, hbase, rfl, rfl⟩
    refine ⟨landed, ws, hlanded, hwas, ?_, rfl, rfl⟩
    rcases hws with hnone | ⟨id, found, hid, hfound, rfl⟩
    · exact .inl hnone
    · exact .inr ⟨id, found, hid, hfound, rfl, hbase found (by simp)⟩
  · rintro ⟨landed, ws, hlanded, hwas, hws, rfl, rfl⟩
    rcases hws with ⟨hid, rfl⟩ | ⟨id, found, hid, hfound, rfl, hbase⟩
    · exact ⟨landed, hlanded, hwas, none, .inl ⟨hid, rfl⟩, by simp, rfl, rfl⟩
    · exact ⟨landed, hlanded, hwas, some found, .inr ⟨id, found, hid, hfound, rfl⟩,
        by simpa using hbase, rfl, rfl⟩

/-- Without a stored revision some Project Revision names, the revert source is
not found. -/
theorem revertChange_error {input : RevertChangeInput}
    (h : ∀ landed, s.revisions.get? input.landedChangeRevisionId = some landed →
      ¬ s.wasLanded landed.id) :
    ∃ e, s.revertChange input uuid = .error e ∧ e.code = .revertSourceNotFound := by
  unfold revertChange
  cases hget : s.revisions.get? input.landedChangeRevisionId with
  | none => exact ⟨_, rfl, rfl⟩
  | some landed =>
    simp only [orThrow, require, bind, Except.bind, if_neg (h landed hget)]
    exact ⟨_, rfl, rfl⟩

/-! ## Landing -/

/-- What the member loop of `landCohort` checks of one member. -/
structure MemberReady (s : LocalChangeCoordinator) (member : LandingMember) (sel : Selected) :
    Prop where
  knownChange : s.changes.get? member.changeId = some sel.change
  knownRevision : s.revisions.get? member.changeRevisionId = some sel.revision
  owned : sel.revision.changeId = sel.change.id
  latest : sel.change.latestRevisionId = some sel.revision.id
  unblocked : ∀ conflict ∈ s.conflicts.values, conflict.changeId = sel.change.id →
    some conflict.workspaceId = sel.revision.workspaceId → conflict.state ≠ .«open»

/-- A member selects one Change and one revision. -/
theorem MemberReady.unique {member : LandingMember} {sel sel' : Selected}
    (h : s.MemberReady member sel) (h' : s.MemberReady member sel') : sel = sel' := by
  have hchange := h.knownChange.symm.trans h'.knownChange
  have hrevision := h.knownRevision.symm.trans h'.knownRevision
  cases sel
  cases sel'
  cases Option.some.inj hchange
  cases Option.some.inj hrevision
  rfl

theorem selectMember_eq_ok {member : LandingMember} {sel : Selected} :
    s.selectMember member = .ok sel ↔ s.MemberReady member sel := by
  simp only [selectMember, bind_eq_ok, requireChange_eq_ok, orThrow_eq_ok, require_eq_ok,
    exists_unit, pure_eq_ok, List.filter_eq_nil_iff, decide_eq_true_eq, not_and]
  constructor
  · rintro ⟨change, hchange, revision, hrevision, howned, hlatest, hopen, rfl⟩
    exact ⟨hchange, hrevision, howned, hlatest, hopen⟩
  · rintro ⟨hchange, hrevision, howned, hlatest, hopen⟩
    exact ⟨_, hchange, _, hrevision, howned, hlatest, hopen, rfl⟩

/-- A member's base, and its Change's, is the canonical revision. -/
def OnCanonical (s : LocalChangeCoordinator) (sel : Selected) : Prop :=
  sel.revision.base = s.canonical.id ∧ sel.change.baseProjectRevisionId = s.canonical.id

theorem checkBase_eq_ok {sel : Selected} {u : Unit} :
    s.checkBase sel = .ok u ↔ s.OnCanonical sel := by
  simp only [checkBase, require_eq_ok, OnCanonical]

/-- What `landCohort` checks of its members, ending in the next snapshots. -/
structure Landable (s : LocalChangeCoordinator) (input : LandCohortInput)
    (selected : List Selected) (next : Snapshots) : Prop where
  nonempty : input.members ≠ []
  distinct : (input.members.map LandingMember.changeId).Nodup
  members : List.Forall₂ s.MemberReady input.members selected
  current : s.canonical.id = input.expectedCanonicalProjectRevisionId
  based : ∀ sel ∈ selected, s.OnCanonical sel
  composed : s.composeSnapshots input.cohortId selected = .ok next

/-- Every selected Change was selected for a member. -/
theorem Landable.ready {input : LandCohortInput} {selected : List Selected} {next : Snapshots}
    (h : s.Landable input selected next) {sel : Selected} (hsel : sel ∈ selected) :
    ∃ member ∈ input.members, s.MemberReady member sel :=
  exists_left_of_mem h.members hsel

theorem landingChecks_eq_ok {input : LandCohortInput} {selected : List Selected}
    {next : Snapshots} :
    s.landingChecks input = .ok (selected, next) ↔ s.Landable input selected next := by
  simp only [landingChecks, bind_eq_ok, require_eq_ok, exists_unit, forM_eq_ok, pure_eq_ok,
    mapM_eq_ok, selectMember_eq_ok, checkBase_eq_ok, Prod.mk.injEq]
  constructor
  · rintro ⟨hne, hnodup, sel, hsel, hcur, hbase, next', hcomp, rfl, rfl⟩
    exact ⟨hne, hnodup, hsel, hcur, hbase, hcomp⟩
  · rintro ⟨hne, hnodup, hsel, hcur, hbase, hcomp⟩
    exact ⟨hne, hnodup, selected, hsel, hcur, hbase, next, hcomp, rfl, rfl⟩

theorem landCohort_ok {input : LandCohortInput} {revisionUuid landingUuid : String}
    {landing : Landing} (h : s.landCohort input revisionUuid landingUuid = .ok (landing, s')) :
    ∃ selected next, s.Landable input selected next ∧
      landing.changeRevisionIds = some (selected.map fun sel => sel.revision.id) ∧
      landing.previousProjectRevisionId = s.canonical.id ∧
      s' = s.fileLanding selected
        (s.landedRevision input.cohortId selected next revisionUuid) := by
  simp only [landCohort, bind_eq_ok, pure_eq_ok, Prod.exists, landingChecks_eq_ok,
    Prod.mk.injEq] at h
  obtain ⟨selected, next, hland, rfl, rfl⟩ := h
  exact ⟨selected, next, hland, rfl, rfl, rfl⟩

/-- `landCohort` returns exactly when its checks pass. -/
theorem exists_landCohort_ok_iff {input : LandCohortInput} (revisionUuid landingUuid : String) :
    (∃ landing s', s.landCohort input revisionUuid landingUuid = .ok (landing, s')) ↔
      ∃ selected next, s.Landable input selected next := by
  simp only [landCohort, bind_eq_ok, pure_eq_ok, Prod.exists, landingChecks_eq_ok,
    Prod.mk.injEq]
  constructor
  · rintro ⟨-, -, selected, next, hland, -⟩
    exact ⟨selected, next, hland⟩
  · rintro ⟨selected, next, hland⟩
    exact ⟨_, _, selected, next, hland, rfl, rfl⟩

/-! ## Bulk writes -/

/-- A Conflict without the revision that resolved it. -/
def conflictCore (conflict : Conflict) : Conflict := { conflict with resolutionRevisionId := none }

theorem markResolutions_cons {conflicts : OrderedMap String Conflict} {k : Conflict}
    {relevant : List Conflict} {revisionId : String} :
    markResolutions conflicts (k :: relevant) revisionId =
      markResolutions (if k.state = .resolved then
        conflicts.set k.id { k with resolutionRevisionId := some revisionId }
        else conflicts) relevant revisionId := rfl

theorem markResolutions_selfKeyed {relevant : List Conflict} {revisionId : String} :
    ∀ {conflicts : OrderedMap String Conflict}, OrderedMap.SelfKeyed Conflict.id conflicts →
      OrderedMap.SelfKeyed Conflict.id (markResolutions conflicts relevant revisionId) := by
  induction relevant with
  | nil => exact fun h => h
  | cons k relevant ih =>
    intro conflicts h
    rw [markResolutions_cons]
    split
    · exact ih (h.set rfl)
    · exact ih h

/-- Marking resolutions changes no Conflict but for the revision that resolved
it. -/
theorem markResolutions_core {relevant : List Conflict} {revisionId : String} :
    ∀ {conflicts : OrderedMap String Conflict},
      (∀ k ∈ relevant, (conflicts.get? k.id).map conflictCore = some (conflictCore k)) →
      ∀ id, ((markResolutions conflicts relevant revisionId).get? id).map conflictCore
        = (conflicts.get? id).map conflictCore := by
  induction relevant with
  | nil => exact fun _ _ => rfl
  | cons k relevant ih =>
    intro conflicts hrel id
    rw [markResolutions_cons]
    split
    · -- one more Conflict is marked, and its entry keeps its core
      have hset : ∀ id', ((conflicts.set k.id
          { k with resolutionRevisionId := some revisionId }).get? id').map conflictCore
            = (conflicts.get? id').map conflictCore := by
        intro id'
        rw [OrderedMap.get?_set]
        split
        · rename_i hid
          rw [hid, hrel k (List.mem_cons_self ..)]
          rfl
        · rfl
      refine (ih (fun k' hk' => ?_) id).trans (hset id)
      rw [hset, hrel k' (List.mem_cons_of_mem _ hk')]
    · exact ih (fun k' hk' => hrel k' (List.mem_cons_of_mem _ hk')) id

/-- The Conflicts after a publication are the old ones but for their resolution. -/
theorem marked_get? (hkeyed : OrderedMap.SelfKeyed Conflict.id s.conflicts)
    (changeId workspaceId revisionId id : String) :
    ((markResolutions s.conflicts (s.conflictsOf changeId workspaceId) revisionId).get? id).map
      conflictCore = (s.conflicts.get? id).map conflictCore := by
  refine markResolutions_core (fun k hk => ?_) id
  obtain ⟨id', hid'⟩ := OrderedMap.mem_values_iff.mp (mem_conflictsOf.mp hk).1
  rw [hkeyed _ _ hid', hid']
  rfl

theorem eq_of_conflictCore {old k : Conflict} (h : conflictCore old = conflictCore k) :
    ∃ resolution, k = { old with resolutionRevisionId := resolution } := by
  have hfill := congrArg
    (fun core : Conflict => { core with resolutionRevisionId := k.resolutionRevisionId }) h
  exact ⟨k.resolutionRevisionId, hfill.symm⟩

/-- A Conflict after a publication is an old one, but for the revision that
resolved it. -/
theorem mem_marked (hkeyed : OrderedMap.SelfKeyed Conflict.id s.conflicts)
    {changeId workspaceId revisionId : String} {k : Conflict}
    (hk : k ∈ (markResolutions s.conflicts (s.conflictsOf changeId workspaceId)
      revisionId).values) :
    ∃ old ∈ s.conflicts.values, ∃ resolution, k = { old with resolutionRevisionId := resolution } := by
  obtain ⟨id, hid⟩ := OrderedMap.mem_values_iff.mp hk
  have hcore := marked_get? hkeyed changeId workspaceId revisionId id
  rw [hid, Option.map_some] at hcore
  obtain ⟨old, hold, heq⟩ := Option.map_eq_some_iff.mp hcore.symm
  exact ⟨old, OrderedMap.mem_values_of_get? hold, eq_of_conflictCore heq⟩

theorem markLanded_cons {changes : OrderedMap String Change} {sel : Selected}
    {selected : List Selected} :
    markLanded changes (sel :: selected) =
      markLanded (changes.set sel.change.id (landedChange sel.change)) selected := rfl

theorem markLanded_selfKeyed {selected : List Selected} :
    ∀ {changes : OrderedMap String Change}, OrderedMap.SelfKeyed Change.id changes →
      OrderedMap.SelfKeyed Change.id (markLanded changes selected) := by
  induction selected with
  | nil => exact fun h => h
  | cons sel selected ih => exact fun h => ih (h.set rfl)

theorem markLanded_of_not_mem {selected : List Selected} {changeId : String} :
    ∀ {changes : OrderedMap String Change}, (∀ sel ∈ selected, sel.change.id ≠ changeId) →
      (markLanded changes selected).get? changeId = changes.get? changeId := by
  induction selected with
  | nil => exact fun _ => rfl
  | cons sel selected ih =>
    intro changes hne
    rw [markLanded_cons]
    refine (ih fun x hx => hne x (List.mem_cons_of_mem _ hx)).trans ?_
    exact OrderedMap.get?_set_ne _ _ (hne sel (List.mem_cons_self ..)).symm

theorem markLanded_of_mem {selected : List Selected} {sel : Selected} :
    ∀ {changes : OrderedMap String Change},
      (selected.map fun x => x.change.id).Nodup → sel ∈ selected →
      (markLanded changes selected).get? sel.change.id = some (landedChange sel.change) := by
  induction selected with
  | nil => exact fun _ h => nomatch h
  | cons x selected ih =>
    intro changes hnodup hmem
    rw [List.map_cons, List.nodup_cons] at hnodup
    rw [markLanded_cons]
    rcases List.mem_cons.mp hmem with rfl | hrest
    · refine (markLanded_of_not_mem fun y hy heq => hnodup.1 ?_).trans
        (OrderedMap.get?_set_self _ _ _)
      exact List.mem_map.mpr ⟨y, hy, heq⟩
    · exact ih hnodup.2 hrest

/-- A Change after a Landing is an old one, or a member's marked landed. -/
theorem markLanded_get?_cases {selected : List Selected} {changeId : String} {change : Change} :
    ∀ {changes : OrderedMap String Change},
      (markLanded changes selected).get? changeId = some change →
      changes.get? changeId = some change ∨
        ∃ sel ∈ selected, sel.change.id = changeId ∧ change = landedChange sel.change := by
  induction selected with
  | nil => exact .inl
  | cons sel selected ih =>
    intro changes h
    rw [markLanded_cons] at h
    rcases ih h with hold | ⟨x, hx, hid, heq⟩
    · rw [OrderedMap.get?_set] at hold
      split at hold
      · rename_i hid
        exact .inr ⟨sel, List.mem_cons_self .., hid.symm, (Option.some.inj hold).symm⟩
      · exact .inl hold
    · exact .inr ⟨x, List.mem_cons_of_mem _ hx, hid, heq⟩

theorem keys_subset_markLanded {selected : List Selected} :
    ∀ {changes : OrderedMap String Change}, changes.keys ⊆ (markLanded changes selected).keys := by
  induction selected with
  | nil => exact fun h => h
  | cons sel selected ih => exact fun h => ih (OrderedMap.keys_subset_set _ _ _ h)

end LocalChangeCoordinator

end Anyam.ChangeControl
