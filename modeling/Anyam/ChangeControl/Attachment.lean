import Anyam.ChangeControl.Landing

/-!
# Workspaces and the Changes they belong to

A Change names its current Workspace and a Workspace names the Change it is bound
to; each operation keeps the two ends separately. Two properties of that link over
whole runs:

- **`closed_is_terminal`**: a closed Workspace stays closed and unbound as long as
  no call names it (a Conflict registered or resolved in it, a revert attached to
  it).
- **`attachment_of_run`**: the link is a partial bijection as long as reverts name
  no Workspace, chosen ids are not empty, and no rebase finishes on a Change whose
  Workspace moved while it was suspended.
-/

namespace Anyam.ChangeControl

open Anyam.Lib Anyam.Kernel LocalChangeCoordinator

namespace LocalSystem

variable {s s' : LocalSystem} {op : Operation} {reply : Reply}

/-! ## Closed Workspaces -/

/-- The Workspace is known and closed. -/
def WorkspaceClosed (c : LocalChangeCoordinator) (workspaceId : String) : Prop :=
  (c.workspaces.get? workspaceId).map Workspace.state = some .closed

instance (c : LocalChangeCoordinator) (workspaceId : String) : Decidable (WorkspaceClosed c workspaceId) :=
  inferInstanceAs (Decidable (_ = _))

/-- The call names no closed Workspace: it registers or resolves no Conflict in
one, and attaches no revert to one. -/
def SparesClosed (s : LocalSystem) : Operation → Prop
  | .registerConflict input _ => ¬ WorkspaceClosed s.control input.workspaceId
  | .resolveConflict conflictId =>
    ∀ conflict ∈ s.control.conflicts.get? conflictId, ¬ WorkspaceClosed s.control conflict.workspaceId
  | .revertChange input _ => ∀ id ∈ truthy input.workspaceId, ¬ WorkspaceClosed s.control id
  | _ => True

/-- Closed Workspaces are bound to no Change. -/
def UnboundIfClosed (ws : Workspace) : Prop := ws.state = .closed → ws.changeId = none

def ClosedUnbound (c : LocalChangeCoordinator) : Prop := ∀ ws ∈ c.workspaces.values, UnboundIfClosed ws

theorem Effect.closedUnbound (h : Effect s op reply s') (hinv : ClosedUnbound s.control) :
    ClosedUnbound s'.control := by
  have hold : ∀ {id ws}, s.control.workspaces.get? id = some ws → UnboundIfClosed ws :=
    fun hget => hinv _ (OrderedMap.mem_values_of_get? hget)
  cases h with
  | unchanged | abandoned | suspended | published | reverted | landed => exact hinv
  | createdWorkspace _ _ _ hfree => exact OrderedMap.forall_values_set hinv fun _ => hfree
  | createdChange _ hstate =>
    refine OrderedMap.forall_values_set hinv fun hclosed => ?_
    rw [hstate] at hclosed
    cases hclosed
  | registered => exact OrderedMap.forall_values_set hinv nofun
  | @resolved _ conflict =>
    show ∀ ws ∈ (s.control.unblockWorkspace _ conflict.workspaceId).values, UnboundIfClosed ws
    unfold unblockWorkspace
    split
    · exact hinv
    · refine OrderedMap.forall_values_set hinv fun hclosed => ?_
      split at hclosed <;> cases hclosed
  | rebased _ hrebased =>
    exact afterRebase_workspaces_induction (fun m => ∀ ws ∈ m.values, UnboundIfClosed ws)
      (OrderedMap.forall_values_set hinv (hrebased ▸ nofun)) fun previous _ _ =>
        OrderedMap.forall_values_set (OrderedMap.forall_values_set hinv (hrebased ▸ nofun))
          fun _ => rfl
  | restored =>
    intro ws hws
    obtain ⟨id, hid⟩ := OrderedMap.mem_values_iff.mp hws
    suffices hget : s.control.workspaces.get? id = some ws from hold hget
    unfold afterRefusedRebase at hid
    grind
  | handedOff _ _ hws =>
    have hkept := hold hws
    exact OrderedMap.forall_values_set hinv hkept

/-- The Workspace is closed and unbound, and no Change is attached to it that was
not when it was closed. -/
structure Retired (closing : LocalChangeCoordinator) (workspaceId : String)
    (c : LocalChangeCoordinator) : Prop where
  closed : ∃ ws, c.workspaces.get? workspaceId = some ws ∧ ws.state = .closed ∧ ws.changeId = none
  unattached : ∀ id change, c.changes.get? id = some change →
    change.workspaceId = some workspaceId →
      ∃ old, closing.changes.get? id = some old ∧ old.workspaceId = some workspaceId

theorem Effect.retired {closing : LocalChangeCoordinator} {workspaceId : String}
    (h : Effect s op reply s') (hs : Sound s) (hf : s.AllFresh op) (hspare : s.SparesClosed op)
    (hr : Retired closing workspaceId s.control) : Retired closing workspaceId s'.control := by
  obtain ⟨ws₀, hget₀, hclosed₀, hfree₀⟩ := hr.closed
  have hmem₀ := OrderedMap.mem_keys_of_get? hget₀
  have hisClosed : WorkspaceClosed s.control workspaceId := by
    rw [WorkspaceClosed, hget₀, Option.map_some, hclosed₀]
  -- writing another Workspace leaves this one
  have hother : ∀ {k : String} {v : Workspace}, k ≠ workspaceId →
      ∃ ws, (s.control.workspaces.set k v).get? workspaceId = some ws ∧ ws.state = .closed ∧
        ws.changeId = none := fun hne =>
    ⟨ws₀, (OrderedMap.get?_set_ne _ _ hne.symm).trans hget₀, hclosed₀, hfree₀⟩
  -- writing a Change that is not newly attached to it
  have hattach : ∀ {id : String} {change : Change},
      (change.workspaceId = some workspaceId →
        ∃ old, closing.changes.get? id = some old ∧ old.workspaceId = some workspaceId) →
      ∀ id' change', (s.control.changes.set id change).get? id' = some change' →
        change'.workspaceId = some workspaceId →
          ∃ old, closing.changes.get? id' = some old ∧ old.workspaceId = some workspaceId := by
    intro id change hnew id' change' hget hat
    rw [OrderedMap.get?_set] at hget
    split at hget
    · rename_i hid
      cases hget
      exact hid ▸ hnew hat
    · exact hr.unattached id' change' hget hat
  cases h with
  | unchanged | abandoned | suspended => exact hr
  | createdWorkspace _ hid =>
    refine ⟨hother fun heq => not_mem_getD hf.1 hf.2 ?_, hr.unattached⟩
    rw [← hid, heq]
    exact hmem₀
  | @createdChange _ _ _ ws hws hstate _ _ _ _ _ hattached =>
    have hne : ws.id ≠ workspaceId := by
      intro heq
      rw [hs.keyed.workspaces _ _ hws] at heq
      rw [heq, hget₀] at hws
      cases hws
      rw [hclosed₀] at hstate
      cases hstate
    refine ⟨hother hne, hattach fun hat => ?_⟩
    rw [hattached] at hat
    exact absurd (Option.some.inj hat) hne
  | @registered _ _ _ _ ws _ hws =>
    have hne : ws.id ≠ workspaceId := by
      intro heq
      rw [hs.keyed.workspaces _ _ hws] at heq
      exact hspare (heq ▸ hisClosed)
    exact ⟨hother hne, hr.unattached⟩
  | resolved hconflict =>
    refine ⟨?_, hr.unattached⟩
    rcases unblockWorkspace_get? hs.keyed.workspaces workspaceId with hsame | ⟨_, _, hid, -⟩
    · exact ⟨ws₀, hsame.trans hget₀, hclosed₀, hfree₀⟩
    · exact absurd (hid ▸ hisClosed) (hspare _ hconflict)
  | published hpub =>
    refine ⟨hr.closed, hattach fun hat => ?_⟩
    rw [hs.keyed.changes _ _ hpub.known]
    exact hr.unattached _ _ hpub.known (hpub.attached.trans hat)
  | @rebased _ workspaceUuid _ _ _ hcall hrebased =>
    have hne : opaqueId "workspace" workspaceUuid ≠ workspaceId :=
      fun heq => hf.1.1 (heq ▸ hmem₀)
    rw [← hs.rebased_id workspaceUuid hcall, ← hrebased] at hne
    refine ⟨?_, fun id change hget hat => ?_⟩
    · refine afterRebase_workspaces_induction (fun m => ∃ ws, m.get? workspaceId = some ws ∧
        ws.state = .closed ∧ ws.changeId = none) (hother hne) fun previous _ _ => ?_
      rw [OrderedMap.get?_set]
      split
      · exact ⟨_, rfl, rfl, rfl⟩
      · exact hother hne
    · rw [afterRebase_changes_get?] at hget
      split at hget
      · cases hget
        exact absurd (Option.some.inj hat) hne
      · exact hr.unattached id change hget hat
  | restored hcall hrebased hrefused =>
    exact absurd (hrebased ▸ hs.rebasePublishes hcall hf.1.1) hrefused
  | @handedOff _ _ _ _ ws _ _ hws =>
    refine ⟨?_, hr.unattached⟩
    by_cases heq : ws.id = workspaceId
    · rw [hs.keyed.workspaces _ _ hws] at heq
      rw [heq, hget₀] at hws
      cases hws
      rw [← hs.keyed.workspaces _ _ hget₀]
      exact ⟨_, OrderedMap.get?_set_self _ _ _, hclosed₀, hfree₀⟩
    · exact hother heq
  | reverted _ _ hws =>
    refine ⟨hr.closed, hattach fun hat => ?_⟩
    rcases hws with ⟨-, rfl⟩ | ⟨id, found, hid, hfound, rfl, -⟩
    · cases hat
    · have heq : found.id = workspaceId := Option.some.inj hat
      rw [hs.keyed.workspaces _ _ hfound] at heq
      exact absurd (heq ▸ hisClosed) (hspare id hid)
  | landed hland =>
    refine ⟨hr.closed, fun id change hget hat => ?_⟩
    rcases markLanded_get?_cases hget with hkept | ⟨sel, hsel, hid, rfl⟩
    · exact hr.unattached id change hkept hat
    · obtain ⟨member, -, hready⟩ := hland.ready hsel
      have hknown := hready.knownChange
      rw [← hs.keyed.changes _ _ hknown, hid] at hknown
      exact hr.unattached id sel.change hknown hat

end LocalSystem

open LocalSystem

section Closed

variable {text : UnicodeText} {project : Project} {canonicalRevision : ProjectRevision}

/-- A call with fresh identifiers that names no closed Workspace. -/
def RetiresCleanly (s : LocalSystem) (op : Operation) : Prop := s.AllFresh op ∧ s.SparesClosed op

instance (s : LocalSystem) : (op : Operation) → Decidable (s.SparesClosed op)
  | .registerConflict .. => inferInstanceAs (Decidable (¬ _))
  | .resolveConflict .. | .revertChange .. => inferInstanceAs (Decidable (∀ x ∈ _, ¬ _))
  | .createWorkspace .. | .createChange .. | .publishRevision .. | .beginRebase _
  | .finishRebase .. | .handoffChange .. | .landCohort .. => .isTrue trivial

instance (s : LocalSystem) (op : Operation) : Decidable (RetiresCleanly s op) :=
  inferInstanceAs (Decidable (_ ∧ _))

/-- **Closed is terminal** along any run whose calls name no closed Workspace: from
the state `m` in which a Workspace is closed, it stays closed and unbound, and no
Change is attached to it that was not attached in `m`. -/
theorem closed_is_terminal {tr₁ tr₂ : List (Transition LocalSystem Operation Reply)}
    {m s : LocalSystem} (hrun : RunFrom text project canonicalRevision RetiresCleanly tr₁ m)
    (hrest : Run (step text) RetiresCleanly m tr₂ s) {workspaceId : String}
    (hclosed : WorkspaceClosed m.control workspaceId) : Retired m.control workspaceId s.control := by
  have hfresh : ∀ s op, RetiresCleanly s op → s.Fresh op := fun _ _ h => h.1.1
  obtain ⟨hs, hunbound⟩ := sound_invariant (sound_initial project canonicalRevision)
    (fun s => ClosedUnbound s.control) hfresh (fun _ h => nomatch h)
    (fun _ _ _ _ hinv _ _ heff => heff.closedUnbound hinv) hrun
  obtain ⟨ws, hget, hstate⟩ := Option.map_eq_some_iff.mp hclosed
  have hstart : Retired m.control workspaceId m.control :=
    ⟨⟨ws, hget, hstate, hunbound ws (OrderedMap.mem_values_of_get? hget) hstate⟩,
      fun _ change hchange hat => ⟨change, hchange, hat⟩⟩
  exact (sound_invariant hs (fun s => Retired m.control workspaceId s.control) hfresh hstart
    (fun _ _ _ _ hr hs hok heff => heff.retired hs hok.1 hok.2 hr) hrest).2

end Closed

namespace Sample

/-- `change:A` leaves `workspace:A`, with an open Conflict, for `workspace:2`. -/
def rebasedAway : List Operation :=
  startChange "A" ++
    [.registerConflict (conflictIn "change:A" "workspace:A") "k",
     .beginRebase (rebaseInput "change:A" "r0" "c"), .finishRebase 0 .written "2" "a"]

end Sample

/-- A published and handed off successor leaves the closed Workspace alone. -/
theorem closed_is_terminal_sample :
    Retired (Sample.ran Sample.rebasedAway).2.control "workspace:A"
      (exec (step Sample.ascii) (Sample.ran Sample.rebasedAway).2
        [Sample.publish "change:A" (some "v") "a2", .handoffChange "change:A" "actor"]).2.control :=
  closed_is_terminal (run_exec (by decide +kernel)) (run_exec (by decide +kernel))
    (by decide +kernel)

/-- Resolving the Conflict left in a closed Workspace makes it active again. -/
theorem resolveConflict_reopens :
    Admits (step Sample.ascii) AllFresh (.initial Sample.project Sample.canonicalRevision)
        (Sample.rebasedAway ++ [.resolveConflict "conflict:k"]) ∧
      WorkspaceClosed (Sample.ran Sample.rebasedAway).2.control "workspace:A" ∧
      ¬ Retired (Sample.ran Sample.rebasedAway).2.control "workspace:A"
        (exec (step Sample.ascii) (Sample.ran Sample.rebasedAway).2
          [.resolveConflict "conflict:k"]).2.control := by
  have hopen : ¬ WorkspaceClosed (exec (step Sample.ascii) (Sample.ran Sample.rebasedAway).2
      [.resolveConflict "conflict:k"]).2.control "workspace:A" := by
    decide +kernel
  refine ⟨by decide +kernel, by decide +kernel, fun hretired => hopen ?_⟩
  obtain ⟨ws, hget, hclosed, -⟩ := hretired.closed
  rw [WorkspaceClosed, hget, Option.map_some, hclosed]

/-! ## The link as a partial bijection -/

/-- The Change a Workspace is bound to. -/
def boundTo (c : LocalChangeCoordinator) (workspaceId : String) : Option String :=
  (c.workspaces.get? workspaceId).bind Workspace.changeId

/-- The current Workspace of a Change. -/
def currentOf (c : LocalChangeCoordinator) (changeId : String) : Option String :=
  (c.changes.get? changeId).bind Change.workspaceId

/-- The two ends of the link agree. -/
def Linked (c : LocalChangeCoordinator) : Prop :=
  ∀ workspaceId changeId,
    boundTo c workspaceId = some changeId ↔ currentOf c changeId = some workspaceId

/-- A step that moves no end of the link keeps it. -/
theorem Linked.congr {c c' : LocalChangeCoordinator} (h : Linked c)
    (hbound : ∀ id, boundTo c' id = boundTo c id)
    (hcurrent : ∀ id, currentOf c' id = currentOf c id) : Linked c' := by
  intro workspaceId changeId
  rw [hbound, hcurrent]
  exact h workspaceId changeId

/-- Rewriting a stored Workspace without touching its binding moves no end. -/
theorem boundTo_set {c : LocalChangeCoordinator} {ws ws' : Workspace} {id : String}
    (hget : c.workspaces.get? id = some ws) (hsame : ws'.changeId = ws.changeId) (id' : String) :
    ((c.workspaces.set id ws').get? id').bind Workspace.changeId = boundTo c id' := by
  rw [OrderedMap.get?_set, boundTo]
  split
  · rename_i hid
    rw [hid, hget]
    exact hsame
  · rfl

namespace LocalSystem

variable {s s' : LocalSystem} {op : Operation} {reply : Reply}

/-- The call keeps the link's two ends together: it chooses no empty identifier,
reverts into no Workspace, and finishes a rebase only on a Change whose Workspace
is still the one the rebase read. -/
def KeepsLink (s : LocalSystem) : Operation → Prop
  | .createWorkspace input _ _ => input.id ≠ some ""
  | .createChange input _ => input.id ≠ some ""
  | .revertChange input _ => input.id ≠ some "" ∧ truthy input.workspaceId = none
  | .finishRebase index storage _ _ => storage = .written →
    ∀ call ∈ s.inFlight[index]?,
      currentOf s.control call.change.id = call.change.workspaceId
  | _ => True

instance (s : LocalSystem) : (op : Operation) → Decidable (s.KeepsLink op)
  | .createWorkspace .. | .createChange .. => inferInstanceAs (Decidable (_ ≠ _))
  | .revertChange .. => inferInstanceAs (Decidable (_ ∧ _))
  | .finishRebase .. => inferInstanceAs (Decidable (_ → ∀ call ∈ _, _ = _))
  | .registerConflict .. | .resolveConflict _ | .publishRevision .. | .beginRebase _
  | .handoffChange .. | .landCohort .. => .isTrue trivial

def LinkedCall (s : LocalSystem) (op : Operation) : Prop := s.AllFresh op ∧ s.KeepsLink op

instance (s : LocalSystem) (op : Operation) : Decidable (s.LinkedCall op) :=
  inferInstanceAs (Decidable (_ ∧ _))

/-- The link, with what its preservation needs: no record has the empty id, which
the truthiness tests would take for no id, and a suspended rebase remembers the
Workspace its Change named. -/
structure LinkInv (s : LocalSystem) : Prop where
  linked : Linked s.control
  workspaces : "" ∉ s.control.workspaces.keys
  changes : "" ∉ s.control.changes.keys
  calls : ∀ call ∈ s.inFlight, call.previousWorkspace.map Workspace.id = call.change.workspaceId

theorem LinkInv.bound_known (h : LinkInv s) {workspaceId changeId : String}
    (hbound : boundTo s.control workspaceId = some changeId) :
    changeId ∈ s.control.changes.keys := by
  obtain ⟨change, hget, -⟩ := Option.bind_eq_some_iff.mp ((h.linked _ _).mp hbound)
  exact OrderedMap.mem_keys_of_get? hget

theorem LinkInv.current_known (h : LinkInv s) {workspaceId changeId : String}
    (hcurrent : currentOf s.control changeId = some workspaceId) :
    workspaceId ∈ s.control.workspaces.keys := by
  obtain ⟨ws, hget, -⟩ := Option.bind_eq_some_iff.mp ((h.linked _ _).mpr hcurrent)
  exact OrderedMap.mem_keys_of_get? hget

/-- A new Change in a free Workspace: both ends are written. -/
theorem LinkInv.attach (h : LinkInv s) {ws ws' : Workspace} {change : Change} {id : String}
    (hget : s.control.workspaces.get? id = some ws) (hfree : ws.changeId = none)
    (hnew : change.id ∉ s.control.changes.keys) (hcurrent : change.workspaceId = some id)
    (hbound : ws'.changeId = some change.id) :
    Linked { s.control with
      changes := s.control.changes.set change.id change
      workspaces := s.control.workspaces.set id ws' } := by
  intro workspaceId changeId
  have hold := h.linked workspaceId changeId
  have hunbound : boundTo s.control id = none := by rw [boundTo, hget, Option.bind_some, hfree]
  simp only [boundTo, currentOf, OrderedMap.get?_set]
  by_cases hw : workspaceId = id <;> by_cases hc : changeId = change.id
  · simp [hw, hc, hcurrent, hbound]
  · -- the Workspace was free, so no other Change was in it
    have hnone : currentOf s.control changeId ≠ some id := fun hcur => by
      rw [← hw, ← hold, hw, hunbound] at hcur
      cases hcur
    rw [if_pos hw, if_neg hc, hw]
    simp only [Option.bind_some, hbound, Option.some.injEq]
    exact ⟨fun heq => absurd heq.symm hc, fun hcur => absurd hcur hnone⟩
  · -- the Change is new, so no other Workspace was bound to it
    have hnone : boundTo s.control workspaceId ≠ some change.id := fun hb =>
      hnew (h.bound_known hb)
    rw [if_neg hw, if_pos hc, hc]
    simp only [Option.bind_some, hcurrent, Option.some.injEq]
    exact ⟨fun hb => absurd hb hnone, fun heq => absurd heq.symm hw⟩
  · simp only [if_neg hw, if_neg hc]
    exact hold

/-- A finished rebase moves its Change from its previous Workspace to a new one. -/
theorem LinkInv.move (h : LinkInv s) {previous : Option String} {rebasedId changeId : String}
    {bound current : String → Option String} (hnew : rebasedId ∉ s.control.workspaces.keys)
    (hprevious : currentOf s.control changeId = previous)
    (hbound : ∀ id, bound id = if some id = previous then none
      else if id = rebasedId then some changeId else boundTo s.control id)
    (hcurrent : ∀ id, current id = if id = changeId then some rebasedId
      else currentOf s.control id) (workspaceId id : String) :
    bound workspaceId = some id ↔ current id = some workspaceId := by
  have hlink := h.linked workspaceId id
  rw [hbound, hcurrent]
  by_cases hprev : some workspaceId = previous
  · -- the Workspace left behind: only the moved Change was in it
    rw [if_pos hprev]
    refine ⟨nofun, fun hcur => ?_⟩
    have hmine := (h.linked workspaceId changeId).mpr (hprevious.trans hprev.symm)
    split at hcur
    · cases hcur
      rw [← hprev] at hprevious
      exact absurd (h.current_known hprevious) hnew
    · rename_i hne
      rw [hlink.mpr hcur] at hmine
      exact absurd (Option.some.inj hmine) hne
  · rw [if_neg hprev]
    by_cases hw : workspaceId = rebasedId
    · -- the new Workspace: no other Change is in it
      rw [if_pos hw]
      by_cases hid : id = changeId
      · simp [hw, hid]
      · rw [if_neg hid, Option.some.injEq]
        exact ⟨fun heq => absurd heq.symm hid, fun hcur => absurd (h.current_known (hw ▸ hcur)) hnew⟩
    · rw [if_neg hw]
      by_cases hid : id = changeId
      · rw [if_pos hid, Option.some.injEq]
        refine ⟨fun hb => ?_, fun heq => absurd heq.symm hw⟩
        rw [hid, h.linked, hprevious] at hb
        exact absurd hb.symm hprev
      · rw [if_neg hid]
        exact hlink

/-- What Workspaces are bound to after a finished rebase. -/
theorem afterRebase_bound {c : LocalChangeCoordinator} {call : RebaseCall} {rebased : Workspace}
    {uuid : String} (hcall : KnownCall c call) (hnew : rebased.id ∉ c.workspaces.keys)
    (id : String) :
    ((c.afterRebase call rebased uuid).workspaces.get? id).bind Workspace.changeId =
      if some id = call.previousWorkspace.map Workspace.id then none
      else if id = rebased.id then rebased.changeId else boundTo c id := by
  cases hprevious : call.previousWorkspace with
  | none =>
    rw [afterRebase_workspaces_of_none hprevious, OrderedMap.get?_set]
    by_cases hid : id = rebased.id <;> simp [hid, boundTo]
  | some previous =>
    have hne : previous.id ≠ rebased.id := fun heq =>
      hnew (heq ▸ (hcall.previous previous hprevious).1)
    rw [afterRebase_workspaces_of_some hprevious hne, OrderedMap.get?_set, OrderedMap.get?_set]
    by_cases hid : id = previous.id
    · simp [hid, closedWorkspace]
    · by_cases hreb : id = rebased.id <;> simp [hid, hreb, boundTo, hne.symm]

theorem Effect.linked (h : Effect s op reply s') (hs : Sound s) (hok : s.LinkedCall op)
    (hl : LinkInv s) : Linked s'.control := by
  obtain ⟨⟨hfresh, hchosen⟩, hkeep⟩ := hok
  cases h with
  | unchanged | abandoned | suspended => exact hl.linked
  | createdWorkspace _ hid _ hfree =>
    have hnew := hid ▸ not_mem_getD hfresh hchosen
    refine hl.linked.congr (fun id => ?_) fun _ => rfl
    simp only [boundTo, OrderedMap.get?_set]
    split
    · rename_i heq
      rw [Option.bind_some, hfree, heq, OrderedMap.not_mem_keys_iff.mp hnew]
      rfl
    · rfl
  | @createdChange _ _ _ ws hws _ hfree hid _ _ _ hattached =>
    have hnew := hid ▸ not_mem_getD hfresh hchosen
    have hws' := hws
    rw [← hs.keyed.workspaces _ _ hws] at hws'
    refine hl.attach hws' ?_ hnew hattached rfl
    -- a Workspace bound to the empty id would be bound to a Change with that id
    rw [truthy_eq_none] at hfree
    refine hfree.resolve_right fun hempty => hl.changes ?_
    have hbound : boundTo s.control ws.id = some "" := by
      rw [boundTo, hws']
      exact hempty
    exact hl.bound_known hbound
  | registered _ hws =>
    rw [← hs.keyed.workspaces _ _ hws] at hws
    exact hl.linked.congr (boundTo_set hws rfl) fun _ => rfl
  | @resolved _ conflict =>
    refine hl.linked.congr (fun id => ?_) fun _ => rfl
    rcases unblockWorkspace_get? hs.keyed.workspaces id with hsame | ⟨ws, state, -, hget, -, hset⟩
    · exact congrArg (Option.bind · Workspace.changeId) hsame
    · show Option.bind (OrderedMap.get? _ id) _ = _
      rw [hset, boundTo, hget]
      rfl
  | published hpub =>
    refine hl.linked.congr (fun _ => rfl) fun id => ?_
    show Option.bind (OrderedMap.get? (OrderedMap.set _ _ _) id) _ = _
    rw [OrderedMap.get?_set]
    split
    · rename_i hid
      rw [hid, hs.keyed.changes _ _ hpub.known, currentOf, hpub.known]
      exact hpub.attached.symm
    · rfl
  | @rebased _ workspaceUuid _ call rebased hcall hrebased =>
    have hnew : rebased.id ∉ s.control.workspaces.keys := by
      rw [hrebased, hs.rebased_id workspaceUuid hcall]
      exact hfresh.1
    have hprevious := (hkeep rfl call hcall).trans
      (hl.calls call (List.mem_of_getElem? hcall)).symm
    refine hl.move hnew hprevious (fun id => ?_) fun id => ?_
    · rw [boundTo, afterRebase_bound (hs.call hcall) hnew]
      subst hrebased
      rfl
    · rw [currentOf, afterRebase_changes_get?]
      split <;> rfl
  | restored hcall hrebased hrefused =>
    exact absurd (hrebased ▸ hs.rebasePublishes hcall hfresh.1) hrefused
  | handedOff _ _ hws =>
    rw [← hs.keyed.workspaces _ _ hws] at hws
    exact hl.linked.congr (boundTo_set hws rfl) fun _ => rfl
  | @reverted input _ landed ws _ _ hws =>
    have hnone : ws = none := by
      rcases hws with ⟨-, hnone⟩ | ⟨id, _, hid, -⟩
      · exact hnone
      · rw [hkeep.2] at hid
        cases hid
    refine hl.linked.congr (fun _ => rfl) fun id => ?_
    simp only [currentOf, OrderedMap.get?_set]
    split
    · rename_i hid
      have hnew : (s.control.revertingChange input _ landed ws).id ∉ s.control.changes.keys :=
        not_mem_getD hfresh hchosen
      rw [hid, OrderedMap.not_mem_keys_iff.mp hnew, hnone]
      rfl
    · rfl
  | landed hland =>
    refine hl.linked.congr (fun _ => rfl) fun id => ?_
    simp only [currentOf, fileLanding, hland.marked hs.keyed]
    split
    · cases s.control.changes.get? id <;> rfl
    · rfl

/-- A drawn or chosen identifier is not empty. -/
theorem getD_ne_empty {choice : Option String} (kind uuid : String) (h : choice ≠ some "") :
    choice.getD (opaqueId kind uuid) ≠ "" := by
  cases choice with
  | none => exact opaqueId_ne_empty kind uuid
  | some id => exact fun heq => h (congrArg some heq)

theorem Effect.workspaces_nonempty (h : Effect s op reply s') (hs : Sound s)
    (hok : s.LinkedCall op) (hl : LinkInv s) : "" ∉ s'.control.workspaces.keys := by
  obtain ⟨⟨hfresh, -⟩, hkeep⟩ := hok
  -- writing under a non-empty key
  have hset : ∀ {m : OrderedMap String Workspace} {k : String} {v : Workspace}, "" ∉ m.keys →
      k ≠ "" → "" ∉ (m.set k v).keys := fun hm hk hmem =>
    (OrderedMap.mem_keys_set.mp hmem).elim (fun heq => hk heq.symm) hm
  have hknown : ∀ {id ws}, s.control.workspaces.get? id = some ws → ws.id ≠ "" := by
    intro id ws hget heq
    rw [hs.keyed.workspaces _ _ hget] at heq
    exact hl.workspaces (heq ▸ OrderedMap.mem_keys_of_get? hget)
  cases h with
  | unchanged | abandoned | suspended | published | reverted | landed => exact hl.workspaces
  | createdWorkspace _ hid =>
    rw [OrderedMap.mem_keys_set, hid]
    exact fun hmem => hmem.elim (fun heq => getD_ne_empty _ _ hkeep heq.symm) hl.workspaces
  | createdChange hws | registered _ hws | handedOff _ _ hws => exact hset hl.workspaces (hknown hws)
  | @resolved _ conflict =>
    show "" ∉ (s.control.unblockWorkspace _ conflict.workspaceId).keys
    unfold unblockWorkspace
    split
    · exact hl.workspaces
    · rename_i ws hws
      exact hset hl.workspaces (hknown hws)
  | rebased hcall _ hpub =>
    refine afterRebase_workspaces_induction (fun m => "" ∉ m.keys) (hset hl.workspaces hpub.1)
      fun previous hprevious _ => hset (hset hl.workspaces hpub.1) fun heq => hl.workspaces ?_
    exact heq ▸ ((hs.call hcall).previous previous hprevious).1
  | restored hcall hrebased hrefused =>
    exact absurd (hrebased ▸ hs.rebasePublishes hcall hfresh.1) hrefused

theorem Effect.changes_nonempty (h : Effect s op reply s') (hs : Sound s)
    (hok : s.LinkedCall op) (hl : LinkInv s) : "" ∉ s'.control.changes.keys := by
  obtain ⟨⟨hfresh, -⟩, hkeep⟩ := hok
  have hset : ∀ {m : OrderedMap String Change} {k : String} {v : Change}, "" ∉ m.keys →
      k ≠ "" → "" ∉ (m.set k v).keys := fun hm hk hmem =>
    (OrderedMap.mem_keys_set.mp hmem).elim (fun heq => hk heq.symm) hm
  cases h with
  | unchanged | abandoned | createdWorkspace | registered | resolved | suspended | handedOff =>
    exact hl.changes
  | createdChange _ _ _ hid => exact hset hl.changes (hid ▸ getD_ne_empty _ _ hkeep)
  | published hpub =>
    refine hset hl.changes fun heq => hl.changes ?_
    rw [← heq, hs.keyed.changes _ _ hpub.known]
    exact OrderedMap.mem_keys_of_get? hpub.known
  | rebased hcall =>
    rw [afterRebase_changes]
    have hne : _ ≠ "" := fun heq => hl.changes (heq ▸ (hs.call hcall).changeId)
    exact hset (hset hl.changes hne) hne
  | restored hcall hrebased hrefused =>
    exact absurd (hrebased ▸ hs.rebasePublishes hcall hfresh.1) hrefused
  | reverted => exact hset hl.changes (getD_ne_empty _ _ hkeep.1)
  | landed hland =>
    intro hmem
    obtain ⟨change, hget⟩ := OrderedMap.mem_keys_iff.mp hmem
    rcases markLanded_get?_cases hget with hkept | ⟨sel, hsel, hid, -⟩
    · exact hl.changes (OrderedMap.mem_keys_of_get? hkept)
    · obtain ⟨member, -, hready⟩ := hland.ready hsel
      rw [hs.keyed.changes _ _ hready.knownChange] at hid
      exact hl.changes (hid ▸ OrderedMap.mem_keys_of_get? hready.knownChange)

theorem Effect.calls_linked (h : Effect s op reply s') (hs : Sound s) (hl : LinkInv s) :
    ∀ call ∈ s'.inFlight,
      call.previousWorkspace.map Workspace.id = call.change.workspaceId := by
  cases h with
  | unchanged | createdWorkspace | createdChange | registered | resolved | published | handedOff
  | reverted | landed => exact hl.calls
  | abandoned | rebased | restored =>
    exact fun call hcall => hl.calls call (List.mem_of_mem_eraseIdx hcall)
  | @suspended input _ hchange hprevious =>
    intro call hcall
    rcases List.mem_append.mp hcall with hmem | hnew
    · exact hl.calls call hmem
    · cases List.mem_singleton.mp hnew
      rcases hprevious with ⟨hnone, hprev⟩ | ⟨id, ws, hid, hws, hprev⟩
      · -- the Change names no Workspace: not the empty id either
        rcases truthy_eq_none.mp hnone with habsent | hempty
        · rw [hprev, habsent]
          rfl
        · have hcurrent : currentOf s.control input.changeId = some "" := by
            rw [currentOf, hchange]
            exact hempty
          exact absurd (hl.current_known hcurrent) hl.workspaces
      · rw [hprev, (truthy_eq_some.mp hid).1, Option.map_some, hs.keyed.workspaces _ _ hws]

theorem Effect.linkInv (h : Effect s op reply s') (hs : Sound s) (hok : s.LinkedCall op)
    (hl : LinkInv s) : LinkInv s' :=
  ⟨h.linked hs hok hl, h.workspaces_nonempty hs hok hl, h.changes_nonempty hs hok hl,
    h.calls_linked hs hl⟩

end LocalSystem

/-- Attachment is a partial bijection, and publication respects it. -/
structure Attachment (c : LocalChangeCoordinator) : Prop where
  linked : Linked c
  /-- No Workspace is the current one of two Changes. -/
  exclusive : ∀ workspaceId a b, currentOf c a = some workspaceId →
    currentOf c b = some workspaceId → a = b
  /-- A published revision is of a Workspace bound to the revision's own Change. -/
  publishes : ∀ input uuid revision c', c.publishRevision input uuid = .ok (revision, c') →
    ∃ workspaceId, revision.workspaceId = some workspaceId ∧
      boundTo c workspaceId = some revision.changeId

/-- **Attachment is a partial bijection** in every state of a run whose calls keep
the link's ends together. -/
theorem attachment_of_run {text : UnicodeText} {project : Project}
    {canonicalRevision : ProjectRevision} {tr : List (Transition LocalSystem Operation Reply)}
    {s : LocalSystem} (hrun : RunFrom text project canonicalRevision LinkedCall tr s) :
    Attachment s.control := by
  have hstart : LinkInv (initial project canonicalRevision) :=
    ⟨fun _ _ => ⟨nofun, nofun⟩, List.not_mem_nil, List.not_mem_nil, fun _ h => nomatch h⟩
  obtain ⟨hs, hl⟩ := sound_invariant (sound_initial _ _) LinkInv (fun _ _ h => h.1.1) hstart
    (fun _ _ _ _ hl hs hok heff => heff.linkInv hs hok hl) hrun
  refine ⟨hl.linked, fun workspaceId a b ha hb => ?_, fun input uuid revision c' hpub => ?_⟩
  · have hbound := (hl.linked workspaceId a).mpr ha
    rw [(hl.linked workspaceId b).mpr hb] at hbound
    exact (Option.some.inj hbound).symm
  · obtain ⟨change, ws, hpublishable, rfl, -⟩ := publishRevision_eq_ok.mp hpub
    refine ⟨ws.id, rfl, (hl.linked _ _).mpr ?_⟩
    rw [currentOf, show (s.control.publishedRevision input uuid change ws).changeId = change.id
      from rfl, hs.keyed.changes _ _ hpublishable.known, hpublishable.known]
    exact hpublishable.attached

theorem attachment_of_run_sample : Attachment (Sample.ran Sample.rebasedAway).2.control :=
  attachment_of_run (run_exec (by decide +kernel))

namespace Sample

/-- `change:A` lands, and a revert of it is started in a Workspace of its own. -/
def revertedInto : List Operation :=
  startChange "A" ++
    [publish "change:A" (some "v") "a",
     land [⟨"change:A", "change-revision:a"⟩] "r0" "p",
     .createWorkspace (request "project-revision:p" "v") .written "2",
     .revertChange {
       landedChangeRevisionId := "change-revision:a"
       intentId := "intent"
       workspaceId := some "workspace:2" } "R"]

end Sample

/-- The Workspace a revert is started in is not bound to the revert's Change. -/
theorem revert_binds_no_workspace :
    Admits (step Sample.ascii) AllFresh (.initial Sample.project Sample.canonicalRevision)
        Sample.revertedInto ∧
      ¬ Attachment (Sample.ran Sample.revertedInto).2.control := by
  refine ⟨by decide +kernel, fun hattach => ?_⟩
  have hcurrent : currentOf (Sample.ran Sample.revertedInto).2.control "change-revert:R"
      = some "workspace:2" := by
    decide +kernel
  have hbound : boundTo (Sample.ran Sample.revertedInto).2.control "workspace:2" = none := by
    decide +kernel
  rw [← hattach.linked, hbound] at hcurrent
  cases hcurrent

end Anyam.ChangeControl
