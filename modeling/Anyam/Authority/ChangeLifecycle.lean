import Anyam.Authority.Transitions

/-!
# The lifecycle of a Change

A Change is created active, is submitted by each Revision that is published for it, and is landed
once. The commands write a Change under the id it has.

- `ChangePut`: the Change a write files, with the one it was. **`Wrote.changes`**: a write files at
  most one.
- **`step_landed_kept`**: a landed Change is written no more.
-/

namespace Anyam.Authority

open Anyam.Lib Anyam.Kernel Anyam.Delivery Anyam.Execution

/-- The Change a write files on the snapshot `m`, and its key. -/
inductive ChangePut (m : AuthorityPlaneSnapshot) : String → Change → Prop
  | created {change : Change} (hnew : m.changes.get? change.id = none)
      (hstatus : change.status = .active) (hlatest : change.latestRevisionId = none) :
      ChangePut m change.id change
  | published {id : String} {change : Change} (revisionId : String)
      (hget : m.changes.get? id = some change) (hlanded : change.status ≠ .landed) :
      ChangePut m id { change with latestRevisionId := some revisionId, status := .submitted }
  | landed {id : String} {change : Change} (hget : m.changes.get? id = some change)
      (hstatus : change.status = .submitted) :
      ChangePut m change.id { change with status := .landed }

section

variable {services : AuthorityServices} {s : AuthorityPlaneSnapshot} {call : AuthorityCall}
  {cs : List Collection} {m m' : AuthorityPlaneSnapshot} {id : String} {change : Change}

/-- **A write files at most one Change.** -/
theorem Wrote.changes (h : Wrote services s call cs m m') :
    m'.changes = m.changes ∨ ∃ id change, ChangePut m id change ∧
      m'.changes = m.changes.set id change := by
  have hframe := h.writesOnly
  cases h with
  | changeCreate h =>
    obtain ⟨project, _, workspace, change, -, -, hstatus, hlatest, -, -, -, -, -, hnew, rfl, -⟩ :=
      changeCreate_ok h
    refine .inr ⟨change.id, change, .created hnew hstatus hlatest, ?_⟩
    have hintent : (materializedIntent m project.id change.intentId change.author
        call.drawn.now).records .changes = m.records .changes :=
      (materializedIntent_writes ..).records .changes (by decide)
    rw [AuthorityPlaneSnapshot.changes, (claimWorkspace_writes ..).records .changes (by decide),
      AuthorityPlaneSnapshot.put_same, hintent]
  | revisionPublish h =>
    obtain ⟨changeId, id, change, _, _, -, hget, hlanded, -, -, -, -, -, -, -, -, rfl, -⟩ :=
      revisionPublish_ok h
    exact .inr ⟨changeId, _, .published id hget hlanded, rfl⟩
  | landingApply _ h =>
    obtain ⟨_, _, _, _, change, _, _, _, -, hget, -, -, hstatus, -, -, -, -, -, -, -, -, -, -, rfl⟩ :=
      landingApply_ok h
    refine .inr ⟨change.id, _, .landed hget hstatus, ?_⟩
    rw [AuthorityPlaneSnapshot.changes, (closeWorkspace_writes _).records .changes (by decide),
      AuthorityPlaneSnapshot.put_same]
    rfl
  | filed c hc id record _ =>
    left
    refine hframe.records .changes fun hmem => ?_
    cases List.mem_singleton.mp hmem
    exact absurd hc (by decide)
  | _ => exact .inl (hframe.records .changes (by decide))

/-! ## Keys -/

theorem ChangePut.id_eq (h : ChangePut m id change)
    (hkeyed : OrderedMap.SelfKeyed Change.id m.changes) : change.id = id := by
  cases h with
  | created => rfl
  | @published _ change _ hget _ =>
    show change.id = id
    exact hkeyed _ _ hget
  | landed => rfl

theorem Wrote.changes_keyed (h : Wrote services s call cs m m')
    (hkeyed : OrderedMap.SelfKeyed Change.id m.changes) :
    OrderedMap.SelfKeyed Change.id m'.changes := by
  rcases h.changes with heq | ⟨id, change, hput, heq⟩
  · rw [heq]
    exact hkeyed
  · rw [heq]
    exact hkeyed.set (hput.id_eq hkeyed)

theorem step_changes_keyed (hkeyed : OrderedMap.SelfKeyed Change.id s.changes) :
    OrderedMap.SelfKeyed Change.id (step services call s).2.changes := by
  rcases step_records services call s with heq | ⟨next, hwrites, heq⟩
  · rw [AuthorityPlaneSnapshot.changes, heq]
    exact hkeyed
  · rw [AuthorityPlaneSnapshot.changes, heq]
    exact hwrites.wrote.invariant (fun m => OrderedMap.SelfKeyed Change.id m.changes)
      (fun _ _ _ hwrote hkeyed => hwrote.changes_keyed hkeyed) hkeyed

/-! ## Landed Changes -/

/-- A landed Change is not the one a write files. -/
theorem ChangePut.id_ne {written : Change} {key : String} (h : ChangePut m key written)
    (hkeyed : OrderedMap.SelfKeyed Change.id m.changes) (hget : m.changes.get? id = some change)
    (hlanded : change.status = .landed) : id ≠ key := by
  rintro rfl
  cases h with
  | created hnew _ _ =>
    rw [hnew] at hget
    cases hget
  | published _ hold hstatus =>
    cases hget.symm.trans hold
    exact hstatus hlanded
  | landed hold hstatus =>
    -- the Change that is landed now is the one under its own id
    cases hkeyed _ _ hold
    cases hget.symm.trans hold
    rw [hstatus] at hlanded
    cases hlanded

theorem Wrote.landed_kept (h : Wrote services s call cs m m')
    (hkeyed : OrderedMap.SelfKeyed Change.id m.changes) (hget : m.changes.get? id = some change)
    (hlanded : change.status = .landed) : m'.changes.get? id = some change := by
  rcases h.changes with heq | ⟨key, written, hput, heq⟩
  · rw [heq]
    exact hget
  · rw [heq, OrderedMap.get?_set_ne _ _ (hput.id_ne hkeyed hget hlanded)]
    exact hget

/-- **Landed is final**: a call writes no landed Change. -/
theorem step_landed_kept (hkeyed : OrderedMap.SelfKeyed Change.id s.changes)
    (hget : s.changes.get? id = some change) (hlanded : change.status = .landed) :
    (step services call s).2.changes.get? id = some change := by
  rcases step_records services call s with heq | ⟨next, hwrites, heq⟩
  · rw [AuthorityPlaneSnapshot.changes, heq]
    exact hget
  · rw [AuthorityPlaneSnapshot.changes, heq]
    exact (hwrites.wrote.invariant (fun m => OrderedMap.SelfKeyed Change.id m.changes ∧
      m.changes.get? id = some change) (fun _ _ _ hwrote ⟨hkeyed, hget⟩ =>
        ⟨hwrote.changes_keyed hkeyed, hwrote.landed_kept hkeyed hget hlanded⟩) ⟨hkeyed, hget⟩).2

end

end Anyam.Authority
