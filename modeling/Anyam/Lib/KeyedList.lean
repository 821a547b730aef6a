import Mathlib.Data.List.Dedup
import Mathlib.Data.List.Nodup
import Mathlib.Data.List.Perm.Subperm

/-!
# Lists read as maps

`new Map(list.map(…))` keeps the last element listed for a key. Two lists are compared
through it: equally many elements, and each one of the left found under its key on the
right. With distinct keys on the left this is equality up to the order
(`perm_of_sameListing`). Without them the lengths compare what is repeated and what is left out
(`length_eq_iff_of_subset`).
-/

namespace Anyam.Lib

universe u v

variable {α : Type u} {κ : Type v} [DecidableEq κ] {key : α → κ} {l r : List α}

/-- The last element listed for the key. -/
def lastWith (key : α → κ) (l : List α) (k : κ) : Option α :=
  l.reverse.find? fun a => key a = k

/-- As many elements, and every one of the left list is the last one listed for its key
in the right list. -/
def SameListing (key : α → κ) (l r : List α) : Prop :=
  l.length = r.length ∧ ∀ a ∈ l, lastWith key r (key a) = some a

theorem lastWith_eq_some {k : κ} {a : α} (h : lastWith key l k = some a) : a ∈ l ∧ key a = k := by
  refine ⟨List.mem_reverse.mp (List.mem_of_find?_eq_some h), ?_⟩
  simpa using List.find?_some h

theorem lastWith_eq_none {k : κ} : lastWith key l k = none ↔ ∀ a ∈ l, key a ≠ k := by
  simp [lastWith]

/-- With distinct keys, every element is the one listed for its key. -/
theorem lastWith_of_nodup (hl : (l.map key).Nodup) {a : α} (ha : a ∈ l) :
    lastWith key l (key a) = some a := by
  cases hfound : lastWith key l (key a) with
  | none => exact absurd rfl (lastWith_eq_none.mp hfound a ha)
  | some b =>
    obtain ⟨hb, hkey⟩ := lastWith_eq_some hfound
    rw [List.inj_on_of_nodup_map hl hb ha hkey]

/-- Lists that are equal up to the order list the same for every key. -/
theorem lastWith_of_perm (hl : (l.map key).Nodup) (h : l.Perm r) (k : κ) :
    lastWith key r k = lastWith key l k := by
  have hr : (r.map key).Nodup := (h.map key).nodup_iff.mp hl
  cases hfound : lastWith key l k with
  | none => exact lastWith_eq_none.mpr fun a ha => lastWith_eq_none.mp hfound a (h.symm.subset ha)
  | some a =>
    obtain ⟨ha, rfl⟩ := lastWith_eq_some hfound
    exact lastWith_of_nodup hr (h.subset ha)

theorem sameListing_of_perm (hl : (l.map key).Nodup) (h : l.Perm r) : SameListing key l r := by
  refine ⟨h.length_eq, fun a ha => ?_⟩
  rw [lastWith_of_perm hl h]
  exact lastWith_of_nodup hl ha

/-- **Equality up to the order**, when the left keys are distinct. -/
theorem perm_of_sameListing (hl : (l.map key).Nodup) (h : SameListing key l r) : l.Perm r := by
  have hsub : l ⊆ r := fun a ha => (lastWith_eq_some (h.2 a ha)).1
  exact (List.subperm_of_subset hl.of_map hsub).perm_of_length_le (Nat.le_of_eq h.1.symm)

/-- Equal up to the order means the same listing, when the left keys are distinct. -/
theorem sameListing_iff_perm (hl : (l.map key).Nodup) : SameListing key l r ↔ l.Perm r :=
  ⟨perm_of_sameListing hl, sameListing_of_perm hl⟩

/-! ## Repeated and omitted elements -/

section

variable [DecidableEq α]

/-- How many elements of the list are there again. -/
def repeats (l : List α) : Nat := l.length - l.dedup.length

/-- How many different elements of `r` are not in `l`. -/
def omitted (l r : List α) : Nat := (r.dedup.filter fun a => a ∉ l).length

theorem length_eq_repeats_add : l.length = repeats l + l.dedup.length := by
  have hle : l.dedup.length ≤ l.length := (List.dedup_sublist l).length_le
  unfold repeats
  omega

theorem repeats_of_nodup (h : l.Nodup) : repeats l = 0 := by
  unfold repeats
  rw [List.dedup_eq_self.mpr h]
  omega

theorem omitted_eq_zero : omitted l r = 0 ↔ r ⊆ l := by
  unfold omitted
  rw [List.length_eq_zero_iff, List.filter_eq_nil_iff]
  constructor
  · intro h a ha
    simpa using h a (List.mem_dedup.mpr ha)
  · intro h a ha
    simpa using h (List.mem_dedup.mp ha)

/-- The different elements of a list are those of a part of it and the others. -/
theorem length_dedup_of_subset (h : l ⊆ r) :
    r.dedup.length = l.dedup.length + omitted l r := by
  have hperm : (r.dedup.filter fun a => a ∈ l).Perm l.dedup := by
    refine (List.perm_ext_iff_of_nodup ((List.nodup_dedup r).filter _) (List.nodup_dedup l)).mpr ?_
    intro a
    simp only [List.mem_filter, List.mem_dedup, decide_eq_true_iff]
    exact ⟨And.right, fun ha => ⟨h ha, ha⟩⟩
  have hsplit := List.length_eq_length_filter_add (l := r.dedup) fun a => decide (a ∈ l)
  rw [hsplit, hperm.length_eq]
  unfold omitted
  simp

/-- A list that is part of another is as long when it repeats as much as the other repeats and it
leaves out. -/
theorem length_eq_iff_of_subset (h : l ⊆ r) :
    l.length = r.length ↔ repeats l = repeats r + omitted l r := by
  have hl : l.length = repeats l + l.dedup.length := length_eq_repeats_add
  have hr : r.length = repeats r + r.dedup.length := length_eq_repeats_add
  have hdedup := length_dedup_of_subset h
  omega

end

end Anyam.Lib
