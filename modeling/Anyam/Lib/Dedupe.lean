import Mathlib.Data.List.Dedup
import Mathlib.Data.List.Perm.Subperm

/-!
# Deduplication by a key

A loop that remembers the keys it has seen keeps the first element of each key.
What it keeps is a sublist with distinct keys and one element for every key
(`exists_mem_dedupeBy`); it keeps every element exactly when the key tells the
elements apart (`forall_mem_dedupeBy_iff`), and that can be read off the number of
elements kept (`distinguishes_of_length_le`).
-/

namespace Anyam.Lib

universe u v

variable {α : Type u} {κ : Type v} [DecidableEq κ]

/-- The first element of each key that is not among the seen ones. -/
def dedupeFrom (key : α → κ) : List κ → List α → List α
  | _, [] => []
  | seen, a :: l =>
    if key a ∈ seen then dedupeFrom key seen l else a :: dedupeFrom key (key a :: seen) l

/-- The first element of each key. -/
def dedupeBy (key : α → κ) (l : List α) : List α := dedupeFrom key [] l

/-- `[...new Set(l)]`. -/
abbrev distinct (l : List κ) : List κ := dedupeBy id l

/-- The key tells the elements of the list apart. -/
def Distinguishes (key : α → κ) (l : List α) : Prop :=
  ∀ a ∈ l, ∀ b ∈ l, key a = key b → a = b

instance [DecidableEq α] (key : α → κ) (l : List α) : Decidable (Distinguishes key l) :=
  inferInstanceAs (Decidable (∀ a ∈ l, ∀ b ∈ l, _ → _))

variable {key : α → κ} {l : List α}

theorem dedupeFrom_sublist (seen : List κ) (l : List α) :
    (dedupeFrom key seen l).Sublist l := by
  induction l generalizing seen with
  | nil => exact .slnil
  | cons a l ih =>
    unfold dedupeFrom
    split
    · exact (ih seen).cons a
    · exact (ih (key a :: seen)).cons_cons a

theorem mem_of_mem_dedupeBy {a : α} (h : a ∈ dedupeBy key l) : a ∈ l :=
  (dedupeFrom_sublist [] l).subset h

/-- A kept element has a key that was not seen before. -/
theorem key_not_mem_of_mem_dedupeFrom {seen : List κ} {l : List α} {a : α}
    (h : a ∈ dedupeFrom key seen l) : key a ∉ seen := by
  induction l generalizing seen with
  | nil => cases h
  | cons b l ih =>
    unfold dedupeFrom at h
    split at h
    · exact ih h
    · rcases List.mem_cons.mp h with rfl | h
      · assumption
      · exact fun hseen => ih h (List.mem_cons_of_mem _ hseen)

theorem nodup_dedupeFrom (seen : List κ) (l : List α) : (dedupeFrom key seen l).Nodup := by
  induction l generalizing seen with
  | nil => exact List.nodup_nil
  | cons a l ih =>
    unfold dedupeFrom
    split
    · exact ih seen
    · refine List.nodup_cons.mpr ⟨fun hmem => ?_, ih _⟩
      exact key_not_mem_of_mem_dedupeFrom hmem (List.mem_cons_self ..)

theorem nodup_dedupeBy : (dedupeBy key l).Nodup := nodup_dedupeFrom [] l

theorem exists_mem_dedupeFrom {seen : List κ} {l : List α} {a : α} (ha : a ∈ l)
    (hseen : key a ∉ seen) : ∃ b ∈ dedupeFrom key seen l, key b = key a := by
  induction l generalizing seen with
  | nil => cases ha
  | cons c l ih =>
    unfold dedupeFrom
    rcases List.mem_cons.mp ha with rfl | ha
    · rw [if_neg hseen]
      exact ⟨a, List.mem_cons_self .., rfl⟩
    · split
      · exact ih ha hseen
      · by_cases hc : key a = key c
        · exact ⟨c, List.mem_cons_self .., hc.symm⟩
        · have hnew : key a ∉ key c :: seen := by simp [hc, hseen]
          obtain ⟨b, hb, hkey⟩ := ih ha hnew
          exact ⟨b, List.mem_cons_of_mem _ hb, hkey⟩

/-- Every key of the list is kept once. -/
theorem exists_mem_dedupeBy {a : α} (ha : a ∈ l) : ∃ b ∈ dedupeBy key l, key b = key a :=
  exists_mem_dedupeFrom ha List.not_mem_nil

theorem inj_on_dedupeFrom {seen : List κ} {l : List α} :
    Distinguishes key (dedupeFrom key seen l) := by
  induction l generalizing seen with
  | nil => exact fun _ h => nomatch h
  | cons c l ih =>
    unfold dedupeFrom
    split
    · exact ih
    · -- the head's key is seen by the rest
      have hrest : ∀ b ∈ dedupeFrom key (key c :: seen) l, key b ≠ key c := fun b hb heq =>
        key_not_mem_of_mem_dedupeFrom hb (heq ▸ List.mem_cons_self ..)
      intro a ha b hb heq
      rcases List.mem_cons.mp ha with rfl | ha <;> rcases List.mem_cons.mp hb with rfl | hb
      · rfl
      · exact absurd heq.symm (hrest b hb)
      · exact absurd heq (hrest a ha)
      · exact ih a ha b hb heq

/-- **Nothing is lost** exactly when the key tells the elements apart. -/
theorem forall_mem_dedupeBy_iff : (∀ a ∈ l, a ∈ dedupeBy key l) ↔ Distinguishes key l := by
  constructor
  · intro hall a ha b hb
    exact inj_on_dedupeFrom a (hall a ha) b (hall b hb)
  · intro hkey a ha
    obtain ⟨b, hb, heq⟩ : ∃ b ∈ dedupeBy key l, key b = key a := exists_mem_dedupeBy ha
    exact hkey b (mem_of_mem_dedupeBy hb) a ha heq ▸ hb

@[simp] theorem mem_distinct {k : κ} {ks : List κ} : k ∈ distinct ks ↔ k ∈ ks :=
  ⟨mem_of_mem_dedupeBy, (forall_mem_dedupeBy_iff.mpr fun _ _ _ _ h => h) k⟩

variable [DecidableEq α]

/-- If the key tells the elements apart, as many are kept as there are different
ones with a property. -/
theorem Distinguishes.length_filter_le (h : Distinguishes key l) (p : α → Bool) :
    (l.dedup.filter p).length ≤ ((dedupeBy key l).filter p).length := by
  refine (List.subperm_of_subset ((List.nodup_dedup l).filter p) fun a ha => ?_).length_le
  obtain ⟨hmem, hp⟩ := List.mem_filter.mp ha
  exact List.mem_filter.mpr ⟨forall_mem_dedupeBy_iff.mpr h a (List.mem_dedup.mp hmem), hp⟩

/-- A key that keeps as many elements as there are different ones tells them
apart. -/
theorem distinguishes_of_length_le (h : l.dedup.length ≤ (dedupeBy key l).length) :
    Distinguishes key l := by
  have hsub : dedupeBy key l ⊆ l.dedup := fun a ha => List.mem_dedup.mpr (mem_of_mem_dedupeBy ha)
  have hperm := (List.subperm_of_subset nodup_dedupeBy hsub).perm_of_length_le h
  exact forall_mem_dedupeBy_iff.mp fun a ha => hperm.symm.subset (List.mem_dedup.mpr ha)

end Anyam.Lib
