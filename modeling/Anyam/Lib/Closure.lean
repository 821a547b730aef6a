import Mathlib.Data.List.Perm.Subperm

/-!
# Closing a set of keys under links

A loop passes over some records again and again and adds the key of each one that is linked to
a key it has, until a pass adds nothing.

- `linkPass`: one pass. `saturate`: passes until one adds nothing, with a bound.
- **`closed_saturate`**: with one pass more than there are records, the loop ends with a set
  that no record is linked to from outside.
- **`Reached.mem_saturate`**: it has what links lead back from to the first key.
-/

namespace Anyam.Lib

universe u v

variable {κ : Type u} {α : Type v} [DecidableEq κ]

/-- Add the key of every record that is linked to the keys so far. -/
def linkPass (key : α → κ) (linked : List κ → α → Bool) (xs : List α) (keys : List κ) : List κ :=
  xs.foldl (fun keys x => if linked keys x ∧ key x ∉ keys then keys ++ [key x] else keys) keys

/-- Pass over the records until nothing is added, at most `bound` times. -/
def saturate (key : α → κ) (linked : List κ → α → Bool) (xs : List α) : Nat → List κ → List κ
  | 0, keys => keys
  | bound + 1, keys =>
    if linkPass key linked xs keys = keys then keys
    else saturate key linked xs bound (linkPass key linked xs keys)

variable {key : α → κ} {linked : List κ → α → Bool}

/-- A pass appends new keys of the records. -/
theorem exists_linkPass (key : α → κ) (linked : List κ → α → Bool) (xs : List α) (keys : List κ) :
    ∃ added, linkPass key linked xs keys = keys ++ added ∧ added.Nodup ∧
      (∀ k ∈ added, k ∉ keys) ∧ added ⊆ xs.map key := by
  induction xs generalizing keys with
  | nil => exact ⟨[], (List.append_nil _).symm, List.nodup_nil, nofun, List.nil_subset _⟩
  | cons x xs ih =>
    unfold linkPass
    rw [List.foldl_cons]
    by_cases hx : linked keys x ∧ key x ∉ keys
    · obtain ⟨added, heq, hnodup, hnew, hsub⟩ := ih (keys ++ [key x])
      rw [if_pos hx]
      refine ⟨key x :: added, ?_, ?_, ?_, ?_⟩
      · show linkPass key linked xs (keys ++ [key x]) = keys ++ key x :: added
        rw [heq, List.append_assoc]
        rfl
      · exact List.nodup_cons.mpr ⟨fun h => hnew _ h (by simp), hnodup⟩
      · intro k hk
        rcases List.mem_cons.mp hk with rfl | hk
        · exact hx.2
        · exact fun h => hnew k hk (List.mem_append_left _ h)
      · exact List.cons_subset_cons _ hsub
    · obtain ⟨added, heq, hnodup, hnew, hsub⟩ := ih keys
      rw [if_neg hx]
      exact ⟨added, heq, hnodup, hnew, List.Subset.trans hsub (List.subset_cons_self ..)⟩

/-- A pass that adds nothing has found no record linked from outside. -/
theorem closed_of_linkPass {xs : List α} {keys : List κ} (h : linkPass key linked xs keys = keys) :
    ∀ x ∈ xs, linked keys x = true → key x ∈ keys := by
  induction xs with
  | nil => exact nofun
  | cons x xs ih =>
    unfold linkPass at h
    rw [List.foldl_cons] at h
    by_cases hx : linked keys x ∧ key x ∉ keys
    · rw [if_pos hx] at h
      obtain ⟨added, heq, -⟩ := exists_linkPass key linked xs (keys ++ [key x])
      have hlen := congrArg List.length (heq.symm.trans h)
      simp only [List.length_append, List.length_singleton] at hlen
      omega
    · rw [if_neg hx] at h
      intro y hy hlinked
      rcases List.mem_cons.mp hy with rfl | hy
      · by_contra hnot
        exact hx ⟨hlinked, hnot⟩
      · exact ih h y hy hlinked

/-- While a pass adds something, fewer records are left to add. -/
theorem closed_of_bound {xs : List α} (start : List κ) {bound : Nat} {added : List κ}
    (hnodup : added.Nodup) (hsub : added ⊆ xs.map key) (hnew : ∀ k ∈ added, k ∉ start)
    (hbound : xs.length < bound + added.length) :
    ∀ x ∈ xs, linked (saturate key linked xs bound (start ++ added)) x = true →
      key x ∈ saturate key linked xs bound (start ++ added) := by
  induction bound generalizing added with
  | zero =>
    have hle := (List.subperm_of_subset hnodup hsub).length_le
    rw [List.length_map] at hle
    omega
  | succ bound ih =>
    unfold saturate
    split
    · rename_i hstable
      exact closed_of_linkPass hstable
    · rename_i hgrows
      obtain ⟨more, heq, hmore, hfresh, hmoresub⟩ :=
        exists_linkPass key linked xs (start ++ added)
      have hne : more ≠ [] := by
        rintro rfl
        exact hgrows (heq.trans (List.append_nil _))
      rw [heq, List.append_assoc]
      refine ih ?_ (List.append_subset.mpr ⟨hsub, hmoresub⟩) ?_ ?_
      · refine List.nodup_append.mpr ⟨hnodup, hmore, ?_⟩
        rintro a ha b hb rfl
        exact hfresh a hb (List.mem_append_right _ ha)
      · intro k hk
        rcases List.mem_append.mp hk with hk | hk
        · exact hnew k hk
        · exact fun h => hfresh k hk (List.mem_append_left _ h)
      · have := List.length_pos_of_ne_nil hne
        rw [List.length_append]
        omega

/-- **The loop closes the set**: a record linked to a key it ends with has its own key there. -/
theorem closed_saturate {xs : List α} {keys : List κ} :
    ∀ x ∈ xs, linked (saturate key linked xs (xs.length + 1) keys) x = true →
      key x ∈ saturate key linked xs (xs.length + 1) keys := by
  have hbound : xs.length < xs.length + 1 + ([] : List κ).length := by simp
  have h := @closed_of_bound κ α _ key linked xs keys _ [] List.nodup_nil (List.nil_subset _)
    nofun hbound
  rwa [List.append_nil] at h

theorem subset_saturate {xs : List α} {bound : Nat} {keys : List κ} :
    keys ⊆ saturate key linked xs bound keys := by
  induction bound generalizing keys with
  | zero => exact List.Subset.refl _
  | succ bound ih =>
    unfold saturate
    split
    · exact List.Subset.refl _
    · obtain ⟨added, heq, -⟩ := exists_linkPass key linked xs keys
      rw [heq]
      exact List.Subset.trans (List.subset_append_left ..) ih

/-- A key that links from child to parent lead back from, to a first key. -/
inductive Reached (key : α → κ) (parent : α → Option κ) (xs : List α) (start : κ) : κ → Prop
  | self : Reached key parent xs start start
  | child {x : α} {k : κ} (hmem : x ∈ xs) (hparent : parent x = some k)
      (hk : Reached key parent xs start k) : Reached key parent xs start (key x)

/-- The loop has every key that is reached by links it looks at. -/
theorem Reached.mem_saturate {parent : α → Option κ} {xs : List α} {start k : κ}
    (h : Reached key parent xs start k)
    (hlinked : ∀ keys x k, parent x = some k → k ∈ keys → linked keys x = true) :
    k ∈ saturate key linked xs (xs.length + 1) [start] := by
  induction h with
  | self => exact subset_saturate (List.mem_singleton_self start)
  | child hmem hparent _ ih => exact closed_saturate _ hmem (hlinked _ _ _ hparent ih)

end Anyam.Lib
