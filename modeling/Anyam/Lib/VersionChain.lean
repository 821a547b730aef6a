import Mathlib.Data.List.Chain
import Mathlib.Data.List.Range

/-!
# Version chains

The versions of one object, oldest first: numbered 1, 2, ..., each naming the
version before it as its parent. Appending a version that counts and links from
the last one keeps the chain (`VersionChain.snoc`).
-/

namespace Anyam.Lib

universe u v

variable {α : Type u} {κ : Type v} (idOf : α → κ) (parentOf : α → Option κ) (sequenceOf : α → Nat)

structure VersionChain (l : List α) : Prop where
  numbered : l.map sequenceOf = List.range' 1 l.length
  linked : l.IsChain fun a b => parentOf b = some (idOf a)
  rooted : ∀ a ∈ l.head?, parentOf a = none

variable {idOf parentOf sequenceOf} {l : List α}

theorem VersionChain.nil : VersionChain idOf parentOf sequenceOf [] :=
  ⟨rfl, .nil, nofun⟩

/-- The last version's number is the number of versions. -/
theorem VersionChain.last_sequence (h : VersionChain idOf parentOf sequenceOf l) :
    (l.getLast?.map sequenceOf).getD 0 = l.length := by
  rw [← List.getLast?_map, h.numbered, List.getLast?_range']
  split
  · rename_i hlen
    rw [hlen]
    rfl
  · show 1 + l.length - 1 = l.length
    omega

/-- The next version counts and links from the last one. -/
theorem VersionChain.snoc (h : VersionChain idOf parentOf sequenceOf l) {a : α}
    (hseq : sequenceOf a = (l.getLast?.map sequenceOf).getD 0 + 1)
    (hparent : parentOf a = l.getLast?.map idOf) :
    VersionChain idOf parentOf sequenceOf (l ++ [a]) := by
  refine ⟨?_, ?_, ?_⟩
  · rw [List.map_append, h.numbered, List.length_append, List.length_singleton,
      List.range'_concat, List.map_singleton, hseq, h.last_sequence, Nat.one_mul, Nat.add_comm]
  · refine List.isChain_append.mpr ⟨h.linked, .singleton _, fun x hx y hy => ?_⟩
    cases hy
    rw [hparent, hx]
    rfl
  · intro x hx
    cases l with
    | nil =>
      cases hx
      exact hparent
    | cons b l => exact h.rooted x hx

end Anyam.Lib
