import Mathlib.Data.List.Perm.Subperm
import Anyam.Lib.OrderedMap

/-!
# Chains of parents

Records of a map name a parent by its key. A check walks from a record to its parent, to the
parent of that, and so on, and holds when every record it meets passes and the walk ends at one
without a parent; a record that is met twice ends the walk with a failure.

- `chainHolds`: the walk, with the keys it has met and a bound on its steps.
- `Grounded`: the chain from a record up to one without a parent, every record on it passing
  the test for its distance.
- **`chainHolds_iff_grounded`**: with as many steps as the map has keys, the walk succeeds
  exactly on the grounded records. A parent is named by its key, so a chain that ends has met
  no record twice, and neither the bound nor the memory of the walk stops it.
- `Grounded.carry`: what goes from a record to its parent holds along the whole chain.
-/

namespace Anyam.Lib

universe u v

variable {κ : Type u} {α : Type v} [DecidableEq κ]

/-- Walk to the parents with at most `fuel` records, having met the keys `seen`. -/
def chainHolds (m : OrderedMap κ α) (key : α → κ) (parent : α → Option κ) (passes : Nat → α → Bool) :
    Nat → Nat → List κ → α → Bool
  | 0, _, _, _ => false
  | fuel + 1, distance, seen, x =>
    if key x ∈ seen then false
    else passes distance x && match parent x with
      | none => true
      | some p => match m.get? p with
        | none => false
        | some y => chainHolds m key parent passes fuel (distance + 1) (key x :: seen) y

/-- Every record from `x`, at `distance`, up to one without a parent passes. -/
inductive Grounded (m : OrderedMap κ α) (parent : α → Option κ) (passes : Nat → α → Prop) :
    Nat → α → Prop
  | root {distance : Nat} {x : α} (hx : passes distance x) (hparent : parent x = none) :
      Grounded m parent passes distance x
  | child {distance : Nat} {x y : α} {p : κ} (hx : passes distance x)
      (hparent : parent x = some p) (hy : m.get? p = some y)
      (h : Grounded m parent passes (distance + 1) y) : Grounded m parent passes distance x

section

variable {m : OrderedMap κ α} {parent : α → Option κ} {passes passes' : Nat → α → Prop}

/-- What holds of a record and goes from a record to its parent holds along its chain. -/
theorem Grounded.carry {P : α → Prop} {distance : Nat} {x : α}
    (h : Grounded m parent passes distance x) (hx : P x)
    (hup : ∀ x y p, P x → parent x = some p → m.get? p = some y → P y)
    (himp : ∀ distance x, passes distance x → P x → passes' distance x) :
    Grounded m parent passes' distance x := by
  induction h with
  | root hpass hparent => exact .root (himp _ _ hpass hx) hparent
  | @child distance x y p hpass hparent hy _ ih =>
    exact .child (himp _ _ hpass hx) hparent hy (ih (hup x y p hx hparent hy))

end

variable {m : OrderedMap κ α} {key : α → κ} {parent : α → Option κ} {passes : Nat → α → Bool}

/-- A walk that succeeds is on a chain. -/
theorem grounded_of_chainHolds {fuel distance : Nat} {seen : List κ} {x : α}
    (h : chainHolds m key parent passes fuel distance seen x = true) :
    Grounded m parent (passes · · = true) distance x := by
  induction fuel generalizing distance seen x with
  | zero => cases h
  | succ fuel ih =>
    unfold chainHolds at h
    split at h
    · cases h
    · rw [Bool.and_eq_true] at h
      obtain ⟨hx, hrest⟩ := h
      split at hrest
      · rename_i hparent
        exact .root hx hparent
      · rename_i p hparent
        split at hrest
        · cases hrest
        · rename_i y hy
          exact .child hx hparent hy (ih hrest)

/-- The keys from a record up to one without a parent. -/
inductive Line (m : OrderedMap κ α) (key : α → κ) (parent : α → Option κ) : α → List κ → Prop
  | root {x : α} (hparent : parent x = none) : Line m key parent x [key x]
  | child {x y : α} {p : κ} {keys : List κ} (hparent : parent x = some p) (hy : m.get? p = some y)
      (h : Line m key parent y keys) : Line m key parent x (key x :: keys)

theorem Grounded.line (key : α → κ) {passes : Nat → α → Prop} {distance : Nat} {x : α}
    (h : Grounded m parent passes distance x) : ∃ keys, Line m key parent x keys := by
  induction h with
  | root _ hparent => exact ⟨_, .root hparent⟩
  | child _ hparent hy _ ih =>
    obtain ⟨keys, hkeys⟩ := ih
    exact ⟨_, .child hparent hy hkeys⟩

namespace Line

/-- A record has one line of parents. -/
theorem unique {x : α} {keys keys' : List κ} (h : Line m key parent x keys)
    (h' : Line m key parent x keys') : keys = keys' := by
  induction h generalizing keys' with
  | root hparent =>
    cases h' with
    | root _ => rfl
    | child hparent' _ _ =>
      rw [hparent] at hparent'
      cases hparent'
  | child hparent hy _ ih =>
    cases h' with
    | root hparent' =>
      rw [hparent] at hparent'
      cases hparent'
    | child hparent' hy' h' =>
      rw [hparent] at hparent'
      cases hparent'
      rw [hy] at hy'
      cases hy'
      rw [ih h']

/-- A record on a line has the rest of the line as its own. -/
theorem of_mem (hkeyed : m.SelfKeyed key) {x : α} {keys : List κ}
    (hx : m.get? (key x) = some x) (h : Line m key parent x keys) {k : κ} (hk : k ∈ keys) :
    ∃ y rest, m.get? k = some y ∧ Line m key parent y rest ∧ rest.length ≤ keys.length := by
  induction h with
  | @root x hparent =>
    cases List.mem_singleton.mp hk
    exact ⟨x, _, hx, .root hparent, Nat.le_refl _⟩
  | @child x y p keys hparent hy hline ih =>
    rcases List.mem_cons.mp hk with rfl | hk
    · exact ⟨x, _, hx, .child hparent hy hline, Nat.le_refl _⟩
    · have hy' : m.get? (key y) = some y := by rw [hkeyed _ _ hy, hy]
      obtain ⟨z, rest, hz, hrest, hle⟩ := ih hy' hk
      exact ⟨z, rest, hz, hrest, Nat.le_succ_of_le hle⟩

/-- No record is met twice: it would be its own proper ancestor, with two lines. -/
theorem nodup (hkeyed : m.SelfKeyed key) {x : α} {keys : List κ}
    (hx : m.get? (key x) = some x) (h : Line m key parent x keys) : keys.Nodup := by
  induction h with
  | root _ => exact List.nodup_singleton _
  | @child x y p keys hparent hy hline ih =>
    have hy' : m.get? (key y) = some y := by rw [hkeyed _ _ hy, hy]
    refine List.nodup_cons.mpr ⟨fun hmem => ?_, ih hy'⟩
    obtain ⟨z, rest, hz, hrest, hle⟩ := hline.of_mem hkeyed hy' hmem
    rw [hx] at hz
    cases hz
    have hlen := congrArg List.length (hrest.unique (.child hparent hy hline))
    rw [List.length_cons] at hlen
    omega

theorem subset_keys (hkeyed : m.SelfKeyed key) {x : α} {keys : List κ}
    (hx : m.get? (key x) = some x) (h : Line m key parent x keys) : keys ⊆ m.keys := by
  intro k hk
  obtain ⟨y, -, hy, -⟩ := h.of_mem hkeyed hx hk
  exact OrderedMap.mem_keys_of_get? hy

end Line

/-- A walk with enough steps left goes up a chain that it has not met. -/
theorem Grounded.chainHolds {distance : Nat} {x : α}
    (h : Grounded m parent (passes · · = true) distance x) {keys : List κ}
    (hline : Line m key parent x keys) (hnodup : keys.Nodup) {fuel : Nat}
    (hfuel : keys.length ≤ fuel) {seen : List κ} (hseen : ∀ k ∈ keys, k ∉ seen) :
    Lib.chainHolds m key parent passes fuel distance seen x = true := by
  induction h generalizing keys fuel seen with
  | @root distance x hx hparent =>
    cases hline with
    | root _ =>
      obtain ⟨fuel, rfl⟩ := Nat.exists_eq_succ_of_ne_zero (Nat.ne_of_gt hfuel)
      unfold Lib.chainHolds
      rw [if_neg (hseen _ (List.mem_singleton_self _)), hx, hparent]
      rfl
    | child hparent' _ _ =>
      rw [hparent] at hparent'
      cases hparent'
  | @child distance x y p hx hparent hy _ ih =>
    cases hline with
    | root hparent' =>
      rw [hparent] at hparent'
      cases hparent'
    | @child _ y' p' keys hparent' hy' hline =>
      rw [hparent] at hparent'
      cases hparent'
      rw [hy] at hy'
      cases hy'
      rw [List.length_cons] at hfuel
      obtain ⟨fuel, rfl⟩ := Nat.exists_eq_succ_of_ne_zero (show fuel ≠ 0 by omega)
      rw [List.nodup_cons] at hnodup
      have hmet : ∀ k ∈ keys, k ∉ key x :: seen := by
        intro k hk hmem
        rcases List.mem_cons.mp hmem with rfl | hmem
        · exact hnodup.1 hk
        · exact hseen k (List.mem_cons_of_mem _ hk) hmem
      unfold Lib.chainHolds
      rw [if_neg (hseen _ (List.mem_cons_self ..)), hx, hparent]
      simp only [hy]
      exact ih hline hnodup.2 (by omega) hmet

/-- **The walk decides the chain**: a bound of one step for each key is never reached. -/
theorem chainHolds_iff_grounded (hkeyed : m.SelfKeyed key) {distance : Nat} {x : α}
    (hx : m.get? (key x) = some x) :
    Lib.chainHolds m key parent passes m.keys.length distance [] x = true ↔
      Grounded m parent (passes · · = true) distance x := by
  refine ⟨grounded_of_chainHolds, fun h => ?_⟩
  obtain ⟨keys, hline⟩ := h.line key
  have hnodup := hline.nodup hkeyed hx
  refine h.chainHolds hline hnodup ?_ fun _ _ => List.not_mem_nil
  exact (List.subperm_of_subset hnodup (hline.subset_keys hkeyed hx)).length_le

end Anyam.Lib
