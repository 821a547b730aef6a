import Mathlib.Data.List.Nodup

/-!
# Insertion-ordered maps

The `Map` and plain-record values of the source iterate in insertion order and
hold one entry per key. `OrderedMap κ α` is that data type: a list of entries
whose keys are distinct, with the distinctness carried as a field. Writing a
present key keeps its position, writing a new key appends.
-/

namespace Anyam.Lib

universe u v

/-- A map that remembers the order its keys were first written in. -/
structure OrderedMap (κ : Type u) (α : Type v) where
  entries : List (κ × α)
  nodup : (entries.map Prod.fst).Nodup
deriving DecidableEq, Repr

namespace OrderedMap

variable {κ : Type u} {α : Type v}

/-- The map with no entries. -/
def empty : OrderedMap κ α := ⟨[], List.nodup_nil⟩

instance : Inhabited (OrderedMap κ α) := ⟨empty⟩

def keys (m : OrderedMap κ α) : List κ := m.entries.map Prod.fst

def values (m : OrderedMap κ α) : List α := m.entries.map Prod.snd

theorem ext_entries {m m' : OrderedMap κ α} (h : m.entries = m'.entries) : m = m' := by
  cases m
  cases m'
  cases h
  rfl

variable [DecidableEq κ]

def get? (m : OrderedMap κ α) (k : κ) : Option α := m.entries.lookup k

def has (m : OrderedMap κ α) (k : κ) : Bool := (m.get? k).isSome

/-- Overwrite the entries of key `k` in place. -/
def replace (k : κ) (v : α) (l : List (κ × α)) : List (κ × α) :=
  l.map fun p => if p.1 = k then (k, v) else p

theorem map_fst_replace (k : κ) (v : α) (l : List (κ × α)) :
    (replace k v l).map Prod.fst = l.map Prod.fst := by
  induction l with
  | nil => rfl
  | cons p l ih =>
    by_cases hp : p.1 = k
    · simpa [replace, hp] using ih
    · simpa [replace, hp] using ih

/-- `Map.prototype.set`. -/
def set (m : OrderedMap κ α) (k : κ) (v : α) : OrderedMap κ α :=
  if h : k ∈ m.keys then
    ⟨replace k v m.entries, by rw [map_fst_replace]; exact m.nodup⟩
  else
    ⟨m.entries ++ [(k, v)], by
      rw [List.map_append, List.nodup_append]
      refine ⟨m.nodup, by simp, ?_⟩
      rintro a ha b hb rfl
      rw [List.map_singleton, List.mem_singleton] at hb
      subst hb
      exact h ha⟩

/-- `Map.prototype.delete`. -/
def delete (m : OrderedMap κ α) (k : κ) : OrderedMap κ α :=
  ⟨m.entries.filter fun p => p.1 ≠ k, m.nodup.sublist (List.filter_sublist.map _)⟩

/-- Edit every value in place. -/
def map {β : Type v} (f : α → β) (m : OrderedMap κ α) : OrderedMap κ β :=
  ⟨m.entries.map fun p => (p.1, f p.2), by simpa [Function.comp_def] using m.nodup⟩

/-- `Object.fromEntries`: later entries of a key win. -/
def ofList (l : List (κ × α)) : OrderedMap κ α :=
  l.foldl (fun m p => m.set p.1 p.2) empty

/-! ## Lookup -/

theorem get?_eq_some_iff {m : OrderedMap κ α} {k : κ} {v : α} :
    m.get? k = some v ↔ (k, v) ∈ m.entries := by
  obtain ⟨l, hl⟩ := m
  show l.lookup k = some v ↔ (k, v) ∈ l
  induction l with
  | nil => simp
  | cons p l ih =>
    obtain ⟨k', v'⟩ := p
    rw [List.map_cons, List.nodup_cons] at hl
    by_cases hk : k = k'
    · subst hk
      have hnot : ∀ w, (k, w) ∉ l := fun w h => hl.1 (List.mem_map.mpr ⟨_, h, rfl⟩)
      simp [hnot, eq_comm]
    · have hb : (k == k') = false := by simpa using hk
      rw [List.lookup_cons, hb]
      simp [ih hl.2, hk]

@[simp] theorem get?_empty (k : κ) : (empty : OrderedMap κ α).get? k = none := rfl

theorem has_eq_false_iff {m : OrderedMap κ α} {k : κ} : m.has k = false ↔ m.get? k = none := by
  simp [has]

theorem mem_keys_iff {m : OrderedMap κ α} {k : κ} :
    k ∈ m.keys ↔ ∃ v, m.get? k = some v := by
  simp [keys, get?_eq_some_iff]

theorem not_mem_keys_iff {m : OrderedMap κ α} {k : κ} :
    k ∉ m.keys ↔ m.get? k = none := by
  rw [mem_keys_iff, Option.eq_none_iff_forall_not_mem]
  simp

theorem mem_values_iff {m : OrderedMap κ α} {v : α} :
    v ∈ m.values ↔ ∃ k, m.get? k = some v := by
  simp [values, get?_eq_some_iff]

theorem mem_keys_of_get? {m : OrderedMap κ α} {k : κ} {v : α} (h : m.get? k = some v) :
    k ∈ m.keys :=
  mem_keys_iff.mpr ⟨v, h⟩

@[grind =] theorem get?_set (m : OrderedMap κ α) (k k' : κ) (v : α) :
    (m.set k v).get? k' = if k' = k then some v else m.get? k' := by
  have hkey : ∀ w, (m.set k v).get? k' = some w ↔
      (if k' = k then some v else m.get? k') = some w := by
    intro w
    rw [get?_eq_some_iff, set]
    split
    · rename_i hk
      obtain ⟨u, hu⟩ := mem_keys_iff.mp hk
      simp only [replace, List.mem_map]
      by_cases hkk : k' = k
      · subst hkk
        rw [if_pos rfl]
        constructor
        · rintro ⟨p, -, hp⟩
          by_cases h : p.1 = k'
          · simp only [h, if_true, Prod.mk.injEq] at hp
            rw [hp.2]
          · rw [if_neg h] at hp
            exact absurd (congrArg Prod.fst hp) h
        · rintro h
          exact ⟨_, get?_eq_some_iff.mp hu, by simpa using h⟩
      · rw [if_neg hkk, get?_eq_some_iff]
        constructor
        · rintro ⟨p, hp, heq⟩
          by_cases h : p.1 = k
          · rw [if_pos h] at heq
            exact absurd (congrArg Prod.fst heq).symm hkk
          · rw [if_neg h] at heq
            exact heq ▸ hp
        · intro h
          exact ⟨_, h, by simp [hkk]⟩
    · rename_i hk
      by_cases hkk : k' = k
      · subst hkk
        have hnot : (k', w) ∉ m.entries := fun h =>
          hk (List.mem_map.mpr ⟨_, h, rfl⟩)
        simp [hnot, eq_comm]
      · simp [hkk, get?_eq_some_iff]
  exact Option.ext hkey

@[simp] theorem get?_set_self (m : OrderedMap κ α) (k : κ) (v : α) :
    (m.set k v).get? k = some v := by simp [get?_set]

theorem get?_set_ne (m : OrderedMap κ α) {k k' : κ} (v : α) (h : k' ≠ k) :
    (m.set k v).get? k' = m.get? k' := by simp [get?_set, h]

@[grind =] theorem get?_delete (m : OrderedMap κ α) (k k' : κ) :
    (m.delete k).get? k' = if k' = k then none else m.get? k' := by
  refine Option.ext fun w => ?_
  rw [get?_eq_some_iff]
  by_cases hk : k' = k
  · simp [delete, hk]
  · simp [delete, hk, get?_eq_some_iff]

theorem get?_map {β : Type v} (f : α → β) (m : OrderedMap κ α) (k : κ) :
    (m.map f).get? k = (m.get? k).map f := by
  refine Option.ext fun w => ?_
  rw [get?_eq_some_iff, Option.map_eq_some_iff]
  simp [map, get?_eq_some_iff]

theorem mem_keys_set {m : OrderedMap κ α} {k k' : κ} {v : α} :
    k' ∈ (m.set k v).keys ↔ k' = k ∨ k' ∈ m.keys := by
  rw [mem_keys_iff, mem_keys_iff]
  by_cases hk : k' = k
  · simp [hk]
  · simp [get?_set_ne _ _ hk, hk]

theorem mem_values_set {m : OrderedMap κ α} {k : κ} {v w : α}
    (h : w ∈ (m.set k v).values) : w = v ∨ w ∈ m.values := by
  obtain ⟨k', hk'⟩ := mem_values_iff.mp h
  rw [get?_set] at hk'
  split at hk'
  · exact .inl (Option.some.inj hk').symm
  · exact .inr (mem_values_iff.mpr ⟨k', hk'⟩)

theorem keys_subset_set (m : OrderedMap κ α) (k : κ) (v : α) : m.keys ⊆ (m.set k v).keys :=
  fun _ h => mem_keys_set.mpr (.inr h)

/-- What holds of every value and of a written one holds of every value after. -/
theorem forall_values_set {p : α → Prop} {m : OrderedMap κ α} {k : κ} {v : α}
    (hm : ∀ w ∈ m.values, p w) (hv : p v) : ∀ w ∈ (m.set k v).values, p w :=
  fun _ hw => (mem_values_set hw).elim (fun h => h ▸ hv) (hm _)

theorem mem_values_of_get? {m : OrderedMap κ α} {k : κ} {v : α} (h : m.get? k = some v) :
    v ∈ m.values :=
  mem_values_iff.mpr ⟨k, h⟩

/-- A new key is appended. -/
theorem entries_set_of_not_mem {m : OrderedMap κ α} {k : κ} (v : α) (h : k ∉ m.keys) :
    (m.set k v).entries = m.entries ++ [(k, v)] := by
  rw [set, dif_neg h]

theorem values_set_of_not_mem {m : OrderedMap κ α} {k : κ} (v : α) (h : k ∉ m.keys) :
    (m.set k v).values = m.values ++ [v] := by
  rw [values, entries_set_of_not_mem v h, List.map_append]
  rfl

/-- Entries under distinct new keys are appended in their order. -/
theorem entries_foldl_set : ∀ {l : List (κ × α)} {m : OrderedMap κ α},
    ((m.entries ++ l).map Prod.fst).Nodup →
      (l.foldl (fun m p => m.set p.1 p.2) m).entries = m.entries ++ l
  | [], _, _ => (List.append_nil _).symm
  | p :: l, m, hnodup => by
    have hnew : p.1 ∉ m.keys := by
      rw [List.map_append, List.nodup_append] at hnodup
      exact fun hmem => hnodup.2.2 _ hmem _ (List.mem_cons_self ..) rfl
    have hset := entries_set_of_not_mem p.2 hnew
    rw [List.append_cons] at hnodup ⊢
    rw [List.foldl_cons, entries_foldl_set (by rw [hset]; exact hnodup), hset]

omit [DecidableEq κ] in
theorem keys_map {β : Type v} (f : α → β) (m : OrderedMap κ α) : (m.map f).keys = m.keys := by
  simp [keys, map, Function.comp_def]

omit [DecidableEq κ] in
theorem values_map {β : Type v} (f : α → β) (m : OrderedMap κ α) :
    (m.map f).values = m.values.map f := by
  simp [values, map, Function.comp_def]

/-- What is found in a map of entries is one of them. -/
theorem mem_of_get?_ofList {l : List (κ × α)} {k : κ} {v : α} (h : (ofList l).get? k = some v) :
    (k, v) ∈ l := by
  have hfold : ∀ (l : List (κ × α)) (m : OrderedMap κ α),
      (l.foldl (fun m p => m.set p.1 p.2) m).get? k = some v → m.get? k = some v ∨ (k, v) ∈ l := by
    intro l
    induction l with
    | nil => exact fun m hm => .inl hm
    | cons p l ih =>
      intro m hm
      rcases ih (m.set p.1 p.2) hm with hset | hmem
      · rw [get?_set] at hset
        split at hset
        · rename_i hk
          cases hset
          exact .inr (hk ▸ List.mem_cons_self ..)
        · exact .inl hset
      · exact .inr (List.mem_cons_of_mem _ hmem)
  rcases hfold l empty h with hempty | hmem
  · cases hempty
  · exact hmem

/-- A map of entries under distinct keys has these entries. -/
theorem get?_ofList_iff {l : List (κ × α)} (h : (l.map Prod.fst).Nodup) {k : κ} {v : α} :
    (ofList l).get? k = some v ↔ (k, v) ∈ l := by
  rw [get?_eq_some_iff, ofList, entries_foldl_set (m := empty) (by simpa [empty] using h)]
  simp [empty]

/-- The entries of a map give the map back. -/
theorem ofList_entries (m : OrderedMap κ α) : ofList m.entries = m :=
  ext_entries (entries_foldl_set m.nodup)

/-! ## Self-keyed maps

The coordinators file every record under its own `id`. -/

/-- Every entry is filed under the key its value names. -/
def SelfKeyed (key : α → κ) (m : OrderedMap κ α) : Prop :=
  ∀ k v, m.get? k = some v → key v = k

theorem selfKeyed_iff {key : α → κ} {m : OrderedMap κ α} :
    SelfKeyed key m ↔ ∀ p ∈ m.entries, key p.2 = p.1 := by
  constructor
  · exact fun h p hp => h p.1 p.2 (get?_eq_some_iff.mpr hp)
  · exact fun h k v hget => h (k, v) (get?_eq_some_iff.mp hget)

theorem selfKeyed_empty (key : α → κ) : SelfKeyed key (empty : OrderedMap κ α) :=
  fun _ _ h => nomatch h

theorem SelfKeyed.set {key : α → κ} {m : OrderedMap κ α} (hm : SelfKeyed key m)
    {k : κ} {v : α} (hv : key v = k) : SelfKeyed key (m.set k v) := by
  intro k' v' h
  rw [get?_set] at h
  split at h
  · rename_i hk
    rw [← Option.some.inj h, hv, hk]
  · exact hm k' v' h

/-- The values of a self-keyed map are its entries. -/
theorem SelfKeyed.entries_eq {key : α → κ} {m : OrderedMap κ α} (hm : SelfKeyed key m) :
    m.values.map (fun v => (key v, v)) = m.entries := by
  rw [values, List.map_map]
  refine (List.map_congr_left fun p hp => ?_).trans (List.map_id _)
  exact Prod.ext (hm p.1 p.2 (get?_eq_some_iff.mpr hp)) rfl

theorem SelfKeyed.delete {key : α → κ} {m : OrderedMap κ α} (hm : SelfKeyed key m)
    (k : κ) : SelfKeyed key (m.delete k) := by
  intro k' v' h
  rw [get?_delete] at h
  split at h
  · cases h
  · exact hm k' v' h

end OrderedMap

end Anyam.Lib
