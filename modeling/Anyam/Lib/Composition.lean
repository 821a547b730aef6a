import Mathlib.Data.List.Perm.Basic
import Mathlib.Data.Set.Finite.List
import Mathlib.Logic.Relation
import Mathlib.Order.WellFounded
import Anyam.Lib.Guards
import Anyam.Lib.OrderedMap

/-!
# Composing keyed writes over a baseline

Several parties each propose values for some keys of a common baseline map, and
one pass folds the proposals into the map, refusing a value when the key already
holds a different one that is not the baseline's. The fold is sequential, so its
outcome may depend on the order of the proposals. This module says how.

- `Composes.fold_ok_iff`: the fold succeeds exactly when every earlier write of a
  key either repeats the baseline or agrees with every later write of it.
- `Composes.fold_get?`: what the result holds. A changed key holds its changed
  value, every other key its baseline; no order is mentioned.
- `exists_ordering_iff`: "some order of a list respects a precedence" is
  "the precedence has no cycle", so a set of proposals can be composed in *some*
  order exactly when the baseline-before-change constraints are acyclic.
-/

namespace Anyam.Lib

universe t u v w

/-! ## The fold -/

section Fold

variable {ι : Type t} {κ : Type u} {α : Type v} {ε : Type w} [DecidableEq κ]

/-- A write changes its key when the baseline does not hold the same value. -/
def Changes (base : OrderedMap κ α) (w : κ × α) : Prop := base.get? w.1 ≠ some w.2

/-- `w` may come before `w'`: they touch different keys, `w` repeats the
baseline, or they agree. -/
def Compatible (base : OrderedMap κ α) (w w' : κ × α) : Prop :=
  w.1 = w'.1 → ¬ Changes base w ∨ w.2 = w'.2

/-- The value already held for the key of `w` does not clash with it. -/
def NoClash (base cur : OrderedMap κ α) (w : κ × α) : Prop :=
  ∀ v, cur.get? w.1 = some v → v = w.2 ∨ base.get? w.1 = some v

/-- `f` is a composition step over `base`: it admits a write under a condition on
the write alone, refuses a clash, and otherwise performs the write. The label of
a write (who proposes it) may appear in a refusal, never in the outcome. -/
structure Composes (base : OrderedMap κ α) (admits : κ × α → Prop)
    (f : ι → OrderedMap κ α → κ × α → Except ε (OrderedMap κ α)) : Prop where
  step_ok : ∀ i cur w next,
    f i cur w = .ok next ↔ admits w ∧ NoClash base cur w ∧ next = cur.set w.1 w.2

/-- Fold labelled writes into a map. -/
def composeAll (f : ι → OrderedMap κ α → κ × α → Except ε (OrderedMap κ α))
    (ws : List (ι × (κ × α))) (cur : OrderedMap κ α) : Except ε (OrderedMap κ α) :=
  ws.foldlM (fun cur x => f x.1 cur x.2) cur

/-- `cur` is the baseline with the writes `ws` composed in. -/
structure Composed (base : OrderedMap κ α) (ws : List (κ × α)) (cur : OrderedMap κ α) :
    Prop where
  changed : ∀ w ∈ ws, Changes base w → cur.get? w.1 = some w.2
  kept : ∀ k, (∀ w ∈ ws, w.1 = k → ¬ Changes base w) → cur.get? k = base.get? k

variable {base : OrderedMap κ α} {admits : κ × α → Prop}
  {f : ι → OrderedMap κ α → κ × α → Except ε (OrderedMap κ α)}

theorem Composed.nil : Composed base [] base :=
  ⟨fun _ h => (nomatch h), fun _ _ => rfl⟩

/-- Two composed maps of the same writes, in any order, hold the same values. -/
theorem Composed.get?_eq {ws ws' : List (κ × α)} {m m' : OrderedMap κ α}
    (h : Composed base ws m) (h' : Composed base ws' m') (hws : ∀ w, w ∈ ws ↔ w ∈ ws')
    (k : κ) : m.get? k = m'.get? k := by
  by_cases hk : ∃ w ∈ ws, w.1 = k ∧ Changes base w
  · obtain ⟨w, hw, rfl, hch⟩ := hk
    rw [h.changed w hw hch, h'.changed w ((hws w).mp hw) hch]
  · have hkept : ∀ w ∈ ws, w.1 = k → ¬ Changes base w := fun w hw hwk hch =>
      hk ⟨w, hw, hwk, hch⟩
    rw [h.kept k hkept, h'.kept k fun w hw => hkept w ((hws w).mpr hw)]

/-- A composed map holds no third value for a key: the baseline's, or that of a
write that changes it. -/
theorem Composed.get?_cases {ws : List (κ × α)} {cur : OrderedMap κ α}
    (h : Composed base ws cur) (k : κ) :
    (∃ w ∈ ws, w.1 = k ∧ Changes base w ∧ cur.get? k = some w.2) ∨
      ((∀ w ∈ ws, w.1 = k → ¬ Changes base w) ∧ cur.get? k = base.get? k) := by
  by_cases hk : ∃ w ∈ ws, w.1 = k ∧ Changes base w
  · obtain ⟨w, hw, rfl, hch⟩ := hk
    exact .inl ⟨w, hw, rfl, hch, h.changed w hw hch⟩
  · have hkept : ∀ w ∈ ws, w.1 = k → ¬ Changes base w := fun w hw hwk hch =>
      hk ⟨w, hw, hwk, hch⟩
    exact .inr ⟨hkept, h.kept k hkept⟩

/-- A write clashes with a composed map exactly when some composed write may not
come before it. -/
theorem Composed.noClash_iff {ws : List (κ × α)} {cur : OrderedMap κ α}
    (h : Composed base ws cur) (w : κ × α) :
    NoClash base cur w ↔ ∀ w' ∈ ws, Compatible base w' w := by
  constructor
  · intro hno w' hw' hkey
    by_cases hch : Changes base w'
    · right
      have hcur := h.changed w' hw' hch
      rw [hkey] at hcur
      rcases hno _ hcur with heq | hbase
      · exact heq
      · exact absurd (hkey ▸ hbase) hch
    · exact .inl hch
  · intro hall v hv
    rcases h.get?_cases w.1 with ⟨w', hw', hkey, hch, hcur⟩ | ⟨-, hcur⟩
    · rw [hcur] at hv
      cases hv
      exact (hall w' hw' hkey).imp (fun hn => absurd hch hn) id |>.elim False.elim .inl
    · exact .inr (hcur ▸ hv)

/-- One more write that does not clash keeps the map composed. -/
theorem Composed.set {ws : List (κ × α)} {cur : OrderedMap κ α}
    (h : Composed base ws cur) {w : κ × α} (hno : NoClash base cur w) :
    Composed base (ws ++ [w]) (cur.set w.1 w.2) := by
  have hcompat := (h.noClash_iff w).mp hno
  constructor
  · intro w' hw' hch
    rw [OrderedMap.get?_set]
    rcases List.mem_append.mp hw' with hold | hnew
    · split
      · rename_i hkey
        exact congrArg some ((hcompat w' hold hkey).resolve_left (fun hn => hn hch)).symm
      · exact h.changed w' hold hch
    · rw [List.mem_singleton.mp hnew, if_pos rfl]
  · intro k hk
    rw [OrderedMap.get?_set]
    split
    · rename_i hkey
      have hkept := hk w (by simp) hkey.symm
      rw [hkey]
      exact (not_not.mp hkept).symm
    · exact h.kept k fun w' hw' => hk w' (List.mem_append_left _ hw')

/-- The fold from a composed prefix: it succeeds exactly when every write is
admitted and compatible with everything before it, and its result is composed. -/
theorem Composes.fold_from (hf : Composes base admits f) (ws : List (ι × (κ × α))) :
    ∀ (done : List (κ × α)) (cur : OrderedMap κ α), Composed base done cur →
      ((∃ next, composeAll f ws cur = .ok next) ↔
        (∀ w ∈ ws.map Prod.snd, admits w ∧ ∀ w' ∈ done, Compatible base w' w) ∧
          (ws.map Prod.snd).Pairwise (Compatible base)) ∧
      ∀ next, composeAll f ws cur = .ok next → Composed base (done ++ ws.map Prod.snd) next := by
  induction ws with
  | nil =>
    intro done cur hcur
    refine ⟨by simp [composeAll, pure, Except.pure], fun next h => ?_⟩
    rw [composeAll, List.foldlM_nil, pure_eq_ok] at h
    simpa [← h] using hcur
  | cons x ws ih =>
    obtain ⟨i, w⟩ := x
    intro done cur hcur
    rw [List.map_cons]
    by_cases hw : admits w ∧ NoClash base cur w
    · -- the head write goes through; the rest folds over one more composed write
      have hstep : f i cur w = .ok (cur.set w.1 w.2) :=
        (hf.step_ok _ _ _ _).mpr ⟨hw.1, hw.2, rfl⟩
      have hcompat := (hcur.noClash_iff w).mp hw.2
      have hrest := ih (done ++ [w]) _ (hcur.set hw.2)
      have hfold : composeAll f ((i, w) :: ws) cur = composeAll f ws (cur.set w.1 w.2) := by
        rw [composeAll, List.foldlM_cons, hstep]
        rfl
      rw [hfold]
      refine ⟨?_, fun next h => by simpa using hrest.2 next h⟩
      rw [hrest.1, List.pairwise_cons]
      constructor
      · rintro ⟨hall, hpw⟩
        refine ⟨?_, fun w' hw' => (hall w' hw').2 w (by simp), hpw⟩
        intro w' hw'
        rcases List.mem_cons.mp hw' with rfl | hmem
        · exact ⟨hw.1, hcompat⟩
        · exact ⟨(hall w' hmem).1, fun x hx => (hall w' hmem).2 x (by simp [hx])⟩
      · rintro ⟨hall, hhead, hpw⟩
        refine ⟨fun w' hw' => ⟨(hall w' (List.mem_cons_of_mem _ hw')).1, ?_⟩, hpw⟩
        intro x hx
        rcases List.mem_append.mp hx with hdone | hlast
        · exact (hall w' (List.mem_cons_of_mem _ hw')).2 x hdone
        · rw [List.mem_singleton.mp hlast]
          exact hhead w' hw'
    · -- the head write is refused, and both sides say so
      have hno : ∀ next, composeAll f ((i, w) :: ws) cur ≠ .ok next := by
        intro next h
        rw [composeAll, List.foldlM_cons, bind_eq_ok] at h
        obtain ⟨m, hm, -⟩ := h
        have hsome := (hf.step_ok _ _ _ _).mp hm
        exact hw ⟨hsome.1, hsome.2.1⟩
      refine ⟨⟨fun ⟨next, h⟩ => absurd h (hno next), fun ⟨hall, _⟩ => ?_⟩,
        fun next h => absurd h (hno next)⟩
      have hhead := hall w (List.mem_cons_self ..)
      exact absurd ⟨hhead.1, (hcur.noClash_iff w).mpr hhead.2⟩ hw

/-- **When the fold succeeds.** -/
theorem Composes.fold_ok_iff (hf : Composes base admits f) (ws : List (ι × (κ × α))) :
    (∃ next, composeAll f ws base = .ok next) ↔
      (∀ w ∈ ws.map Prod.snd, admits w) ∧ (ws.map Prod.snd).Pairwise (Compatible base) := by
  rw [(hf.fold_from ws [] base Composed.nil).1]
  simp

/-- **What the fold computes**: the baseline with every change in place. -/
theorem Composes.fold_composed (hf : Composes base admits f) {ws : List (ι × (κ × α))}
    {next : OrderedMap κ α} (h : composeAll f ws base = .ok next) :
    Composed base (ws.map Prod.snd) next := by
  simpa using (hf.fold_from ws [] base Composed.nil).2 next h

end Fold

/-! ## Precedence and order -/

section Precedence

variable {α : Type u} {r : α → α → Prop} {l : List α}

/-- `r` between members of `l`. -/
def Within (r : α → α → Prop) (l : List α) (a b : α) : Prop := a ∈ l ∧ b ∈ l ∧ r a b

/-- The precedence `r` runs in a circle through members of `l`. -/
def Cyclic (r : α → α → Prop) (l : List α) : Prop :=
  ∃ a, Relation.TransGen (Within r l) a a

theorem Cyclic.mono {l' : List α} (hsub : ∀ a ∈ l, a ∈ l') (h : Cyclic r l) :
    Cyclic r l' := by
  obtain ⟨a, ha⟩ := h
  have hle : Within r l ≤ Within r l' := fun _ _ ⟨hx, hy, hxy⟩ =>
    ⟨hsub _ hx, hsub _ hy, hxy⟩
  exact ⟨a, Relation.TransGen.mono hle a a ha⟩

/-- Without a cycle, some member has nothing that must come before it. -/
theorem exists_source (hne : l ≠ []) (hac : ¬ Cyclic r l) : ∃ a ∈ l, ∀ b ∈ l, ¬ r b a := by
  classical
  let before : {a // a ∈ l} → {a // a ∈ l} → Prop := fun a b =>
    Relation.TransGen (Within r l) a.1 b.1
  have htrans : IsTrans _ before := ⟨fun _ _ _ h₁ h₂ => h₁.trans h₂⟩
  have hirrefl : Std.Irrefl before := ⟨fun a h => hac ⟨a.1, h⟩⟩
  have hfin : Finite {a // a ∈ l} := (List.finite_toSet l).to_subtype
  have hwf : WellFounded before := Finite.wellFounded_of_trans_of_irrefl before
  obtain ⟨x, hx⟩ := List.exists_mem_of_ne_nil l hne
  obtain ⟨a, -, hmin⟩ := hwf.has_min Set.univ ⟨⟨x, hx⟩, trivial⟩
  exact ⟨a.1, a.2, fun b hb hba => hmin ⟨b, hb⟩ trivial (.single ⟨hb, a.2, hba⟩)⟩

/-- An acyclic precedence is respected by some order of the list. -/
theorem exists_ordering (hac : ¬ Cyclic r l) :
    ∃ l' : List α, l'.Perm l ∧ l'.Pairwise fun a b => ¬ r b a := by
  classical
  -- induction on the length: put a source first, order the rest
  induction hn : l.length generalizing l with
  | zero =>
    rw [List.length_eq_zero_iff.mp hn]
    exact ⟨[], .nil, .nil⟩
  | succ n ih =>
    have hne : l ≠ [] := fun h => by simp [h] at hn
    obtain ⟨a, ha, hsrc⟩ := exists_source hne hac
    have hrest : ¬ Cyclic r (l.erase a) := fun h =>
      hac (h.mono fun _ hx => List.mem_of_mem_erase hx)
    have hlen : (l.erase a).length = n := by
      rw [List.length_erase_of_mem ha, hn]
      rfl
    obtain ⟨l', hperm, hpw⟩ := ih hrest hlen
    refine ⟨a :: l', (hperm.cons a).trans (List.perm_cons_erase ha).symm, ?_⟩
    refine List.pairwise_cons.mpr ⟨fun b hb => hsrc b ?_, hpw⟩
    exact List.mem_of_mem_erase (hperm.mem_iff.mp hb)

/-- In an order that respects `r`, related members stand in that order. -/
theorem idxOf_lt_of_within [DecidableEq α] {l' : List α} (hirr : ∀ a, ¬ r a a)
    (hperm : l'.Perm l) (hpw : l'.Pairwise fun a b => ¬ r b a) {a b : α}
    (h : Within r l a b) : l'.idxOf a < l'.idxOf b := by
  obtain ⟨ha, hb, hab⟩ := h
  have ha' := List.idxOf_lt_length_iff.mpr (hperm.mem_iff.mpr ha)
  have hb' := List.idxOf_lt_length_iff.mpr (hperm.mem_iff.mpr hb)
  rcases Nat.lt_trichotomy (l'.idxOf a) (l'.idxOf b) with hlt | heq | hgt
  · exact hlt
  · have hsame : a = b := by
      rw [← List.getElem_idxOf ha', ← List.getElem_idxOf hb']
      simp only [heq]
    exact absurd (hsame ▸ hab) (hirr b)
  · have hnot := List.pairwise_iff_getElem.mp hpw _ _ hb' ha' hgt
    rw [List.getElem_idxOf, List.getElem_idxOf] at hnot
    exact absurd hab hnot

/-- **An order that respects a precedence exists exactly when the precedence has
no cycle.** -/
theorem exists_ordering_iff (hirr : ∀ a, ¬ r a a) :
    (∃ l' : List α, l'.Perm l ∧ l'.Pairwise fun a b => ¬ r b a) ↔ ¬ Cyclic r l := by
  classical
  constructor
  · rintro ⟨l', hperm, hpw⟩ ⟨a, ha⟩
    have hlt : ∀ b, Relation.TransGen (Within r l) a b → l'.idxOf a < l'.idxOf b := by
      intro b hb
      induction hb with
      | single h => exact idxOf_lt_of_within hirr hperm hpw h
      | tail _ h ih => exact ih.trans (idxOf_lt_of_within hirr hperm hpw h)
    exact Nat.lt_irrefl _ (hlt a ha)
  · exact exists_ordering

/-- Every order respects a precedence exactly when it relates no two members. -/
theorem forall_ordering_iff (hirr : ∀ a, ¬ r a a) :
    (∀ l' : List α, l'.Perm l → l'.Pairwise fun a b => ¬ r b a) ↔ ∀ a ∈ l, ∀ b ∈ l, ¬ r a b := by
  classical
  constructor
  · intro hall a ha b hb hab
    have hne : b ≠ a := fun h => hirr b (h ▸ hab)
    have hb' : b ∈ l.erase a := (List.mem_erase_of_ne hne).mpr hb
    -- the order with `b` moved in front of `a`
    have hperm : (b :: a :: (l.erase a).erase b).Perm l :=
      (List.Perm.swap a b _).trans
        (((List.perm_cons_erase hb').symm.cons a).trans (List.perm_cons_erase ha).symm)
    have hpw := hall _ hperm
    exact (List.pairwise_cons.mp hpw).1 a (List.mem_cons_self ..) hab
  · intro hnone l' hperm
    refine List.pairwise_of_forall_mem_list fun a ha b hb => ?_
    exact hnone b (hperm.mem_iff.mp hb) a (hperm.mem_iff.mp ha)

end Precedence

end Anyam.Lib
