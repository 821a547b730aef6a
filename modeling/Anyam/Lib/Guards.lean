import Mathlib.Data.List.Forall2

/-!
# Guard sequences in `Except`

A synchronous method is a sequence of guards followed by one result. These are
the pieces such a method is written with (`require`, `orThrow`) and the lemmas
that read off what a successful sequence established, one conjunct per guard.
-/

namespace Anyam.Lib

universe u v

variable {ε : Type u} {α β : Type v}

/-- Throw `e` unless `p` holds. -/
def require (p : Prop) [Decidable p] (e : ε) : Except ε Unit :=
  if p then .ok () else .error e

/-- The value of an optional lookup, or `e` when it is absent. -/
def orThrow : Option α → ε → Except ε α
  | some a, _ => .ok a
  | none, e => .error e

@[simp] theorem require_eq_ok {p : Prop} [Decidable p] {e : ε} {u : Unit} :
    require p e = .ok u ↔ p := by
  by_cases hp : p <;> simp [require, hp]

theorem require_of {p : Prop} [Decidable p] {e : ε} (hp : p) : require p e = .ok () :=
  require_eq_ok.mpr hp

@[simp] theorem orThrow_eq_ok {o : Option α} {e : ε} {a : α} :
    orThrow o e = .ok a ↔ o = some a := by
  cases o <;> simp [orThrow]

/-- A sequence succeeds exactly when its first step does and then its rest. -/
@[simp] theorem bind_eq_ok {x : Except ε α} {f : α → Except ε β} {b : β} :
    (x >>= f) = .ok b ↔ ∃ a, x = .ok a ∧ f a = .ok b := by
  cases x <;> simp [bind, Except.bind]

@[simp] theorem pure_eq_ok {a b : α} : (pure a : Except ε α) = .ok b ↔ a = b := by
  simp [pure, Except.pure]

/-- Renaming the error, or mapping the result, does not decide success. -/
theorem mapError_eq_ok {ε' : Type u} {x : Except ε α} {f : ε → ε'} {a : α} :
    x.mapError f = .ok a ↔ x = .ok a := by
  obtain e | b := x
  · exact ⟨nofun, nofun⟩
  · show Except.ok b = Except.ok a ↔ Except.ok b = Except.ok a
    simp only [Except.ok.injEq]

theorem map_eq_ok {x : Except ε α} {f : α → β} {b : β} :
    x.map f = .ok b ↔ ∃ a, x = .ok a ∧ f a = b := by
  obtain e | a := x
  · exact ⟨nofun, nofun⟩
  · exact ⟨fun h => ⟨a, rfl, Except.ok.inj h⟩, fun ⟨_, ha, hb⟩ => congrArg Except.ok (Except.ok.inj ha ▸ hb)⟩

theorem toOption_eq_some {x : Except ε α} {a : α} : x.toOption = some a ↔ x = .ok a := by
  cases x <;> simp [Except.toOption]

theorem isOk_iff {x : Except ε α} : x.isOk = true ↔ ∃ a, x = .ok a := by
  cases x <;> simp [Except.isOk, Except.toBool]

theorem exists_of_isOk {x : Except ε (α × β)} (h : x.isOk = true) :
    ∃ a b, x = .ok (a, b) := by
  obtain e | ⟨a, b⟩ := x
  · cases h
  · exact ⟨a, b, rfl⟩

/-- The unit result of a guard carries no information. -/
@[simp] theorem exists_unit {p : Unit → Prop} : (∃ u, p u) ↔ p () :=
  ⟨fun ⟨(), h⟩ => h, fun h => ⟨(), h⟩⟩

/-- Looping a guard over a list succeeds when every element passes. -/
@[simp] theorem forM_eq_ok {l : List α} {f : α → Except ε PUnit} {u : PUnit} :
    forM l f = .ok u ↔ ∀ a ∈ l, f a = .ok ⟨⟩ := by
  induction l with
  | nil => simp
  | cons a l ih =>
    rw [List.forM_cons, bind_eq_ok, List.forall_mem_cons]
    exact ⟨fun ⟨_, ha, hl⟩ => ⟨ha, ih.mp hl⟩, fun ⟨ha, hl⟩ => ⟨_, ha, ih.mpr hl⟩⟩

/-- Mapping a fallible function over a list succeeds with the elementwise
results. -/
theorem mapM_eq_ok {l : List α} {f : α → Except ε β} {bs : List β} :
    l.mapM f = .ok bs ↔ List.Forall₂ (fun a b => f a = .ok b) l bs := by
  induction l generalizing bs with
  | nil =>
    rw [List.mapM_nil, pure_eq_ok, List.forall₂_nil_left_iff]
    exact eq_comm
  | cons a l ih =>
    simp only [List.mapM_cons, bind_eq_ok, pure_eq_ok, ih]
    constructor
    · rintro ⟨b, hb, bs', hbs, rfl⟩
      exact .cons hb hbs
    · intro h
      cases h with
      | cons hb hbs => exact ⟨_, hb, _, hbs, rfl⟩

/-- Each side of a pairwise relation has a partner on the other. -/
theorem exists_left_of_mem {R : α → β → Prop} {as : List α} {bs : List β}
    (h : List.Forall₂ R as bs) {b : β} (hb : b ∈ bs) : ∃ a ∈ as, R a b := by
  induction h with
  | nil => cases hb
  | cons hab _ ih =>
    rcases List.mem_cons.mp hb with rfl | hb
    · exact ⟨_, List.mem_cons_self .., hab⟩
    · obtain ⟨a, ha, hR⟩ := ih hb
      exact ⟨a, List.mem_cons_of_mem _ ha, hR⟩

theorem exists_right_of_mem {R : α → β → Prop} {as : List α} {bs : List β}
    (h : List.Forall₂ R as bs) {a : α} (ha : a ∈ as) : ∃ b ∈ bs, R a b :=
  exists_left_of_mem h.flip ha

/-- Every element is mapped when every single call succeeds. -/
theorem exists_mapM_eq_ok {l : List α} {f : α → Except ε β}
    (h : ∀ a ∈ l, ∃ b, f a = .ok b) : ∃ bs, l.mapM f = .ok bs := by
  induction l with
  | nil => exact ⟨[], rfl⟩
  | cons a l ih =>
    obtain ⟨b, hb⟩ := h a (List.mem_cons_self ..)
    obtain ⟨bs, hbs⟩ := ih fun x hx => h x (List.mem_cons_of_mem _ hx)
    exact ⟨b :: bs, by simp [List.mapM_cons, hb, hbs, bind, Except.bind, pure, Except.pure]⟩

/-- A computation that does not return a value throws. -/
theorem exists_error_iff {x : Except ε α} : (∃ e, x = .error e) ↔ ¬ ∃ a, x = .ok a := by
  cases x <;> simp

end Anyam.Lib
