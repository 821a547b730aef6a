import Mathlib.Data.List.Forall2
import Anyam.Lib.Guards

/-!
# Redacted listings

A listing is shown to an audience record by record: a record the audience may see as
it is, any other one redacted. Two listings are alike to an audience when they differ
only inside records that are secret from it; noninterference is that alike listings
look the same.

- `shown_eq_iff`: when two records look the same.
- `map_eq_map_iff`: when two listings do, pair by pair.
- `forM_filter`: a loop over a listing may leave out what it does nothing with.
- `forM_congr`, `foldlM_congr`, `mapM_congr`: a loop over a listing that does the same with each
  record does the same.
- `require_congr`: so does a guard on the same condition.
-/

namespace Anyam.Lib

universe u v

variable {α : Type u} {β : Type v}

/-- A record as the audience sees it. -/
def shown (visible : α → Prop) [DecidablePred visible] (redact : α → α) (a : α) : α :=
  if visible a then a else redact a

/-- Two records that are the same, or are both secret and differ only as `differ`
allows. -/
def Alike (secret : α → Prop) (differ : α → α → Prop) (a b : α) : Prop :=
  a = b ∨ secret a ∧ secret b ∧ differ a b

instance (secret : α → Prop) (differ : α → α → Prop) [DecidableEq α] [DecidablePred secret]
    [∀ a b, Decidable (differ a b)] (a b : α) : Decidable (Alike secret differ a b) :=
  inferInstanceAs (Decidable (_ ∨ _))

/-- Two records look the same when they are the same, or when both are hidden and
redaction makes them so; no visible record may look redacted. -/
theorem shown_eq_iff {visible : α → Prop} [DecidablePred visible] {redact : α → α} {a b : α}
    (hab : visible a → ¬ visible b → a ≠ redact b) (hba : visible b → ¬ visible a → b ≠ redact a) :
    shown visible redact a = shown visible redact b ↔
      a = b ∨ ¬ visible a ∧ ¬ visible b ∧ redact a = redact b := by
  unfold shown
  by_cases ha : visible a
  · by_cases hb : visible b
    · simp [ha, hb]
    · rw [if_pos ha, if_neg hb]
      refine ⟨fun h => absurd h (hab ha hb), ?_⟩
      rintro (rfl | ⟨hna, -⟩)
      · exact absurd ha hb
      · exact absurd ha hna
  · by_cases hb : visible b
    · rw [if_neg ha, if_pos hb]
      refine ⟨fun h => absurd h.symm (hba hb ha), ?_⟩
      rintro (rfl | ⟨-, hnb, -⟩)
      · exact absurd hb ha
      · exact absurd hb hnb
    · rw [if_neg ha, if_neg hb]
      refine ⟨fun h => .inr ⟨ha, hb, h⟩, ?_⟩
      rintro (rfl | ⟨-, -, h⟩)
      · rfl
      · exact h

/-! ## Listings -/

/-- A pairwise relation of lists can be checked when it can be checked of a pair. -/
instance decidableForall₂ (R : α → β → Prop) [∀ a b, Decidable (R a b)] :
    ∀ (l : List α) (l' : List β), Decidable (List.Forall₂ R l l')
  | [], [] => .isTrue .nil
  | [], _ :: _ => .isFalse nofun
  | _ :: _, [] => .isFalse nofun
  | a :: l, b :: l' =>
    have := decidableForall₂ R l l'
    decidable_of_iff (R a b ∧ List.Forall₂ R l l') List.forall₂_cons.symm

/-- A pairwise condition may be read off a pairwise relation. -/
theorem forall₂_congr {R P Q : α → β → Prop} {l : List α} {l' : List β}
    (h : List.Forall₂ R l l') (hiff : ∀ a b, R a b → (P a b ↔ Q a b)) :
    List.Forall₂ P l l' ↔ List.Forall₂ Q l l' := by
  induction h with
  | nil => simp
  | cons hab _ ih => rw [List.forall₂_cons, List.forall₂_cons, hiff _ _ hab, ih]

/-- Two listings look the same exactly when each pair of records does. -/
theorem map_eq_map_iff {γ : Type u} {R Q : α → α → Prop} {f : α → γ} {l l' : List α}
    (h : List.Forall₂ R l l') (hiff : ∀ a b, R a b → (f a = f b ↔ Q a b)) :
    l.map f = l'.map f ↔ List.Forall₂ Q l l' := by
  rw [← List.forall₂_eq_eq_eq, List.forall₂_map_left_iff, List.forall₂_map_right_iff]
  exact forall₂_congr h hiff

/-! ## Loops -/

section

variable {m : Type u → Type v} [Monad m] {γ : Type u} {δ : Type*}

theorem forM_congr {m : Type → Type v} [Monad m] {f g : δ → m PUnit} {l : List δ}
    (h : ∀ a ∈ l, f a = g a) : l.forM f = l.forM g := by
  induction l with
  | nil => rfl
  | cons a l ih =>
    rw [List.forM_eq_forM, List.forM_cons, List.forM_cons, h a (List.mem_cons_self ..)]
    exact congrArg _ (funext fun _ => ih fun b hb => h b (List.mem_cons_of_mem _ hb))

/-- A loop may leave out what it does nothing with. -/
theorem forM_filter {m : Type → Type v} [Monad m] [LawfulMonad m] {f : δ → m PUnit} {p : δ → Bool}
    {l : List δ} (h : ∀ a ∈ l, p a = false → f a = pure ⟨⟩) : (l.filter p).forM f = l.forM f := by
  induction l with
  | nil => rfl
  | cons a l ih =>
    have hrest := ih fun b hb => h b (List.mem_cons_of_mem _ hb)
    by_cases hp : p a = true
    · rw [List.filter_cons_of_pos hp, List.forM_eq_forM, List.forM_cons,
        List.forM_cons]
      exact congrArg _ (funext fun _ => hrest)
    · rw [List.filter_cons_of_neg hp, hrest, List.forM_eq_forM, List.forM_cons,
        h a (List.mem_cons_self ..) (Bool.eq_false_iff.mpr hp), pure_bind]

theorem foldlM_congr {f g : γ → δ → m γ} {l : List δ} (h : ∀ c, ∀ a ∈ l, f c a = g c a) (c : γ) :
    l.foldlM f c = l.foldlM g c := by
  induction l generalizing c with
  | nil => rfl
  | cons a l ih =>
    rw [List.foldlM_cons, List.foldlM_cons, h c a (List.mem_cons_self ..)]
    exact congrArg _ (funext fun c => ih (fun c b hb => h c b (List.mem_cons_of_mem _ hb)) c)

theorem mapM_congr [LawfulMonad m] {f g : δ → m γ} {l : List δ} (h : ∀ a ∈ l, f a = g a) :
    l.mapM f = l.mapM g := by
  induction l with
  | nil => rfl
  | cons a l ih =>
    rw [List.mapM_cons, List.mapM_cons, h a (List.mem_cons_self ..),
      ih fun b hb => h b (List.mem_cons_of_mem _ hb)]

end

/-- A guard on the same condition, however it is decided. -/
theorem require_congr {ε : Type*} {p q : Prop} [Decidable p] [Decidable q] {e : ε} (h : p ↔ q) :
    require p e = require q e := by
  by_cases hp : p
  · rw [require_of hp, require_of (h.mp hp)]
  · simp only [require, if_neg hp, if_neg fun hq => hp (h.mpr hq)]

end Anyam.Lib
