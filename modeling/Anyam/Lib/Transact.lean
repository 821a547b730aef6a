import Anyam.Lib.Guards

/-!
# Computations on a state that may throw

A synchronous method of an object reads and writes the fields of the object and may throw at
any point; what it wrote before it threw stays written. `Transact σ ε α` is such a
computation: from a state to a value or an error, and the state it leaves.

- `bind_eq_ok`, `require_eq_ok`, `orThrow_eq_ok`, `update_eq_ok`: what a computation that
  returned went through, step by step.
- **`Keeps R m`**: the state that `m` leaves is related to the one it found, whether it returns
  or throws. `keeps_bind` follows a computation along a transitive relation, `bind_leaves` one
  whose last part does more.
- `bind_require`, `bind_orThrow`: what holds of the state, and goes on to the end after a check.
-/

namespace Anyam.Lib

/-- A computation on a state in `σ` that returns a value or throws. -/
def Transact (σ ε α : Type) : Type := σ → Except ε α × σ

namespace Transact

variable {σ ε α β : Type}

instance : Monad (Transact σ ε) where
  pure a := fun s => (.ok a, s)
  bind m f := fun s =>
    match m s with
    | (.ok a, s') => f a s'
    | (.error e, s') => (.error e, s')

/-- The state. -/
def state : Transact σ ε σ := fun s => (.ok s, s)

/-- Overwrite the state. -/
def update (f : σ → σ) : Transact σ ε Unit := fun s => (.ok (), f s)

def throw (e : ε) : Transact σ ε α := fun s => (.error e, s)

/-- Throw `e` unless `p` holds. -/
def require (p : Prop) [Decidable p] (e : ε) : Transact σ ε Unit :=
  fun s => (Lib.require p e, s)

/-- The value of an optional lookup, or `e` when it is absent. -/
def orThrow (value : Option α) (e : ε) : Transact σ ε α := fun s => (Lib.orThrow value e, s)

/-- The outcome of a computation that has no state. -/
def ofExcept (result : Except ε α) : Transact σ ε α := fun s => (result, s)

/-- What `m` ended with, returned or thrown, as a value. -/
def attempt (m : Transact σ ε α) : Transact σ ε (Except ε α) := fun s => (.ok (m s).1, (m s).2)

/-! ## What a computation that returned went through -/

section

variable {s s' : σ} {e : ε} {a a' : α} {b : β}

@[simp] theorem pure_eq_ok : (pure a : Transact σ ε α) s = (.ok a', s') ↔ a = a' ∧ s = s' := by
  show ((Except.ok a : Except ε α), s) = (.ok a', s') ↔ _
  rw [Prod.mk.injEq, Except.ok.injEq]

@[simp] theorem bind_eq_ok {m : Transact σ ε α} {f : α → Transact σ ε β} :
    (m >>= f) s = (.ok b, s') ↔ ∃ a mid, m s = (.ok a, mid) ∧ f a mid = (.ok b, s') := by
  show (match m s with
    | (.ok a, s') => f a s'
    | (.error e, s') => (.error e, s')) = (.ok b, s') ↔ _
  rcases m s with ⟨e | a, mid⟩
  · simp
  · simp

@[simp] theorem state_eq_ok {t : σ} :
    (state : Transact σ ε σ) s = (.ok t, s') ↔ s = t ∧ s = s' := by
  rw [state, Prod.mk.injEq, Except.ok.injEq]

@[simp] theorem update_eq_ok {f : σ → σ} {u : Unit} :
    (update f : Transact σ ε Unit) s = (.ok u, s') ↔ f s = s' := by
  simp [update]

@[simp] theorem require_eq_ok {p : Prop} [Decidable p] {u : Unit} :
    (require p e : Transact σ ε Unit) s = (.ok u, s') ↔ p ∧ s = s' := by
  simp [require]

@[simp] theorem attempt_eq_ok {m : Transact σ ε α} {result : Except ε α} :
    (attempt m) s = (.ok result, s') ↔ m s = (result, s') := by
  rw [attempt, Prod.mk.injEq, Except.ok.injEq, Prod.ext_iff]

@[simp] theorem ofExcept_eq_ok {result : Except ε α} :
    (ofExcept result : Transact σ ε α) s = (.ok a, s') ↔ result = .ok a ∧ s = s' := by
  rw [ofExcept, Prod.mk.injEq]

@[simp] theorem orThrow_eq_ok {value : Option α} :
    (orThrow value e : Transact σ ε α) s = (.ok a, s') ↔ value = some a ∧ s = s' := by
  simp [orThrow]

end

theorem bind_of_ok {m : Transact σ ε α} {f : α → Transact σ ε β} {s mid : σ} {a : α}
    (h : m s = (.ok a, mid)) : (m >>= f) s = f a mid := by
  show (match m s with
    | (.ok a, s') => f a s'
    | (.error e, s') => (.error e, s')) = _
  rw [h]

theorem bind_of_error {m : Transact σ ε α} {f : α → Transact σ ε β} {s mid : σ} {e : ε}
    (h : m s = (.error e, mid)) : (m >>= f) s = (.error e, mid) := by
  show (match m s with
    | (.ok a, s') => f a s'
    | (.error e, s') => (.error e, s')) = _
  rw [h]

/-! ## What a computation leaves, returned or thrown -/

/-- What holds of the state the first part leaves, and goes on to the end when that part
returned. -/
theorem bind_leaves {P Q : σ → Prop} {m : Transact σ ε α} {f : α → Transact σ ε β} {s : σ}
    (hm : Q (m s).2) (hthrown : ∀ {t}, Q t → P t)
    (hf : ∀ a mid, m s = (.ok a, mid) → Q mid → P (f a mid).2) : P ((m >>= f) s).2 := by
  show P (match m s with
    | (.ok a, s') => f a s'
    | (.error e, s') => (.error e, s')).2
  rcases hms : m s with ⟨e | a, mid⟩
  · rw [hms] at hm
    exact hthrown hm
  · rw [hms] at hm
    exact hf a mid hms hm

/-- Every state `m` leaves is related to the one it found. -/
def Keeps (R : σ → σ → Prop) (m : Transact σ ε α) : Prop := ∀ s, R s (m s).2

theorem update_bind {f : σ → σ} {g : Unit → Transact σ ε β} {s : σ} :
    ((update f : Transact σ ε Unit) >>= g) s = g () (f s) := rfl

/-- What holds of the state, and goes on to the end after a first part that only reads. -/
theorem bind_reads {P : σ → Prop} {m : Transact σ ε α} {f : α → Transact σ ε β} {s : σ}
    (hm : Keeps Eq m) (hs : P s) (hf : ∀ a, m s = (.ok a, s) → P (f a s).2) :
    P ((m >>= f) s).2 := by
  have hleft : s = (m s).2 := hm s
  refine bind_leaves (Q := fun t => s = t) hleft (fun h => h ▸ hs) fun a mid hms hmid => ?_
  subst hmid
  exact hf a hms

section

variable {R : σ → σ → Prop}

theorem Keeps.leaves {m : Transact σ ε α} (h : Keeps R m) {s s' : σ} {result : Except ε α}
    (hm : m s = (result, s')) : R s s' := by
  have := h s
  rwa [hm] at this

theorem Keeps.mono {R' : σ → σ → Prop} {m : Transact σ ε α} (h : Keeps R m)
    (himp : ∀ {s s'}, R s s' → R' s s') : Keeps R' m :=
  fun s => himp (h s)

theorem keeps_bind [IsTrans σ R] {m : Transact σ ε α} {f : α → Transact σ ε β}
    (hm : Keeps R m) (hf : ∀ a, Keeps R (f a)) : Keeps R (m >>= f) := by
  intro s
  refine bind_leaves (hm s) id fun a mid _ hmid => ?_
  exact Trans.trans hmid (hf a mid)

section

variable [Std.Refl R]

theorem keeps_pure {a : α} : Keeps R (pure a : Transact σ ε α) := fun s => refl s

theorem keeps_state : Keeps R (state : Transact σ ε σ) := fun s => refl s

theorem keeps_require {p : Prop} [Decidable p] {e : ε} :
    Keeps R (require p e : Transact σ ε Unit) := fun s => refl s

theorem keeps_ofExcept {result : Except ε α} :
    Keeps R (ofExcept result : Transact σ ε α) := fun s => refl s

theorem keeps_orThrow {value : Option α} {e : ε} :
    Keeps R (orThrow value e : Transact σ ε α) := fun s => refl s

end

/-- What holds of the state, and goes on to the end after a check. -/
theorem bind_require {P : σ → Prop} {p : Prop} [Decidable p] {e : ε} {f : Unit → Transact σ ε β}
    {s : σ} (hs : P s) (hf : p → P (f () s).2) :
    P (((require p e : Transact σ ε Unit) >>= f) s).2 :=
  bind_reads keeps_require hs fun _ h => hf (require_eq_ok.mp h).1

/-- What holds of the state, and goes on to the end after a lookup. -/
theorem bind_orThrow {P : σ → Prop} {value : Option α} {e : ε} {f : α → Transact σ ε β} {s : σ}
    (hs : P s) (hf : ∀ a, value = some a → P (f a s).2) :
    P (((orThrow value e : Transact σ ε α) >>= f) s).2 :=
  bind_reads keeps_orThrow hs fun a h => hf a (orThrow_eq_ok.mp h).1

theorem Keeps.attempt {m : Transact σ ε α} (h : Keeps R m) : Keeps R (attempt m) := h

theorem keeps_update {f : σ → σ} (h : ∀ s, R s (f s)) :
    Keeps R (update f : Transact σ ε Unit) := h

end

end Transact

end Anyam.Lib
