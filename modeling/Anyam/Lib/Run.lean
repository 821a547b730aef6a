import Mathlib.Data.List.Induction

/-!
# Runs of a labelled step function

A component is a step function `step : α → σ → ρ × σ`: an operation takes the
state to a reply and the next state. `Run step ok s₀ tr s` is a finite run from
`s₀` to `s` whose operations each satisfied `ok` in the state they were applied
to; `tr` lists its transitions, oldest first, each with the states around it.

- `Run.invariant` and `Run.traceInvariant`: what one step preserves, a run has.
- `Run.split`, `Run.at_position`: a run through a given transition is a run up to it, the step, and
  a run from it. Statements about "later" are about the last part, up to a later position
  (`Run.between`).
- `Run.exists_ended`: what was lost during a run was lost in one of its steps.
- `exec`: the run of a list of operations, computed (`run_exec`).
-/

namespace Anyam.Lib

universe u v w

/-- One step of a run: the operation, its reply, and the states around it. -/
structure Transition (σ : Type u) (α : Type v) (ρ : Type w) where
  pre : σ
  op : α
  reply : ρ
  post : σ

variable {σ : Type u} {α : Type v} {ρ : Type w}

/-- The transition an operation causes. -/
def Transition.of (step : α → σ → ρ × σ) (s : σ) (a : α) : Transition σ α ρ :=
  ⟨s, a, (step a s).1, (step a s).2⟩

/-- Finite runs, extended at the end. -/
inductive Run (step : α → σ → ρ × σ) (ok : σ → α → Prop) (s₀ : σ) :
    List (Transition σ α ρ) → σ → Prop
  | nil : Run step ok s₀ [] s₀
  | snoc {tr s} (a : α) : Run step ok s₀ tr s → ok s a →
      Run step ok s₀ (tr ++ [.of step s a]) (step a s).2

namespace Run

variable {step : α → σ → ρ × σ} {ok : σ → α → Prop} {s₀ s : σ}
  {tr : List (Transition σ α ρ)}

/-- **Run rule with history**: a relation between the trace so far and the state
that one step preserves holds along every run. -/
theorem traceInvariant (I : List (Transition σ α ρ) → σ → Prop) (h0 : I [] s₀)
    (hstep : ∀ tr s a, I tr s → ok s a → I (tr ++ [.of step s a]) (step a s).2)
    (h : Run step ok s₀ tr s) : I tr s := by
  induction h with
  | nil => exact h0
  | snoc a _ hok ih => exact hstep _ _ a ih hok

/-- **Run rule**: a state predicate that one step preserves holds along every
run it holds at the start of. -/
theorem invariant (I : σ → Prop) (h0 : I s₀)
    (hstep : ∀ s a, I s → ok s a → I (step a s).2) (h : Run step ok s₀ tr s) : I s :=
  h.traceInvariant (fun _ s => I s) h0 fun _ s a hI hok => hstep s a hI hok

theorem append {s₁ s₂ : σ} {tr₁ tr₂ : List (Transition σ α ρ)}
    (h₁ : Run step ok s₀ tr₁ s₁) (h₂ : Run step ok s₁ tr₂ s₂) :
    Run step ok s₀ (tr₁ ++ tr₂) s₂ := by
  induction h₂ with
  | nil => simpa using h₁
  | snoc a _ hok ih =>
    rw [← List.append_assoc]
    exact ih.snoc a hok

/-- A run whose trace is split reaches a state at the split. -/
theorem of_append {tr₁ tr₂ : List (Transition σ α ρ)}
    (h : Run step ok s₀ (tr₁ ++ tr₂) s) :
    ∃ m, Run step ok s₀ tr₁ m ∧ Run step ok m tr₂ s := by
  induction tr₂ using List.reverseRecOn generalizing s with
  | nil => exact ⟨s, by simpa using h, .nil⟩
  | append_singleton tr₂ t ih =>
    rw [← List.append_assoc] at h
    generalize htr : tr₁ ++ tr₂ ++ [t] = tr at h
    cases h with
    | nil => simp at htr
    | snoc a hrun hok =>
      obtain ⟨rfl, ht⟩ := List.append_inj' htr rfl
      obtain ⟨m, hm₁, hm₂⟩ := ih hrun
      rw [List.singleton_inj.mp ht]
      exact ⟨m, hm₁, hm₂.snoc a hok⟩

/-- A one-transition run is one admitted step. -/
theorem of_singleton {t : Transition σ α ρ} (h : Run step ok s₀ [t] s) :
    t = .of step s₀ t.op ∧ ok s₀ t.op ∧ s = t.post := by
  generalize htr : [t] = tr at h
  cases h with
  | nil => cases htr
  | @snoc tr' s' a hrun hok =>
    obtain ⟨rfl, ht⟩ := List.append_inj' (show [] ++ [t] = tr' ++ [_] from htr) rfl
    cases List.singleton_inj.mp ht
    generalize htr' : ([] : List (Transition σ α ρ)) = tr'' at hrun
    cases hrun with
    | nil => exact ⟨rfl, hok, rfl⟩
    | snoc => simp at htr'

/-- A transition of a run was one admitted step of it, with a run before it and
a run after it. -/
theorem split {tr₁ tr₂ : List (Transition σ α ρ)} {t : Transition σ α ρ}
    (h : Run step ok s₀ (tr₁ ++ t :: tr₂) s) :
    Run step ok s₀ tr₁ t.pre ∧ t = .of step t.pre t.op ∧ ok t.pre t.op ∧
      Run step ok t.post tr₂ s := by
  rw [List.append_cons] at h
  obtain ⟨m, hm, hrest⟩ := h.of_append
  obtain ⟨m', hm', ht⟩ := hm.of_append
  obtain ⟨heq, hok, rfl⟩ := ht.of_singleton
  have hpre : t.pre = m' := congrArg Transition.pre heq
  subst hpre
  exact ⟨hm', heq, hok, hrest⟩

/-- The transition at a position of a run, with the run before and after it. -/
theorem at_position {i : Nat} {t : Transition σ α ρ} (h : Run step ok s₀ tr s)
    (ht : tr[i]? = some t) :
    Run step ok s₀ (tr.take i) t.pre ∧ t = .of step t.pre t.op ∧ ok t.pre t.op ∧
      Run step ok t.post (tr.drop (i + 1)) s := by
  obtain ⟨hi, rfl⟩ := List.getElem?_eq_some_iff.mp ht
  have hsplit : tr.take i ++ tr[i] :: tr.drop (i + 1) = tr := by
    rw [List.getElem_cons_drop, List.take_append_drop]
  exact split (hsplit.symm ▸ h)

/-- The run from one position to a later one, and the step at the later one. -/
theorem between {i j : Nat} {t t' : Transition σ α ρ} (h : Run step ok s₀ tr s)
    (hi : tr[i]? = some t) (hj : tr[j]? = some t') (hij : i < j) :
    ∃ mid, Run step ok t.post mid t'.pre ∧ (∀ m ∈ mid, ∃ k, tr[k]? = some m ∧ i < k ∧ k < j) ∧
      t' = .of step t'.pre t'.op ∧ ok t'.pre t'.op := by
  obtain ⟨-, -, -, hlater⟩ := h.at_position hi
  have hj' : (tr.drop (i + 1))[j - (i + 1)]? = some t' := by
    rw [List.getElem?_drop, Nat.add_sub_cancel' hij, hj]
  obtain ⟨hbefore, hof, hok, -⟩ := hlater.at_position hj'
  refine ⟨_, hbefore, fun m hm => ?_, hof, hok⟩
  obtain ⟨k, hk, rfl⟩ := List.mem_take_iff_getElem.mp hm
  refine ⟨i + 1 + k, ?_, by omega, by omega⟩
  rw [← List.getElem?_drop, List.getElem?_eq_getElem]

/-- What holds where a run starts and not where it ends was ended by one of its
steps. -/
theorem exists_ended {P : σ → Prop} (h : Run step ok s₀ tr s) (hstart : P s₀) (hend : ¬ P s) :
    ∃ (i : Nat) (t : Transition σ α ρ), tr[i]? = some t ∧ P t.pre ∧ ¬ P t.post := by
  induction h with
  | nil => exact absurd hstart hend
  | @snoc tr s a _ _ ih =>
    by_cases hs : P s
    · exact ⟨tr.length, .of step s a, by simp, hs, hend⟩
    · obtain ⟨i, t, hi, ht⟩ := ih hs
      refine ⟨i, t, ?_, ht⟩
      rw [List.getElem?_append_left (List.getElem?_eq_some_iff.mp hi).1]
      exact hi

end Run

/-! ## Computed runs -/

/-- The trace and final state of a list of operations. -/
def exec (step : α → σ → ρ × σ) : σ → List α → List (Transition σ α ρ) × σ
  | s, [] => ([], s)
  | s, a :: as =>
    let rest := exec step (step a s).2 as
    (.of step s a :: rest.1, rest.2)

/-- Every operation of the list is admitted where it is applied. -/
def Admits (step : α → σ → ρ × σ) (ok : σ → α → Prop) : σ → List α → Prop
  | _, [] => True
  | s, a :: as => ok s a ∧ Admits step ok (step a s).2 as

instance Admits.decidable (step : α → σ → ρ × σ) (ok : σ → α → Prop)
    [∀ s a, Decidable (ok s a)] : ∀ s as, Decidable (Admits step ok s as)
  | _, [] => inferInstanceAs (Decidable True)
  | s, a :: as =>
    have := Admits.decidable step ok (step a s).2 as
    inferInstanceAs (Decidable (ok s a ∧ Admits step ok (step a s).2 as))

/-- Where everything is admitted, every list of operations is. -/
theorem Admits.of_forall {step : α → σ → ρ × σ} {ok : σ → α → Prop} (hok : ∀ s a, ok s a) :
    ∀ (s : σ) (as : List α), Admits step ok s as
  | _, [] => trivial
  | s, a :: as => ⟨hok s a, of_forall hok (step a s).2 as⟩

theorem run_exec {step : α → σ → ρ × σ} {ok : σ → α → Prop} :
    ∀ {s : σ} {as : List α}, Admits step ok s as →
      Run step ok s (exec step s as).1 (exec step s as).2
  | _, [], _ => .nil
  | s, a :: as, h => by
    have hhead : Run step ok s [.of step s a] (step a s).2 := Run.nil.snoc a h.1
    exact hhead.append (run_exec h.2)

end Anyam.Lib
