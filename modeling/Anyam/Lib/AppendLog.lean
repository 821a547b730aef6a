import Mathlib.Data.List.Nodup
import Anyam.Lib.Run

/-!
# A log that skips immediate repetition

`appendUnlessLast log a` appends `a` unless it is already the last entry. The log of a whole
run has no entry twice exactly when nothing was recorded that was in the log before
its end (**`nodup_appendUnlessLast_iff`** for one step, **`Run.nodup_log_iff`** for a run).
-/

namespace Anyam.Lib

universe u

variable {α : Type u} [DecidableEq α]

def appendUnlessLast (log : List α) (a : α) : List α :=
  if log.getLast? = some a then log else log ++ [a]

/-- The entry is new to the log, or its last one. -/
def NewOrLast (log : List α) (a : α) : Prop := a ∉ log ∨ log.getLast? = some a

theorem mem_appendUnlessLast (log : List α) (a : α) : a ∈ appendUnlessLast log a := by
  unfold appendUnlessLast
  split
  · exact List.mem_of_getLast? ‹_›
  · simp

/-- Recording only appends. -/
theorem appendUnlessLast_eq_append (log : List α) (a : α) : ∃ added, appendUnlessLast log a = log ++ added := by
  unfold appendUnlessLast
  split
  · exact ⟨[], (List.append_nil log).symm⟩
  · exact ⟨[a], rfl⟩

/-- **One step**: the log stays without repetition exactly when the recorded entry
is new or the last. -/
theorem nodup_appendUnlessLast_iff {log : List α} {a : α} :
    (appendUnlessLast log a).Nodup ↔ log.Nodup ∧ NewOrLast log a := by
  unfold appendUnlessLast NewOrLast
  by_cases hlast : log.getLast? = some a
  · rw [if_pos hlast]
    exact ⟨fun h => ⟨h, .inr hlast⟩, fun h => h.1⟩
  · rw [if_neg hlast, List.nodup_append]
    constructor
    · rintro ⟨hlog, -, hdisjoint⟩
      exact ⟨hlog, .inl fun ha => hdisjoint a ha a (List.mem_singleton.mpr rfl) rfl⟩
    · rintro ⟨hlog, hnew | hsame⟩
      · refine ⟨hlog, List.nodup_singleton a, ?_⟩
        rintro x hx y hy rfl
        exact hnew (List.mem_singleton.mp hy ▸ hx)
      · exact absurd hsame hlast

/-- What an operation records, if anything. -/
def recordIn (log : List α) : Option α → List α
  | none => log
  | some a => appendUnlessLast log a

theorem nodup_recordIn_iff {log : List α} {recorded : Option α} :
    (recordIn log recorded).Nodup ↔ log.Nodup ∧ ∀ a ∈ recorded, NewOrLast log a := by
  cases recorded with
  | none => simp [recordIn]
  | some a => simp [recordIn, nodup_appendUnlessLast_iff]

/-- **Along a run**: a log without repetition stays so exactly when every recorded
entry is new or the last when it is recorded. -/
theorem Run.nodup_log_iff {σ β ρ : Type*} {step : β → σ → ρ × σ} {ok : σ → β → Prop} {s₀ s : σ}
    {tr : List (Transition σ β ρ)} (log : σ → List α) (recorded : σ → β → Option α)
    (hrun : Run step ok s₀ tr s)
    (hlog : ∀ t ∈ tr, log t.post = recordIn (log t.pre) (recorded t.pre t.op)) :
    (log s).Nodup ↔
      (log s₀).Nodup ∧ ∀ t ∈ tr, ∀ a ∈ recorded t.pre t.op, NewOrLast (log t.pre) a := by
  induction hrun with
  | nil => simp
  | @snoc tr s b _ _ ih =>
    simp only [List.mem_append, List.mem_singleton, or_imp, forall_and, forall_eq] at hlog ⊢
    obtain ⟨hbefore, hlast⟩ := hlog
    rw [← and_assoc, ← ih hbefore]
    exact hlast ▸ nodup_recordIn_iff

end Anyam.Lib
