import Anyam.Portability.MirrorRecords

/-!
# What `refsEqual` compares

`refsEqual` of `portability/mirror.ts` compares the lengths of two lists of refs and looks each ref
of the left one up in a map of the right one. A ref that is listed twice on the left fills the place
of one that is missing.

- `SameRefs`: both lists denote one set of refs, in which every name has one OID.
- `Balanced`: the left list does not make up by repetitions for what it leaves out.
- **`refsEqual_exact_iff`**: `refsEqual` decides `SameRefs`, in both directions, exactly for lists
  that are balanced in both directions.
- **`omitted_ref_accepted`**: a pushed list without a mapped ref that is taken for the requested one.
-/

namespace Anyam.Portability

open Anyam.Lib Anyam.Kernel

variable {left right : List GitRef}

/-- Both lists denote the same refs, and each name has one OID. -/
def SameRefs (left right : List GitRef) : Prop :=
  (∀ ref, ref ∈ left ↔ ref ∈ right) ∧
    ∀ ref ∈ left, ∀ other ∈ left, ref.name = other.name → ref.oid = other.oid

/-- `refsMap(right)` has every ref of `left`. -/
def Resolves (left right : List GitRef) : Prop :=
  ∀ ref ∈ left, refOid right ref.name = some ref.oid

/-- When its refs resolve, the left list repeats as many refs as the right one repeats and the left
one leaves out, exactly where it leaves none out. -/
def Balanced (left right : List GitRef) : Prop :=
  Resolves left right →
    (repeats left = repeats right + omitted left right ↔ omitted left right = 0)

theorem Resolves.subset (h : Resolves left right) : left ⊆ right := by
  intro ref href
  exact (lastWith_eq_some (refOid_eq_some_iff.mp (h ref href))).1

/-- One lookup answers for all refs of a name. -/
theorem Resolves.functional (h : Resolves left right) :
    ∀ ref ∈ left, ∀ other ∈ left, ref.name = other.name → ref.oid = other.oid := by
  intro ref href other hother hname
  have hfound := h ref href
  rw [hname, h other hother] at hfound
  exact (Option.some.inj hfound).symm

theorem SameRefs.symm (h : SameRefs left right) : SameRefs right left := by
  refine ⟨fun ref => (h.1 ref).symm, fun ref href other hother hname => ?_⟩
  exact h.2 ref ((h.1 ref).mpr href) other ((h.1 other).mpr hother) hname

theorem SameRefs.resolves (h : SameRefs left right) : Resolves left right := by
  intro ref href
  rw [refOid_eq_some_iff]
  cases hfound : lastWith GitRef.name right ref.name with
  | none => exact absurd rfl (lastWith_eq_none.mp hfound ref ((h.1 ref).mp href))
  | some other =>
    obtain ⟨hother, hname⟩ := lastWith_eq_some hfound
    have hoid : ref.oid = other.oid := h.2 ref href other ((h.1 other).mpr hother) hname.symm
    cases ref
    cases other
    simp_all

/-- Lists that resolve denote the same refs when none is left out. -/
theorem Resolves.sameRefs_iff (h : Resolves left right) :
    SameRefs left right ↔ omitted left right = 0 := by
  rw [omitted_eq_zero]
  constructor
  · intro hsame ref href
    exact (hsame.1 ref).mpr href
  · intro hsub
    exact ⟨fun ref => ⟨fun href => h.subset href, fun href => hsub href⟩, h.functional⟩

/-- Lists that resolve have one length when the repetitions make up for what is left out. -/
theorem Resolves.refsEqual_iff (h : Resolves left right) :
    refsEqual left right ↔ repeats left = repeats right + omitted left right := by
  rw [← length_eq_iff_of_subset h.subset]
  exact and_iff_left h

theorem refsEqual_sameRefs_iff :
    (refsEqual left right ↔ SameRefs left right) ↔ Balanced left right := by
  by_cases h : Resolves left right
  · rw [h.refsEqual_iff, h.sameRefs_iff]
    exact ⟨fun hiff _ => hiff, fun hbalanced => hbalanced h⟩
  · have hunequal : ¬ refsEqual left right := fun hequal => h hequal.2
    have hother : ¬ SameRefs left right := fun hsame => h hsame.resolves
    exact iff_of_true (iff_of_false hunequal hother) fun hresolves => absurd hresolves h

/-- **`refsEqual` is exact and symmetric** for two lists exactly when they are balanced both
ways. -/
theorem refsEqual_exact_iff :
    ((refsEqual left right ↔ SameRefs left right) ∧ (refsEqual left right ↔ refsEqual right left)) ↔
      Balanced left right ∧ Balanced right left := by
  rw [← refsEqual_sameRefs_iff, ← refsEqual_sameRefs_iff]
  have hsymm : SameRefs left right ↔ SameRefs right left := ⟨SameRefs.symm, SameRefs.symm⟩
  constructor
  · rintro ⟨hexact, hequal⟩
    exact ⟨hexact, hequal.symm.trans (hexact.trans hsymm)⟩
  · rintro ⟨hexact, hback⟩
    exact ⟨hexact, hexact.trans (hsymm.trans hback.symm)⟩

/-- Lists that name each ref once are balanced. -/
theorem balanced_of_namesDistinct (hleft : NamesDistinct left) (hright : NamesDistinct right) :
    Balanced left right := by
  intro _
  have hl : repeats left = 0 := repeats_of_nodup hleft.of_map
  have hr : repeats right = 0 := repeats_of_nodup hright.of_map
  omega

/-- A provider that lists one of two mapped refs twice and omits the other: its answer is taken for
the requested refs, and the requested refs not for its answer. -/
theorem omitted_ref_accepted :
    let main : GitRef := ⟨"refs/heads/main", "oid:1"⟩
    let release : GitRef := ⟨"refs/heads/release", "oid:2"⟩
    let pushed := [main, main]
    let requested := [main, release]
    refsEqual pushed requested ∧ ¬ SameRefs pushed requested ∧ ¬ refsEqual requested pushed := by
  refine ⟨by decide, fun hsame => ?_, by decide⟩
  have hmem := (hsame.1 ⟨"refs/heads/release", "oid:2"⟩).mpr (by decide)
  revert hmem
  decide

end Anyam.Portability
