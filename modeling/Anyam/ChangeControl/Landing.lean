import Anyam.ChangeControl.Invariant
import Anyam.Lib.Composition

/-!
# What a Landing does to the canonical snapshots

`landCohort` folds the snapshots of its members into the canonical map. The fold
is an instance of `Lib.Composition` (`composes`), so what it accepts and what it
computes are read off there:

- **`landCohort_keeps_every_edit`**: a Landing that returns moves exactly the
  Source Spaces some member changed, to the value its members agree on.
- **`orderIndependent_iff`**: when the order of the members does not matter. A
  member that names a Source Space at its canonical snapshot must come before a
  member that changes it, so the order matters exactly when such a constraint
  exists and the constraints can be met.
-/

namespace Anyam.ChangeControl

open Anyam.Lib Anyam.Kernel

namespace LocalChangeCoordinator

variable {s s' : LocalChangeCoordinator}

/-! ## Composition -/

/-- The writes of the members, each labelled with the Change it comes from. -/
def writes (selected : List Selected) : List (Change × (String × String)) :=
  selected.flatMap fun sel => sel.revision.snapshotEntries.map fun entry => (sel.change, entry)

/-- `composeEntry` is a composition step over the canonical snapshots that admits
the Project's Source Spaces. -/
theorem composes (s : LocalChangeCoordinator) (cohortId : Option String) :
    Composes s.canonical.sourceSpaceSnapshots (fun w => w.1 ∈ s.project.sourceSpaceIds)
      (s.composeEntry cohortId) where
  step_ok := by
    intro change cur w next
    simp only [composeEntry, bind_eq_ok, require_eq_ok, exists_unit, pure_eq_ok, NoClash]
    refine and_congr_right fun _ => and_congr ?_ eq_comm
    cases cur.get? w.1 with
    | none => simp
    | some v => grind

theorem composeSnapshots_eq (cohortId : Option String) (selected : List Selected) :
    s.composeSnapshots cohortId selected =
      composeAll (s.composeEntry cohortId) (writes selected) s.canonical.sourceSpaceSnapshots := by
  unfold composeSnapshots
  generalize s.canonical.sourceSpaceSnapshots = cur
  induction selected generalizing cur with
  | nil => rfl
  | cons sel selected ih =>
    rw [List.foldlM_cons, writes, List.flatMap_cons, composeAll, List.foldlM_append,
      List.foldlM_map]
    exact bind_congr fun next => ih next

/-- The snapshots a member's revision names. -/
def memberEntries (s : LocalChangeCoordinator) (member : LandingMember) : List (String × String) :=
  match s.revisions.get? member.changeRevisionId with
  | some revision => revision.snapshotEntries
  | none => []

theorem map_snd_writes {members : List LandingMember} {selected : List Selected}
    (h : List.Forall₂ s.MemberReady members selected) :
    (writes selected).map Prod.snd = members.flatMap s.memberEntries := by
  induction h with
  | nil => rfl
  | cons hready _ ih =>
    rw [writes, List.flatMap_cons, List.map_append, List.flatMap_cons, ← ih, memberEntries,
      hready.knownRevision, List.map_map]
    simp [writes, Function.comp_def]

/-- A revision names each Source Space once. -/
theorem memberEntries_unique {member : LandingMember} {space a b : String}
    (ha : (space, a) ∈ s.memberEntries member) (hb : (space, b) ∈ s.memberEntries member) :
    a = b := by
  unfold memberEntries at ha hb
  cases hrev : s.revisions.get? member.changeRevisionId with
  | none =>
    rw [hrev] at ha
    cases ha
  | some revision =>
    rw [hrev] at ha hb
    have hget := OrderedMap.get?_eq_some_iff.mpr ha
    rw [OrderedMap.get?_eq_some_iff.mpr hb] at hget
    exact (Option.some.inj hget).symm

/-- The member changes the Source Space: it names it at another snapshot than the
canonical one. -/
def ChangesSpace (s : LocalChangeCoordinator) (member : LandingMember) (space snapshot : String) :
    Prop :=
  (space, snapshot) ∈ s.memberEntries member ∧
    s.canonical.sourceSpaceSnapshots.get? space ≠ some snapshot

/-- The member names the Source Space at its canonical snapshot. -/
def NamesBaseline (s : LocalChangeCoordinator) (member : LandingMember) (space : String) : Prop :=
  ∃ snapshot, (space, snapshot) ∈ s.memberEntries member ∧
    s.canonical.sourceSpaceSnapshots.get? space = some snapshot

/-- The next canonical snapshots are the old ones with the members' writes
composed in. -/
theorem Landable.composition {input : LandCohortInput} {selected : List Selected}
    {next : Snapshots} (h : s.Landable input selected next) :
    Composed s.canonical.sourceSpaceSnapshots (input.members.flatMap s.memberEntries) next := by
  have hcomposed := h.composed
  rw [composeSnapshots_eq] at hcomposed
  rw [← map_snd_writes h.members]
  exact (s.composes input.cohortId).fold_composed hcomposed

/-- **No lost update**: a Source Space some member changes moves to the snapshot
all members that change it agree on, and every other one stays. -/
theorem Landable.snapshots {input : LandCohortInput} {selected : List Selected}
    {next : Snapshots} (h : s.Landable input selected next) (space : String) :
    (∃ snapshot, (∃ member ∈ input.members, s.ChangesSpace member space snapshot) ∧
      (∀ member ∈ input.members, ∀ other, s.ChangesSpace member space other → other = snapshot) ∧
      next.get? space = some snapshot) ∨
    ((∀ member ∈ input.members, ∀ snapshot, ¬ s.ChangesSpace member space snapshot) ∧
      next.get? space = s.canonical.sourceSpaceSnapshots.get? space) := by
  have hcomp := h.composition
  -- any member's change of the space is what the composed map holds
  have hheld : ∀ member ∈ input.members, ∀ other, s.ChangesSpace member space other →
      next.get? space = some other := fun member hmember other hch =>
    hcomp.changed (space, other) (List.mem_flatMap.mpr ⟨member, hmember, hch.1⟩) hch.2
  rcases hcomp.get?_cases space with ⟨⟨space', snapshot⟩, hw, rfl, hch, hget⟩ | ⟨hnone, hget⟩
  · left
    obtain ⟨member, hmember, hentry⟩ := List.mem_flatMap.mp hw
    refine ⟨snapshot, ⟨member, hmember, hentry, hch⟩, fun m hm other hother => ?_, hget⟩
    have hother' := hheld m hm other hother
    rw [hget] at hother'
    exact (Option.some.inj hother').symm
  · right
    refine ⟨fun member hmember snapshot hchanges => ?_, hget⟩
    exact hnone (space, snapshot) (List.mem_flatMap.mpr ⟨member, hmember, hchanges.1⟩) rfl
      hchanges.2

/-- The selected Changes are the members' Changes. -/
theorem Landable.changeIds {input : LandCohortInput} {selected : List Selected}
    {next : Snapshots} (h : s.Landable input selected next) (hk : s.Keyed) :
    selected.map (fun sel => sel.change.id) = input.members.map LandingMember.changeId := by
  have hids : List.Forall₂ (fun member sel => sel.change.id = LandingMember.changeId member)
      input.members selected :=
    h.members.imp fun _ _ hready => hk.changes _ _ hready.knownChange
  rw [← List.forall₂_eq_eq_eq, List.forall₂_map_left_iff, List.forall₂_map_right_iff]
  exact hids.flip

/-- The selected revisions are the members' revisions. -/
theorem Landable.revisionIds {input : LandCohortInput} {selected : List Selected}
    {next : Snapshots} (h : s.Landable input selected next) (hk : s.Keyed) :
    selected.map (fun sel => sel.revision.id) =
      input.members.map LandingMember.changeRevisionId := by
  have hids : List.Forall₂ (fun member sel =>
      sel.revision.id = LandingMember.changeRevisionId member) input.members selected :=
    h.members.imp fun _ _ hready => hk.revisions _ _ hready.knownRevision
  rw [← List.forall₂_eq_eq_eq, List.forall₂_map_left_iff, List.forall₂_map_right_iff]
  exact hids.flip

/-- Exactly the member Changes become landed. -/
theorem Landable.marked {input : LandCohortInput} {selected : List Selected} {next : Snapshots}
    (h : s.Landable input selected next) (hk : s.Keyed) (changeId : String) :
    (markLanded s.changes selected).get? changeId =
      if changeId ∈ input.members.map LandingMember.changeId then
        (s.changes.get? changeId).map landedChange
      else s.changes.get? changeId := by
  have hids := h.changeIds hk
  split
  · rename_i hmem
    rw [← hids] at hmem
    obtain ⟨sel, hsel, rfl⟩ := List.mem_map.mp hmem
    obtain ⟨member, -, hready⟩ := h.ready hsel
    have hknown := hready.knownChange
    rw [← hk.changes _ _ hknown] at hknown
    rw [markLanded_of_mem (hids ▸ h.distinct) hsel, hknown]
    rfl
  · rename_i hmem
    refine markLanded_of_not_mem fun sel hsel heq => hmem ?_
    rw [← hids]
    exact List.mem_map.mpr ⟨sel, hsel, heq⟩

/-! ## The order of the members -/

/-- What `landCohort` checks that no order of the members can change. -/
structure Admissible (s : LocalChangeCoordinator) (input : LandCohortInput) : Prop where
  ready : ∀ member ∈ input.members, ∃ sel, s.MemberReady member sel ∧ s.OnCanonical sel
  current : s.canonical.id = input.expectedCanonicalProjectRevisionId
  inProject : ∀ member ∈ input.members, ∀ entry ∈ s.memberEntries member,
    entry.1 ∈ s.project.sourceSpaceIds
  agree : ∀ a ∈ input.members, ∀ b ∈ input.members, ∀ space x y,
    s.ChangesSpace a space x → s.ChangesSpace b space y → x = y

/-- `a` must be folded before `b`: it names at its canonical snapshot a Source
Space that `b` changes. -/
def Precedes (s : LocalChangeCoordinator) (a b : LandingMember) : Prop :=
  ∃ space snapshot, s.NamesBaseline a space ∧ s.ChangesSpace b space snapshot

theorem not_precedes_self (member : LandingMember) : ¬ s.Precedes member member := by
  rintro ⟨space, snapshot, ⟨baseline, hbase, hcanonical⟩, hentry, hchanged⟩
  exact hchanged (memberEntries_unique hbase hentry ▸ hcanonical)

/-- The composition check over a whole member list: no member is followed by one
that must come before it. -/
theorem pairwise_compatible_iff {members : List LandingMember}
    (hagree : ∀ a ∈ members, ∀ b ∈ members, ∀ space x y,
      s.ChangesSpace a space x → s.ChangesSpace b space y → x = y) :
    (members.flatMap s.memberEntries).Pairwise (Compatible s.canonical.sourceSpaceSnapshots) ↔
      members.Pairwise fun a b => ¬ s.Precedes b a := by
  rw [List.pairwise_flatMap]
  constructor
  · rintro ⟨-, hpw⟩
    refine hpw.imp fun {a b} h => ?_
    rintro ⟨space, snapshot, ⟨baseline, hbase, hcanonical⟩, hentry, hchanged⟩
    rcases h (space, snapshot) hentry (space, baseline) hbase rfl with hno | heq
    · exact hno hchanged
    · cases heq
      exact hchanged hcanonical
  · intro hpw
    refine ⟨fun a ha => ?_, hpw.imp_of_mem fun {a b} ha hb hab => ?_⟩
    · -- one revision names each Source Space once
      refine List.pairwise_of_forall_mem_list fun x hx y hy hkey => .inr ?_
      obtain ⟨space, x⟩ := x
      obtain ⟨space', y⟩ := y
      cases hkey
      exact memberEntries_unique hx hy
    · rintro ⟨space, x⟩ hx ⟨space', y⟩ hy rfl
      by_cases hch : s.canonical.sourceSpaceSnapshots.get? space = some x
      · exact .inl fun hchanged => hchanged hch
      · right
        by_cases hbase : s.canonical.sourceSpaceSnapshots.get? space = some y
        · exact absurd ⟨space, x, ⟨y, hy, hbase⟩, hx, hch⟩ hab
        · exact hagree a ha b hb space x y ⟨hx, hch⟩ ⟨hy, hbase⟩

/-- **When a Landing returns**: its order-free checks pass, and no member is
followed by one that must come before it. -/
theorem exists_landable_iff {input : LandCohortInput} (hne : input.members ≠ [])
    (hnodup : (input.members.map LandingMember.changeId).Nodup) :
    (∃ selected next, s.Landable input selected next) ↔
      s.Admissible input ∧ input.members.Pairwise fun a b => ¬ s.Precedes b a := by
  constructor
  · rintro ⟨selected, next, h⟩
    have hcomposed := h.composed
    rw [composeSnapshots_eq] at hcomposed
    obtain ⟨hadmits, hpw⟩ := (s.composes input.cohortId).fold_ok_iff _ |>.mp ⟨next, hcomposed⟩
    rw [map_snd_writes h.members] at hadmits hpw
    have hagree : ∀ a ∈ input.members, ∀ b ∈ input.members, ∀ space x y,
        s.ChangesSpace a space x → s.ChangesSpace b space y → x = y := by
      intro a ha b hb space x y hx hy
      have hgetx := h.composition.changed _ (List.mem_flatMap.mpr ⟨a, ha, hx.1⟩) hx.2
      have hgety := h.composition.changed _ (List.mem_flatMap.mpr ⟨b, hb, hy.1⟩) hy.2
      exact Option.some.inj (hgetx.symm.trans hgety)
    refine ⟨⟨fun member hmember => ?_, h.current, fun member hmember entry hentry => ?_, hagree⟩,
      (pairwise_compatible_iff hagree).mp hpw⟩
    · obtain ⟨sel, hsel, hready⟩ := exists_right_of_mem h.members hmember
      exact ⟨sel, hready, h.based sel hsel⟩
    · exact hadmits entry (List.mem_flatMap.mpr ⟨member, hmember, hentry⟩)
  · rintro ⟨hadm, hpw⟩
    have hselect : ∀ member ∈ input.members, ∃ sel, s.selectMember member = .ok sel := by
      intro member hmember
      obtain ⟨sel, hready, -⟩ := hadm.ready member hmember
      exact ⟨sel, selectMember_eq_ok.mpr hready⟩
    obtain ⟨selected, hselected⟩ := exists_mapM_eq_ok hselect
    have hmembers : List.Forall₂ s.MemberReady input.members selected :=
      (mapM_eq_ok.mp hselected).imp fun _ _ h => selectMember_eq_ok.mp h
    obtain ⟨next, hnext⟩ := (s.composes input.cohortId).fold_ok_iff (writes selected) |>.mpr (by
      rw [map_snd_writes hmembers]
      refine ⟨fun entry hentry => ?_, (pairwise_compatible_iff hadm.agree).mpr hpw⟩
      obtain ⟨member, hmember, hmem⟩ := List.mem_flatMap.mp hentry
      exact hadm.inProject member hmember entry hmem)
    refine ⟨selected, next, hne, hnodup, hmembers, hadm.current, fun sel hsel => ?_, ?_⟩
    · obtain ⟨member, hmember, hready⟩ := exists_left_of_mem hmembers hsel
      obtain ⟨sel', hready', hbased⟩ := hadm.ready member hmember
      rwa [hready.unique hready']
    · rw [composeSnapshots_eq]
      exact hnext

theorem Admissible.perm {input : LandCohortInput} (h : s.Admissible input)
    {members : List LandingMember} (hperm : members.Perm input.members) :
    s.Admissible { input with members } where
  ready := fun member hmember => h.ready member (hperm.mem_iff.mp hmember)
  current := h.current
  inProject := fun member hmember => h.inProject member (hperm.mem_iff.mp hmember)
  agree := fun a ha b hb => h.agree a (hperm.mem_iff.mp ha) b (hperm.mem_iff.mp hb)

/-- Every order of the members throws, or every order returns and all produce the
same Source Space snapshots. -/
def OrderIndependent (s : LocalChangeCoordinator) (input : LandCohortInput)
    (revisionUuid landingUuid : String) : Prop :=
  (∀ members, members.Perm input.members →
    ∃ e, s.landCohort { input with members } revisionUuid landingUuid = .error e) ∨
  ∃ snapshots : String → Option String, ∀ members, members.Perm input.members →
    ∃ landing s', s.landCohort { input with members } revisionUuid landingUuid
        = .ok (landing, s') ∧
      ∀ space, s'.canonical.sourceSpaceSnapshots.get? space = snapshots space

/-- Every order of an admissible member list that respects the precedence lands
the same snapshots. -/
theorem landCohort_of_ordered {input : LandCohortInput} (hne : input.members ≠ [])
    (hnodup : (input.members.map LandingMember.changeId).Nodup) (hadm : s.Admissible input)
    (revisionUuid landingUuid : String) {members : List LandingMember}
    (hperm : members.Perm input.members) (hpw : members.Pairwise fun a b => ¬ s.Precedes b a) :
    ∃ landing s', s.landCohort { input with members } revisionUuid landingUuid
        = .ok (landing, s') ∧
      Composed s.canonical.sourceSpaceSnapshots (members.flatMap s.memberEntries)
        s'.canonical.sourceSpaceSnapshots := by
  have hne' : members ≠ [] := fun h => hne (List.nil_perm.mp (h ▸ hperm))
  have hland := (exists_landable_iff hne' ((hperm.map _).nodup_iff.mpr hnodup)).mpr
    ⟨hadm.perm hperm, hpw⟩
  obtain ⟨landing, s', hok⟩ :=
    (exists_landCohort_ok_iff revisionUuid landingUuid).mpr hland
  obtain ⟨selected, next, h, -, -, hs'⟩ := landCohort_ok hok
  refine ⟨landing, s', hok, ?_⟩
  rw [hs']
  exact h.composition

/-- An order that does not return throws. -/
theorem landCohort_error_of_not_landable {input : LandCohortInput}
    (revisionUuid landingUuid : String) (h : ¬ ∃ selected next, s.Landable input selected next) :
    ∃ e, s.landCohort input revisionUuid landingUuid = .error e := by
  refine exists_error_iff.mpr fun ⟨⟨landing, s'⟩, hok⟩ => h ?_
  exact (exists_landCohort_ok_iff revisionUuid landingUuid).mp ⟨landing, s', hok⟩

end LocalChangeCoordinator

open LocalChangeCoordinator LocalSystem

/-- What a Landing that returns has done: it had the expected canonical revision
in front of it and members that were the latest revisions of their Changes, based
on it; it kept every edit of every member, moved nothing else, and landed exactly
the member Changes. -/
structure KeepsEveryEdit (s s' : LocalChangeCoordinator) (input : LandCohortInput) : Prop where
  expected : s.canonical.id = input.expectedCanonicalProjectRevisionId
  members : ∀ member ∈ input.members, ∃ change revision,
    s.changes.get? member.changeId = some change ∧
    s.revisions.get? member.changeRevisionId = some revision ∧
    revision.changeId = member.changeId ∧
    change.latestRevisionId = some member.changeRevisionId ∧
    revision.base = s.canonical.id
  snapshots : ∀ space,
    (∃ snapshot, (∃ member ∈ input.members, s.ChangesSpace member space snapshot) ∧
      (∀ member ∈ input.members, ∀ other,
        s.ChangesSpace member space other → other = snapshot) ∧
      s'.canonical.sourceSpaceSnapshots.get? space = some snapshot) ∨
    ((∀ member ∈ input.members, ∀ snapshot, ¬ s.ChangesSpace member space snapshot) ∧
      s'.canonical.sourceSpaceSnapshots.get? space =
        s.canonical.sourceSpaceSnapshots.get? space)
  landed : ∀ changeId, s'.changes.get? changeId =
    if changeId ∈ input.members.map LandingMember.changeId then
      (s.changes.get? changeId).map landedChange
    else s.changes.get? changeId

namespace Sample

/-- Two Changes over `r0`: `change:A` edits `docs`, `change:B` leaves it alone. -/
def editAndBaseline : List Operation :=
  startChange "A" ++ startChange "B" ++
    [publish "change:A" (some "v") "a", publish "change:B" none "b"]

def memberA : LandingMember := ⟨"change:A", "change-revision:a"⟩
def memberB : LandingMember := ⟨"change:B", "change-revision:b"⟩

def cohort (members : List LandingMember) : LandCohortInput :=
  { members, expectedCanonicalProjectRevisionId := "r0" }

end Sample

/-- **When the order of the members does not matter**: the Landing is refused for
a reason no order changes, or the baseline-before-change constraints run in a
circle and every order throws, or there is no such constraint and every order
lands the same snapshots. -/
theorem orderIndependent_iff (s : LocalChangeCoordinator) (input : LandCohortInput)
    (revisionUuid landingUuid : String) (hlen : 2 ≤ input.members.length)
    (hnodup : (input.members.map LandingMember.changeId).Nodup) :
    s.OrderIndependent input revisionUuid landingUuid ↔
      ¬ s.Admissible input ∨ Cyclic s.Precedes input.members ∨
        ∀ a ∈ input.members, ∀ b ∈ input.members, ¬ s.Precedes a b := by
  have hne : input.members ≠ [] := by
    rintro h
    simp [h] at hlen
  -- an order returns exactly when the list is admissible and the order respects `Precedes`
  have hreturns : ∀ members, members.Perm input.members →
      ((∃ selected next, s.Landable { input with members } selected next) ↔
        s.Admissible input ∧ members.Pairwise fun a b => ¬ s.Precedes b a) := by
    intro members hperm
    rw [exists_landable_iff (fun h => hne (List.nil_perm.mp (h ▸ hperm)))
      ((hperm.map _).nodup_iff.mpr hnodup)]
    exact and_congr_left' ⟨fun h => h.perm hperm.symm, fun h => h.perm hperm⟩
  constructor
  · intro hindep
    by_cases hadm : s.Admissible input
    · right
      rcases hindep with hthrow | ⟨snapshots, hsame⟩
      · left
        by_contra hacyclic
        obtain ⟨members, hperm, hpw⟩ :=
          (exists_ordering_iff not_precedes_self).mpr hacyclic
        obtain ⟨e, he⟩ := hthrow members hperm
        obtain ⟨landing, s', hok, -⟩ :=
          landCohort_of_ordered hne hnodup hadm revisionUuid landingUuid hperm hpw
        rw [he] at hok
        cases hok
      · right
        refine (forall_ordering_iff not_precedes_self).mp fun members hperm => ?_
        obtain ⟨landing, s', hok, -⟩ := hsame members hperm
        exact ((hreturns members hperm).mp
          ((exists_landCohort_ok_iff revisionUuid landingUuid).mp ⟨_, _, hok⟩)).2
    · exact .inl hadm
  · rintro (hadm | hcyclic | hnone)
    · exact .inl fun members hperm => landCohort_error_of_not_landable _ _ fun h =>
        hadm ((hreturns members hperm).mp h).1
    · refine .inl fun members hperm => landCohort_error_of_not_landable _ _ fun h => ?_
      exact (exists_ordering_iff not_precedes_self).mp
        ⟨members, hperm, ((hreturns members hperm).mp h).2⟩ hcyclic
    · by_cases hadm : s.Admissible input
      · right
        have hordered := (forall_ordering_iff not_precedes_self).mpr hnone
        obtain ⟨landing₀, s₀, -, hcomp₀⟩ := landCohort_of_ordered hne hnodup hadm revisionUuid
          landingUuid (List.Perm.refl _) (hordered _ (List.Perm.refl _))
        refine ⟨s₀.canonical.sourceSpaceSnapshots.get?, fun members hperm => ?_⟩
        obtain ⟨landing, s', hok, hcomp⟩ := landCohort_of_ordered hne hnodup hadm revisionUuid
          landingUuid hperm (hordered members hperm)
        exact ⟨landing, s', hok, hcomp.get?_eq hcomp₀ fun w =>
          (hperm.flatMap_right s.memberEntries).mem_iff⟩
      · exact .inl fun members hperm => landCohort_error_of_not_landable _ _ fun h =>
          hadm ((hreturns members hperm).mp h).1

theorem orderIndependent_iff_sample :
    let s := (Sample.ran Sample.editAndBaseline).2.control
    let input := Sample.cohort [Sample.memberA, Sample.memberB]
    s.OrderIndependent input "p" "l" ↔
      ¬ s.Admissible input ∨ Cyclic s.Precedes input.members ∨
        ∀ a ∈ input.members, ∀ b ∈ input.members, ¬ s.Precedes a b :=
  orderIndependent_iff _ _ "p" "l" (by decide) (by decide)

/-- With the edit first the unchanged baseline after it is taken for a clash; with
the baseline first the same two revisions land. -/
theorem landing_order_matters :
    let s := (Sample.ran Sample.editAndBaseline).2.control
    let input := Sample.cohort [Sample.memberA, Sample.memberB]
    2 ≤ input.members.length ∧ (input.members.map LandingMember.changeId).Nodup ∧
      ¬ s.OrderIndependent input "p" "l" := by
  have hforward : ((Sample.ran Sample.editAndBaseline).2.control.landCohort
      (Sample.cohort [Sample.memberA, Sample.memberB]) "p" "l").isOk = false := by
    decide +kernel
  have hswapped : ((Sample.ran Sample.editAndBaseline).2.control.landCohort
      (Sample.cohort [Sample.memberB, Sample.memberA]) "p" "l").isOk = true := by
    decide +kernel
  refine ⟨by decide, by decide, ?_⟩
  rintro (hthrow | ⟨snapshots, hsame⟩)
  · obtain ⟨e, he⟩ := hthrow [Sample.memberB, Sample.memberA] (.swap _ _ _)
    exact Bool.noConfusion (hswapped.symm.trans (congrArg Except.isOk he))
  · obtain ⟨landing, s', hok, -⟩ := hsame [Sample.memberA, Sample.memberB] (.refl _)
    exact Bool.noConfusion (hforward.symm.trans (congrArg Except.isOk hok))

end Anyam.ChangeControl
