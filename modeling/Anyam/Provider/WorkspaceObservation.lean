import Anyam.Lib.DepthFirst
import Mathlib.Data.String.Basic

/-!
# The ancestry of an observed Workspace

`observeWorkspaceSnapshot` of `cloudflare/artifacts-workspace.ts`, from the head of the branch that it
has checked to the commits it returns: the provider is asked for one commit after another, and every
one that is reachable from the head has to read exactly.

- `observedAncestors`: the traversal and the check of the base.
- **`observedAncestors_exact`**: what it refuses, and what it returns.
-/

namespace Anyam.Provider.Observation

open Anyam.Lib DepthFirst

/-- A commit as the provider gives it. What is no string, or no array, is `none`. -/
structure ReadCommit where
  hash : Option String
  treeHash : Option String
  parents : Option (List (Option String))
deriving DecidableEq, Repr

structure Head where
  hash : String
  treeHash : String
deriving DecidableEq, Repr

/-- What a provider reads for each hash. It has finitely many commits. -/
structure CommitReader where
  readCommit : String → Option ReadCommit
  served : List String
  mem_served : ∀ hash, (readCommit hash).isSome → hash ∈ served

inductive ObservationErrorCode
  | graphInvalid | ancestryMismatch
deriving DecidableEq, Repr

def isHex (c : Char) : Bool := ('0' ≤ c && c ≤ '9') || ('a' ≤ c && c ≤ 'f')

/-- `/^[0-9a-f]{40}$/u`. -/
def oid (value : Option String) : Bool :=
  value.any fun text => text.toList.length = 40 && text.toList.all isHex

/-- The commit that was read for a hash has its exact identity, tree and parent list. -/
def ReadCommit.exact (head : Head) (hash : String) (commit : ReadCommit) : Bool :=
  commit.hash = some hash && oid commit.treeHash && commit.parents.any (·.all oid) &&
    (hash ≠ head.hash || commit.treeHash = some head.treeHash)

def ReadCommit.parentHashes (commit : ReadCommit) : List String :=
  (commit.parents.getD []).filterMap id

/-- The parents of a commit that reads exactly. -/
def CommitReader.parentsOf (reader : CommitReader) (head : Head) (hash : String) :
    Option (List String) :=
  ((reader.readCommit hash).filter (·.exact head hash)).map ReadCommit.parentHashes

def CommitReader.graph (reader : CommitReader) (head : Head) : Graph String where
  parents := reader.parentsOf head
  readable := reader.served
  mem_readable := by
    intro hash h
    refine reader.mem_served hash ?_
    rw [CommitReader.parentsOf, Option.isSome_map] at h
    exact Option.isSome_of_isSome_filter _ _ h

/-- The commits from the head on, when the selected base is one of them. -/
def observedAncestors (reader : CommitReader) (head : Head) (expectedBaseCommitOid : String) :
    Except ObservationErrorCode (List String) :=
  match search (reader.graph head) head.hash with
  | .complete commits =>
    if expectedBaseCommitOid ∈ commits then .ok (commits.mergeSort fun left right => left ≤ right)
    else .error .ancestryMismatch
  | .cycle => .error .graphInvalid
  | .unreadable => .error .graphInvalid

/-! ## Exactness -/

/-- The commit is the head or an ancestor of it. -/
def FromHead (reader : CommitReader) (head : Head) (hash : String) : Prop :=
  Reachable (reader.graph head) head.hash hash

/-- The commit is missing, malformed, or an ancestor of itself. -/
def Flawed (reader : CommitReader) (head : Head) (hash : String) : Prop :=
  reader.readCommit hash = none ∨
    (∃ commit, reader.readCommit hash = some commit ∧ commit.exact head hash = false) ∨
    OnCycle (reader.graph head) hash

variable {reader : CommitReader} {head : Head}

theorem parentsOf_eq_none {hash : String} :
    reader.parentsOf head hash = none ↔ reader.readCommit hash = none ∨
      ∃ commit, reader.readCommit hash = some commit ∧ commit.exact head hash = false := by
  rw [CommitReader.parentsOf]
  cases reader.readCommit hash with
  | none => simp
  | some commit => cases hexact : commit.exact head hash <;> simp [hexact, Option.filter]

theorem sound_iff : Sound (reader.graph head) head.hash ↔
    ∀ hash, FromHead reader head hash → ¬ Flawed reader head hash := by
  have hread : ∀ hash, (∃ parents, (reader.graph head).parents hash = some parents) ↔
      ¬ reader.parentsOf head hash = none := fun hash => Option.ne_none_iff_exists'.symm
  refine forall_congr' fun hash => imp_congr_right fun _ => ?_
  rw [Flawed, ← or_assoc, ← parentsOf_eq_none, not_or, hread]

theorem pairwise_lt_mergeSort {commits : List String} (h : commits.Nodup) :
    (commits.mergeSort fun left right => left ≤ right).Pairwise (· < ·) := by
  have hsorted : (commits.mergeSort fun left right => left ≤ right).Pairwise fun left right =>
      decide (left ≤ right) := by
    refine List.pairwise_mergeSort (fun a b c hab hbc => ?_) (fun a b => ?_) commits
    · simp only [decide_eq_true_eq] at hab hbc ⊢
      exact le_trans hab hbc
    · simp only [Bool.or_eq_true, decide_eq_true_eq]
      exact le_total a b
  have hnodup := (List.mergeSort_perm commits fun left right => decide (left ≤ right)).nodup_iff.mpr h
  refine (hsorted.and hnodup).imp fun hab => ?_
  exact lt_of_le_of_ne (decide_eq_true_eq.mp hab.1) hab.2

/-- A list in strict order is determined by its elements. -/
theorem eq_of_pairwise_lt {left right : List String} (hleft : left.Pairwise (· < ·))
    (hright : right.Pairwise (· < ·)) (h : ∀ hash, hash ∈ left ↔ hash ∈ right) : left = right := by
  have hperm : left.Perm right :=
    (List.perm_ext_iff_of_nodup (hleft.imp fun hlt => hlt.ne) (hright.imp fun hlt => hlt.ne)).mpr h
  refine hperm.eq_of_pairwise (fun a b _ _ hab hba => ?_) hleft hright
  exact absurd (lt_trans hab hba) (lt_irrefl a)

/-- What is returned when no commit is flawed. -/
theorem observedAncestors_of_unflawed
    (h : ∀ hash, FromHead reader head hash → ¬ Flawed reader head hash) :
    ∃ commits : List String, commits.Pairwise (· < ·) ∧
      (∀ hash, hash ∈ commits ↔ FromHead reader head hash) ∧
      ∀ base, observedAncestors reader head base =
        if base ∈ commits then .ok commits else .error .ancestryMismatch := by
  obtain ⟨commits, hsearch⟩ := search_complete_iff.mpr (sound_iff.mpr h)
  obtain ⟨hnodup, hmem, -⟩ := search_complete hsearch
  refine ⟨_, pairwise_lt_mergeSort hnodup, fun hash => List.mem_mergeSort.trans (hmem hash), ?_⟩
  intro base
  simp only [observedAncestors, hsearch, List.mem_mergeSort]

theorem observedAncestors_of_flawed {base hash : String} (hhash : FromHead reader head hash)
    (hflawed : Flawed reader head hash) :
    observedAncestors reader head base = .error .graphInvalid := by
  rw [observedAncestors]
  split
  · next commits hsearch =>
    have hsound := sound_iff.mp (search_complete hsearch).2.2
    exact absurd hflawed (hsound hash hhash)
  · rfl
  · rfl

/-- **Observation is exact**: it is refused when a commit from the head on is flawed, or the base is
none of them, and returns all of them in order otherwise. -/
theorem observedAncestors_exact (reader : CommitReader) (head : Head) (base : String) :
    (observedAncestors reader head base = .error .graphInvalid ↔
      ∃ hash, FromHead reader head hash ∧ Flawed reader head hash) ∧
    (observedAncestors reader head base = .error .ancestryMismatch ↔
      (∀ hash, FromHead reader head hash → ¬ Flawed reader head hash) ∧
        ¬ FromHead reader head base) ∧
    (∀ commits, observedAncestors reader head base = .ok commits ↔
      (∀ hash, FromHead reader head hash → ¬ Flawed reader head hash) ∧ FromHead reader head base ∧
        commits.Pairwise (· < ·) ∧ ∀ hash, hash ∈ commits ↔ FromHead reader head hash) := by
  by_cases hflawed : ∃ hash, FromHead reader head hash ∧ Flawed reader head hash
  · have hrefused : observedAncestors reader head base = .error .graphInvalid := by
      obtain ⟨hash, hhash, hbad⟩ := hflawed
      exact observedAncestors_of_flawed hhash hbad
    have hsome : ¬ ∀ hash, FromHead reader head hash → ¬ Flawed reader head hash := by
      intro hall
      obtain ⟨hash, hhash, hbad⟩ := hflawed
      exact hall hash hhash hbad
    rw [hrefused]
    refine ⟨⟨fun _ => hflawed, fun _ => rfl⟩, ⟨nofun, fun h => absurd h.1 hsome⟩, fun commits => ?_⟩
    exact ⟨nofun, fun h => absurd h.1 hsome⟩
  · have hall : ∀ hash, FromHead reader head hash → ¬ Flawed reader head hash :=
      fun hash hhash hbad => hflawed ⟨hash, hhash, hbad⟩
    obtain ⟨found, hsorted, hmem, hobserved⟩ := observedAncestors_of_unflawed hall
    rw [hobserved base]
    by_cases hbase : FromHead reader head base
    · rw [if_pos ((hmem base).mpr hbase)]
      refine ⟨⟨nofun, fun h => absurd h hflawed⟩, ⟨nofun, fun h => absurd hbase h.2⟩, fun commits => ?_⟩
      constructor
      · intro h
        cases h
        exact ⟨hall, hbase, hsorted, hmem⟩
      · rintro ⟨-, -, hcommits, hcommit⟩
        rw [eq_of_pairwise_lt hcommits hsorted fun hash => (hcommit hash).trans (hmem hash).symm]
    · rw [if_neg fun h => hbase ((hmem base).mp h)]
      refine ⟨⟨nofun, fun h => absurd h hflawed⟩, ⟨fun _ => ⟨hall, hbase⟩, fun _ => rfl⟩,
        fun commits => ?_⟩
      exact ⟨nofun, fun h => absurd h.2.1 hbase⟩

end Anyam.Provider.Observation
