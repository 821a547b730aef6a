import Mathlib.Order.Basic

/-!
# A register with pending expectations

A register holds one value. Requests to write it wait: a pending request remembers
the value it expects to overwrite, and commits some time later. A commit is a
compare-and-swap when the register still holds what its request expects.

The component behind a `Register` need not compare at the commit. It is `Quiet` when
it opens requests at the present value or closes some, and `Commits` one request at
a time.

- **`Consistent.quiet`, `Consistent.commit`**: every pending request goes on expecting
  the present value as long as no commit changes the value while another request is
  pending.
- `Consistent.swaps`: in such a state every commit is a compare-and-swap.
- `ofRecords`: the register behind a table of records, each of which may be pending.
-/

namespace Anyam.Lib

universe u v w

/-- The value of the register, and what each pending request expects to find. -/
structure Register (κ : Type u) (ν : Type v) where
  current : ν
  expected : κ → Option ν

namespace Register

variable {κ : Type u} {ν : Type v} {r r' : Register κ ν}

/-- Requests are opened, reopened or closed; the value stays. -/
structure Quiet (r r' : Register κ ν) : Prop where
  current : r'.current = r.current
  expected : ∀ k e, r'.expected k = some e → r.expected k = some e ∨ e = r.current

theorem Quiet.refl (r : Register κ ν) : Quiet r r := ⟨rfl, fun _ _ he => .inl he⟩

theorem Quiet.trans {r'' : Register κ ν} (h : Quiet r r') (h' : Quiet r' r'') : Quiet r r'' where
  current := h'.current.trans h.current
  expected k e he := by
    rcases h'.expected k e he with hold | hnew
    · exact h.expected k e hold
    · exact .inr (hnew.trans h.current)

/-- The request of `k` commits the value `v` and is closed. -/
structure Commits (r : Register κ ν) (k : κ) (v : ν) (r' : Register κ ν) : Prop where
  pending : (r.expected k).isSome
  current : r'.current = v
  closed : r'.expected k = none
  others : ∀ k' ≠ k, r'.expected k' = r.expected k'

/-- Every pending request expects the present value. -/
def Consistent (r : Register κ ν) : Prop := ∀ k e, r.expected k = some e → e = r.current

/-- No commit of a new value while another request is pending. -/
def Exclusive (r : Register κ ν) (k : κ) (v : ν) : Prop :=
  v = r.current ∨ ∀ k' ≠ k, r.expected k' = none

/-- In a consistent register the request that commits finds what it expects. -/
theorem Consistent.swaps (hr : r.Consistent) {k : κ} {v : ν} (h : r.Commits k v r') :
    r.expected k = some r.current := by
  obtain ⟨e, he⟩ := Option.isSome_iff_exists.mp h.pending
  rw [he, hr k e he]

theorem Consistent.quiet (hr : r.Consistent) (h : r.Quiet r') : r'.Consistent := by
  intro k e he
  rw [h.current]
  rcases h.expected k e he with hold | hnew
  · exact hr k e hold
  · exact hnew

theorem Consistent.commit (hr : r.Consistent) {k : κ} {v : ν} (h : r.Commits k v r')
    (hexclusive : r.Exclusive k v) : r'.Consistent := by
  intro k' e he
  have hk : k' ≠ k := by
    rintro rfl
    rw [h.closed] at he
    cases he
  rw [h.others k' hk] at he
  rcases hexclusive with hsame | halone
  · rw [h.current, hsame]
    exact hr k' e he
  · rw [halone k' hk] at he
    cases he

/-! ## Registers over records -/

section Records

variable {ρ : Type w} {c c' : ν} {record record' : κ → Option ρ} {pending : ρ → Option ν}

/-- The register behind a table of records: `pending` is what a record expects while it
waits. -/
def ofRecords (c : ν) (record : κ → Option ρ) (pending : ρ → Option ν) : Register κ ν where
  current := c
  expected k := (record k).bind pending

theorem ofRecords_expected {k : κ} {e : ν} :
    (ofRecords c record pending).expected k = some e ↔
      ∃ r, record k = some r ∧ pending r = some e :=
  Option.bind_eq_some_iff

variable [DecidableEq κ] {k₀ : κ} {r' : ρ}

/-- An edit of one record is quiet when an expectation it leaves open was open before,
or is the present value. -/
theorem quiet_of_edit (hrecord : ∀ k, record' k = if k = k₀ then some r' else record k)
    (hcurrent : c' = c)
    (hpending : ∀ e, pending r' = some e → (∃ r, record k₀ = some r ∧ pending r = some e) ∨ e = c) :
    (ofRecords c record pending).Quiet (ofRecords c' record' pending) where
  current := hcurrent
  expected k e he := by
    obtain ⟨r, hr, hopen⟩ := ofRecords_expected.mp he
    rw [hrecord] at hr
    split at hr
    · rename_i hk
      rw [← Option.some.inj hr] at hopen
      rcases hpending e hopen with hbefore | hnew
      · exact .inl (ofRecords_expected.mpr (hk ▸ hbefore))
      · exact .inr hnew
    · exact .inl (ofRecords_expected.mpr ⟨r, hr, hopen⟩)

/-- An edit that closes one pending record and writes the value commits that record. -/
theorem commits_of_edit {r : ρ} {e : ν}
    (hrecord : ∀ k, record' k = if k = k₀ then some r' else record k)
    (hr : record k₀ = some r) (hopen : pending r = some e) (hclosed : pending r' = none) (v : ν) :
    (ofRecords c record pending).Commits k₀ v (ofRecords v record' pending) where
  pending := by
    rw [ofRecords_expected.mpr ⟨r, hr, hopen⟩]
    rfl
  current := rfl
  closed := by
    show (record' k₀).bind pending = none
    rw [hrecord, if_pos rfl, Option.bind_some, hclosed]
  others k hk := by
    show (record' k).bind pending = (record k).bind pending
    rw [hrecord, if_neg hk]

end Records

end Register

end Anyam.Lib
