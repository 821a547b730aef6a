import Anyam.ChangeControl.FindingReplay

/-!
# Cohorts that are refused

`createCohort` files the Conflicts that its analyzers report as they come, and the cohort at the
end. What is filed before an analyzer throws, or reports a Conflict that is refused, stays.

- `createCohort`: a call with nothing in between.
- `CohortAtomic`: a call that throws has changed nothing.
- `ConflictsNamed`: every cohort names exactly its own Conflicts.
- **`cohort_atomic_iff`**: a call is atomic unless something is filed before it is refused, and in the
  runs of such calls all cohorts are recorded.
-/

namespace Anyam.ChangeControl

open Anyam.Lib Anyam.Kernel CollaborationCoordinator

/-! ## One call -/

namespace CollaborationCoordinator

/-- The loop over the analyzers that have not answered. The one at position `n` answers `answer n`,
or throws (`none`). -/
def askAnalyzers (sha256 : StableValue → String)
    (answer : Nat → Option (List IntegrationConflictCandidate)) (clock : Nat → String) :
    Nat → List String → CohortCall → CollaborationCoordinator →
      Except CollaborationFailure CohortCall × CollaborationCoordinator
  | _, [], call, c => (.ok call, c)
  | n, _ :: pending, call, c =>
    match c.analyzerAnswered sha256 call (answer n) (clock n) with
    | (.error failure, next) => (.error failure, next)
    | (.ok call, next) => askAnalyzers sha256 answer clock (n + 1) pending call next

/-- `createCohort`, with no other call in between. -/
def createCohort (sha256 : StableValue → String) (c : CollaborationCoordinator)
    (input : CreateCohortInput) (uuid : String)
    (answer : Nat → Option (List IntegrationConflictCandidate)) (clock : Nat → String)
    (now : String) : Except CollaborationFailure IntegrationCohort × CollaborationCoordinator :=
  match c.beginCohort input uuid with
  | .error error => (.error (.rejected error), c)
  | .ok call =>
    match askAnalyzers sha256 answer clock 0 call.pending call c with
    | (.error failure, next) => (.error failure, next)
    | (.ok call, next) =>
      let (cohort, filed) := next.finishCohort call now
      (.ok cohort, filed)

end CollaborationCoordinator

/-! ## What analyzers report -/

/-- A candidate that `createCohort` files for the Changes. -/
def AcceptedCandidate (changeIds : List String) (candidate : IntegrationConflictCandidate) : Prop :=
  (distinct candidate.changeIds ≠ [] ∧ ∀ changeId ∈ distinct candidate.changeIds,
      changeId ∈ changeIds) ∧ trim candidate.description ≠ "" ∧ trim candidate.receipt ≠ ""

instance (changeIds : List String) (candidate : IntegrationConflictCandidate) :
    Decidable (AcceptedCandidate changeIds candidate) :=
  inferInstanceAs (Decidable ((_ ∧ _) ∧ _ ∧ _))

/-- The candidates of one answer, or the failure it is. -/
def reports : Option (List IntegrationConflictCandidate) →
    List (Option IntegrationConflictCandidate)
  | none => [none]
  | some candidates => candidates.map some

/-- What the analyzers from position `n` on report. -/
def reportsFrom (answer : Nat → Option (List IntegrationConflictCandidate)) :
    Nat → List String → List (Option IntegrationConflictCandidate)
  | _, [] => []
  | n, _ :: pending => reports (answer n) ++ reportsFrom answer (n + 1) pending

/-- A report that is filed. A failure is not. -/
def AcceptedReport (changeIds : List String) (report : Option IntegrationConflictCandidate) : Prop :=
  ∃ candidate ∈ report, AcceptedCandidate changeIds candidate

instance (changeIds : List String) (report : Option IntegrationConflictCandidate) :
    Decidable (AcceptedReport changeIds report) :=
  inferInstanceAs (Decidable (∃ candidate ∈ report, AcceptedCandidate changeIds candidate))

/-- All reports are filed, or the first is not. -/
def Settled (changeIds : List String) (reports : List (Option IntegrationConflictCandidate)) : Prop :=
  (∀ report ∈ reports, AcceptedReport changeIds report) ∨
    ∃ first ∈ reports.head?, ¬ AcceptedReport changeIds first

instance (changeIds : List String) (reports : List (Option IntegrationConflictCandidate)) :
    Decidable (Settled changeIds reports) :=
  inferInstanceAs (Decidable (_ ∨ _))

/-- The reports up to the first that is not filed. -/
def RefusedAfter (changeIds : List String) (reports : List (Option IntegrationConflictCandidate))
    (filed : Nat) : Prop :=
  ∃ before refused rest, reports = before ++ refused :: rest ∧
    (∀ report ∈ before, AcceptedReport changeIds report) ∧ ¬ AcceptedReport changeIds refused ∧
    before.length = filed

/-- Reports that are refused are settled when nothing was filed before. -/
theorem RefusedAfter.settled_iff {changeIds : List String}
    {reports : List (Option IntegrationConflictCandidate)} {filed : Nat}
    (h : RefusedAfter changeIds reports filed) : Settled changeIds reports ↔ filed = 0 := by
  obtain ⟨before, refused, rest, rfl, hbefore, hrefused, rfl⟩ := h
  constructor
  · rintro (hall | ⟨first, hhead, hfirst⟩)
    · exact absurd (hall refused (by simp)) hrefused
    · cases before with
      | nil => rfl
      | cons report before =>
        cases hhead
        exact absurd (hbefore first (List.mem_cons_self ..)) hfirst
  · intro hnone
    rw [List.length_eq_zero_iff.mp hnone]
    exact .inr ⟨refused, rfl, hrefused⟩

/-- More reports that are filed, before those. -/
theorem RefusedAfter.append {changeIds : List String}
    {filed reports : List (Option IntegrationConflictCandidate)} {n : Nat}
    (h : RefusedAfter changeIds reports n)
    (hfiled : ∀ report ∈ filed, AcceptedReport changeIds report) :
    RefusedAfter changeIds (filed ++ reports) (filed.length + n) := by
  obtain ⟨before, refused, rest, rfl, hbefore, hrefused, rfl⟩ := h
  refine ⟨filed ++ before, refused, rest, (List.append_assoc ..).symm, ?_, hrefused,
    List.length_append⟩
  intro report hreport
  exact (List.mem_append.mp hreport).elim (hfiled report) (hbefore report)

theorem RefusedAfter.append_right {changeIds : List String}
    {reports : List (Option IntegrationConflictCandidate)} {n : Nat}
    (h : RefusedAfter changeIds reports n) (more : List (Option IntegrationConflictCandidate)) :
    RefusedAfter changeIds (reports ++ more) n := by
  obtain ⟨before, refused, rest, rfl, hbefore, hrefused, rfl⟩ := h
  exact ⟨before, refused, rest ++ more, by simp, hbefore, hrefused, rfl⟩

/-! ## Filing the reports -/

namespace CollaborationCoordinator

variable {c c' : CollaborationCoordinator} {sha256 : StableValue → String} {now : String}

theorem appendAudit_conflicts (event : CollaborationAuditEvent) :
    (c.appendAudit event).conflicts = c.conflicts := rfl

theorem foldl_conflicts {α : Type} {f : CollaborationCoordinator → α → CollaborationCoordinator}
    (hf : ∀ c a, (f c a).conflicts = c.conflicts) (l : List α) (c : CollaborationCoordinator) :
    (l.foldl f c).conflicts = c.conflicts := by
  induction l generalizing c with
  | nil => rfl
  | cons a l ih => exact (ih (f c a)).trans (hf c a)

theorem auditAuthor_conflicts (cohortId : String) (actor : ActorRef) (now : String)
    (c : CollaborationCoordinator) (member : IntegrationCohortMember) :
    (auditAuthor cohortId actor now c member).conflicts = c.conflicts := by
  unfold auditAuthor
  split <;> rfl

theorem auditVerifiers_conflicts (c : CollaborationCoordinator) (cohort : IntegrationCohort)
    (evidence : List Evidence) (now : String) :
    (c.auditVerifiers cohort evidence now).conflicts = c.conflicts :=
  foldl_conflicts (fun _ _ => appendAudit_conflicts _) _ c

/-- The Changes of the call's members. -/
abbrev changeIds (call : CohortCall) : List String :=
  call.members.map IntegrationCohortMember.changeId

theorem submitFinding_conflicts {input : SubmitFindingInput} {uuid : String}
    {finding : ReviewFinding} (h : c.submitFinding input uuid now = .ok (finding, c')) :
    c'.conflicts = c.conflicts := by
  simp only [submitFinding, bind_eq_ok, exists_unit] at h
  obtain ⟨cohort, -, member, -, -, h⟩ := h
  split at h
  · simp only [bind_eq_ok, pure_eq_ok, Prod.mk.injEq] at h
    obtain ⟨existing, -, -, rfl⟩ := h
    rfl
  · simp only [pure_eq_ok, Prod.mk.injEq] at h
    obtain ⟨-, rfl⟩ := h
    rfl

/-- A Conflict is filed under its id and audited, if the candidate is accepted. -/
theorem detectConflict_ok {call : CohortCall} {analyzerId : String}
    {candidate : IntegrationConflictCandidate} {conflict : IntegrationConflict}
    (h : c.detectConflict sha256 call analyzerId candidate now = .ok (conflict, c')) :
    AcceptedCandidate (changeIds call) candidate ∧
      conflict = c.detectedConflict sha256 call analyzerId candidate now ∧
      c'.conflicts = c.conflicts.set conflict.id conflict ∧ c'.cohorts = c.cohorts ∧
      c'.audit.length = c.audit.length + 1 := by
  simp only [detectConflict, nonEmpty, bind_eq_ok, exists_unit, require_eq_ok, pure_eq_ok,
    Prod.mk.injEq] at h
  obtain ⟨hchanges, hdescription, hreceipt, rfl, rfl⟩ := h
  exact ⟨⟨hchanges, hdescription, hreceipt⟩, rfl, rfl, rfl, by simp [appendAudit]⟩

theorem detectConflict_of_accepted {call : CohortCall}
    {candidate : IntegrationConflictCandidate} (h : AcceptedCandidate (changeIds call) candidate)
    (c : CollaborationCoordinator) (analyzerId : String) :
    ∃ result, c.detectConflict sha256 call analyzerId candidate now = .ok result := by
  obtain ⟨hchanges, hdescription, hreceipt⟩ := h
  simp only [detectConflict, nonEmpty, bind_eq_ok, exists_unit, require_eq_ok, pure_eq_ok]
  exact ⟨_, hchanges, hdescription, hreceipt, rfl⟩

/-- The loop over the candidates of one answer: it files all of them, or those before the first that
is refused. -/
theorem detectConflicts_result (sha256 : StableValue → String) (call : CohortCall)
    (analyzerId now : String) (candidates : List IntegrationConflictCandidate)
    (c : CollaborationCoordinator) (conflictIds : List String) :
    match detectConflicts sha256 call analyzerId now c conflictIds candidates with
    | (.ok _, next) => (∀ candidate ∈ candidates, AcceptedCandidate (changeIds call) candidate) ∧
        next.audit.length = c.audit.length + candidates.length ∧ (candidates = [] → next = c)
    | (.error _, next) => ∃ filed, RefusedAfter (changeIds call) (candidates.map some) filed ∧
        next.audit.length = c.audit.length + filed ∧ (filed = 0 → next = c) := by
  induction candidates generalizing c conflictIds with
  | nil => exact ⟨nofun, rfl, fun _ => rfl⟩
  | cons candidate rest ih =>
    rw [detectConflicts]
    cases h : c.detectConflict sha256 call analyzerId candidate now with
    | error e =>
      refine ⟨0, ⟨[], some candidate, rest.map some, rfl, nofun, ?_, rfl⟩, rfl, fun _ => rfl⟩
      rintro ⟨found, hfound, haccepted⟩
      cases hfound
      obtain ⟨result, hresult⟩ := @detectConflict_of_accepted sha256 now call _ haccepted c analyzerId
      rw [h] at hresult
      cases hresult
    | ok result =>
      obtain ⟨conflict, next⟩ := result
      obtain ⟨haccepted, -, -, -, haudit⟩ := detectConflict_ok h
      have hrest := ih next (conflictIds ++ [conflict.id])
      revert hrest
      simp only
      cases detectConflicts sha256 call analyzerId now next (conflictIds ++ [conflict.id]) rest with
      | mk outcome final =>
        cases outcome with
        | ok ids =>
          rintro ⟨hall, hlength, -⟩
          refine ⟨List.forall_mem_cons.mpr ⟨haccepted, hall⟩, ?_, nofun⟩
          rw [hlength, haudit, List.length_cons]
          omega
        | error e =>
          rintro ⟨filed, hrefused, hlength, -⟩
          have hmore : RefusedAfter (changeIds call) ([some candidate] ++ rest.map some)
              (1 + filed) := by
            refine hrefused.append fun report hreport => ?_
            rw [List.mem_singleton.mp hreport]
            exact ⟨candidate, rfl, haccepted⟩
          exact ⟨1 + filed, hmore, by omega, by omega⟩

/-- One answer: all its reports are filed, or those before the first that is refused. -/
theorem analyzerAnswered_result (c : CollaborationCoordinator) (sha256 : StableValue → String)
    {call : CohortCall} {analyzerId : String} {pending : List String}
    (hpending : call.pending = analyzerId :: pending)
    (candidates : Option (List IntegrationConflictCandidate)) (now : String) :
    match c.analyzerAnswered sha256 call candidates now with
    | (.ok call', next) => changeIds call' = changeIds call ∧ call'.pending = pending ∧
        (∀ report ∈ reports candidates, AcceptedReport (changeIds call) report) ∧
        next.audit.length = c.audit.length + (reports candidates).length ∧
        (reports candidates = [] → next = c)
    | (.error _, next) => ∃ filed, RefusedAfter (changeIds call) (reports candidates) filed ∧
        next.audit.length = c.audit.length + filed ∧ (filed = 0 → next = c) := by
  cases candidates with
  | none =>
    have hthrown : c.analyzerAnswered sha256 call none now = (.error .thrown, c) := by
      simp only [analyzerAnswered, hpending]
    rw [hthrown]
    refine ⟨0, ⟨[], none, [], rfl, nofun, ?_, rfl⟩, rfl, fun _ => rfl⟩
    rintro ⟨candidate, hnone, -⟩
    cases hnone
  | some candidates =>
    have hresult := detectConflicts_result sha256 call analyzerId now candidates c call.conflictIds
    simp only [analyzerAnswered, hpending]
    revert hresult
    cases detectConflicts sha256 call analyzerId now c call.conflictIds candidates with
    | mk outcome next =>
      cases outcome with
      | ok conflictIds =>
        rintro ⟨hall, hlength, hsame⟩
        refine ⟨rfl, rfl, fun report hreport => ?_, ?_, fun hnone => ?_⟩
        · obtain ⟨candidate, hcandidate, rfl⟩ := List.mem_map.mp hreport
          exact ⟨candidate, rfl, hall candidate hcandidate⟩
        · rw [hlength, reports, List.length_map]
        · exact hsame (List.map_eq_nil_iff.mp hnone)
      | error e => exact id

/-- All answers, one after the other. -/
theorem askAnalyzers_result (sha256 : StableValue → String)
    (answer : Nat → Option (List IntegrationConflictCandidate)) (clock : Nat → String)
    (n : Nat) (c : CollaborationCoordinator) (call : CohortCall) :
    match askAnalyzers sha256 answer clock n call.pending call c with
    | (.ok _, _) => ∀ report ∈ reportsFrom answer n call.pending,
        AcceptedReport (changeIds call) report
    | (.error _, next) => ∃ filed,
        RefusedAfter (changeIds call) (reportsFrom answer n call.pending) filed ∧
        next.audit.length = c.audit.length + filed ∧ (filed = 0 → next = c) := by
  generalize hpending : call.pending = pending
  induction pending generalizing n c call with
  | nil => exact nofun
  | cons analyzerId pending ih =>
    have hanswered := analyzerAnswered_result c sha256 hpending (answer n) (clock n)
    rw [askAnalyzers, reportsFrom]
    revert hanswered
    cases c.analyzerAnswered sha256 call (answer n) (clock n) with
    | mk outcome next =>
      cases outcome with
      | error e =>
        rintro ⟨filed, hrefused, hlength, hsame⟩
        exact ⟨filed, hrefused.append_right _, hlength, hsame⟩
      | ok call' =>
        rintro ⟨hchanges, hpending', hall, hlength, hsame⟩
        have hrest := ih (n + 1) next call' hpending'
        rw [hchanges] at hrest
        revert hrest
        simp only
        cases askAnalyzers sha256 answer clock (n + 1) pending call' next with
        | mk outcome final =>
          cases outcome with
          | ok call'' =>
            intro hrest report hreport
            exact (List.mem_append.mp hreport).elim (hall report) (hrest report)
          | error e =>
            rintro ⟨filed, hrefused, hlength', hsame'⟩
            refine ⟨_, hrefused.append hall, by omega, fun hnone => ?_⟩
            rw [hsame' (by omega), hsame (List.length_eq_zero_iff.mp (by omega))]

end CollaborationCoordinator

/-! ## Calls that throw -/

/-- A call that throws leaves cohorts, Conflicts and audit as they were. -/
def CohortAtomic (sha256 : StableValue → String) (c : CollaborationCoordinator)
    (input : CreateCohortInput) (uuid : String)
    (answer : Nat → Option (List IntegrationConflictCandidate)) (clock : Nat → String)
    (now : String) : Prop :=
  ∀ failure next, c.createCohort sha256 input uuid answer clock now = (.error failure, next) →
    next.cohorts = c.cohorts ∧ next.conflicts = c.conflicts ∧ next.audit = c.audit

/-- The call is refused before it asks an analyzer, or its reports are settled. -/
def ReportsSettled (c : CollaborationCoordinator) (input : CreateCohortInput) (uuid : String)
    (answer : Nat → Option (List IntegrationConflictCandidate)) : Prop :=
  ∀ call, c.beginCohort input uuid = .ok call →
    Settled (changeIds call) (reportsFrom answer 0 c.analyzers)

theorem createCohort_atomic_iff {sha256 : StableValue → String} {c : CollaborationCoordinator}
    {input : CreateCohortInput} {uuid : String}
    {answer : Nat → Option (List IntegrationConflictCandidate)} {clock : Nat → String}
    {now : String} : CohortAtomic sha256 c input uuid answer clock now ↔
      ReportsSettled c input uuid answer := by
  unfold CohortAtomic ReportsSettled createCohort
  cases hbegin : c.beginCohort input uuid with
  | error e =>
    refine iff_of_true (fun failure next h => ?_) (fun call h => by cases h)
    obtain ⟨-, rfl⟩ := Prod.mk.inj h
    exact ⟨rfl, rfl, rfl⟩
  | ok call =>
    have hanalyzers : call.pending = c.analyzers := by
      simp only [beginCohort, bind_eq_ok, exists_unit, pure_eq_ok] at hbegin
      obtain ⟨-, members, -, rfl⟩ := hbegin
      rfl
    have hresult := askAnalyzers_result sha256 answer clock 0 c call
    rw [← hanalyzers]
    simp only [Except.ok.injEq, forall_eq']
    revert hresult
    cases askAnalyzers sha256 answer clock 0 call.pending call c with
    | mk outcome next =>
      cases outcome with
      | ok call' =>
        intro hall
        refine iff_of_true (fun failure next h => by cases h) (.inl hall)
      | error e =>
        rintro ⟨filed, hrefused, hlength, hsame⟩
        rw [hrefused.settled_iff]
        constructor
        · intro hatomic
          have haudit := (hatomic e next rfl).2.2
          rw [haudit] at hlength
          omega
        · intro hnone failure next' h
          obtain ⟨-, rfl⟩ := Prod.mk.inj h
          rw [hsame hnone]
          exact ⟨rfl, rfl, rfl⟩

/-! ## Conflicts and their cohorts -/

/-- Every cohort names exactly the Conflicts that are listed for it. -/
def ConflictsNamed (c : CollaborationCoordinator) : Prop :=
  ∀ cohort ∈ c.cohorts.values, ∀ id,
    id ∈ (c.listConflicts cohort.id).map IntegrationConflict.id ↔ id ∈ cohort.conflictIds

/-- The ids are those of the Conflicts on file for the cohort. -/
def Names (conflicts : OrderedMap String IntegrationConflict) (cohortId : String)
    (ids : List String) : Prop :=
  ∀ id, id ∈ ids ↔ ∃ conflict, conflicts.get? id = some conflict ∧ conflict.cohortId = cohortId

/-- Filing a Conflict of another cohort, over one that is of another cohort too. -/
theorem Names.set_other {conflicts : OrderedMap String IntegrationConflict} {cohortId id : String}
    {ids : List String} (h : Names conflicts cohortId ids) {conflict : IntegrationConflict}
    (hother : conflict.cohortId ≠ cohortId)
    (hold : ∀ old, conflicts.get? id = some old → old.cohortId ≠ cohortId) :
    Names (conflicts.set id conflict) cohortId ids := by
  intro x
  rw [h x]
  by_cases hx : x = id
  · subst hx
    refine iff_of_false ?_ ?_
    · rintro ⟨old, hget, hcohort⟩
      exact hold old hget hcohort
    · rintro ⟨new, hget, hcohort⟩
      rw [OrderedMap.get?_set_self] at hget
      exact hother (Option.some.inj hget ▸ hcohort)
  · rw [OrderedMap.get?_set_ne _ _ hx]

/-- Filing a Conflict of the cohort. -/
theorem Names.set_own {conflicts : OrderedMap String IntegrationConflict} {cohortId id : String}
    {ids : List String} (h : Names conflicts cohortId ids) {conflict : IntegrationConflict}
    (hown : conflict.cohortId = cohortId) :
    Names (conflicts.set id conflict) cohortId (ids ++ [id]) := by
  intro x
  rw [List.mem_append, List.mem_singleton, h x]
  by_cases hx : x = id
  · subst hx
    exact iff_of_true (.inr rfl) ⟨conflict, OrderedMap.get?_set_self _ _ _, hown⟩
  · rw [OrderedMap.get?_set_ne _ _ hx, or_iff_left hx]

/-- Filing a Conflict over one of the same cohort leaves the names. -/
theorem Names.set_same {conflicts : OrderedMap String IntegrationConflict} {cohortId id : String}
    {ids : List String} (h : Names conflicts cohortId ids) {old conflict : IntegrationConflict}
    (hold : conflicts.get? id = some old) (hsame : conflict.cohortId = old.cohortId) :
    Names (conflicts.set id conflict) cohortId ids := by
  intro x
  rw [h x]
  by_cases hx : x = id
  · subst hx
    simp only [OrderedMap.get?_set_self, hold, Option.some.injEq, exists_eq_left', hsame]
  · rw [OrderedMap.get?_set_ne _ _ hx]

/-- What a `createCohort` call has filed so far. -/
def CohortCall.filing (call : CohortCall) : String × List String :=
  (call.cohortId, call.conflictIds)

/-- Every Conflict on file is named by the cohort it is for, or by the call that makes it. -/
structure Accounted (c : CollaborationCoordinator) (filings : List (String × List String))
    (landing : List LandCall) : Prop where
  conflicts : OrderedMap.SelfKeyed IntegrationConflict.id c.conflicts
  cohorts : OrderedMap.SelfKeyed IntegrationCohort.id c.cohorts
  recorded : ∀ id cohort, c.cohorts.get? id = some cohort → Names c.conflicts id cohort.conflictIds
  inFlight : ∀ filing ∈ filings, c.cohorts.get? filing.1 = none ∧
    Names c.conflicts filing.1 filing.2
  apart : (filings.map Prod.fst).Nodup
  known : ∀ id conflict, c.conflicts.get? id = some conflict →
    (∃ cohort, c.cohorts.get? conflict.cohortId = some cohort) ∨
      conflict.cohortId ∈ filings.map Prod.fst
  landings : ∀ call ∈ landing, ∃ cohort, c.cohorts.get? call.cohort.id = some cohort ∧
    cohort.conflictIds = call.cohort.conflictIds

namespace Accounted

variable {c c' : CollaborationCoordinator} {filings filings' : List (String × List String)}
  {landing landing' : List LandCall} {cohortId : String} {ids : List String}

theorem conflictsNamed (h : Accounted c filings landing) : ConflictsNamed c := by
  intro cohort hcohort id
  obtain ⟨key, hkey⟩ := OrderedMap.mem_values_iff.mp hcohort
  rw [h.cohorts key cohort hkey, h.recorded key cohort hkey id, List.mem_map]
  constructor
  · rintro ⟨conflict, hmem, rfl⟩
    obtain ⟨hvalue, hfor⟩ := List.mem_filter.mp hmem
    obtain ⟨found, hfound⟩ := OrderedMap.mem_values_iff.mp hvalue
    have hid : conflict.id = found := h.conflicts found conflict hfound
    exact ⟨conflict, hid ▸ hfound, by simpa using hfor⟩
  · rintro ⟨conflict, hget, hfor⟩
    refine ⟨conflict, List.mem_filter.mpr ⟨OrderedMap.mem_values_of_get? hget, ?_⟩,
      h.conflicts id conflict hget⟩
    simpa using hfor

theorem same (h : Accounted c filings landing) (hconflicts : c'.conflicts = c.conflicts)
    (hcohorts : c'.cohorts = c.cohorts) : Accounted c' filings landing := by
  refine ⟨?_, ?_, ?_, ?_, h.apart, ?_, ?_⟩
  · rw [hconflicts]
    exact h.conflicts
  · rw [hcohorts]
    exact h.cohorts
  · rw [hconflicts, hcohorts]
    exact h.recorded
  · rw [hconflicts, hcohorts]
    exact h.inFlight
  · rw [hconflicts, hcohorts]
    exact h.known
  · rw [hcohorts]
    exact h.landings

theorem perm (h : Accounted c filings landing) (hperm : filings.Perm filings') :
    Accounted c filings' landing :=
  ⟨h.conflicts, h.cohorts, h.recorded, fun filing hfiling => h.inFlight filing (hperm.mem_iff.mpr hfiling),
    (hperm.map Prod.fst).nodup_iff.mp h.apart, fun id conflict hget =>
      (h.known id conflict hget).imp_right (hperm.map Prod.fst).mem_iff.mp, h.landings⟩

/-- A call under an id that no cohort and no other call has: nothing is on file for it. -/
theorem begin (h : Accounted c filings landing) (hnew : c.cohorts.get? cohortId = none)
    (hapart : cohortId ∉ filings.map Prod.fst) :
    Accounted c ((cohortId, []) :: filings) landing := by
  refine ⟨h.conflicts, h.cohorts, h.recorded, ?_, List.nodup_cons.mpr ⟨hapart, h.apart⟩, ?_,
    h.landings⟩
  · refine List.forall_mem_cons.mpr ⟨⟨hnew, fun id => iff_of_false List.not_mem_nil ?_⟩, h.inFlight⟩
    rintro ⟨conflict, hget, rfl⟩
    rcases h.known id conflict hget with ⟨cohort, hcohort⟩ | hcall
    · rw [hnew] at hcohort
      cases hcohort
    · exact hapart hcall
  · exact fun id conflict hget => (h.known id conflict hget).imp_right (List.mem_cons_of_mem _)

/-- A call that has filed nothing ends. -/
theorem drop (h : Accounted c ((cohortId, []) :: filings) landing) : Accounted c filings landing := by
  obtain ⟨⟨-, hnone⟩, hfilings⟩ := List.forall_mem_cons.mp h.inFlight
  refine ⟨h.conflicts, h.cohorts, h.recorded, hfilings, (List.nodup_cons.mp h.apart).2, ?_,
    h.landings⟩
  intro id conflict hget
  refine (h.known id conflict hget).imp_right fun hmem => ?_
  rcases List.mem_cons.mp hmem with heq | hmem
  · exact absurd ((hnone id).mpr ⟨conflict, hget, heq⟩) List.not_mem_nil
  · exact hmem

/-- A call files a Conflict, at most over one of its own. -/
theorem file (h : Accounted c ((cohortId, ids) :: filings) landing)
    {conflict : IntegrationConflict} (hown : conflict.cohortId = cohortId)
    (hold : ∀ old, c.conflicts.get? conflict.id = some old → old.cohortId = cohortId)
    (hconflicts : c'.conflicts = c.conflicts.set conflict.id conflict)
    (hcohorts : c'.cohorts = c.cohorts) :
    Accounted c' ((cohortId, ids ++ [conflict.id]) :: filings) landing := by
  obtain ⟨⟨hnew, hnames⟩, hfilings⟩ := List.forall_mem_cons.mp h.inFlight
  have hother : ∀ {other others}, other ≠ cohortId → Names c.conflicts other others →
      Names c'.conflicts other others := by
    intro other others hne hnames
    rw [hconflicts]
    refine hnames.set_other (by rw [hown]; exact hne.symm) fun old hget => ?_
    rw [hold old hget]
    exact hne.symm
  refine ⟨?_, ?_, ?_, ?_, h.apart, ?_, ?_⟩
  · rw [hconflicts]
    exact h.conflicts.set rfl
  · rw [hcohorts]
    exact h.cohorts
  · rw [hcohorts]
    intro id cohort hget
    refine hother ?_ (h.recorded id cohort hget)
    rintro rfl
    rw [hnew] at hget
    cases hget
  · rw [hcohorts]
    refine List.forall_mem_cons.mpr ⟨⟨hnew, ?_⟩, fun filing hfiling => ?_⟩
    · rw [hconflicts]
      exact hnames.set_own hown
    · refine ⟨(hfilings filing hfiling).1, hother ?_ (hfilings filing hfiling).2⟩
      have hmem : filing.1 ∈ filings.map Prod.fst := List.mem_map_of_mem hfiling
      rintro rfl
      exact (List.nodup_cons.mp h.apart).1 hmem
  · rw [hconflicts, hcohorts]
    intro id found hget
    rw [OrderedMap.get?_set] at hget
    split at hget
    · cases hget
      rw [hown]
      exact .inr (List.mem_cons_self ..)
    · exact h.known id found hget
  · rw [hcohorts]
    exact h.landings

/-- A call files its cohort. -/
theorem finish (h : Accounted c ((cohortId, ids) :: filings) landing) {cohort : IntegrationCohort}
    (hid : cohort.id = cohortId) (hids : cohort.conflictIds = ids)
    (hconflicts : c'.conflicts = c.conflicts)
    (hcohorts : c'.cohorts = c.cohorts.set cohort.id cohort) : Accounted c' filings landing := by
  obtain ⟨⟨hnew, hnames⟩, hfilings⟩ := List.forall_mem_cons.mp h.inFlight
  obtain ⟨hapart, hrest⟩ := List.nodup_cons.mp h.apart
  rw [hid] at hcohorts
  have hget : ∀ {id found}, c.cohorts.get? id = some found → c'.cohorts.get? id = some found := by
    intro id found hfound
    rw [hcohorts, OrderedMap.get?_set_ne _ _ ?_, hfound]
    rintro rfl
    rw [hnew] at hfound
    cases hfound
  refine ⟨?_, ?_, ?_, fun filing hfiling => ⟨?_, ?_⟩, hrest, ?_, ?_⟩
  · rw [hconflicts]
    exact h.conflicts
  · rw [hcohorts]
    exact h.cohorts.set hid
  · rw [hconflicts, hcohorts]
    intro id found hfound
    rw [OrderedMap.get?_set] at hfound
    split at hfound
    · rename_i heq
      cases hfound
      rw [heq, hids]
      exact hnames
    · exact h.recorded id found hfound
  · rw [hcohorts, OrderedMap.get?_set_ne]
    · exact (hfilings filing hfiling).1
    · have hmem : filing.1 ∈ filings.map Prod.fst := List.mem_map_of_mem hfiling
      rintro rfl
      exact hapart hmem
  · rw [hconflicts]
    exact (hfilings filing hfiling).2
  · rw [hconflicts]
    intro id conflict hconflict
    rcases h.known id conflict hconflict with ⟨found, hfound⟩ | hcall
    · exact .inl ⟨found, hget hfound⟩
    · rcases List.mem_cons.mp hcall with heq | hcall
      · exact .inl ⟨cohort, by rw [hcohorts, heq]; exact OrderedMap.get?_set_self _ _ _⟩
      · exact .inr hcall
  · exact fun call hcall => (h.landings call hcall).imp fun found hfound => ⟨hget hfound.1, hfound.2⟩

/-- A Conflict is filed again for its own cohort. -/
theorem refile (h : Accounted c filings landing) {old conflict : IntegrationConflict}
    (hold : c.conflicts.get? conflict.id = some old) (hsame : conflict.cohortId = old.cohortId)
    (hconflicts : c'.conflicts = c.conflicts.set conflict.id conflict)
    (hcohorts : c'.cohorts = c.cohorts) : Accounted c' filings landing := by
  refine ⟨?_, ?_, ?_, ?_, h.apart, ?_, ?_⟩
  · rw [hconflicts]
    exact h.conflicts.set rfl
  · rw [hcohorts]
    exact h.cohorts
  · rw [hconflicts, hcohorts]
    exact fun id cohort hget => (h.recorded id cohort hget).set_same hold hsame
  · rw [hconflicts, hcohorts]
    exact fun filing hfiling => ⟨(h.inFlight filing hfiling).1,
      (h.inFlight filing hfiling).2.set_same hold hsame⟩
  · rw [hconflicts, hcohorts]
    intro id found hget
    rw [OrderedMap.get?_set] at hget
    split at hget
    · cases hget
      rw [hsame]
      exact h.known _ old hold
    · exact h.known id found hget
  · rw [hcohorts]
    exact h.landings

/-- A Landing files the cohort it read. -/
theorem land (h : Accounted c filings landing) {call : LandCall} (hcall : call ∈ landing)
    {landed : IntegrationCohort} (hid : landed.id = call.cohort.id)
    (hids : landed.conflictIds = call.cohort.conflictIds)
    (hconflicts : c'.conflicts = c.conflicts)
    (hcohorts : c'.cohorts = c.cohorts.set landed.id landed)
    (hlanding : ∀ call ∈ landing', call ∈ landing) : Accounted c' filings landing' := by
  obtain ⟨read, hread, hsame⟩ := h.landings call hcall
  rw [← hid] at hread
  have hget : ∀ {id found}, c.cohorts.get? id = some found →
      ∃ found', c'.cohorts.get? id = some found' ∧ found'.conflictIds = found.conflictIds := by
    intro id found hfound
    rw [hcohorts, OrderedMap.get?_set]
    split
    · rename_i heq
      rw [heq, hread] at hfound
      exact ⟨landed, rfl, by rw [hids, ← hsame, Option.some.inj hfound]⟩
    · exact ⟨found, hfound, rfl⟩
  have hnone : ∀ {id}, c.cohorts.get? id = none → c'.cohorts.get? id = none := by
    intro id hnone
    rw [hcohorts, OrderedMap.get?_set_ne _ _ ?_, hnone]
    rintro rfl
    rw [hread] at hnone
    cases hnone
  refine ⟨?_, ?_, ?_, ?_, h.apart, ?_, ?_⟩
  · rw [hconflicts]
    exact h.conflicts
  · rw [hcohorts]
    exact h.cohorts.set rfl
  · rw [hconflicts, hcohorts]
    intro id found hfound
    rw [OrderedMap.get?_set] at hfound
    split at hfound
    · rename_i heq
      cases hfound
      rw [heq, hids, ← hsame]
      exact h.recorded _ read hread
    · exact h.recorded id found hfound
  · rw [hconflicts]
    exact fun filing hfiling => ⟨hnone (h.inFlight filing hfiling).1, (h.inFlight filing hfiling).2⟩
  · rw [hconflicts]
    intro id conflict hconflict
    refine (h.known id conflict hconflict).imp_left ?_
    rintro ⟨found, hfound⟩
    exact (hget hfound).imp fun _ hfound' => hfound'.1
  · intro call' hcall'
    obtain ⟨found, hfound, hfoundIds⟩ := h.landings call' (hlanding call' hcall')
    obtain ⟨found', hfound', hids'⟩ := hget hfound
    exact ⟨found', hfound', hids'.trans hfoundIds⟩

/-- Landings begin with a cohort on file, and end. -/
theorem read (h : Accounted c filings landing)
    (hlanding : ∀ call ∈ landing', call ∈ landing ∨ call.cohort ∈ c.cohorts.values) :
    Accounted c filings landing' := by
  refine ⟨h.conflicts, h.cohorts, h.recorded, h.inFlight, h.apart, h.known, fun call hcall => ?_⟩
  rcases hlanding call hcall with hold | hread
  · exact h.landings call hold
  · obtain ⟨id, hget⟩ := OrderedMap.mem_values_iff.mp hread
    have hid : call.cohort.id = id := h.cohorts id _ hget
    exact ⟨call.cohort, hid ▸ hget, rfl⟩

end Accounted

/-! ## Runs -/

/-- No Conflict of another cohort is on file under an id that the answer hashes to. -/
def HashedApart (sha256 : StableValue → String) (c : CollaborationCoordinator) (call : CohortCall)
    (candidates : Option (List IntegrationConflictCandidate)) : Prop :=
  ∀ analyzerId ∈ call.pending.head?, ∀ candidate ∈ candidates.getD [],
    ∀ old ∈ c.conflicts.get? (stableId sha256 "integration-conflict"
      (.integrationConflict call.cohortId analyzerId candidate)), old.cohortId = call.cohortId

instance (sha256 : StableValue → String) (c : CollaborationCoordinator) (call : CohortCall)
    (candidates : Option (List IntegrationConflictCandidate)) :
    Decidable (HashedApart sha256 c call candidates) :=
  inferInstanceAs (Decidable (∀ analyzerId ∈ call.pending.head?, ∀ candidate ∈ candidates.getD [],
    ∀ old ∈ c.conflicts.get? (stableId sha256 "integration-conflict"
      (.integrationConflict call.cohortId analyzerId candidate)), old.cohortId = call.cohortId))

/-- The answer is filed whole, or it is refused at once and nothing was filed before. -/
def AnswerSettled (call : CohortCall) (candidates : Option (List IntegrationConflictCandidate)) :
    Prop :=
  Settled (changeIds call) (reports candidates) ∧
    ((∃ report ∈ reports candidates, ¬ AcceptedReport (changeIds call) report) →
      call.conflictIds = [])

instance (call : CohortCall) (candidates : Option (List IntegrationConflictCandidate)) :
    Decidable (AnswerSettled call candidates) :=
  inferInstanceAs (Decidable (_ ∧ (_ → _)))

/-- Cohorts are made under ids that no cohort has and no call is using, and analyzers answer so that
no call is refused after it has filed something. -/
def CohortStep (sha256 : StableValue → String) (s : CollaborationSystem) :
    CollaborationOperation → Prop
  | .beginCohort input uuid _ =>
    let cohortId := input.id.getD (opaqueId "integration-cohort" uuid)
    s.control.cohorts.get? cohortId = none ∧ ∀ call ∈ s.composing, call.cohortId ≠ cohortId
  | .analyzerAnswered index candidates _ => ∀ call ∈ s.composing[index]?,
    AnswerSettled call candidates ∧ HashedApart sha256 s.control call candidates
  | _ => True

instance (sha256 : StableValue → String) (s : CollaborationSystem) :
    (op : CollaborationOperation) → Decidable (CohortStep sha256 s op)
  | .beginCohort .. => inferInstanceAs (Decidable (_ ∧ _))
  | .analyzerAnswered index candidates _ => inferInstanceAs (Decidable (∀ call ∈ s.composing[index]?,
      AnswerSettled call candidates ∧ HashedApart sha256 s.control call candidates))
  | .setCanonicalProjectRevision .. | .activatePolicy .. | .submitFinding .. | .resolveFinding ..
  | .approve .. | .resolveConflict .. | .evaluateLanding .. | .beginLand .. | .authorityAnswered ..
  | .recordPromotionAuthority .. => inferInstanceAs (Decidable True)

namespace CollaborationCoordinator

variable {c c' : CollaborationCoordinator} {sha256 : StableValue → String} {now : String}
  {filings : List (String × List String)} {landing : List LandCall}

/-- An answer that is filed whole. -/
theorem detectConflicts_accounted {call : CohortCall} {analyzerId : String}
    {candidates : List IntegrationConflictCandidate} {ids ids' : List String}
    (h : Accounted c ((call.cohortId, ids) :: filings) landing)
    (hapart : ∀ candidate ∈ candidates,
      ∀ old ∈ c.conflicts.get? (stableId sha256 "integration-conflict"
        (.integrationConflict call.cohortId analyzerId candidate)), old.cohortId = call.cohortId)
    (hfiled : detectConflicts sha256 call analyzerId now c ids candidates = (.ok ids', c')) :
    Accounted c' ((call.cohortId, ids') :: filings) landing := by
  induction candidates generalizing c ids with
  | nil =>
    obtain ⟨hids, rfl⟩ := Prod.mk.inj hfiled
    cases hids
    exact h
  | cons candidate rest ih =>
    rw [detectConflicts] at hfiled
    cases hdetect : c.detectConflict sha256 call analyzerId candidate now with
    | error e =>
      rw [hdetect] at hfiled
      cases hfiled
    | ok result =>
      obtain ⟨conflict, next⟩ := result
      rw [hdetect] at hfiled
      obtain ⟨-, hconflict, hconflicts, hcohorts, -⟩ := detectConflict_ok hdetect
      have hid : conflict.id = stableId sha256 "integration-conflict"
          (.integrationConflict call.cohortId analyzerId candidate) := by
        rw [hconflict]
        rfl
      have hown : conflict.cohortId = call.cohortId := by
        rw [hconflict]
        rfl
      have hnext := h.file hown
        (fun old hget => hapart candidate (List.mem_cons_self ..) old (hid ▸ hget)) hconflicts hcohorts
      refine ih hnext (fun other hother old hget => ?_) hfiled
      rw [Option.mem_def, hconflicts, OrderedMap.get?_set] at hget
      split at hget
      · cases hget
        exact hown
      · exact hapart other (List.mem_cons_of_mem _ hother) old hget

/-- One answer of a settled call: it is filed whole, or changes nothing and ends a call that has filed
nothing. -/
theorem analyzerAnswered_accounted {call : CohortCall}
    {candidates : Option (List IntegrationConflictCandidate)}
    (h : Accounted c (call.filing :: filings) landing) (hsettled : AnswerSettled call candidates)
    (hapart : HashedApart sha256 c call candidates) :
    match c.analyzerAnswered sha256 call candidates now with
    | (.ok call', next) => Accounted next (call'.filing :: filings) landing
    | (.error _, next) => Accounted next filings landing := by
  cases hpending : call.pending with
  | nil =>
    have hsame : c.analyzerAnswered sha256 call candidates now = (.ok call, c) := by
      simp only [analyzerAnswered, hpending]
    rw [hsame]
    exact h
  | cons analyzerId pending =>
    have hresult := analyzerAnswered_result c sha256 hpending candidates now
    have hrefused : ∀ {next}, (∃ filed, RefusedAfter (changeIds call) (reports candidates) filed ∧
        next.audit.length = c.audit.length + filed ∧ (filed = 0 → next = c)) →
        Accounted next filings landing := by
      rintro next ⟨filed, hrefused, -, hsame⟩
      rw [hsame (hrefused.settled_iff.mp hsettled.1)]
      obtain ⟨before, refused, rest, hreports, -, hnot, -⟩ := hrefused
      have hnone := hsettled.2 ⟨refused, by rw [hreports]; simp, hnot⟩
      rw [CohortCall.filing, hnone] at h
      exact h.drop
    cases candidates with
    | none =>
      have hthrown : c.analyzerAnswered sha256 call none now = (.error .thrown, c) := by
        simp only [analyzerAnswered, hpending]
      rw [hthrown] at hresult ⊢
      exact hrefused hresult
    | some candidates =>
      revert hresult
      simp only [analyzerAnswered, hpending]
      cases hdetect : detectConflicts sha256 call analyzerId now c call.conflictIds candidates with
      | mk outcome next =>
        cases outcome with
        | ok conflictIds =>
          intro _
          have hfiled : Accounted next ((call.cohortId, conflictIds) :: filings) landing :=
            detectConflicts_accounted h (hapart analyzerId (by rw [hpending]; rfl)) hdetect
          exact hfiled
        | error e => exact hrefused

end CollaborationCoordinator

namespace CollaborationSystem

variable {s s' : CollaborationSystem} {sha256 : StableValue → String}

/-- The Conflicts of the coordinator are accounted for, with its calls in flight. -/
abbrev AllAccounted (s : CollaborationSystem) : Prop :=
  Accounted s.control (s.composing.map CohortCall.filing) s.landing

theorem cons_eraseIdx_perm {α : Type} {l : List α} {i : Nat} {a : α} (h : l[i]? = some a) :
    (a :: l.eraseIdx i).Perm l := by
  obtain ⟨hi, rfl⟩ := List.getElem?_eq_some_iff.mp h
  have hsplit : l.take i ++ l[i] :: l.drop (i + 1) = l := by
    rw [List.getElem_cons_drop, List.take_append_drop]
  rw [List.eraseIdx_eq_take_drop_succ]
  exact (List.perm_middle.symm).trans (.of_eq hsplit)

/-- Going on with a call: it waits for its next analyzer, or files its cohort. -/
theorem advance_accounted {call : CohortCall} {now : String}
    (h : Accounted s.control (call.filing :: s.composing.map CohortCall.filing) s.landing) :
    AllAccounted (s.advance call now).2 := by
  unfold advance
  split
  · have hconflicts : (s.control.finishCohort call now).2.conflicts = s.control.conflicts :=
      foldl_conflicts (auditAuthor_conflicts _ _ _) call.members _
    obtain ⟨-, hcohorts, -, -⟩ := finishCohort_ok (c := s.control) call now
    exact h.finish rfl rfl hconflicts hcohorts
  · refine h.perm ?_
    rw [List.map_append]
    exact (List.perm_append_singleton _ _).symm

/-- A method that keeps cohorts and Conflicts. -/
theorem updating_accounted {x : Except CollaborationError CollaborationCoordinator}
    (h : AllAccounted s) (hok : ∀ control, x = .ok control →
      control.conflicts = s.control.conflicts ∧ control.cohorts = s.control.cohorts) :
    AllAccounted (s.updating x).2 := by
  obtain e | control := x
  · exact h
  · obtain ⟨hconflicts, hcohorts⟩ := hok control rfl
    exact h.same hconflicts hcohorts

theorem atomically_accounted {ε α : Type} {fault : ε → CollaborationFailure}
    {reply : α → CollaborationReply} {x : Except ε (α × CollaborationCoordinator)}
    (h : AllAccounted s) (hok : ∀ a control, x = .ok (a, control) →
      control.conflicts = s.control.conflicts ∧ control.cohorts = s.control.cohorts) :
    AllAccounted (s.atomically fault reply x).2 := by
  obtain e | ⟨a, control⟩ := x
  · exact h
  · obtain ⟨hconflicts, hcohorts⟩ := hok a control rfl
    exact h.same hconflicts hcohorts

theorem compose_accounted (h : AllAccounted s) {input : CreateCohortInput} {uuid now : String}
    (hok : CohortStep sha256 s (.beginCohort input uuid now)) :
    AllAccounted (s.compose input uuid now).2 := by
  unfold compose
  cases hbegin : s.control.beginCohort input uuid with
  | error e => exact h
  | ok call =>
    simp only [beginCohort, bind_eq_ok, exists_unit, pure_eq_ok] at hbegin
    obtain ⟨-, members, -, rfl⟩ := hbegin
    refine advance_accounted (h.begin hok.1 ?_)
    intro hmem
    obtain ⟨filing, hfiling, hid⟩ := List.mem_map.mp hmem
    obtain ⟨other, hother, rfl⟩ := List.mem_map.mp hfiling
    exact hok.2 other hother hid

theorem answerAnalyzer_accounted (h : AllAccounted s) {index : Nat}
    {candidates : Option (List IntegrationConflictCandidate)} {now : String}
    (hok : CohortStep sha256 s (.analyzerAnswered index candidates now)) :
    AllAccounted (s.answerAnalyzer sha256 index candidates now).2 := by
  unfold answerAnalyzer
  cases hcall : s.composing[index]? with
  | none => exact h
  | some call =>
    obtain ⟨hsettled, hapart⟩ := hok call hcall
    have htaken : Accounted s.control
        (call.filing :: (s.composing.eraseIdx index).map CohortCall.filing) s.landing :=
      h.perm ((cons_eraseIdx_perm hcall).map CohortCall.filing).symm
    have hanswered := @analyzerAnswered_accounted s.control sha256 now _ _ call candidates htaken
      hsettled hapart
    revert hanswered
    simp only
    cases s.control.analyzerAnswered sha256 call candidates now with
    | mk outcome next =>
      cases outcome with
      | ok call' => exact fun hanswered => advance_accounted hanswered
      | error e => exact id

theorem startLanding_accounted (h : AllAccounted s) (input : CollaborationEvaluationInput)
    (actor : ActorRef) (now : String) : AllAccounted (s.startLanding sha256 input actor now).2 := by
  obtain ⟨hsame, hread⟩ := beginLand_ok s.control sha256 input actor now
  have hconflicts : (s.control.beginLand sha256 input actor now).2.conflicts =
      s.control.conflicts := by
    unfold beginLand
    cases heval : s.control.evaluateLanding sha256 input now with
    | error e => rfl
    | ok result =>
      obtain ⟨explanation, audited⟩ := result
      obtain ⟨cohort, -, -, rfl⟩ := evaluateLanding_ok heval
      exact auditVerifiers_conflicts s.control cohort input.evidence now
  unfold startLanding
  simp only
  split
  · rename_i call heq
    refine (h.read fun other hother => ?_).same hconflicts hsame.cohorts
    rcases List.mem_append.mp hother with hold | hnew
    · exact .inl hold
    · rw [List.mem_singleton] at hnew
      exact .inr (hnew ▸ hread call heq)
  · exact h.same hconflicts hsame.cohorts

theorem answerAuthority_accounted (h : AllAccounted s) (index : Nat) (landing : Option Landing)
    (now : String) : AllAccounted (s.answerAuthority index landing now).2 := by
  unfold answerAuthority
  cases hcall : s.landing[index]? with
  | none => exact h
  | some call =>
    have hmem : call ∈ s.landing := List.mem_of_getElem? hcall
    simp only
    split
    · rename_i heq
      simp only [finishLand, bind_eq_ok, orThrow_eq_ok, exists_unit, pure_eq_ok,
        Prod.mk.injEq] at heq
      obtain ⟨landing, -, -, -, rfl⟩ := heq
      exact @Accounted.land _ _ _ _ _ h call hmem
        { call.cohort with state := .landed, updatedAt := now, receipt := _ } rfl rfl rfl rfl
        fun other hother => List.mem_of_mem_eraseIdx hother
    · exact h.read fun other hother => .inl (List.mem_of_mem_eraseIdx hother)

/-- **Step**: an admitted step keeps every Conflict accounted for. -/
theorem step_accounted (h : AllAccounted s) {op : CollaborationOperation}
    (hok : CohortStep sha256 s op) : AllAccounted (step sha256 op s).2 := by
  cases op with
  | setCanonicalProjectRevision revision =>
    refine updating_accounted h fun control hset => ?_
    simp only [setCanonicalProjectRevision, bind_eq_ok, pure_eq_ok, exists_unit] at hset
    obtain ⟨-, rfl⟩ := hset
    exact ⟨rfl, rfl⟩
  | activatePolicy policy =>
    refine updating_accounted h fun control hset => ?_
    simp only [activatePolicy, bind_eq_ok, pure_eq_ok, exists_unit] at hset
    obtain ⟨-, -, rfl⟩ := hset
    exact ⟨rfl, rfl⟩
  | beginCohort input uuid now => exact compose_accounted h hok
  | analyzerAnswered index candidates now => exact answerAnalyzer_accounted h hok
  | submitFinding input uuid now =>
    refine atomically_accounted h fun finding control hsubmit => ?_
    exact ⟨submitFinding_conflicts hsubmit, (submitFinding_sameReviews hsubmit).cohorts⟩
  | resolveFinding input now =>
    refine atomically_accounted h fun finding control hresolve => ?_
    simp only [resolveFinding, bind_eq_ok, pure_eq_ok, exists_unit, Prod.mk.injEq] at hresolve
    obtain ⟨old, -, -, -, rfl⟩ := hresolve
    exact ⟨rfl, rfl⟩
  | approve input uuid now =>
    refine atomically_accounted h fun approval control happrove => ?_
    rcases approve_ok happrove with rfl | ⟨cohort, requirement, member, -, -, rfl⟩
    · exact ⟨rfl, rfl⟩
    · exact ⟨rfl, rfl⟩
  | resolveConflict input now =>
    show AllAccounted (s.atomically _ _ (s.control.resolveConflict input now)).2
    cases hresolve : s.control.resolveConflict input now with
    | error e => exact h
    | ok result =>
      obtain ⟨conflict, control⟩ := result
      simp only [resolveConflict, bind_eq_ok, orThrow_eq_ok, pure_eq_ok, exists_unit,
        Prod.mk.injEq] at hresolve
      obtain ⟨old, hold, cohort, -, -, rfl, rfl⟩ := hresolve
      have hid : old.id = input.conflictId := h.conflicts _ _ hold
      exact @Accounted.refile _ _ _ _ h old
        { old with
          state := .resolved
          resolvedAt := some now
          resolutionRevisionIds := some input.resolutionRevisionIds
          receipt := _ } (hid ▸ hold) rfl rfl rfl
  | evaluateLanding input now =>
    refine atomically_accounted h fun explanation control heval => ?_
    obtain ⟨cohort, -, -, rfl⟩ := evaluateLanding_ok heval
    exact ⟨auditVerifiers_conflicts .., (auditVerifiers_sameReviews ..).cohorts⟩
  | beginLand input actor now => exact startLanding_accounted h input actor now
  | authorityAnswered index landing now => exact answerAuthority_accounted h index landing now
  | recordPromotionAuthority input now =>
    refine updating_accounted h fun control hrecord => ?_
    simp only [recordPromotionAuthority, bind_eq_ok, pure_eq_ok, exists_unit] at hrecord
    obtain ⟨-, -, -, -, rfl⟩ := hrecord
    exact ⟨rfl, rfl⟩

theorem accounted_initial (input : CollaborationCoordinatorInput) :
    AllAccounted (initial input) where
  conflicts := OrderedMap.selfKeyed_empty _
  cohorts := OrderedMap.selfKeyed_empty _
  recorded := fun _ _ h => nomatch h
  inFlight := fun _ h => nomatch h
  apart := .nil
  known := fun _ _ h => nomatch h
  landings := fun _ h => nomatch h

end CollaborationSystem

open CollaborationSystem

/-- **Cohorts that are refused.** A call that throws leaves cohorts, Conflicts and audit as they were
exactly when it is refused before it asks an analyzer, or no report is filed before the first that is
refused. In every run of such calls, under ids that no cohort has, every cohort names exactly the
Conflicts that are listed for it. -/
theorem cohort_atomic_iff (sha256 : StableValue → String) :
    (∀ (c : CollaborationCoordinator) (input : CreateCohortInput) (uuid : String)
      (answer : Nat → Option (List IntegrationConflictCandidate)) (clock : Nat → String)
      (now : String), CohortAtomic sha256 c input uuid answer clock now ↔
        ReportsSettled c input uuid answer) ∧
    ∀ (coordinator : CollaborationCoordinatorInput)
      (tr : List (Transition CollaborationSystem CollaborationOperation CollaborationReply))
      (s : CollaborationSystem),
      Run (step sha256) (CohortStep sha256) (initial coordinator) tr s → ConflictsNamed s.control := by
  refine ⟨fun c input uuid answer clock now => createCohort_atomic_iff, fun coordinator tr s hrun => ?_⟩
  exact (hrun.invariant AllAccounted (accounted_initial coordinator)
    fun s op h hok => step_accounted h hok).conflictsNamed

/-! ## An analyzer that throws after another has answered -/

namespace CohortSample

def analyzed : CollaborationCoordinatorInput :=
  { configured ⟨"v1", [], none⟩ [] with analyzers := ["schema", "policy"] }

def overlap : IntegrationConflictCandidate where
  kind := .schema
  severity := .blocking
  changeIds := ["change:A"]
  scopeIds := ["module"]
  description := "Two Changes edit one schema."
  disclosure := .project
  receipt := "schema=overlap"
  recoveryAction := "resolve the schema overlap"

/-- The first analyzer reports the overlap, the second throws. -/
def throwing : Nat → Option (List IntegrationConflictCandidate)
  | 0 => some [overlap]
  | _ => none

/-- A cohort that is refused so, and composed again without a report. -/
def retried : CollaborationSystem :=
  (ran analyzed [.beginCohort (declaring []) "1" "t0", .analyzerAnswered 0 (some [overlap]) "t1",
    .analyzerAnswered 0 none "t2", .beginCohort (declaring []) "2" "t3",
    .analyzerAnswered 0 (some []) "t4", .analyzerAnswered 0 (some []) "t5"]).2

/-- A cohort that is refused before anything is filed, and composed again with a report. -/
def recomposed : List CollaborationOperation :=
  [.beginCohort (declaring []) "1" "t0", .analyzerAnswered 0 none "t1",
    .beginCohort (declaring []) "2" "t2", .analyzerAnswered 0 (some [overlap]) "t3",
    .analyzerAnswered 0 (some []) "t4"]

end CohortSample

open CohortSample in
/-- The Conflict of the call that is refused stays, and is listed for a cohort that does not name
it. -/
theorem refused_cohort_leaves_conflict :
    ¬ CohortAtomic CohortSample.sha256 (.initial analyzed) (declaring []) "1" throwing
      (fun _ => "t1") "t2" ∧
    (∃ tr, Run (step CohortSample.sha256) (fun _ _ => True) (initial analyzed) tr retried) ∧
      ¬ ConflictsNamed retried.control := by
  refine ⟨fun h => ?_, ⟨_, run_exec (Admits.of_forall (fun _ _ => trivial) _ _)⟩, fun h => ?_⟩
  · have hthrown : ∃ failure next, CollaborationCoordinator.createCohort CohortSample.sha256
        (.initial analyzed) (declaring []) "1" throwing (fun _ => "t1") "t2" =
          (.error failure, next) ∧ next.audit ≠ [] := ⟨.thrown, _, rfl, by decide +kernel⟩
    obtain ⟨failure, next, hcall, haudit⟩ := hthrown
    exact haudit (h failure next hcall).2.2
  · have hlisted : ∃ cohort ∈ retried.control.cohorts.values, ∃ id ∈
        (retried.control.listConflicts cohort.id).map IntegrationConflict.id,
        id ∉ cohort.conflictIds := by decide +kernel
    obtain ⟨cohort, hcohort, id, hid, hnot⟩ := hlisted
    exact hnot ((h cohort hcohort id).mp hid)

open CohortSample in
theorem cohort_atomic_recomposed :
    CohortAtomic CohortSample.sha256 (.initial analyzed) (declaring []) "1" (fun _ => none)
      (fun _ => "t1") "t2" ∧
    ConflictsNamed (exec (step CohortSample.sha256) (initial analyzed) recomposed).2.control := by
  have h := cohort_atomic_iff CohortSample.sha256
  refine ⟨(h.1 _ _ _ _ _ _).mpr fun call _ => .inr ⟨none, rfl, ?_⟩,
    h.2 analyzed _ _ (run_exec (by decide +kernel))⟩
  rintro ⟨candidate, hnone, -⟩
  cases hnone

end Anyam.ChangeControl
