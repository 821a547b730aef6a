import Anyam.ChangeControl.CollaborationSystem

/-!
# Required Evidence is enforced

A requirement is satisfied by the latest Evidence record of its key and context, if
that record passed under the current validity key. `evaluateLanding` checks the
requirements of the active policy after deduplicating them by a key made of four of
their seven fields, so it enforces all of them exactly when that key tells them apart
(**`evidenceEnforced_iff`**).
-/

namespace Anyam.ChangeControl

open Anyam.Lib Anyam.Kernel

namespace CollaborationCoordinator

variable {c c' : CollaborationCoordinator} {sha256 : StableValue → String} {now : String}
  {cohort : IntegrationCohort} {evidence : List Evidence}

/-! ## One requirement -/

/-- The record is of the requirement's key and has every context field it expects. -/
def Concerns (requirement : EvidenceRequirement) (record : Evidence) : Prop :=
  record.key = requirement.key ∧ MatchesContext requirement record

instance (requirement : EvidenceRequirement) (record : Evidence) :
    Decidable (Concerns requirement record) :=
  inferInstanceAs (Decidable (_ ∧ _))

/-- The latest record that concerns the requirement passed, under the current validity
key. -/
def Satisfied (requirement : EvidenceRequirement) (evidence : List Evidence) : Prop :=
  ∃ record ∈ (evidence.filter (Concerns requirement ·)).getLast?,
    record.outcome = .passed ∧ record.validityKey = requirement.currentValidityKey

instance (requirement : EvidenceRequirement) (evidence : List Evidence) :
    Decidable (Satisfied requirement evidence) :=
  inferInstanceAs (Decidable (∃ record ∈ (evidence.filter (Concerns requirement ·)).getLast?, _))

/-- A selected record in the right context is the latest record concerned. -/
theorem select_matching_iff {requirement : EvidenceRequirement} {record : Evidence} :
    selectEvidence requirement evidence = some record ∧ MatchesContext requirement record ↔
      (evidence.filter (Concerns requirement ·)).getLast? = some record := by
  have hlatest : (evidence.filter (Concerns requirement ·)).getLast? =
      (evidence.filter (·.key = requirement.key)).reverse.find? (MatchesContext requirement ·) := by
    rw [← List.getLast?_filter, List.filter_filter]
    congr 2
    funext record
    rw [Bool.and_comm]
    exact Bool.decide_and ..
  rw [hlatest]
  simp only [selectEvidence]
  cases hfind : (evidence.filter (·.key = requirement.key)).reverse.find?
      (MatchesContext requirement ·) with
  | some found =>
    have hmatch : MatchesContext requirement found := by simpa using List.find?_some hfind
    rw [Option.some_or]
    exact ⟨fun h => h.1, fun h => ⟨h, Option.some.inj h ▸ hmatch⟩⟩
  | none =>
    -- the fallback is a record of the key in another context
    rw [Option.none_or]
    refine ⟨fun ⟨hhead, hmatch⟩ => ?_, nofun⟩
    have hother := List.find?_eq_none.mp hfind record (List.mem_of_head? hhead)
    exact absurd (decide_eq_true hmatch) hother

/-- **A requirement blocks** exactly when it is not satisfied. -/
theorem evidenceBlocker_eq_none_iff {requirement : EvidenceRequirement} {cohortId : String} :
    evidenceBlocker requirement cohortId evidence = none ↔ Satisfied requirement evidence := by
  have hselected : evidenceBlocker requirement cohortId evidence = none ↔
      ∃ record, selectEvidence requirement evidence = some record ∧
        MatchesContext requirement record ∧ record.outcome = .passed ∧
          record.validityKey = requirement.currentValidityKey := by
    unfold evidenceBlocker
    cases selectEvidence requirement evidence with
    | none => simp
    | some record =>
      by_cases hpassed : record.outcome = .passed
      · simp [hpassed]
      · simp [hpassed]
  rw [hselected]
  constructor
  · rintro ⟨record, hselect, hmatch, hpassed⟩
    exact ⟨record, select_matching_iff.mp ⟨hselect, hmatch⟩, hpassed⟩
  · rintro ⟨record, hlatest, hpassed⟩
    obtain ⟨hselect, hmatch⟩ := select_matching_iff.mpr hlatest
    exact ⟨record, hselect, hmatch, hpassed⟩

/-! ## All of them -/

/-- The kinds of blockers an Evidence requirement can have. -/
def evidenceKinds : List CollaborationBlockerKind :=
  [.missingEvidence, .staleEvidence, .failedEvidence]

/-- The blockers of an explanation that are about Evidence. -/
def evidencePart (blockers : List CollaborationBlocker) : List CollaborationBlocker :=
  blockers.filter (·.kind ∈ evidenceKinds)

theorem evidenceBlocker_kind {requirement : EvidenceRequirement} {cohortId : String}
    {blocker : CollaborationBlocker}
    (h : evidenceBlocker requirement cohortId evidence = some blocker) :
    blocker.kind ∈ evidenceKinds := by
  unfold evidenceBlocker at h
  split at h
  · cases h
    simp [evidenceKinds]
  · rename_i record hselect
    split at h
    · cases h
      simp [evidenceKinds]
    · split at h
      · cases h
        by_cases hfailed : record.outcome = .failed <;> simp [evidenceKinds, hfailed]
      · cases h

theorem reviewBlocker_kind {requirement : ReviewRequirement} {blocker : CollaborationBlocker}
    (h : c.reviewBlocker requirement = some blocker) : blocker.kind ∉ evidenceKinds := by
  simp only [reviewBlocker] at h
  split at h
  · cases h
    simp [evidenceKinds]
  · split at h
    · split at h <;> cases h <;> simp [evidenceKinds]
    · cases h

/-- The blockers about Evidence are those of the Evidence check. -/
theorem evidencePart_landingBlockers (sha256 : StableValue → String) (cohort : IntegrationCohort)
    (evidence : List Evidence) :
    evidencePart (c.landingBlockers sha256 cohort evidence) = c.evidenceBlockers cohort evidence := by
  have hother : ∀ blockers : List CollaborationBlocker,
      (∀ blocker ∈ blockers, blocker.kind ∉ evidenceKinds) → evidencePart blockers = [] :=
    fun blockers h => List.filter_eq_nil_iff.mpr fun blocker hmem => by simpa using h blocker hmem
  have hstate : evidencePart (stateBlockers cohort) = [] := by
    unfold stateBlockers
    split <;> rfl
  have hbase : evidencePart (c.baseBlockers cohort) = [] := by
    unfold baseBlockers
    split <;> rfl
  have hconflict : evidencePart (c.conflictBlockers cohort) = [] := hother _ fun blocker hmem => by
    obtain ⟨conflict, -, rfl⟩ := List.mem_map.mp hmem
    exact show CollaborationBlockerKind.openConflict ∉ evidenceKinds by decide
  have hfinding : evidencePart (c.findingBlockers cohort) = [] := hother _ fun blocker hmem => by
    obtain ⟨finding, -, rfl⟩ := List.mem_map.mp hmem
    exact show CollaborationBlockerKind.openFinding ∉ evidenceKinds by decide
  have hreview : evidencePart (c.reviewBlockers sha256 cohort) = [] := hother _ fun blocker hmem => by
    obtain ⟨requirement, -, hblocker⟩ := List.mem_filterMap.mp hmem
    exact reviewBlocker_kind hblocker
  have hevidence : evidencePart (c.evidenceBlockers cohort evidence) =
      c.evidenceBlockers cohort evidence := List.filter_eq_self.mpr fun blocker hmem => by
    obtain ⟨requirement, -, hblocker⟩ := List.mem_filterMap.mp hmem
    exact decide_eq_true (evidenceBlocker_kind hblocker)
  unfold evidencePart at *
  simp only [landingBlockers, List.filter_append, hstate, hbase, hconflict, hfinding, hreview,
    hevidence, List.nil_append]

/-- As many blockers are about Evidence as checked requirements are not satisfied. -/
theorem length_evidenceBlockers (cohort : IntegrationCohort) (evidence : List Evidence) :
    (c.evidenceBlockers cohort evidence).length =
      ((c.requiredEvidenceFor cohort).filter (¬ Satisfied · evidence)).length := by
  unfold evidenceBlockers
  rw [List.length_filterMap_eq_countP, List.countP_eq_length_filter]
  congr 2
  funext requirement
  rw [Bool.eq_iff_iff, Option.isSome_iff_ne_none, decide_eq_true_iff]
  exact not_congr evidenceBlocker_eq_none_iff

/-- Projecting an explanation keeps what its blockers are about. -/
theorem length_evidencePart_project (explanation : CollaborationPolicyExplanation)
    (audience : DisclosureClassification) (visibleScopeIds : List String) :
    (evidencePart (projectExplanation explanation audience visibleScopeIds).blockers).length =
      (evidencePart explanation.blockers).length := by
  have hkind : ∀ blocker : CollaborationBlocker,
      (if blockerVisible audience visibleScopeIds blocker then blocker
        else restrictedBlocker explanation.cohortId blocker).kind = blocker.kind := by
    intro blocker
    split <;> rfl
  unfold evidencePart projectExplanation
  rw [List.filter_map, List.length_map]
  congr 2
  funext blocker
  simp only [Function.comp_apply, hkind]

/-- One evaluation enforces the requirements: it allows only what satisfies all of
them, and each different one that is not satisfied has a blocker of its own. -/
structure Enforced (requirements : List EvidenceRequirement) (evidence : List Evidence)
    (explanation : CollaborationPolicyExplanation) : Prop where
  allowed : explanation.decision = .allow →
    ∀ requirement ∈ requirements, Satisfied requirement evidence
  reported : (requirements.dedup.filter (¬ Satisfied · evidence)).length ≤
    (evidencePart explanation.blockers).length

end CollaborationCoordinator

open CollaborationCoordinator

variable {c : CollaborationCoordinator} {cohortId : String} {cohort : IntegrationCohort}

/-- **All Evidence requirements of the active policy are enforced** exactly when no two
different ones have the same deduplication key. -/
theorem evidenceEnforced_iff (sha256 : StableValue → String)
    (hcohort : c.cohorts.get? cohortId = some cohort) :
    (∀ input now explanation c', input.cohortId = cohortId →
        c.evaluateLanding sha256 input now = .ok (explanation, c') →
          Enforced (c.policyEvidence cohort) input.evidence explanation) ↔
      Distinguishes evidenceKey (c.policyEvidence cohort) := by
  have hlength : ∀ {input now explanation c'}, input.cohortId = cohortId →
      c.evaluateLanding sha256 input now = .ok (explanation, c') →
        (evidencePart explanation.blockers).length =
          ((c.requiredEvidenceFor cohort).filter (¬ Satisfied · input.evidence)).length := by
    rintro input now explanation c' rfl h
    obtain ⟨found, hfound, hexplanation, -⟩ := evaluateLanding_ok h
    obtain rfl := Option.some.inj (hcohort.symm.trans hfound)
    rw [← length_evidenceBlockers, ← evidencePart_landingBlockers sha256]
    rcases hexplanation with rfl | ⟨audience, visibleScopeIds, rfl⟩
    · rfl
    · exact length_evidencePart_project ..
  constructor
  · -- without any Evidence, every different requirement needs a blocker
    intro henforced
    let input : CollaborationEvaluationInput := { cohortId, evidence := [] }
    have heval : c.evaluateLanding sha256 input "" =
        .ok (c.explain sha256 cohort [], c.auditVerifiers cohort [] "") := by
      simp [evaluateLanding, requireCohort, input, hcohort, orThrow, bind, Except.bind, pure,
        Except.pure]
    have hreported := (henforced input "" _ _ rfl heval).reported
    rw [hlength rfl heval] at hreported
    have hall : ∀ requirements : List EvidenceRequirement,
        requirements.filter (¬ Satisfied · ([] : List Evidence)) = requirements :=
      fun requirements => List.filter_eq_self.mpr fun requirement _ => by simp [Satisfied]
    exact distinguishes_of_length_le (by rwa [hall, hall] at hreported)
  · intro hdistinguishes input now explanation c' hid h
    refine ⟨fun hallow requirement hrequirement => ?_, ?_⟩
    · subst hid
      obtain ⟨found, hfound, hblockers⟩ := evaluateLanding_allow h hallow
      obtain rfl := Option.some.inj (hcohort.symm.trans hfound)
      -- nothing blocks, and the requirement is among the checked ones
      have hnone : c.evidenceBlockers cohort input.evidence = [] := by
        rw [← evidencePart_landingBlockers sha256, hblockers]
        rfl
      have hchecked := forall_mem_dedupeBy_iff.mpr hdistinguishes requirement hrequirement
      exact evidenceBlocker_eq_none_iff.mp (List.filterMap_eq_nil_iff.mp hnone _ hchecked)
    · rw [hlength hid h]
      exact hdistinguishes.length_filter_le _

namespace CohortSample

/-- An Evidence key, required for one Project Revision. -/
def requiredFor (key projectRevisionId : String) : EvidenceRequirement where
  key := key
  currentValidityKey := "valid"
  expectedProjectRevisionId := some projectRevisionId
  expectedProjectViewId := none
  expectedChangeRevisionId := none
  expectedTargetId := none
  expectedDisclosureClassification := none

def passedFor (key projectRevisionId : String) : Evidence where
  id := "evidence"
  key := key
  outcome := .passed
  validityKey := "valid"
  projectRevisionId := projectRevisionId
  projectViewId := "view"
  changeRevisionId := none
  actor := actor "verifier"
  policyVersion := "v1"
  disclosure := ⟨"projection", .project⟩
  targetId := none

/-- A coordinator with one cohort, under a policy of Evidence requirements. -/
def requiring (requirements : List EvidenceRequirement) : CollaborationCoordinator :=
  (ran (configured ⟨"v1", requirements, none⟩ [])
    [.beginCohort (declaring []) "uuid" "now"]).2.control

end CohortSample

open CohortSample in
theorem evidenceEnforced_iff_sample :
    ∃ cohort,
      let control := requiring [requiredFor "check" "r0", requiredFor "scan" "r0"]
      control.cohorts.get? "cohort" = some cohort ∧
        ∀ input now explanation c', input.cohortId = "cohort" →
          control.evaluateLanding sha256 input now = .ok (explanation, c') →
            Enforced (control.policyEvidence cohort) input.evidence explanation :=
  ⟨_, rfl, (evidenceEnforced_iff sha256 rfl).mpr (by decide +kernel)⟩

open CohortSample in
/-- The requirement for `r1` is dropped as a duplicate of the one for `r0`, and the
Landing is allowed without it. -/
theorem requirement_swallowed :
    ∃ cohort explanation c',
      let control := requiring [requiredFor "check" "r0", requiredFor "check" "r1"]
      control.cohorts.get? "cohort" = some cohort ∧
        control.evaluateLanding sha256
          { cohortId := "cohort", evidence := [passedFor "check" "r0"] } "now" =
            .ok (explanation, c') ∧
        explanation.decision = .allow ∧
        requiredFor "check" "r1" ∈ control.policyEvidence cohort ∧
        ¬ Satisfied (requiredFor "check" "r1") [passedFor "check" "r0"] :=
  ⟨_, _, _, rfl, rfl, by decide +kernel, by decide +kernel, by decide +kernel⟩

end Anyam.ChangeControl
