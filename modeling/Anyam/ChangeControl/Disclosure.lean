import Anyam.ChangeControl.CohortProjection
import Anyam.ChangeControl.CollaborationSystem

/-!
# What a Disclosure Projection discloses

Two coordinators are alike to an audience when they differ only in what the records
secret from it say. Redaction writes a chosen set of fields and keeps the rest:

- **`projectCohort_eq_iff`**: two alike coordinators project a cohort alike exactly
  when they agree on what redaction keeps: the recovery action and the resolution of
  each Conflict, the resolution of each Finding, and every field of a Finding whose
  placing scope is visible.
- **`disclosuresAgree_iff`**: when the projected explanation of `evaluateLanding` hides
  every record `projectCohort` hides. It keeps one scope of a Conflict and takes an
  empty one for none.
-/

namespace Anyam.ChangeControl

open Anyam.Lib Anyam.Kernel CollaborationCoordinator

namespace CollaborationCoordinator

/-! ## Secret records -/

/-- Every scope a Review Scope names. -/
def scopeIdsOf (scope : ReviewScope) : List String :=
  scope.moduleId.toList ++ scope.sourceSpaceId.toList ++ scope.targetId.toList

section Audience

variable (audience : DisclosureClassification) (visibleScopeIds : List String)

/-- Secret Conflicts that differ in free text, scopes, resolution or analyzer. -/
def AlikeConflict : IntegrationConflict → IntegrationConflict → Prop :=
  Alike (fun conflict => ¬ conflictVisible audience visibleScopeIds conflict) fun a b =>
    b = { a with
      description := b.description
      recoveryAction := b.recoveryAction
      receipt := b.receipt
      scopeIds := b.scopeIds
      resolvedAt := b.resolvedAt
      resolutionRevisionIds := b.resolutionRevisionIds
      analyzerId := b.analyzerId }

/-- The audience is cleared for the Finding and sees every scope it names. -/
def FindingDisclosed (finding : ReviewFinding) : Prop :=
  scopeVisible audience visibleScopeIds (finding.scope.toList.flatMap scopeIdsOf)
    finding.disclosure

instance (finding : ReviewFinding) :
    Decidable (FindingDisclosed audience visibleScopeIds finding) :=
  inferInstanceAs (Decidable (scopeVisible ..))

/-- Secret Findings that differ in free text, scope or resolution. -/
def AlikeFinding : ReviewFinding → ReviewFinding → Prop :=
  Alike (fun finding => ¬ FindingDisclosed audience visibleScopeIds finding) fun a b =>
    b = { a with
      summary := b.summary
      receipt := b.receipt
      scope := b.scope
      resolution := b.resolution
      resolvedBy := b.resolvedBy }

/-- Secret Review Requirements that differ in free text or scope. -/
def AlikeRequirement : ReviewRequirement → ReviewRequirement → Prop :=
  Alike (fun requirement => ¬ requirementVisible audience visibleScopeIds requirement) fun a b =>
    b = { a with reason := b.reason, scopeId := b.scopeId }

instance (a b : IntegrationConflict) : Decidable (AlikeConflict audience visibleScopeIds a b) :=
  inferInstanceAs (Decidable (Alike ..))

instance (a b : ReviewFinding) : Decidable (AlikeFinding audience visibleScopeIds a b) :=
  inferInstanceAs (Decidable (Alike ..))

instance (a b : ReviewRequirement) : Decidable (AlikeRequirement audience visibleScopeIds a b) :=
  inferInstanceAs (Decidable (Alike ..))

end Audience

/-- The two coordinators differ only in what secret Conflicts, Findings and Review
Requirements say. Requirements are derived, so they may differ through the rules. -/
structure AlikeTo (sha256 : StableValue → String) (audience : DisclosureClassification)
    (visibleScopeIds : List String) (c c' : CollaborationCoordinator) : Prop where
  same : c' = { c with
    conflicts := c'.conflicts
    findings := c'.findings
    ownershipRules := c'.ownershipRules }
  conflictIds : c.conflicts.keys = c'.conflicts.keys
  conflicts : List.Forall₂ (AlikeConflict audience visibleScopeIds) c.conflicts.values
    c'.conflicts.values
  findingIds : c.findings.keys = c'.findings.keys
  findings : List.Forall₂ (AlikeFinding audience visibleScopeIds) c.findings.values
    c'.findings.values
  requirements : ∀ cohort ∈ c.cohorts.values,
    List.Forall₂ (AlikeRequirement audience visibleScopeIds) (c.requirementsFor sha256 cohort)
      (c'.requirementsFor sha256 cohort)

/-! ## What redaction keeps -/

section Audience

variable {audience : DisclosureClassification} {visibleScopeIds : List String}

/-- What a redacted Conflict still says is the same. -/
def ConflictsAgree (a b : IntegrationConflict) : Prop :=
  a.recoveryAction = b.recoveryAction ∧ a.resolvedAt = b.resolvedAt ∧
    a.resolutionRevisionIds = b.resolutionRevisionIds

theorem shown_conflict_iff {a b : IntegrationConflict}
    (h : AlikeConflict audience visibleScopeIds a b) :
    shown (conflictVisible audience visibleScopeIds) restrictedConflict a =
        shown (conflictVisible audience visibleScopeIds) restrictedConflict b ↔
      ConflictsAgree a b := by
  rcases h with rfl | ⟨ha, hb, hdiffer⟩
  · exact ⟨fun _ => ⟨rfl, rfl, rfl⟩, fun _ => rfl⟩
  · rw [shown, shown, if_neg ha, if_neg hb]
    constructor
    · intro h
      simp only [restrictedConflict, IntegrationConflict.mk.injEq] at h
      exact ⟨by tauto, by tauto, by tauto⟩
    · rintro ⟨hrecovery, hresolved, hrevisions⟩
      rw [hdiffer]
      simp [restrictedConflict, hrecovery, hresolved, hrevisions]

/-- The Finding says the same, or both are hidden and were resolved alike. -/
def FindingsAgree (audience : DisclosureClassification) (visibleScopeIds : List String)
    (a b : ReviewFinding) : Prop :=
  a = b ∨ ¬ findingVisible audience visibleScopeIds a ∧
    ¬ findingVisible audience visibleScopeIds b ∧
    a.resolution = b.resolution ∧ a.resolvedBy = b.resolvedBy

/-- A Finding that is shown but not disclosed has a scope. -/
theorem scope_ne_none_of_secret {finding : ReviewFinding}
    (hsecret : ¬ FindingDisclosed audience visibleScopeIds finding)
    (hvisible : findingVisible audience visibleScopeIds finding) : finding.scope ≠ none := by
  intro hscope
  refine hsecret ⟨hvisible.1, fun scopeId hmem => ?_⟩
  rw [hscope] at hmem
  cases hmem

theorem shown_finding_iff {a b : ReviewFinding} (h : AlikeFinding audience visibleScopeIds a b) :
    shown (findingVisible audience visibleScopeIds) restrictedFinding a =
        shown (findingVisible audience visibleScopeIds) restrictedFinding b ↔
      FindingsAgree audience visibleScopeIds a b := by
  rcases h with rfl | ⟨ha, hb, hdiffer⟩
  · exact ⟨fun _ => .inl rfl, fun _ => rfl⟩
  · -- a redacted Finding has no scope, and a shown secret one has
    have hmixed : ∀ {x y : ReviewFinding}, ¬ FindingDisclosed audience visibleScopeIds x →
        findingVisible audience visibleScopeIds x → x ≠ restrictedFinding y :=
      fun hsecret hvisible heq => scope_ne_none_of_secret hsecret hvisible (heq ▸ rfl)
    rw [shown_eq_iff (fun hv _ => hmixed ha hv) (fun hv _ => hmixed hb hv), FindingsAgree]
    refine or_congr_right (and_congr_right fun _ => and_congr_right fun _ => ?_)
    constructor
    · intro h
      simp only [restrictedFinding, ReviewFinding.mk.injEq] at h
      exact ⟨by tauto, by tauto⟩
    · rintro ⟨hresolution, hby⟩
      rw [hdiffer]
      simp [restrictedFinding, hresolution, hby]

/-- Redaction leaves nothing in which alike Review Requirements could differ. -/
theorem shown_requirement {a b : ReviewRequirement}
    (h : AlikeRequirement audience visibleScopeIds a b) :
    shown (requirementVisible audience visibleScopeIds) restrictedRequirement a =
      shown (requirementVisible audience visibleScopeIds) restrictedRequirement b := by
  rcases h with rfl | ⟨ha, hb, hdiffer⟩
  · rfl
  · rw [shown, shown, if_neg ha, if_neg hb, hdiffer]
    rfl

end Audience

/-! ## Noninterference -/

section Projection

variable {sha256 : StableValue → String} {c c' : CollaborationCoordinator}

/-- For a cohort that is found, its Conflicts and its Findings agree pair by pair on
what redaction keeps. -/
def KeptFieldsAgree (c c' : CollaborationCoordinator) (input : ProjectCohortInput) : Prop :=
  ∀ cohort ∈ c.cohorts.get? input.cohortId, cohort.id ∈ c.cohorts.keys →
    List.Forall₂ ConflictsAgree (c.listConflicts cohort.id) (c'.listConflicts cohort.id) ∧
    List.Forall₂ (FindingsAgree input.audience input.visibleScopeIds)
      (c.listFindings cohort.id) (c'.listFindings cohort.id)

section Alike

variable {audience : DisclosureClassification} {visibleScopeIds : List String}

theorem AlikeTo.cohorts (h : AlikeTo sha256 audience visibleScopeIds c c') :
    c'.cohorts = c.cohorts := by
  rw [h.same]

theorem AlikeTo.listConflicts (h : AlikeTo sha256 audience visibleScopeIds c c')
    (cohortId : String) :
    List.Forall₂ (AlikeConflict audience visibleScopeIds) (c.listConflicts cohortId)
      (c'.listConflicts cohortId) := by
  refine List.rel_filter (fun a b hab => ?_) h.conflicts
  rcases hab with rfl | ⟨-, -, hdiffer⟩
  · rfl
  · rw [hdiffer]

theorem AlikeTo.listFindings (h : AlikeTo sha256 audience visibleScopeIds c c')
    (cohortId : String) :
    List.Forall₂ (AlikeFinding audience visibleScopeIds) (c.listFindings cohortId)
      (c'.listFindings cohortId) := by
  refine List.rel_filter (fun a b hab => ?_) h.findings
  rcases hab with rfl | ⟨-, -, hdiffer⟩
  · rfl
  · rw [hdiffer]

/-- Alike coordinators list Review Requirements that look the same. -/
theorem AlikeTo.shown_requirements (h : AlikeTo sha256 audience visibleScopeIds c c')
    {cohort : IntegrationCohort} (hcohort : cohort ∈ c.cohorts.values) :
    (c.requirementsFor sha256 cohort).map
        (shown (requirementVisible audience visibleScopeIds) restrictedRequirement) =
      (c'.requirementsFor sha256 cohort).map
        (shown (requirementVisible audience visibleScopeIds) restrictedRequirement) := by
  rw [← List.forall₂_eq_eq_eq, List.forall₂_map_left_iff, List.forall₂_map_right_iff]
  exact (h.requirements cohort hcohort).imp fun _ _ hab => shown_requirement hab

end Alike

/-- **What a projection discloses**: alike coordinators project a cohort alike exactly
when they agree on the fields redaction keeps. -/
theorem projectCohort_eq_iff {input : ProjectCohortInput}
    (h : AlikeTo sha256 input.audience input.visibleScopeIds c c') :
    c.projectCohort sha256 input = c'.projectCohort sha256 input ↔ KeptFieldsAgree c c' input := by
  unfold KeptFieldsAgree projectCohort listReviewRequirements requireCohort
  rw [h.cohorts]
  cases hcohort : c.cohorts.get? input.cohortId with
  | none => simp [orThrow, bind, Except.bind]
  | some cohort =>
    cases hfiled : c.cohorts.get? cohort.id with
    | none =>
      have hnot : cohort.id ∉ c.cohorts.keys := OrderedMap.not_mem_keys_iff.mpr hfiled
      simp [orThrow, hfiled, hnot, bind, Except.bind, Except.map]
    | some filed =>
      have hmem : cohort.id ∈ c.cohorts.keys := OrderedMap.mem_keys_of_get? hfiled
      have hrequirements := h.shown_requirements (OrderedMap.mem_values_of_get? hfiled)
      have hconflicts := map_eq_map_iff (h.listConflicts cohort.id) fun _ _ => shown_conflict_iff
      have hfindings := map_eq_map_iff (h.listFindings cohort.id) fun _ _ => shown_finding_iff
      simp [orThrow, hfiled, hmem, bind, Except.bind, Except.map, pure, Except.pure,
        hrequirements, hconflicts, hfindings]

end Projection

end CollaborationCoordinator

namespace CohortSample

/-- A restricted Finding on the Change, resolved in the given words. -/
def resolvedAs (resolution : String) : CollaborationCoordinator :=
  (ran (configured ⟨"v1", [], none⟩ [rule]) [
    .beginCohort (declaring []) "c" "t0",
    .submitFinding {
      cohortId := "cohort"
      changeId := "change:A"
      changeRevisionId := "change-revision:a"
      author := actor "reviewer"
      kind := .security
      severity := .warning
      summary := "leaks"
      disclosure := some .restricted } "f" "t1",
    .resolveFinding ⟨"review-finding:f", actor "author", resolution⟩ "t2"]).2.control

/-- The cohort as the Project sees it. -/
def projectAudience : ProjectCohortInput := ⟨"cohort", .project, ["module"]⟩

/-- The project audience is not cleared for what the two resolutions differ in. -/
theorem resolvedAs_alike : AlikeTo sha256 .project ["module"] (resolvedAs "a") (resolvedAs "b") where
  same := by decide +kernel
  conflictIds := by decide +kernel
  conflicts := by decide +kernel
  findingIds := by decide +kernel
  findings := by decide +kernel
  requirements := by decide +kernel

end CohortSample

open CohortSample in
theorem projectCohort_eq_iff_sample :
    (resolvedAs "a").projectCohort sha256 projectAudience =
        (resolvedAs "b").projectCohort sha256 projectAudience ↔
      KeptFieldsAgree (resolvedAs "a") (resolvedAs "b") projectAudience :=
  projectCohort_eq_iff resolvedAs_alike

open CohortSample in
/-- The resolution of a restricted Finding reaches the project audience. -/
theorem resolution_disclosed :
    AlikeTo sha256 projectAudience.audience projectAudience.visibleScopeIds (resolvedAs "a")
        (resolvedAs "b") ∧
      (resolvedAs "a").projectCohort sha256 projectAudience ≠
        (resolvedAs "b").projectCohort sha256 projectAudience := by
  refine ⟨resolvedAs_alike, fun h => ?_⟩
  have hfindings := congrArg (fun projection => projection.toOption.map CohortProjection.findings) h
  revert hfindings
  decide +kernel

/-! ## The two disclosure paths -/

/-- The record a blocker of `evaluateLanding` is about. -/
inductive BlockerSource
  | cohort
  | conflict (conflict : IntegrationConflict)
  | finding (finding : ReviewFinding)
  | requirement (requirement : ReviewRequirement)
  | evidence
deriving DecidableEq, Repr

namespace CollaborationCoordinator

section Sources

variable (c : CollaborationCoordinator) (sha256 : StableValue → String) (cohort : IntegrationCohort)

/-- The Conflicts that block a Landing. -/
def blockingConflicts : List IntegrationConflict :=
  (c.listConflicts cohort.id).filter fun conflict =>
    conflict.state = .«open» ∧ conflict.severity = .blocking

/-- The Findings that block a Landing. -/
def blockingFindings : List ReviewFinding :=
  (c.listFindings cohort.id).filter fun finding =>
    finding.state = .«open» ∧ (finding.severity = .blocking ∨ finding.kind = .requestChanges)

/-- The blockers of a Landing, each with the record it is about. -/
def sourcedBlockers (evidence : List Evidence) : List (BlockerSource × CollaborationBlocker) :=
  (stateBlockers cohort ++ c.baseBlockers cohort).map (.cohort, ·) ++
    ((c.blockingConflicts cohort).map .conflict).zip (c.conflictBlockers cohort) ++
    ((c.blockingFindings cohort).map .finding).zip (c.findingBlockers cohort) ++
    (c.requirementsFor sha256 cohort).filterMap (fun requirement =>
      (c.reviewBlocker requirement).map (.requirement requirement, ·)) ++
    (c.evidenceBlockers cohort evidence).map (.evidence, ·)

/-- The sourced blockers are the blockers of the Landing, in their order. -/
theorem map_snd_sourcedBlockers (evidence : List Evidence) :
    (c.sourcedBlockers sha256 cohort evidence).map Prod.snd =
      c.landingBlockers sha256 cohort evidence := by
  have hconflicts : (((c.blockingConflicts cohort).map BlockerSource.conflict).zip
      (c.conflictBlockers cohort)).map Prod.snd = c.conflictBlockers cohort :=
    List.map_snd_zip (by simp [conflictBlockers, blockingConflicts])
  have hfindings : (((c.blockingFindings cohort).map BlockerSource.finding).zip
      (c.findingBlockers cohort)).map Prod.snd = c.findingBlockers cohort :=
    List.map_snd_zip (by simp [findingBlockers, blockingFindings])
  simp only [sourcedBlockers, landingBlockers, List.map_append, List.map_map, hconflicts, hfindings,
    List.map_filterMap, Option.map_map, reviewBlockers]
  simp [Function.comp_def]

end Sources

section Agreement

variable (audience : DisclosureClassification) (visibleScopeIds : List String)

/-- `projectCohort` hides the record from the audience. -/
def HiddenSource : BlockerSource → Prop
  | .conflict conflict => ¬ conflictVisible audience visibleScopeIds conflict
  | .finding finding => ¬ findingVisible audience visibleScopeIds finding
  | .requirement requirement => ¬ requirementVisible audience visibleScopeIds requirement
  | .cohort | .evidence => False

/-- The projected explanation withholds every blocker about a record `projectCohort`
hides, and puts the restricted one in its place. -/
def DisclosuresAgree (c : CollaborationCoordinator) (sha256 : StableValue → String)
    (cohortId : String) (evidence : List Evidence) : Prop :=
  ∀ cohort ∈ c.cohorts.get? cohortId, ∀ now explanation c',
    c.evaluateLanding sha256 ⟨cohortId, evidence, some audience, some visibleScopeIds⟩ now
        = .ok (explanation, c') →
      ∀ (i : Nat) source blocker,
        (c.sourcedBlockers sha256 cohort evidence)[i]? = some (source, blocker) →
        HiddenSource audience visibleScopeIds source →
        ¬ blockerVisible audience visibleScopeIds blocker ∧
          explanation.blockers[i]? = some (restrictedBlocker cohort.id blocker)

/-- The audience that is cleared for the Conflict and sees the first scope, if it is a
nonempty one, sees all its scopes. -/
def FirstScopeDecides (conflict : IntegrationConflict) : Prop :=
  disclosureRank conflict.disclosure ≤ disclosureRank audience →
    (∀ scopeId ∈ truthy conflict.scopeIds.head?, scopeId ∈ visibleScopeIds) →
    ∀ scopeId ∈ conflict.scopeIds, scopeId ∈ visibleScopeIds

instance (conflict : IntegrationConflict) :
    Decidable (FirstScopeDecides audience visibleScopeIds conflict) :=
  inferInstanceAs (Decidable (_ → _ → _))

/-- The audience that is cleared for a Finding placed by the empty scope sees that
scope. -/
def EmptyScopeSeen (finding : ReviewFinding) : Prop :=
  disclosureRank finding.disclosure ≤ disclosureRank audience →
    finding.scope.bind ReviewScope.governedId = some "" → "" ∈ visibleScopeIds

end Agreement

section Paths

variable {c : CollaborationCoordinator} {sha256 : StableValue → String}
  {cohort : IntegrationCohort} {audience : DisclosureClassification}
  {visibleScopeIds : List String} {cohortId : String} {evidence : List Evidence}

/-- The blockers an audience is given, in the order of the sourced ones. -/
theorem projectedBlockers_getElem? (hcohort : c.cohorts.get? cohortId = some cohort)
    {now : String} {explanation : CollaborationPolicyExplanation} {c' : CollaborationCoordinator}
    (h : c.evaluateLanding sha256 ⟨cohortId, evidence, some audience, some visibleScopeIds⟩ now
      = .ok (explanation, c')) {i : Nat} {source : BlockerSource} {blocker : CollaborationBlocker}
    (hi : (c.sourcedBlockers sha256 cohort evidence)[i]? = some (source, blocker)) :
    explanation.blockers[i]? = some (if blockerVisible audience visibleScopeIds blocker then blocker
      else restrictedBlocker cohort.id blocker) := by
  have hraw : (c.landingBlockers sha256 cohort evidence)[i]? = some blocker := by
    rw [← map_snd_sourcedBlockers, List.getElem?_map, hi]
    rfl
  simp only [evaluateLanding, requireCohort, hcohort, orThrow] at h
  cases h
  simp [projectExplanation, explain, hraw]

/-- What the explanation goes by: the audience is cleared for the record and sees the
one scope its blocker keeps, if it keeps one. -/
def SourceShown (audience : DisclosureClassification) (visibleScopeIds : List String) :
    BlockerSource → Prop
  | .conflict conflict =>
    disclosureRank conflict.disclosure ≤ disclosureRank audience ∧
      ∀ scopeId ∈ truthy conflict.scopeIds.head?, scopeId ∈ visibleScopeIds
  | .finding finding =>
    disclosureRank finding.disclosure ≤ disclosureRank audience ∧
      ∀ scopeId ∈ truthy (finding.scope.bind ReviewScope.governedId), scopeId ∈ visibleScopeIds
  | .requirement requirement => requirementVisible audience visibleScopeIds requirement
  | .cohort | .evidence => True

/-- Whichever check of a requirement failed, its blocker keeps the scope. -/
theorem reviewBlocker_scope {requirement : ReviewRequirement} {blocker : CollaborationBlocker}
    (h : c.reviewBlocker requirement = some blocker) :
    blocker.disclosure = requirement.disclosure ∧
      blocker.scopeId = some requirement.scopeId := by
  unfold reviewBlocker at h
  simp only at h
  split at h
  · cases h
    exact ⟨rfl, rfl⟩
  · split at h
    · split at h
      · cases h
        exact ⟨rfl, rfl⟩
      · cases h
        exact ⟨rfl, rfl⟩
    · cases h

/-- A blocker about a hidden record is shown by the scope it keeps of the record. -/
theorem blockerVisible_iff {source : BlockerSource} {blocker : CollaborationBlocker}
    (h : (source, blocker) ∈ c.sourcedBlockers sha256 cohort evidence)
    (hhidden : HiddenSource audience visibleScopeIds source) :
    blockerVisible audience visibleScopeIds blocker ↔
      SourceShown audience visibleScopeIds source := by
  rw [sourcedBlockers, List.mem_append, List.mem_append, List.mem_append, List.mem_append] at h
  rcases h with (((h | h) | h) | h) | h
  · obtain ⟨_, -, heq⟩ := List.mem_map.mp h
    cases heq
    cases hhidden
  · rw [conflictBlockers, blockingConflicts, List.zip_map'] at h
    obtain ⟨conflict, -, heq⟩ := List.mem_map.mp h
    cases heq
    rfl
  · rw [findingBlockers, blockingFindings, List.zip_map'] at h
    obtain ⟨finding, -, heq⟩ := List.mem_map.mp h
    cases heq
    rfl
  · obtain ⟨requirement, -, heq⟩ := List.mem_filterMap.mp h
    obtain ⟨raw, hraw, heq⟩ := Option.map_eq_some_iff.mp heq
    cases heq
    have hkept := reviewBlocker_scope hraw
    simp [blockerVisible, SourceShown, requirementVisible, scopeVisible, hkept]
  · obtain ⟨_, -, heq⟩ := List.mem_map.mp h
    cases heq
    cases hhidden

theorem exists_conflict_source (sha256 : StableValue → String) (evidence : List Evidence)
    {conflict : IntegrationConflict} (h : conflict ∈ c.blockingConflicts cohort) :
    ∃ blocker, (.conflict conflict, blocker) ∈ c.sourcedBlockers sha256 cohort evidence := by
  have hzip : ∃ blocker, (BlockerSource.conflict conflict, blocker) ∈
      ((c.blockingConflicts cohort).map .conflict).zip (c.conflictBlockers cohort) := by
    rw [conflictBlockers, ← blockingConflicts, List.zip_map']
    exact ⟨_, List.mem_map.mpr ⟨conflict, h, rfl⟩⟩
  obtain ⟨blocker, hmem⟩ := hzip
  refine ⟨blocker, ?_⟩
  simp only [sourcedBlockers, List.mem_append]
  exact .inl (.inl (.inl (.inr hmem)))

theorem exists_finding_source (sha256 : StableValue → String) (evidence : List Evidence)
    {finding : ReviewFinding} (h : finding ∈ c.blockingFindings cohort) :
    ∃ blocker, (.finding finding, blocker) ∈ c.sourcedBlockers sha256 cohort evidence := by
  have hzip : ∃ blocker, (BlockerSource.finding finding, blocker) ∈
      ((c.blockingFindings cohort).map .finding).zip (c.findingBlockers cohort) := by
    rw [findingBlockers, ← blockingFindings, List.zip_map']
    exact ⟨_, List.mem_map.mpr ⟨finding, h, rfl⟩⟩
  obtain ⟨blocker, hmem⟩ := hzip
  refine ⟨blocker, ?_⟩
  simp only [sourcedBlockers, List.mem_append]
  exact .inl (.inl (.inr hmem))

/-- Only blocking Conflicts and Findings, and requirements, are sources. -/
theorem source_cases {source : BlockerSource} {blocker : CollaborationBlocker}
    (h : (source, blocker) ∈ c.sourcedBlockers sha256 cohort evidence)
    (hhidden : HiddenSource audience visibleScopeIds source) :
    (∃ conflict ∈ c.blockingConflicts cohort, source = .conflict conflict) ∨
      (∃ finding ∈ c.blockingFindings cohort, source = .finding finding) ∨
        ∃ requirement, source = .requirement requirement := by
  simp only [sourcedBlockers, List.mem_append] at h
  rcases h with (((h | h) | h) | h) | h
  · obtain ⟨_, -, heq⟩ := List.mem_map.mp h
    cases heq
    cases hhidden
  · obtain ⟨conflict, hmem, rfl⟩ := List.mem_map.mp (List.of_mem_zip h).1
    exact .inl ⟨conflict, hmem, rfl⟩
  · obtain ⟨finding, hmem, rfl⟩ := List.mem_map.mp (List.of_mem_zip h).1
    exact .inr (.inl ⟨finding, hmem, rfl⟩)
  · obtain ⟨requirement, -, heq⟩ := List.mem_filterMap.mp h
    obtain ⟨_, -, heq⟩ := Option.map_eq_some_iff.mp heq
    cases heq
    exact .inr (.inr ⟨requirement, rfl⟩)
  · obtain ⟨_, -, heq⟩ := List.mem_map.mp h
    cases heq
    cases hhidden

/-- A Conflict that is both hidden and shown is one its first scope does not decide. -/
theorem firstScopeDecides_iff {conflict : IntegrationConflict} :
    FirstScopeDecides audience visibleScopeIds conflict ↔
      (HiddenSource audience visibleScopeIds (.conflict conflict) →
        ¬ SourceShown audience visibleScopeIds (.conflict conflict)) := by
  unfold FirstScopeDecides HiddenSource SourceShown conflictVisible scopeVisible
  tauto

/-- A Finding that is both hidden and shown is placed by the empty scope. -/
theorem emptyScopeSeen_iff {finding : ReviewFinding} :
    EmptyScopeSeen audience visibleScopeIds finding ↔
      (HiddenSource audience visibleScopeIds (.finding finding) →
        ¬ SourceShown audience visibleScopeIds (.finding finding)) := by
  constructor
  · rintro hseen hhidden ⟨hrank, hshown⟩
    refine hhidden ⟨hrank, fun scopeId hplace => ?_⟩
    rw [Option.mem_toList] at hplace
    by_cases hempty : scopeId = ""
    · subst hempty
      exact hseen hrank hplace
    · exact hshown scopeId (truthy_eq_some.mpr ⟨hplace, hempty⟩)
  · intro h hrank hplace
    by_contra hunseen
    refine h (fun hvisible => hunseen (hvisible.2 "" (Option.mem_toList.mpr hplace)))
      ⟨hrank, fun scopeId hscope => ?_⟩
    obtain ⟨heq, hne⟩ := truthy_eq_some.mp hscope
    rw [hplace] at heq
    exact absurd (Option.some.inj heq).symm hne

/-- Agreeing paths show nothing of a hidden record: the evaluation returns, so a shown
blocker would be in its explanation. -/
theorem DisclosuresAgree.not_shown
    (hagree : DisclosuresAgree audience visibleScopeIds c sha256 cohortId evidence)
    (hcohort : c.cohorts.get? cohortId = some cohort) {source : BlockerSource}
    {blocker : CollaborationBlocker}
    (hmem : (source, blocker) ∈ c.sourcedBlockers sha256 cohort evidence)
    (hhidden : HiddenSource audience visibleScopeIds source) :
    ¬ SourceShown audience visibleScopeIds source := by
  obtain ⟨i, hi⟩ := List.getElem?_of_mem hmem
  have heval : ∃ explanation c', c.evaluateLanding sha256
      ⟨cohortId, evidence, some audience, some visibleScopeIds⟩ "" = .ok (explanation, c') := by
    simp only [evaluateLanding, requireCohort, hcohort, orThrow]
    exact ⟨_, _, rfl⟩
  obtain ⟨explanation, c', heval⟩ := heval
  rw [← blockerVisible_iff hmem hhidden]
  exact (hagree cohort hcohort "" explanation c' heval i source blocker hi hhidden).1

/-- **When the two disclosure paths agree**: every Conflict that blocks the Landing is
decided by its first scope, and the empty scope of a Finding is seen. -/
theorem disclosuresAgree_iff (c : CollaborationCoordinator) (sha256 : StableValue → String)
    (cohortId : String) (evidence : List Evidence) (audience : DisclosureClassification)
    (visibleScopeIds : List String) :
    DisclosuresAgree audience visibleScopeIds c sha256 cohortId evidence ↔
      ∀ cohort ∈ c.cohorts.get? cohortId,
        (∀ conflict ∈ c.blockingConflicts cohort,
          FirstScopeDecides audience visibleScopeIds conflict) ∧
        ∀ finding ∈ c.blockingFindings cohort,
          EmptyScopeSeen audience visibleScopeIds finding := by
  constructor
  · intro hagree cohort hcohort
    refine ⟨fun conflict hmem => firstScopeDecides_iff.mpr fun hhidden => ?_,
      fun finding hmem => emptyScopeSeen_iff.mpr fun hhidden => ?_⟩
    · obtain ⟨blocker, hsource⟩ := exists_conflict_source sha256 evidence hmem
      exact hagree.not_shown hcohort hsource hhidden
    · obtain ⟨blocker, hsource⟩ := exists_finding_source sha256 evidence hmem
      exact hagree.not_shown hcohort hsource hhidden
  · intro hdecided cohort hcohort now explanation c' heval i source blocker hi hhidden
    obtain ⟨hconflicts, hfindings⟩ := hdecided cohort hcohort
    have hmem := List.mem_of_getElem? hi
    have hnotShown : ¬ SourceShown audience visibleScopeIds source := by
      rcases source_cases hmem hhidden with
        ⟨conflict, hblocks, rfl⟩ | ⟨finding, hblocks, rfl⟩ | ⟨requirement, rfl⟩
      · exact firstScopeDecides_iff.mp (hconflicts conflict hblocks) hhidden
      · exact emptyScopeSeen_iff.mp (hfindings finding hblocks) hhidden
      · exact hhidden
    have hnotVisible := (blockerVisible_iff hmem hhidden).not.mpr hnotShown
    refine ⟨hnotVisible, ?_⟩
    rw [projectedBlockers_getElem? hcohort heval hi, if_neg hnotVisible]

end Paths

end CollaborationCoordinator

namespace CohortSample

/-- A blocking Conflict in a scope the Project sees and one it does not. -/
def vaultClash : IntegrationConflictCandidate where
  kind := .semantic
  severity := .blocking
  changeIds := ["change:A"]
  scopeIds := ["module", "vault"]
  description := "clash in the vault"
  disclosure := .project
  receipt := "analyzer=analyzer"
  recoveryAction := "resolve the clash"

/-- `sha256`, with the digest of that Conflict. -/
def sha256Clash (value : StableValue) : String :=
  if value = .integrationConflict "cohort" "analyzer" vaultClash then
    "d58a91256f8b233d0a4d9ff60f53611c6ba5ce70302e530d038c3d3396b260be"
  else sha256 value

/-- The cohort, with the Conflict its analyzer reported. -/
def clashing : CollaborationCoordinator :=
  (exec (CollaborationSystem.step sha256Clash)
    (.initial { configured ⟨"v1", [], none⟩ [] with analyzers := ["analyzer"] })
    [.beginCohort (declaring []) "c" "t0", .analyzerAnswered 0 (some [vaultClash]) "t1"]).2.control

end CohortSample

open CohortSample in
/-- The explanation goes by the first scope and shows the description of the Conflict,
which the projection of the cohort restricts. -/
theorem vault_clash_explained :
    ¬ DisclosuresAgree .project ["module"] clashing sha256Clash "cohort" [] := by
  intro hagree
  have hfiled : ∃ cohort ∈ clashing.cohorts.get? "cohort",
      ∃ conflict ∈ clashing.blockingConflicts cohort,
        ¬ FirstScopeDecides .project ["module"] conflict := by
    decide +kernel
  obtain ⟨cohort, hcohort, conflict, hblocks, hundecided⟩ := hfiled
  obtain ⟨blocker, hsource⟩ := exists_conflict_source sha256Clash [] hblocks
  exact hundecided (firstScopeDecides_iff.mpr fun hhidden =>
    hagree.not_shown hcohort hsource hhidden)

end Anyam.ChangeControl
