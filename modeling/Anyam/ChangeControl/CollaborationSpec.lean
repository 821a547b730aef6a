import Anyam.ChangeControl.Evaluation

/-!
# What each collaboration method establishes

One lemma per method of `CollaborationCoordinator` about cohorts, approvals and the
Landing decision. Most methods leave cohorts and approvals alone (`SameReviews`); the
run-level proofs use these lemmas and never unfold a method.
-/

namespace Anyam.ChangeControl

open Anyam.Lib Anyam.Kernel

/-! ## Methods that leave cohorts and approvals alone -/

/-- The two states have the same cohorts, approvals and ownership rules. -/
structure SameReviews (c c' : CollaborationCoordinator) : Prop where
  cohorts : c'.cohorts = c.cohorts
  approvals : c'.approvals = c.approvals
  ownershipRules : c'.ownershipRules = c.ownershipRules

theorem SameReviews.refl (c : CollaborationCoordinator) : SameReviews c c := ⟨rfl, rfl, rfl⟩

theorem SameReviews.trans {c₁ c₂ c₃ : CollaborationCoordinator} (h : SameReviews c₁ c₂)
    (h' : SameReviews c₂ c₃) : SameReviews c₁ c₃ :=
  ⟨h'.cohorts.trans h.cohorts, h'.approvals.trans h.approvals,
    h'.ownershipRules.trans h.ownershipRules⟩

namespace CollaborationCoordinator

variable {c c' : CollaborationCoordinator} {sha256 : StableValue → String} {now : String}

theorem appendAudit_sameReviews (event : CollaborationAuditEvent) :
    SameReviews c (c.appendAudit event) := ⟨rfl, rfl, rfl⟩

/-- Auditing a list of things leaves the reviews alone. -/
theorem foldl_sameReviews {α : Type} {f : CollaborationCoordinator → α → CollaborationCoordinator}
    (hf : ∀ c a, SameReviews c (f c a)) (l : List α) (c : CollaborationCoordinator) :
    SameReviews c (l.foldl f c) := by
  induction l generalizing c with
  | nil => exact .refl c
  | cons a l ih => exact (hf c a).trans (ih (f c a))

theorem auditAuthor_sameReviews (cohortId : String) (actor : ActorRef) (now : String)
    (c : CollaborationCoordinator) (member : IntegrationCohortMember) :
    SameReviews c (auditAuthor cohortId actor now c member) := by
  unfold auditAuthor
  split
  · exact .refl c
  · exact appendAudit_sameReviews _

theorem auditVerifiers_sameReviews (c : CollaborationCoordinator) (cohort : IntegrationCohort)
    (evidence : List Evidence) (now : String) : SameReviews c (c.auditVerifiers cohort evidence now) :=
  foldl_sameReviews (fun _ _ => appendAudit_sameReviews _) _ c

theorem setCanonicalProjectRevision_sameReviews {revision : ProjectRevision}
    (h : c.setCanonicalProjectRevision revision = .ok c') : SameReviews c c' := by
  simp only [setCanonicalProjectRevision, bind_eq_ok, pure_eq_ok, exists_unit] at h
  obtain ⟨-, rfl⟩ := h
  exact ⟨rfl, rfl, rfl⟩

theorem activatePolicy_sameReviews {policy : CollaborationPolicy}
    (h : c.activatePolicy policy = .ok c') : SameReviews c c' := by
  simp only [activatePolicy, bind_eq_ok, pure_eq_ok, exists_unit] at h
  obtain ⟨-, -, rfl⟩ := h
  exact ⟨rfl, rfl, rfl⟩

theorem recordPromotionAuthority_sameReviews {input : RecordPromotionInput}
    (h : c.recordPromotionAuthority input now = .ok c') : SameReviews c c' := by
  simp only [recordPromotionAuthority, bind_eq_ok, pure_eq_ok, exists_unit] at h
  obtain ⟨-, -, -, -, rfl⟩ := h
  exact appendAudit_sameReviews _

theorem submitFinding_sameReviews {input : SubmitFindingInput} {uuid : String}
    {finding : ReviewFinding} (h : c.submitFinding input uuid now = .ok (finding, c')) :
    SameReviews c c' := by
  simp only [submitFinding, bind_eq_ok, exists_unit] at h
  obtain ⟨cohort, -, member, -, -, h⟩ := h
  split at h
  · simp only [bind_eq_ok, pure_eq_ok, Prod.mk.injEq] at h
    obtain ⟨existing, -, -, rfl⟩ := h
    exact .refl c
  · simp only [pure_eq_ok, Prod.mk.injEq] at h
    obtain ⟨-, rfl⟩ := h
    exact ⟨rfl, rfl, rfl⟩

theorem resolveFinding_sameReviews {input : ResolveFindingInput} {finding : ReviewFinding}
    (h : c.resolveFinding input now = .ok (finding, c')) : SameReviews c c' := by
  simp only [resolveFinding, bind_eq_ok, pure_eq_ok, exists_unit, Prod.mk.injEq] at h
  obtain ⟨old, -, -, -, rfl⟩ := h
  exact ⟨rfl, rfl, rfl⟩

theorem resolveConflict_sameReviews {input : ResolveIntegrationConflictInput}
    {conflict : IntegrationConflict} (h : c.resolveConflict input now = .ok (conflict, c')) :
    SameReviews c c' := by
  simp only [resolveConflict, bind_eq_ok, pure_eq_ok, exists_unit, Prod.mk.injEq] at h
  obtain ⟨old, -, cohort, -, -, -, rfl⟩ := h
  exact ⟨rfl, rfl, rfl⟩

/-! ## Evaluation -/

theorem requireCohort_eq_ok {cohortId : String} {cohort : IntegrationCohort} :
    c.requireCohort cohortId = .ok cohort ↔ c.cohorts.get? cohortId = some cohort := by
  simp only [requireCohort, orThrow_eq_ok]

/-- An evaluation explains the known cohort, for whatever audience, and audits. -/
theorem evaluateLanding_ok {input : CollaborationEvaluationInput}
    {explanation : CollaborationPolicyExplanation}
    (h : c.evaluateLanding sha256 input now = .ok (explanation, c')) :
    ∃ cohort, c.cohorts.get? input.cohortId = some cohort ∧
      (explanation = c.explain sha256 cohort input.evidence ∨
        ∃ audience visibleScopeIds, explanation =
          projectExplanation (c.explain sha256 cohort input.evidence) audience visibleScopeIds) ∧
      c' = c.auditVerifiers cohort input.evidence now := by
  simp only [evaluateLanding, bind_eq_ok, requireCohort_eq_ok] at h
  obtain ⟨cohort, hcohort, h⟩ := h
  split at h
  · simp only [pure_eq_ok, Prod.mk.injEq] at h
    exact ⟨cohort, hcohort, .inl h.1.symm, h.2.symm⟩
  · simp only [pure_eq_ok, Prod.mk.injEq] at h
    exact ⟨cohort, hcohort, .inr ⟨_, _, h.1.symm⟩, h.2.symm⟩

/-- **An evaluation allows** exactly what no check blocks, whoever the audience. -/
theorem evaluateLanding_allow {input : CollaborationEvaluationInput}
    {explanation : CollaborationPolicyExplanation}
    (h : c.evaluateLanding sha256 input now = .ok (explanation, c'))
    (hallow : explanation.decision = .allow) :
    ∃ cohort, c.cohorts.get? input.cohortId = some cohort ∧
      c.landingBlockers sha256 cohort input.evidence = [] := by
  obtain ⟨cohort, hcohort, hexplanation, -⟩ := evaluateLanding_ok h
  refine ⟨cohort, hcohort, ?_⟩
  -- projecting an explanation keeps its decision
  have hdecision : (c.explain sha256 cohort input.evidence).decision = .allow := by
    rcases hexplanation with rfl | ⟨audience, visibleScopeIds, rfl⟩
    · exact hallow
    · exact hallow
  by_contra hblocked
  simp only [explain, if_neg hblocked] at hdecision
  cases hdecision

/-- A started Landing has read a known cohort; the rest of the step is audit. -/
theorem beginLand_ok (c : CollaborationCoordinator) (sha256 : StableValue → String)
    (input : CollaborationEvaluationInput) (actor : ActorRef) (now : String) :
    SameReviews c (c.beginLand sha256 input actor now).2 ∧
      ∀ call, (c.beginLand sha256 input actor now).1 = .ok call →
        call.cohort ∈ c.cohorts.values := by
  unfold beginLand
  cases heval : c.evaluateLanding sha256 input now with
  | error e =>
    refine ⟨.refl c, fun call hcall => ?_⟩
    cases hcall
  | ok result =>
    obtain ⟨explanation, audited⟩ := result
    obtain ⟨cohort, hcohort, -, rfl⟩ := evaluateLanding_ok heval
    have hsame := auditVerifiers_sameReviews c cohort input.evidence now
    refine ⟨hsame, fun call hcall => ?_⟩
    simp only [bind_eq_ok, pure_eq_ok, exists_unit, requireCohort_eq_ok, hsame.cohorts] at hcall
    obtain ⟨-, -, found, hfound, rfl⟩ := hcall
    exact OrderedMap.mem_values_of_get? hfound

/-! ## Cohorts -/

/-- What `createCohort` makes of its members: they are of different Changes, and an
author with a non-empty id is recorded by id too. -/
structure ComposedMembers (members : List IntegrationCohortMember) : Prop where
  distinct : (members.map IntegrationCohortMember.changeId).Nodup
  authors : ∀ member ∈ members,
    member.authorActorId = truthy (member.author.map ActorRef.actorId)

theorem ComposedMembers.nil : ComposedMembers [] :=
  ⟨List.nodup_nil, fun _ h => nomatch h⟩

/-- A member of the cohort is known by its Change. -/
theorem ComposedMembers.eq_of_changeId {members : List IntegrationCohortMember}
    (h : ComposedMembers members) {m m' : IntegrationCohortMember} (hm : m ∈ members)
    (hm' : m' ∈ members) (heq : m.changeId = m'.changeId) : m = m' :=
  List.inj_on_of_nodup_map h.distinct hm hm' heq

theorem composeMembers_ok {base : String} {candidates : List CreateCohortMemberInput}
    {composed members : List IntegrationCohortMember} (hcomposed : ComposedMembers composed)
    (h : c.composeMembers base composed candidates = .ok members) : ComposedMembers members := by
  induction candidates generalizing composed with
  | nil =>
    cases h
    exact hcomposed
  | cons candidate rest ih =>
    simp only [composeMembers, bind_eq_ok] at h
    obtain ⟨member, hmember, hrest⟩ := h
    simp only [composeMember, bind_eq_ok, require_eq_ok, exists_unit, pure_eq_ok] at hmember
    obtain ⟨-, ⟨hnew, -⟩, -, -, -, rfl⟩ := hmember
    refine ih ⟨?_, fun m hm => ?_⟩ hrest
    · rw [List.map_append, List.map_singleton, List.nodup_append]
      refine ⟨hcomposed.distinct, List.nodup_singleton _, ?_⟩
      rintro a ha b hb rfl
      rw [List.mem_singleton] at hb
      subst hb
      exact hnew ha
    · rcases List.mem_append.mp hm with hold | hlast
      · exact hcomposed.authors m hold
      · rw [List.mem_singleton] at hlast
        subst hlast
        rfl

theorem beginCohort_ok {input : CreateCohortInput} {uuid : String} {call : CohortCall}
    (h : c.beginCohort input uuid = .ok call) : ComposedMembers call.members := by
  simp only [beginCohort, bind_eq_ok, exists_unit, pure_eq_ok] at h
  obtain ⟨-, members, hmembers, rfl⟩ := h
  exact composeMembers_ok .nil hmembers

theorem detectConflict_sameReviews {call : CohortCall} {analyzerId : String}
    {candidate : IntegrationConflictCandidate} {conflict : IntegrationConflict}
    (h : c.detectConflict sha256 call analyzerId candidate now = .ok (conflict, c')) :
    SameReviews c c' := by
  simp only [detectConflict, bind_eq_ok, exists_unit, pure_eq_ok, Prod.mk.injEq] at h
  obtain ⟨-, -, -, -, rfl⟩ := h
  exact ⟨rfl, rfl, rfl⟩

theorem detectConflicts_sameReviews (sha256 : StableValue → String) (call : CohortCall)
    (analyzerId now : String) (candidates : List IntegrationConflictCandidate)
    (c : CollaborationCoordinator) (conflictIds : List String) :
    SameReviews c (detectConflicts sha256 call analyzerId now c conflictIds candidates).2 := by
  induction candidates generalizing c conflictIds with
  | nil => exact .refl c
  | cons candidate rest ih =>
    unfold detectConflicts
    cases h : c.detectConflict sha256 call analyzerId candidate now with
    | error e => exact .refl c
    | ok result => exact (detectConflict_sameReviews h).trans (ih result.2 _)

/-- An analyzer's answer files Conflicts at most, and the call keeps its members. -/
theorem analyzerAnswered_sameReviews (c : CollaborationCoordinator)
    (sha256 : StableValue → String) (call : CohortCall)
    (candidates : Option (List IntegrationConflictCandidate)) (now : String) :
    SameReviews c (c.analyzerAnswered sha256 call candidates now).2 ∧
      ∀ next, (c.analyzerAnswered sha256 call candidates now).1 = .ok next →
        next.members = call.members := by
  unfold analyzerAnswered
  split
  · exact ⟨.refl c, fun next h => by cases h; rfl⟩
  · exact ⟨.refl c, nofun⟩
  · rename_i analyzerId pending candidates hpending
    have hsame := detectConflicts_sameReviews sha256 call analyzerId now candidates c
      call.conflictIds
    split
    · rename_i heq
      rw [heq] at hsame
      exact ⟨hsame, nofun⟩
    · rename_i heq
      rw [heq] at hsame
      exact ⟨hsame, fun next h => by cases h; rfl⟩

/-- `createCohort` files the call's members under the cohort's id. -/
theorem finishCohort_ok (call : CohortCall) (now : String) :
    (c.finishCohort call now).1.members = call.members ∧
      (c.finishCohort call now).2.cohorts =
        c.cohorts.set (c.finishCohort call now).1.id (c.finishCohort call now).1 ∧
      (c.finishCohort call now).2.approvals = c.approvals ∧
      (c.finishCohort call now).2.ownershipRules = c.ownershipRules := by
  have hsame := foldl_sameReviews
    (auditAuthor_sameReviews (c.composedCohort call now).id call.actor now) call.members
    { c with cohorts := c.cohorts.set (c.composedCohort call now).id (c.composedCohort call now) }
  exact ⟨rfl, hsame.cohorts, hsame.approvals, hsame.ownershipRules⟩

/-- A finished Landing files the cohort it read, as landed. -/
theorem finishLand_ok {call : LandCall} {landing : Option Landing}
    {result : Landing × CollaborationPolicyExplanation}
    (h : c.finishLand call landing now = .ok (result, c')) :
    ∃ landed : IntegrationCohort, landed.id = call.cohort.id ∧
      landed.members = call.cohort.members ∧ landed.state = .landed ∧
      c'.cohorts = c.cohorts.set landed.id landed ∧ c'.approvals = c.approvals ∧
      c'.ownershipRules = c.ownershipRules := by
  simp only [finishLand, bind_eq_ok, orThrow_eq_ok, exists_unit, pure_eq_ok, Prod.mk.injEq] at h
  obtain ⟨result, -, -, -, rfl⟩ := h
  exact ⟨{ call.cohort with state := .landed, updatedAt := now, receipt := _ },
    rfl, rfl, rfl, rfl, rfl, rfl⟩

/-! ## Approvals -/

/-- The requirement is stated for the cohort's member by a rule, under the hashed
id. -/
theorem mem_requirementsFor {cohort : IntegrationCohort} {requirement : ReviewRequirement} :
    requirement ∈ c.requirementsFor sha256 cohort ↔
      ∃ member ∈ cohort.members, ∃ rule ∈ c.ownershipRules, governs rule member ∧
        requirement = c.reviewRequirement sha256 cohort.id member rule := by
  simp only [requirementsFor, requirementsOf, List.mem_flatMap, List.mem_map, List.mem_filter,
    decide_eq_true_eq]
  constructor
  · rintro ⟨member, hmember, rule, ⟨hrule, hgoverns⟩, rfl⟩
    exact ⟨member, hmember, rule, hrule, hgoverns, rfl⟩
  · rintro ⟨member, hmember, rule, hrule, hgoverns, rfl⟩
    exact ⟨member, hmember, rule, ⟨hrule, hgoverns⟩, rfl⟩

/-- What `approve` checks: the requirement is the named one of a known cohort, and the
reviewer is neither the author on record nor a verifier of a member of its Change. -/
theorem approveChecks_ok {input : ApproveInput} {cohort : IntegrationCohort}
    {requirement : ReviewRequirement} {member : IntegrationCohortMember}
    (h : c.approveChecks sha256 input = .ok (cohort, requirement, member)) :
    c.cohorts.get? input.cohortId = some cohort ∧
      requirement ∈ c.requirementsFor sha256 cohort ∧ requirement.id = input.requirementId ∧
      member ∈ cohort.members ∧ member.changeId = requirement.changeId ∧
      some input.reviewer.actorId ≠ member.authorActorId ∧
      input.reviewer.actorId ∉ member.verifierActorIds := by
  simp only [approveChecks, requirementFor, requireMember, bind_eq_ok, requireCohort_eq_ok,
    orThrow_eq_ok, require_eq_ok, exists_unit, pure_eq_ok, Prod.mk.injEq] at h
  obtain ⟨found, hcohort, stated, hstated, held, hheld, ⟨hauthor, hverifier⟩, -, rfl, rfl, rfl⟩ := h
  have hmatch := List.find?_some hheld
  simp only [decide_eq_true_eq] at hmatch
  exact ⟨hcohort, List.mem_of_find?_eq_some hstated, by simpa using List.find?_some hstated,
    List.mem_of_find?_eq_some hheld, hmatch.1, hauthor, hverifier⟩

/-- `approve` returns an approval given before and changes nothing, or files a new
one for a checked requirement. -/
theorem approve_ok {input : ApproveInput} {uuid : String} {approval : ReviewApproval}
    (h : c.approve sha256 input uuid now = .ok (approval, c')) :
    c' = c ∨ ∃ cohort requirement member,
      c.approveChecks sha256 input = .ok (cohort, requirement, member) ∧
      approval = c.newApproval input uuid now cohort requirement member ∧
      c' = c.fileApproval input requirement approval now := by
  simp only [approve, bind_eq_ok] at h
  obtain ⟨⟨cohort, requirement, member⟩, hchecks, h⟩ := h
  simp only at h
  split at h
  · simp only [bind_eq_ok, pure_eq_ok, Prod.mk.injEq] at h
    obtain ⟨existing, -, -, rfl⟩ := h
    exact .inl rfl
  · split at h
    · simp only [pure_eq_ok, Prod.mk.injEq] at h
      exact .inl h.2.symm
    · simp only [pure_eq_ok, Prod.mk.injEq] at h
      obtain ⟨rfl, rfl⟩ := h
      exact .inr ⟨cohort, requirement, member, hchecks, rfl, rfl⟩

end CollaborationCoordinator

end Anyam.ChangeControl
