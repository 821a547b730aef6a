import Anyam.ChangeControl.Evaluation
import Anyam.Lib.Redaction

/-!
# The Disclosure Projection of a cohort

`projectCohort` of the collaboration coordinator: a cohort with its Conflicts, Findings
and Review Requirements as an audience may see them. A record the audience may not see
keeps its place in the listing with a chosen set of fields overwritten.
-/

namespace Anyam.ChangeControl

open Anyam.Lib Anyam.Kernel

structure ProjectCohortInput where
  cohortId : String
  audience : DisclosureClassification
  visibleScopeIds : List String
deriving DecidableEq, Repr

structure CohortProjection where
  cohort : IntegrationCohort
  conflicts : List IntegrationConflict
  findings : List ReviewFinding
  requirements : List ReviewRequirement
deriving DecidableEq, Repr

namespace CollaborationCoordinator

/-! ## Visibility -/

section Audience

variable (audience : DisclosureClassification) (visibleScopeIds : List String)

/-- `scopeVisible`: the audience is cleared for the record and sees all its scopes. -/
def scopeVisible (scopeIds : List String) (disclosure : DisclosureClassification) : Prop :=
  disclosureRank disclosure ≤ disclosureRank audience ∧ ∀ scopeId ∈ scopeIds, scopeId ∈ visibleScopeIds

instance (scopeIds : List String) (disclosure : DisclosureClassification) :
    Decidable (scopeVisible audience visibleScopeIds scopeIds disclosure) :=
  inferInstanceAs (Decidable (_ ∧ _))

def conflictVisible (conflict : IntegrationConflict) : Prop :=
  scopeVisible audience visibleScopeIds conflict.scopeIds conflict.disclosure

/-- A Finding is placed by one scope: its Source Space, else its Module, else its
Target. -/
def findingVisible (finding : ReviewFinding) : Prop :=
  scopeVisible audience visibleScopeIds (finding.scope.bind ReviewScope.governedId).toList
    finding.disclosure

def requirementVisible (requirement : ReviewRequirement) : Prop :=
  scopeVisible audience visibleScopeIds [requirement.scopeId] requirement.disclosure

instance : DecidablePred (conflictVisible audience visibleScopeIds) :=
  fun _ => inferInstanceAs (Decidable (scopeVisible ..))

instance : DecidablePred (findingVisible audience visibleScopeIds) :=
  fun _ => inferInstanceAs (Decidable (scopeVisible ..))

instance : DecidablePred (requirementVisible audience visibleScopeIds) :=
  fun _ => inferInstanceAs (Decidable (scopeVisible ..))

end Audience

/-! ## Redaction -/

/-- A member keeps only the affected scopes the audience sees. -/
def projectedMember (visibleScopeIds : List String) (member : IntegrationCohortMember) :
    IntegrationCohortMember :=
  { member with
    affectedModuleIds := member.affectedModuleIds.filter (· ∈ visibleScopeIds)
    affectedSourceSpaceIds := member.affectedSourceSpaceIds.filter (· ∈ visibleScopeIds)
    affectedTargetIds := member.affectedTargetIds.filter (· ∈ visibleScopeIds) }

def restrictedConflict (conflict : IntegrationConflict) : IntegrationConflict :=
  { conflict with
    changeIds := []
    changeRevisionIds := []
    scopeIds := []
    analyzerId := ""
    description := "A restricted Integration Conflict requires maintainer review."
    receipt := s!"conflict={conflict.id}; disclosure=projection-only" }

def restrictedFinding (finding : ReviewFinding) : ReviewFinding :=
  { finding with
    summary := "A restricted Review Finding requires maintainer attention."
    receipt := s!"finding={finding.id}; disclosure=projection-only"
    scope := none }

def restrictedRequirement (requirement : ReviewRequirement) : ReviewRequirement :=
  { requirement with
    ruleId := ""
    scopeId := ""
    reason := "An authorized owner Review is required."
    requiredReviewerPrincipalIds := []
    requiredReviewerTeamIds := []
    candidatePrincipalIds := [] }

/-! ## The projection -/

def projectCohort (c : CollaborationCoordinator) (sha256 : StableValue → String)
    (input : ProjectCohortInput) : Except CollaborationError CohortProjection := do
  let cohort ← c.requireCohort input.cohortId
  let requirements ← c.listReviewRequirements sha256 cohort.id
  return {
    cohort := { cohort with
      members := cohort.members.map (projectedMember input.visibleScopeIds) }
    conflicts := (c.listConflicts cohort.id).map
      (shown (conflictVisible input.audience input.visibleScopeIds) restrictedConflict)
    findings := (c.listFindings cohort.id).map
      (shown (findingVisible input.audience input.visibleScopeIds) restrictedFinding)
    requirements := requirements.map
      (shown (requirementVisible input.audience input.visibleScopeIds) restrictedRequirement) }

end CollaborationCoordinator

end Anyam.ChangeControl
