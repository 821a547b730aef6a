import Anyam.ChangeControl.Collaboration

/-!
# Landing policy

`evaluateLanding`, `projectExplanation` and `land` of the collaboration coordinator.

Each check of `evaluateLanding` contributes its own list of blockers; the decision is
`allow` when they are all empty. `land` suspends at the Landing authority and is split
there into `beginLand` and `finishLand`.
-/

namespace Anyam.ChangeControl

open Anyam.Lib Anyam.Kernel

structure CollaborationEvaluationInput where
  cohortId : String
  evidence : List Evidence
  audience : Option DisclosureClassification := none
  visibleScopeIds : Option (List String) := none
deriving DecidableEq, Repr

/-- A `land` call between its suspension and its writes: the cohort it read, and the
explanation that allowed it. -/
structure LandCall where
  cohort : IntegrationCohort
  explanation : CollaborationPolicyExplanation
  actor : ActorRef
deriving DecidableEq, Repr

/-- `disclosureRank`. -/
def disclosureRank : DisclosureClassification → Nat
  | .«public» => 0
  | .project => 1
  | .restricted => 2

/-- `finding.scope?.sourceSpaceId ?? finding.scope?.moduleId ?? finding.scope?.targetId`. -/
def ReviewScope.governedId (scope : ReviewScope) : Option String :=
  (scope.sourceSpaceId.or scope.moduleId).or scope.targetId

namespace CollaborationCoordinator

/-! ## Evidence requirements -/

/-- `matchesContext`: the record has every context field the requirement binds. -/
def MatchesContext (requirement : EvidenceRequirement) (record : Evidence) : Prop :=
  (∀ id ∈ requirement.expectedProjectRevisionId, record.projectRevisionId = id) ∧
    (∀ id ∈ requirement.expectedProjectViewId, record.projectViewId = id) ∧
    (∀ id ∈ requirement.expectedChangeRevisionId, record.changeRevisionId = some id) ∧
    (∀ id ∈ requirement.expectedTargetId, record.targetId = some id) ∧
    ∀ classification ∈ requirement.expectedDisclosureClassification,
      record.disclosure.classification = classification

instance (requirement : EvidenceRequirement) (record : Evidence) :
    Decidable (MatchesContext requirement record) :=
  inferInstanceAs (Decidable (_ ∧ _ ∧ _ ∧ _ ∧ _))

/-- The record a requirement is checked against: the latest of its key that matches
the context, or else the latest of its key. -/
def selectEvidence (requirement : EvidenceRequirement) (evidence : List Evidence) : Option Evidence :=
  let records := evidence.filter (·.key = requirement.key)
  (records.reverse.find? (MatchesContext requirement ·)).or records.reverse.head?

/-- The blocker of one requirement, if it has one. -/
def evidenceBlocker (requirement : EvidenceRequirement) (cohortId : String) (evidence : List Evidence) :
    Option CollaborationBlocker :=
  match selectEvidence requirement evidence with
  | none => some {
      kind := .missingEvidence
      affectedObject := requirement.key
      disclosure := .project
      message := s!"Evidence {requirement.key} is missing for Integration Cohort {cohortId}."
      recoveryAction := "run the required Action or Verifier and attach its Evidence to the exact Change Revision"
      safeCommand := s!"anyam check --cohort {cohortId}" }
  | some record =>
    if (¬ MatchesContext requirement record ∨ record.validityKey ≠ requirement.currentValidityKey) ∧
        record.outcome = .passed then some {
      kind := .staleEvidence
      affectedObject := requirement.key
      disclosure := .project
      message := s!"Evidence {requirement.key} is stale for the current Integration Cohort state."
      recoveryAction := "rerun the required Action or Verifier against the exact Change Revision and current policy"
      safeCommand := s!"anyam check --cohort {cohortId} --refresh" }
    else if record.outcome ≠ .passed then some {
      kind := if record.outcome = .failed then .failedEvidence else .staleEvidence
      affectedObject := requirement.key
      disclosure := .project
      message := s!"Evidence {requirement.key} is {record.outcome} for Integration Cohort {cohortId}."
      recoveryAction := "inspect the Evidence receipt, repair the failing Action, and produce a fresh Evidence record"
      safeCommand := s!"anyam check --cohort {cohortId} --refresh" }
    else none

/-- The key `requiredEvidenceFor` deduplicates by. -/
def evidenceKey (requirement : EvidenceRequirement) : String :=
  let changeRevisionId := requirement.expectedChangeRevisionId.getD ""
  let targetId := requirement.expectedTargetId.getD ""
  s!"{requirement.key}:{requirement.currentValidityKey}:{changeRevisionId}:{targetId}"

/-- An unbound requirement of an effect is bound to the member that declares it. -/
def boundTo (requirement : EvidenceRequirement) (changeRevisionId : String) :
    EvidenceRequirement :=
  { requirement with
    expectedChangeRevisionId := requirement.expectedChangeRevisionId.or (some changeRevisionId) }

variable (c : CollaborationCoordinator)

/-- The requirements the active policy attaches to one declared effect. -/
def effectRequirements (effect : String) : List EvidenceRequirement :=
  (c.policy.requiredEvidenceByEffect.bind (·.get? effect)).getD []

/-- The requirements of the active policy for a cohort: the global ones, and those of
each declared effect of each member. -/
def policyEvidence (cohort : IntegrationCohort) : List EvidenceRequirement :=
  c.policy.requiredEvidence ++ cohort.members.flatMap fun member =>
    member.declaredEffects.flatMap fun effect =>
      (c.effectRequirements effect).map (boundTo · member.changeRevisionId)

/-- `requiredEvidenceFor`: of the requirements with one key, the first. -/
def requiredEvidenceFor (cohort : IntegrationCohort) : List EvidenceRequirement :=
  dedupeBy evidenceKey (c.policyEvidence cohort)

/-! ## The checks -/

def stateBlockers (cohort : IntegrationCohort) : List CollaborationBlocker :=
  if cohort.state = .landed then [{
    kind := .invalidState
    affectedObject := cohort.id
    disclosure := .project
    message := s!"Integration Cohort {cohort.id} has already Landed."
    recoveryAction := "create a new Change for any further work"
    safeCommand := s!"anyam change create --from-cohort {cohort.id}" }]
  else []

def baseBlockers (cohort : IntegrationCohort) : List CollaborationBlocker :=
  if c.canonicalRevision.id ≠ cohort.baseProjectRevisionId then [{
    kind := .staleBase
    affectedObject := cohort.id
    disclosure := .project
    message := s!"Integration Cohort {cohort.id} is based on {cohort.baseProjectRevisionId}, but canonical state is {c.canonicalRevision.id}."
    recoveryAction := "rebase every Change in the Cohort onto the current canonical Project Revision and reverify"
    safeCommand := s!"anyam change rebase --cohort {cohort.id}" }]
  else []

def conflictBlockers (cohort : IntegrationCohort) : List CollaborationBlocker :=
  ((c.listConflicts cohort.id).filter fun candidate =>
      candidate.state = .«open» ∧ candidate.severity = .blocking).map fun conflict => {
    kind := .openConflict
    affectedObject := conflict.id
    changeId := truthy conflict.changeIds.head?
    scopeId := truthy conflict.scopeIds.head?
    disclosure := conflict.disclosure
    message := conflict.description
    recoveryAction := conflict.recoveryAction
    safeCommand := s!"anyam cohort inspect {cohort.id}" }

def findingBlockers (cohort : IntegrationCohort) : List CollaborationBlocker :=
  ((c.listFindings cohort.id).filter fun candidate =>
      candidate.state = .«open» ∧
        (candidate.severity = .blocking ∨ candidate.kind = .requestChanges)).map fun finding => {
    kind := .openFinding
    affectedObject := finding.id
    changeId := some finding.changeId
    scopeId := truthy (finding.scope.bind ReviewScope.governedId)
    disclosure := finding.disclosure
    message := s!"Review Finding {finding.id} requests a new Change Revision before Landing."
    recoveryAction := "address the Finding, publish a new immutable Change Revision, and request review again"
    safeCommand := s!"anyam change publish --fix {finding.changeId}" }

/-- The approvals of a requirement that are for its exact Change Revision and under
the active policy. -/
def currentApprovals (requirement : ReviewRequirement) : List ReviewApproval :=
  c.approvals.values.filter fun approval =>
    approval.requirementId = requirement.id ∧
      approval.changeRevisionId = requirement.changeRevisionId ∧
      approval.policyVersion = c.policy.version

/-- By its own record, the approval is from the author or a verifier. -/
def InvalidDuty (approval : ReviewApproval) : Prop :=
  some approval.reviewer.actorId = approval.authorActorId ∨
    approval.reviewer.actorId ∈ approval.verifierActorIds

instance (approval : ReviewApproval) : Decidable (InvalidDuty approval) :=
  inferInstanceAs (Decidable (_ ∨ _))

/-- The blocker of one Review Requirement, if it has one. -/
def reviewBlocker (requirement : ReviewRequirement) : Option CollaborationBlocker :=
  let approvals := c.approvals.values.filter (·.requirementId = requirement.id)
  let current := c.currentApprovals requirement
  if ∃ approval ∈ current, InvalidDuty approval then some {
    kind := .separationOfDuty
    affectedObject := requirement.id
    changeId := some requirement.changeId
    scopeId := some requirement.scopeId
    disclosure := requirement.disclosure
    message := s!"Requirement {requirement.id} has an approval from the Change author or verifier."
    recoveryAction := "obtain approval from an independent reviewer for the exact Change Revision"
    safeCommand := s!"anyam change review request {requirement.changeId}" }
  else if current = [] then
    if approvals ≠ [] then some {
      kind := .staleApproval
      affectedObject := requirement.id
      changeId := some requirement.changeId
      scopeId := some requirement.scopeId
      disclosure := requirement.disclosure
      message := s!"Required review for {requirement.changeId} is stale for Change Revision {requirement.changeRevisionId}."
      recoveryAction := "review the latest immutable Change Revision and approve it again"
      safeCommand := s!"anyam change review request {requirement.changeId}" }
    else some {
      kind := .requiredReviewer
      affectedObject := requirement.id
      changeId := some requirement.changeId
      scopeId := some requirement.scopeId
      disclosure := requirement.disclosure
      message := if requirement.candidatePrincipalIds = [] then
          s!"No active reviewer candidate is configured for {requirement.changeId} Revision {requirement.changeRevisionId}."
        else
          s!"An eligible reviewer has not approved {requirement.changeId} Revision {requirement.changeRevisionId}."
      recoveryAction := "request review from the configured module, Source Space, or Target owner"
      safeCommand := s!"anyam change review request {requirement.changeId}" }
  else none

def reviewBlockers (sha256 : StableValue → String) (cohort : IntegrationCohort) :
    List CollaborationBlocker :=
  (c.requirementsFor sha256 cohort).filterMap c.reviewBlocker

def evidenceBlockers (cohort : IntegrationCohort) (evidence : List Evidence) :
    List CollaborationBlocker :=
  (c.requiredEvidenceFor cohort).filterMap (evidenceBlocker · cohort.id evidence)

/-- Every blocker of a Landing, in the order the checks run. -/
def landingBlockers (sha256 : StableValue → String) (cohort : IntegrationCohort)
    (evidence : List Evidence) : List CollaborationBlocker :=
  stateBlockers cohort ++ c.baseBlockers cohort ++ c.conflictBlockers cohort ++
    c.findingBlockers cohort ++ c.reviewBlockers sha256 cohort ++
    c.evidenceBlockers cohort evidence

/-! ## Evaluation -/

/-- The verifiers of the cohort's evidence, audited once for each member and Actor. -/
def auditVerifiers (cohort : IntegrationCohort) (evidence : List Evidence) (now : String) :
    CollaborationCoordinator :=
  let observed := evidence.filter fun record =>
    ∃ member ∈ cohort.members, record.changeRevisionId = some member.changeRevisionId
  let auditKey := fun (record : Evidence) =>
    let changeRevisionId := record.changeRevisionId.getD ""
    s!"{changeRevisionId}:{record.actor.actorId}"
  (dedupeBy auditKey observed).foldl (fun c record => c.appendAudit {
    projectId := c.projectId
    cohortId := some cohort.id
    changeId := none
    changeRevisionId := record.changeRevisionId
    role := .verifier
    action := "evidence.observed"
    outcome := if record.outcome = .passed then .succeeded else .denied
    actor := record.actor
    policyVersion := record.policyVersion
    disclosure := record.disclosure.classification
    occurredAt := now
    receipt := s!"evidence={record.id}; key={record.key}; outcome={record.outcome}" }) c

/-- The blocker may be shown to the audience. -/
def blockerVisible (audience : DisclosureClassification) (visibleScopeIds : List String)
    (blocker : CollaborationBlocker) : Prop :=
  disclosureRank blocker.disclosure ≤ disclosureRank audience ∧
    ∀ scopeId ∈ blocker.scopeId, scopeId ∈ visibleScopeIds

instance (audience : DisclosureClassification) (visibleScopeIds : List String)
    (blocker : CollaborationBlocker) :
    Decidable (blockerVisible audience visibleScopeIds blocker) :=
  inferInstanceAs (Decidable (_ ∧ _))

/-- What is left of a blocker the audience may not see. -/
def restrictedBlocker (cohortId : String) (blocker : CollaborationBlocker) :
    CollaborationBlocker where
  kind := blocker.kind
  affectedObject := cohortId
  disclosure := blocker.disclosure
  message := "A restricted review, Evidence, or conflict requirement blocks this operation."
  recoveryAction := "request an authorized maintainer Review Projection for the next permitted action"
  safeCommand := s!"anyam cohort inspect {cohortId}"

def projectExplanation (explanation : CollaborationPolicyExplanation)
    (audience : DisclosureClassification) (visibleScopeIds : List String) :
    CollaborationPolicyExplanation :=
  let blockers := explanation.blockers.map fun blocker =>
    if blockerVisible audience visibleScopeIds blocker then blocker
    else restrictedBlocker explanation.cohortId blocker
  { explanation with
    blockers
    safeNextCommands := distinct (blockers.map CollaborationBlocker.safeCommand) }

/-- The explanation before it is projected to an audience. -/
def explain (sha256 : StableValue → String) (cohort : IntegrationCohort)
    (evidence : List Evidence) : CollaborationPolicyExplanation :=
  let blockers := c.landingBlockers sha256 cohort evidence
  let decision : CollaborationDecision := if blockers = [] then .allow else .deny
  { projectId := c.projectId
    cohortId := cohort.id
    decision
    policyVersion := c.policy.version
    authorizationEpoch := truthy c.authorizationEpoch
    baseProjectRevisionId := cohort.baseProjectRevisionId
    currentCanonicalProjectRevisionId := c.canonicalRevision.id
    blockers
    safeNextCommands := distinct (blockers.map CollaborationBlocker.safeCommand)
    receipt := s!"cohort={cohort.id}; decision={decision}; blockers={blockers.length}; policy={c.policy.version}; base={cohort.baseProjectRevisionId}; canonical={c.canonicalRevision.id}" }

def evaluateLanding (sha256 : StableValue → String) (input : CollaborationEvaluationInput)
    (now : String) :
    Except CollaborationError (CollaborationPolicyExplanation × CollaborationCoordinator) := do
  let cohort ← c.requireCohort input.cohortId
  let explanation := c.explain sha256 cohort input.evidence
  let audited := c.auditVerifiers cohort input.evidence now
  if input.audience = none ∧ input.visibleScopeIds = none then
    return (explanation, audited)
  else
    return (projectExplanation explanation (input.audience.getD .project)
      (input.visibleScopeIds.getD []), audited)

/-! ## Landing -/

/-- `land`, up to the Landing authority. The audits of the evaluation stay also when
the Landing is refused. -/
def beginLand (sha256 : StableValue → String) (input : CollaborationEvaluationInput)
    (actor : ActorRef) (now : String) :
    Except CollaborationError LandCall × CollaborationCoordinator :=
  match c.evaluateLanding sha256 input now with
  | .error error => (.error error, c)
  | .ok (explanation, audited) =>
    let checked : Except CollaborationError LandCall := do
      require (explanation.decision = .allow) {
        code := .policyBlocked
        message := s!"Landing is blocked for Integration Cohort {input.cohortId}."
        affectedObject := input.cohortId
        recoveryAction := explanation.safeNextCommands.head?.getD
          "inspect the Policy Explanation and resolve its blockers"
        receipt := explanation.receipt
        explanation := some explanation }
      require (audited.landingAuthority = true) {
        code := .landingAuthorityUnavailable
        message := "No trusted Landing authority is configured for this collaboration coordinator."
        affectedObject := input.cohortId
        recoveryAction := "connect the Project coordinator's Landing authority; developer tools and agents cannot perform Landing directly"
        receipt := s!"cohort={input.cohortId}; landingAuthority=configured=false" }
      let cohort ← audited.requireCohort input.cohortId
      return { cohort, explanation, actor }
    (checked, audited)

/-- Two lists have the same elements, as `sameSet` compares the sets made of them. -/
def sameSet (left right : List String) : Prop :=
  (distinct left).length = (distinct right).length ∧ ∀ value ∈ distinct left, value ∈ right

instance (left right : List String) : Decidable (sameSet left right) :=
  inferInstanceAs (Decidable (_ ∧ _))

/-- The rest of `land`, once the authority landed something or threw (`none`). The
cohort it files is the one it read before it suspended. -/
def finishLand (call : LandCall) (landing : Option Landing) (now : String) :
    Except CollaborationFailure
      ((Landing × CollaborationPolicyExplanation) × CollaborationCoordinator) := do
  let landing ← orThrow landing .thrown
  let cohort := call.cohort
  let expectedChanges := cohort.members.map IntegrationCohortMember.changeId
  let expectedRevisions := cohort.members.map IntegrationCohortMember.changeRevisionId
  let actualChanges := landing.changeIds.getD []
  let actualRevisions := landing.changeRevisionIds.getD []
  let landedCohort := landing.cohortId.getD "none"
  let landedChanges := ",".intercalate (distinct actualChanges)
  let namedChanges := ",".intercalate (distinct expectedChanges)
  let landedRevisions := ",".intercalate (distinct actualRevisions)
  let namedRevisions := ",".intercalate (distinct expectedRevisions)
  require (landing.projectId = c.projectId ∧ landing.cohortId = some cohort.id ∧
      sameSet actualChanges expectedChanges ∧ sameSet actualRevisions expectedRevisions)
    (CollaborationFailure.rejected {
      code := .landingResultMismatch
      message := "Landing authority returned a result that does not identify the requested Integration Cohort."
      affectedObject := cohort.id
      recoveryAction := "reconcile the Landing authority receipt before accepting canonical state"
      receipt := s!"cohort={cohort.id}; landingProject={landing.projectId}; landingCohort={landedCohort}; landedChanges={landedChanges}; expectedChanges={namedChanges}; landedRevisions={landedRevisions}; expectedRevisions={namedRevisions}" })
  let landed : IntegrationCohort := { cohort with
    state := .landed
    updatedAt := now
    receipt := s!"cohort=landed; landing={landing.id}; next={landing.projectRevisionId}" }
  let filed := { c with cohorts := c.cohorts.set cohort.id landed }
  return ((landing, call.explanation), filed.appendAudit {
    projectId := c.projectId
    cohortId := some cohort.id
    changeId := none
    changeRevisionId := none
    role := .landing
    action := "landing.completed"
    outcome := .succeeded
    actor := call.actor
    policyVersion := c.policy.version
    disclosure := .project
    occurredAt := now
    receipt := landing.receipt })

end CollaborationCoordinator

end Anyam.ChangeControl
