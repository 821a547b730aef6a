import Anyam.ChangeControl.CollaborationRecords
import Anyam.Lib.Dedupe
import Anyam.Lib.Guards

/-!
# The collaboration coordinator

`CollaborationCoordinator` of `change-control/collaboration.ts`: Integration Cohorts
with the Conflicts analyzers report on them, Review Findings, and the approvals of
the Review Requirements that ownership rules state. Landing policy is in
`Evaluation`.

A synchronous method is a function into `Except`. `createCohort` suspends once for
each analyzer and writes Conflicts between suspensions, also when it throws later;
it is split into `beginCohort`, `analyzerAnswered` and `finishCohort`.

The clock and the drawn identifiers are arguments. `sha256` is the digest of the JSON
text of a value; it is a parameter, like the Unicode tables.
-/

namespace Anyam.ChangeControl

open Anyam.Lib Anyam.Kernel

/-! ## The declared-effect analyzer -/

/-- `classifyEffect`, by the wording of the effect. -/
def classifyEffect (text : UnicodeText) (effect : String) : IntegrationConflictKind :=
  let normalized := text.toLowerCase effect
  if startsWith normalized "textual." ∨ includes normalized "text-conflict" then .textual
  else if startsWith normalized "schema." ∨ includes normalized "migration" then .schema
  else if startsWith normalized "dependency." ∨ includes normalized "lockfile" then .dependency
  else if startsWith normalized "policy." ∨ includes normalized "ownership" then .policy
  else if startsWith normalized "disclosure." ∨ includes normalized "private" then .disclosure
  else .semantic

def IntegrationCohortMember.scopeIds (member : IntegrationCohortMember) : List String :=
  member.affectedModuleIds ++ member.affectedSourceSpaceIds ++ member.affectedTargetIds

/-- The candidate for one effect two members both declare. -/
def overlapCandidate (text : UnicodeText) (left right : IntegrationCohortMember)
    (effect : String) : IntegrationConflictCandidate where
  kind := classifyEffect text effect
  severity := .blocking
  changeIds := [left.changeId, right.changeId]
  scopeIds := distinct (left.scopeIds ++ right.scopeIds)
  description := s!"Changes {left.changeId} and {right.changeId} both declare effect {effect}."
  disclosure := .project
  receipt := s!"analyzer=analyzer:declared-effect-overlap/v1; effect={effect}; left={left.changeId}; right={right.changeId}"
  recoveryAction := "run a semantic analyzer or publish a new Change Revision that resolves the effect conflict"

/-- `declaredEffectOverlapAnalyzer.analyze`: one candidate for each pair of members
and each effect of the first that the second declares too. -/
def declaredEffectOverlap (text : UnicodeText) :
    List IntegrationCohortMember → List IntegrationConflictCandidate
  | [] => []
  | left :: rest =>
    (rest.flatMap fun right =>
      (left.declaredEffects.filter (· ∈ right.declaredEffects)).map
        (overlapCandidate text left right)) ++ declaredEffectOverlap text rest

structure CollaborationCoordinator where
  projectId : String
  policy : CollaborationPolicy
  ownershipRules : List ReviewOwnershipRule
  reviewerDirectory : List ReviewerDirectoryEntry
  analyzers : List String
  landingAuthority : Bool
  authorizationEpoch : Option String
  canonicalRevision : ProjectRevision
  cohorts : OrderedMap String IntegrationCohort
  conflicts : OrderedMap String IntegrationConflict
  findings : OrderedMap String ReviewFinding
  approvals : OrderedMap String ReviewApproval
  idempotency : OrderedMap String String
  audit : List CollaborationAuditEvent
deriving DecidableEq, Repr

/-- A `createCohort` call between its suspensions: the checked members, the analyzers
that have not answered, and the Conflicts filed so far. -/
structure CohortCall where
  cohortId : String
  baseProjectRevisionId : String
  members : List IntegrationCohortMember
  actor : ActorRef
  pending : List String
  conflictIds : List String
deriving DecidableEq, Repr

/-- `nonEmpty(value, field)`. -/
def nonEmpty (value field : String) : Except CollaborationError Unit :=
  require (trim value ≠ "") {
    code := .invalidInput
    message := s!"{field} must not be empty."
    affectedObject := field
    recoveryAction := s!"provide a non-empty {field} and retry"
    receipt := s!"field={field}; present=false" }

/-- `actorForId`: an Actor known by id only, in the session of another. -/
def actorForId (actorId : String) (fallback : ActorRef) : ActorRef :=
  { fallback with actorId }

namespace CollaborationCoordinator

/-! ## Construction and configuration -/

/-- The constructor's state. -/
def initial (input : CollaborationCoordinatorInput) : CollaborationCoordinator where
  projectId := input.projectId
  policy := input.policy
  ownershipRules := input.ownershipRules
  reviewerDirectory := input.reviewerDirectory
  analyzers := input.analyzers
  landingAuthority := input.landingAuthority
  authorizationEpoch := input.authorizationEpoch
  canonicalRevision := input.canonicalRevision
  cohorts := OrderedMap.empty
  conflicts := OrderedMap.empty
  findings := OrderedMap.empty
  approvals := OrderedMap.empty
  idempotency := OrderedMap.empty
  audit := []

def create (input : CollaborationCoordinatorInput) :
    Except CollaborationError CollaborationCoordinator := do
  nonEmpty input.projectId "projectId"
  require (input.canonicalRevision.projectId = input.projectId) {
    code := .projectMismatch
    message := s!"Canonical Project Revision {input.canonicalRevision.id} belongs to {input.canonicalRevision.projectId}, not {input.projectId}."
    affectedObject := input.canonicalRevision.id
    recoveryAction := "construct the collaboration coordinator with the Project's canonical revision"
    receipt := s!"canonicalProject={input.canonicalRevision.projectId}; coordinatorProject={input.projectId}" }
  nonEmpty input.policy.version "policy.version"
  return initial input

variable (c : CollaborationCoordinator)

def setCanonicalProjectRevision (revision : ProjectRevision) :
    Except CollaborationError CollaborationCoordinator := do
  require (revision.projectId = c.projectId) {
    code := .projectMismatch
    message := s!"Canonical Project Revision {revision.id} belongs to another Project."
    affectedObject := revision.id
    recoveryAction := "update collaboration state with the owning Project's canonical revision"
    receipt := s!"revisionProject={revision.projectId}; coordinatorProject={c.projectId}" }
  return { c with canonicalRevision := revision }

def activatePolicy (policy : CollaborationPolicy) :
    Except CollaborationError CollaborationCoordinator := do
  nonEmpty policy.version "policy.version"
  require (policy.version ≠ c.policy.version) {
    code := .invalidInput
    message := s!"Policy {policy.version} is already active."
    affectedObject := policy.version
    recoveryAction := "activate a new immutable policy version before re-evaluating approvals"
    receipt := s!"policy={policy.version}; active=true" }
  return { c with policy }

/-! ## Lookups -/

def requireCohort (cohortId : String) : Except CollaborationError IntegrationCohort :=
  orThrow (c.cohorts.get? cohortId) {
    code := .cohortNotFound
    message := s!"Integration Cohort {cohortId} is not known."
    affectedObject := cohortId
    recoveryAction := "create or restore the Integration Cohort and retry"
    receipt := s!"cohort={cohortId}; known=false" }

def requireMember (cohort : IntegrationCohort) (changeId changeRevisionId : String) :
    Except CollaborationError IntegrationCohortMember :=
  orThrow (cohort.members.find? fun candidate =>
      candidate.changeId = changeId ∧ candidate.changeRevisionId = changeRevisionId) {
    code := .changeRevisionMismatch
    message := s!"Change {changeId} Revision {changeRevisionId} is not a member of Cohort {cohort.id}."
    affectedObject := changeId
    recoveryAction := "select the exact Change Revision composed by the Integration Cohort"
    receipt := s!"cohort={cohort.id}; change={changeId}; revision={changeRevisionId}; member=false" }

def listConflicts (cohortId : String) : List IntegrationConflict :=
  c.conflicts.values.filter (·.cohortId = cohortId)

def listFindings (cohortId : String) : List ReviewFinding :=
  c.findings.values.filter (·.cohortId = cohortId)

/-! ## Audit -/

/-- `appendAudit`; an empty optional id is left off the event. -/
def appendAudit (event : CollaborationAuditEvent) : CollaborationCoordinator :=
  { c with audit := c.audit ++ [{ event with
      cohortId := truthy event.cohortId
      changeId := truthy event.changeId
      changeRevisionId := truthy event.changeRevisionId }] }

/-! ## Review Requirements -/

/-- The rule's scope is one the member affects. -/
def governs (rule : ReviewOwnershipRule) (member : IntegrationCohortMember) : Prop :=
  match rule.scopeKind with
  | .«module» => rule.scopeId ∈ member.affectedModuleIds
  | .sourceSpace => rule.scopeId ∈ member.affectedSourceSpaceIds
  | .target => rule.scopeId ∈ member.affectedTargetIds

instance (rule : ReviewOwnershipRule) (member : IntegrationCohortMember) :
    Decidable (governs rule member) :=
  match h : rule.scopeKind with
  | .«module» => decidable_of_iff (rule.scopeId ∈ member.affectedModuleIds) (by simp [governs, h])
  | .sourceSpace =>
    decidable_of_iff (rule.scopeId ∈ member.affectedSourceSpaceIds) (by simp [governs, h])
  | .target => decidable_of_iff (rule.scopeId ∈ member.affectedTargetIds) (by simp [governs, h])

/-- The active directory entries a rule names, by principal or by team. -/
def candidatePrincipals (rule : ReviewOwnershipRule) : List String :=
  distinct <| (c.reviewerDirectory.filter fun entry =>
    entry.active ≠ some false ∧ (entry.principalId ∈ rule.requiredReviewerPrincipalIds ∨
      ∃ teamId ∈ entry.teamIds, teamId ∈ rule.requiredReviewerTeamIds)).map
    ReviewerDirectoryEntry.principalId

def requirementKey (cohortId : String) (member : IntegrationCohortMember)
    (rule : ReviewOwnershipRule) : RequirementKey where
  cohortId := cohortId
  ruleId := rule.id
  changeId := member.changeId
  changeRevisionId := member.changeRevisionId

def reviewRequirement (sha256 : StableValue → String) (cohortId : String)
    (member : IntegrationCohortMember) (rule : ReviewOwnershipRule) : ReviewRequirement where
  id := requirementId sha256 (requirementKey cohortId member rule)
  ruleId := rule.id
  changeId := member.changeId
  changeRevisionId := member.changeRevisionId
  scopeKind := rule.scopeKind
  scopeId := rule.scopeId
  disclosure := rule.disclosure
  requiredReviewerPrincipalIds := rule.requiredReviewerPrincipalIds
  requiredReviewerTeamIds := rule.requiredReviewerTeamIds
  candidatePrincipalIds := c.candidatePrincipals rule
  reason := rule.label.getD s!"{rule.scopeKind} owner review is required"

/-- The requirements of one member. -/
def requirementsOf (sha256 : StableValue → String) (cohortId : String)
    (member : IntegrationCohortMember) : List ReviewRequirement :=
  (c.ownershipRules.filter (governs · member)).map (c.reviewRequirement sha256 cohortId member)

def requirementsFor (sha256 : StableValue → String) (cohort : IntegrationCohort) :
    List ReviewRequirement :=
  cohort.members.flatMap (c.requirementsOf sha256 cohort.id)

def listReviewRequirements (sha256 : StableValue → String) (cohortId : String) :
    Except CollaborationError (List ReviewRequirement) :=
  (c.requireCohort cohortId).map (c.requirementsFor sha256)

def requirementFor (sha256 : StableValue → String) (cohort : IntegrationCohort)
    (requirementId : String) : Except CollaborationError ReviewRequirement :=
  orThrow ((c.requirementsFor sha256 cohort).find? (·.id = requirementId)) {
    code := .requirementNotFound
    message := s!"Review Requirement {requirementId} is not part of Integration Cohort {cohort.id}."
    affectedObject := requirementId
    recoveryAction := "refresh the Cohort and approve a currently required reviewer slot"
    receipt := s!"cohort={cohort.id}; requirement={requirementId}; known=false" }

/-! ## Cohorts -/

/-- The checks of one candidate against the members composed before it. -/
def composeMember (baseProjectRevisionId : String) (composed : List IntegrationCohortMember)
    (candidate : CreateCohortMemberInput) : Except CollaborationError IntegrationCohortMember := do
  let change := candidate.change
  let revision := candidate.revision
  require (change.projectId = c.projectId) {
    code := .projectMismatch
    message := s!"Change {change.id} or Revision {revision.id} does not belong to Project {c.projectId}."
    affectedObject := change.id
    recoveryAction := "select Change and Revision records from the coordinator's Project"
    receipt := s!"changeProject={change.projectId}; revisionProject=derived-from-change; coordinatorProject={c.projectId}" }
  require (change.id ∉ composed.map IntegrationCohortMember.changeId ∧
      revision.id ∉ composed.map IntegrationCohortMember.changeRevisionId) {
    code := .duplicateMember
    message := s!"Integration Cohort cannot include Change {change.id} or Revision {revision.id} more than once."
    affectedObject := change.id
    recoveryAction := "select one exact latest Change Revision per stable Change"
    receipt := s!"change={change.id}; revision={revision.id}; duplicate=true" }
  require (revision.changeId = change.id) {
    code := .changeRevisionMismatch
    message := s!"Change Revision {revision.id} belongs to {revision.changeId}, not {change.id}."
    affectedObject := revision.id
    recoveryAction := "select the Change Revision belonging to the requested Change"
    receipt := s!"change={change.id}; revisionChange={revision.changeId}" }
  let latest := change.latestRevisionId.getD "none"
  require (change.latestRevisionId = some revision.id) {
    code := .changeRevisionNotLatest
    message := s!"Change {change.id} no longer names Revision {revision.id} as its latest revision."
    affectedObject := change.id
    recoveryAction := "refresh the Change and compose its latest immutable Revision"
    receipt := s!"change={change.id}; latest={latest}; selected={revision.id}" }
  require (revision.base = baseProjectRevisionId ∧
      change.baseProjectRevisionId = baseProjectRevisionId) {
    code := .baseMismatch
    message := s!"Change {change.id} is not based on the requested cohort base Project Revision."
    affectedObject := change.id
    recoveryAction := s!"rebase {change.id} onto {baseProjectRevisionId}, publish a new Revision, and refresh the cohort"
    receipt := s!"changeBase={change.baseProjectRevisionId}; revisionBase={revision.base}; cohortBase={baseProjectRevisionId}" }
  let author := revision.author.or change.author
  return {
    changeId := change.id
    changeRevisionId := revision.id
    baseProjectRevisionId := revision.base
    author := author
    authorActorId := truthy (author.map ActorRef.actorId)
    verifierActorIds := (candidate.verifierActors.getD []).map ActorRef.actorId
    affectedModuleIds := revision.affectedModuleIds.getD []
    affectedSourceSpaceIds := revision.affectedSourceSpaceIds.getD []
    affectedTargetIds := revision.affectedTargetIds.getD []
    declaredEffects := revision.declaredEffects }

/-- The loop over the candidates, with the members composed so far. -/
def composeMembers (baseProjectRevisionId : String) :
    List IntegrationCohortMember → List CreateCohortMemberInput →
      Except CollaborationError (List IntegrationCohortMember)
  | composed, [] => .ok composed
  | composed, candidate :: rest => do
    let member ← c.composeMember baseProjectRevisionId composed candidate
    composeMembers baseProjectRevisionId (composed ++ [member]) rest

/-- `createCohort`, up to its first analyzer. -/
def beginCohort (input : CreateCohortInput) (uuid : String) :
    Except CollaborationError CohortCall := do
  require (input.members ≠ []) {
    code := .invalidInput
    message := "An Integration Cohort requires at least one Change Revision."
    affectedObject := c.projectId
    recoveryAction := "select at least one submitted Change Revision and retry cohort composition"
    receipt := "members=0" }
  let baseProjectRevisionId := input.baseProjectRevisionId.getD c.canonicalRevision.id
  let members ← c.composeMembers baseProjectRevisionId [] input.members
  return {
    cohortId := input.id.getD (opaqueId "integration-cohort" uuid)
    baseProjectRevisionId
    members
    actor := input.actor
    pending := c.analyzers
    conflictIds := [] }

/-- What an analyzer of the call is given. -/
def analyzerInput (call : CohortCall) : IntegrationAnalyzerInput where
  projectId := c.projectId
  baseProjectRevisionId := call.baseProjectRevisionId
  members := call.members

/-- The Conflict an accepted candidate becomes. -/
def detectedConflict (sha256 : StableValue → String) (call : CohortCall) (analyzerId : String)
    (candidate : IntegrationConflictCandidate) (now : String) : IntegrationConflict where
  id := stableId sha256 "integration-conflict"
    (.integrationConflict call.cohortId analyzerId candidate)
  projectId := c.projectId
  cohortId := call.cohortId
  kind := candidate.kind
  severity := candidate.severity
  state := .«open»
  changeIds := distinct candidate.changeIds
  changeRevisionIds := (call.members.filter (·.changeId ∈ candidate.changeIds)).map
    IntegrationCohortMember.changeRevisionId
  scopeIds := candidate.scopeIds
  analyzerId := analyzerId
  description := candidate.description
  disclosure := candidate.disclosure
  createdAt := now
  resolvedAt := none
  resolutionRevisionIds := none
  receipt := candidate.receipt
  recoveryAction := candidate.recoveryAction

/-- Check one candidate and file its Conflict. -/
def detectConflict (sha256 : StableValue → String) (call : CohortCall) (analyzerId : String)
    (candidate : IntegrationConflictCandidate) (now : String) :
    Except CollaborationError (IntegrationConflict × CollaborationCoordinator) := do
  let candidateChanges := distinct candidate.changeIds
  let named := ",".intercalate candidateChanges
  require (candidateChanges ≠ [] ∧
      ∀ changeId ∈ candidateChanges, changeId ∈ call.members.map IntegrationCohortMember.changeId) {
    code := .invalidInput
    message := s!"Analyzer {analyzerId} returned a conflict outside the Integration Cohort."
    affectedObject := analyzerId
    recoveryAction := "return only conflicts whose Change IDs belong to the analyzed cohort"
    receipt := s!"analyzer={analyzerId}; changeIds={named}" }
  nonEmpty candidate.description "conflict.description"
  nonEmpty candidate.receipt "conflict.receipt"
  let conflict := c.detectedConflict sha256 call analyzerId candidate now
  let filed := { c with conflicts := c.conflicts.set conflict.id conflict }
  return (conflict, filed.appendAudit {
    projectId := c.projectId
    cohortId := some call.cohortId
    changeId := none
    changeRevisionId := none
    role := .analyzer
    action := "integration-conflict.detected"
    outcome := .observed
    actor := call.actor
    policyVersion := c.policy.version
    disclosure := candidate.disclosure
    occurredAt := now
    receipt := s!"{candidate.receipt}; conflict={conflict.id}" })

/-- The loop over an analyzer's candidates. A candidate that is refused leaves the
Conflicts of the ones before it. -/
def detectConflicts (sha256 : StableValue → String) (call : CohortCall) (analyzerId now : String)
    (c : CollaborationCoordinator) (conflictIds : List String) :
    List IntegrationConflictCandidate →
      Except CollaborationError (List String) × CollaborationCoordinator
  | [] => (.ok conflictIds, c)
  | candidate :: rest =>
    match c.detectConflict sha256 call analyzerId candidate now with
    | .error error => (.error error, c)
    | .ok (conflict, next) =>
      detectConflicts sha256 call analyzerId now next (conflictIds ++ [conflict.id]) rest

/-- The next analyzer of the call answers with its candidates, or throws (`none`). -/
def analyzerAnswered (sha256 : StableValue → String) (call : CohortCall)
    (candidates : Option (List IntegrationConflictCandidate)) (now : String) :
    Except CollaborationFailure CohortCall × CollaborationCoordinator :=
  match call.pending, candidates with
  | [], _ => (.ok call, c)
  | _ :: _, none => (.error .thrown, c)
  | analyzerId :: pending, some candidates =>
    match detectConflicts sha256 call analyzerId now c call.conflictIds candidates with
    | (.error error, next) => (.error (.rejected error), next)
    | (.ok conflictIds, next) => (.ok { call with pending, conflictIds }, next)

/-- The record `createCohort` files once every analyzer answered. -/
def composedCohort (call : CohortCall) (now : String) : IntegrationCohort :=
  let members := ",".intercalate (call.members.map IntegrationCohortMember.changeId)
  { id := call.cohortId
    projectId := c.projectId
    baseProjectRevisionId := call.baseProjectRevisionId
    members := call.members
    conflictIds := call.conflictIds
    state := if ∃ id ∈ call.conflictIds, ∃ conflict ∈ c.conflicts.get? id,
        conflict.severity = .blocking then .blocked else .proposed
    createdBy := call.actor
    createdAt := now
    updatedAt := now
    receipt := s!"cohort=created; project={c.projectId}; base={call.baseProjectRevisionId}; members={members}; conflicts={call.conflictIds.length}" }

/-- The audit of one member's author, where one is recorded. -/
def auditAuthor (cohortId : String) (actor : ActorRef) (now : String)
    (c : CollaborationCoordinator) (member : IntegrationCohortMember) : CollaborationCoordinator :=
  match truthy member.authorActorId with
  | none => c
  | some authorActorId => c.appendAudit {
      projectId := c.projectId
      cohortId := some cohortId
      changeId := some member.changeId
      changeRevisionId := some member.changeRevisionId
      role := .author
      action := "change-revision.authored"
      outcome := .observed
      actor := member.author.getD (actorForId authorActorId actor)
      policyVersion := c.policy.version
      disclosure := .project
      occurredAt := now
      receipt := s!"change={member.changeId}; revision={member.changeRevisionId}; author={authorActorId}" }

/-- The end of `createCohort`: the cohort is filed under its id, whatever was there. -/
def finishCohort (call : CohortCall) (now : String) :
    IntegrationCohort × CollaborationCoordinator :=
  let cohort := c.composedCohort call now
  let filed := { c with cohorts := c.cohorts.set cohort.id cohort }
  (cohort, call.members.foldl (auditAuthor cohort.id call.actor now) filed)

/-! ## Findings and Conflicts -/

def submitFinding (input : SubmitFindingInput) (uuid now : String) :
    Except CollaborationError (ReviewFinding × CollaborationCoordinator) := do
  let cohort ← c.requireCohort input.cohortId
  let _ ← requireMember cohort input.changeId input.changeRevisionId
  nonEmpty input.summary "review.summary"
  let key := input.idempotencyKey.getD ""
  match (truthy input.idempotencyKey).bind fun key => truthy (c.idempotency.get? key) with
  | some existingId =>
    let existing ← orThrow ((c.findings.get? existingId).filter fun existing =>
        existing.changeId = input.changeId ∧
          existing.changeRevisionId = input.changeRevisionId) {
      code := .idempotencyConflict
      message := s!"Review idempotency key {key} was already used for another Change Revision."
      affectedObject := key
      recoveryAction := "use a new idempotency key for a different review finding"
      receipt := s!"idempotencyKey={key}; existingFinding={existingId}" }
    return (existing, c)
  | none =>
    let finding : ReviewFinding := {
      id := opaqueId "review-finding" uuid
      projectId := c.projectId
      cohortId := cohort.id
      changeId := input.changeId
      changeRevisionId := input.changeRevisionId
      author := input.author
      kind := input.kind
      severity := input.severity
      state := .«open»
      summary := input.summary
      scope := input.scope
      disclosure := input.disclosure.getD .project
      createdAt := now
      updatedAt := now
      resolution := none
      resolvedBy := none
      receipt := s!"finding=open; cohort={cohort.id}; change={input.changeId}; revision={input.changeRevisionId}; severity={input.severity}" }
    let filed := { c with
      findings := c.findings.set finding.id finding
      idempotency := match truthy input.idempotencyKey with
        | none => c.idempotency
        | some key => c.idempotency.set key finding.id }
    return (finding, filed.appendAudit {
      projectId := c.projectId
      cohortId := some cohort.id
      changeId := some finding.changeId
      changeRevisionId := some finding.changeRevisionId
      role := .reviewer
      action := "review.finding.submitted"
      outcome := .observed
      actor := input.author
      policyVersion := c.policy.version
      disclosure := finding.disclosure
      occurredAt := now
      receipt := finding.receipt })

def resolveFinding (input : ResolveFindingInput) (now : String) :
    Except CollaborationError (ReviewFinding × CollaborationCoordinator) := do
  let finding ← orThrow (c.findings.get? input.findingId) {
    code := .findingNotFound
    message := s!"Review Finding {input.findingId} is not known."
    affectedObject := input.findingId
    recoveryAction := "refresh the Change review and resolve a known Finding"
    receipt := s!"finding={input.findingId}; known=false" }
  nonEmpty input.resolution "review.resolution"
  let updated : ReviewFinding := { finding with
    state := .resolved
    resolution := some input.resolution
    resolvedBy := some input.actor
    updatedAt := now
    receipt := s!"finding=resolved; id={finding.id}; resolutionActor={input.actor.actorId}" }
  let filed := { c with findings := c.findings.set updated.id updated }
  return (updated, filed.appendAudit {
    projectId := c.projectId
    cohortId := some finding.cohortId
    changeId := some finding.changeId
    changeRevisionId := some finding.changeRevisionId
    role := .reviewer
    action := "review.finding.resolved"
    outcome := .succeeded
    actor := input.actor
    policyVersion := c.policy.version
    disclosure := finding.disclosure
    occurredAt := now
    receipt := updated.receipt })

def resolveConflict (input : ResolveIntegrationConflictInput) (now : String) :
    Except CollaborationError (IntegrationConflict × CollaborationCoordinator) := do
  let conflict ← orThrow (c.conflicts.get? input.conflictId) {
    code := .conflictNotFound
    message := s!"Integration Conflict {input.conflictId} is not known."
    affectedObject := input.conflictId
    recoveryAction := "refresh the Integration Cohort and resolve a known Conflict"
    receipt := s!"conflict={input.conflictId}; known=false" }
  let cohort ← c.requireCohort conflict.cohortId
  let named := ",".intercalate input.resolutionRevisionIds
  require (input.resolutionRevisionIds ≠ [] ∧ ∀ revisionId ∈ input.resolutionRevisionIds,
      revisionId ∈ cohort.members.map IntegrationCohortMember.changeRevisionId) {
    code := .invalidInput
    message := s!"Conflict {conflict.id} must be resolved by exact Change Revisions in its Cohort."
    affectedObject := conflict.id
    recoveryAction := "publish the conflict-resolution Change Revision and attach its exact ID"
    receipt := s!"conflict={conflict.id}; resolutionRevisions={named}" }
  let updated : IntegrationConflict := { conflict with
    state := .resolved
    resolvedAt := some now
    resolutionRevisionIds := some input.resolutionRevisionIds
    receipt := s!"conflict=resolved; id={conflict.id}; revisions={named}" }
  let filed := { c with conflicts := c.conflicts.set updated.id updated }
  return (updated, filed.appendAudit {
    projectId := c.projectId
    cohortId := some cohort.id
    changeId := none
    changeRevisionId := none
    role := .reviewer
    action := "integration-conflict.resolved"
    outcome := .succeeded
    actor := input.actor
    policyVersion := c.policy.version
    disclosure := conflict.disclosure
    occurredAt := now
    receipt := updated.receipt })

/-! ## Approvals -/

/-- The checks of `approve`, ending in the cohort, the requirement and its member. -/
def approveChecks (sha256 : StableValue → String) (input : ApproveInput) :
    Except CollaborationError
      (IntegrationCohort × ReviewRequirement × IntegrationCohortMember) := do
  let cohort ← c.requireCohort input.cohortId
  let requirement ← c.requirementFor sha256 cohort input.requirementId
  let member ← requireMember cohort requirement.changeId requirement.changeRevisionId
  let reviewer := input.reviewer.actorId
  let author := member.authorActorId.getD "none"
  let verifiers := ",".intercalate member.verifierActorIds
  require (some reviewer ≠ member.authorActorId ∧ reviewer ∉ member.verifierActorIds) {
    code := .separationOfDuty
    message := s!"Reviewer {reviewer} cannot approve a Change it authored or verified."
    affectedObject := requirement.id
    recoveryAction := "use an independent reviewer Actor and re-evaluate the current Change Revision"
    receipt := s!"requirement={requirement.id}; reviewer={reviewer}; author={author}; verifiers={verifiers}" }
  let candidates := ",".intercalate requirement.candidatePrincipalIds
  require (input.reviewer.principalId ∈ requirement.candidatePrincipalIds) {
    code := .reviewerNotRequired
    message := s!"Actor {reviewer} is not an eligible reviewer for requirement {requirement.id}."
    affectedObject := requirement.id
    recoveryAction := "request review from a configured module, Source Space, or Target owner"
    receipt := s!"requirement={requirement.id}; reviewer={input.reviewer.principalId}; candidates={candidates}" }
  return (cohort, requirement, member)

/-- The approval `approve` files for a checked requirement. -/
def newApproval (input : ApproveInput) (uuid now : String) (cohort : IntegrationCohort)
    (requirement : ReviewRequirement) (member : IntegrationCohortMember) : ReviewApproval where
  id := opaqueId "review-approval" uuid
  projectId := c.projectId
  cohortId := cohort.id
  requirementId := requirement.id
  changeId := requirement.changeId
  changeRevisionId := requirement.changeRevisionId
  reviewer := input.reviewer
  authorActorId := truthy member.authorActorId
  verifierActorIds := member.verifierActorIds
  evidenceIds := input.evidenceIds.getD []
  policyVersion := c.policy.version
  approvedAt := now
  receipt := s!"approval=approved; requirement={requirement.id}; change={requirement.changeId}; revision={requirement.changeRevisionId}; reviewer={input.reviewer.actorId}"

/-- The approval the same Actor already gave the requirement under the active policy. -/
def existingApproval (input : ApproveInput) (requirement : ReviewRequirement) :
    Option ReviewApproval :=
  c.approvals.values.find? fun approval =>
    approval.requirementId = requirement.id ∧
      approval.changeRevisionId = requirement.changeRevisionId ∧
      approval.reviewer.actorId = input.reviewer.actorId ∧
      approval.policyVersion = c.policy.version

/-- File a new approval, under its idempotency key if it has one. -/
def fileApproval (input : ApproveInput) (requirement : ReviewRequirement)
    (approval : ReviewApproval) (now : String) : CollaborationCoordinator :=
  { c with
    approvals := c.approvals.set approval.id approval
    idempotency := match truthy input.idempotencyKey with
      | none => c.idempotency
      | some key => c.idempotency.set key approval.id }.appendAudit {
    projectId := c.projectId
    cohortId := some approval.cohortId
    changeId := some approval.changeId
    changeRevisionId := some approval.changeRevisionId
    role := .reviewer
    action := "review.approved"
    outcome := .succeeded
    actor := input.reviewer
    policyVersion := c.policy.version
    disclosure := requirement.disclosure
    occurredAt := now
    receipt := approval.receipt }

def approve (sha256 : StableValue → String) (input : ApproveInput) (uuid now : String) :
    Except CollaborationError (ReviewApproval × CollaborationCoordinator) := do
  let (cohort, requirement, member) ← c.approveChecks sha256 input
  let key := input.idempotencyKey.getD ""
  match (truthy input.idempotencyKey).bind fun key => truthy (c.idempotency.get? key) with
  | some existingId =>
    let existing ← orThrow ((c.approvals.get? existingId).filter fun existing =>
        existing.requirementId = requirement.id ∧
          existing.changeRevisionId = requirement.changeRevisionId) {
      code := .idempotencyConflict
      message := s!"Approval idempotency key {key} was already used for another review requirement."
      affectedObject := key
      recoveryAction := "use a new idempotency key for a different approval"
      receipt := s!"idempotencyKey={key}; existingApproval={existingId}" }
    return (existing, c)
  | none =>
    match c.existingApproval input requirement with
    | some existing => return (existing, c)
    | none =>
      let approval := c.newApproval input uuid now cohort requirement member
      return (approval, c.fileApproval input requirement approval now)

/-! ## Promotion -/

def recordPromotionAuthority (input : RecordPromotionInput) (now : String) :
    Except CollaborationError CollaborationCoordinator := do
  nonEmpty input.promotionId "promotionId"
  nonEmpty input.targetId "targetId"
  nonEmpty input.releaseId "releaseId"
  nonEmpty input.receipt "promotion.receipt"
  return c.appendAudit {
    projectId := c.projectId
    cohortId := input.cohortId
    changeId := none
    changeRevisionId := none
    role := .promotion
    action := "promotion.authority.observed"
    outcome := .observed
    actor := input.actor
    policyVersion := c.policy.version
    disclosure := .project
    occurredAt := now
    receipt := s!"promotion={input.promotionId}; target={input.targetId}; release={input.releaseId}; {input.receipt}" }

end CollaborationCoordinator

end Anyam.ChangeControl
