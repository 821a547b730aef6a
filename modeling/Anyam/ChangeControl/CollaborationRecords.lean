import Anyam.Kernel.Evidence

/-!
# Collaboration records

The records of `change-control/collaboration.ts`, the inputs of its methods, and the
values it hashes into identifiers. An optional field is an `Option`; the constant
`protocol` tags are left out, and so are the identifiers drawn for audit events and
explanations, which nothing looks up.
-/

namespace Anyam.ChangeControl

open Anyam.Lib Anyam.Kernel

/-! ## Records -/

inductive OwnershipScopeKind
  | «module» | sourceSpace | target
deriving DecidableEq, Repr

instance : ToString OwnershipScopeKind where
  toString
    | .«module» => "module"
    | .sourceSpace => "source-space"
    | .target => "target"

/-- Who must review an affected governed scope. -/
structure ReviewOwnershipRule where
  id : String
  scopeKind : OwnershipScopeKind
  scopeId : String
  requiredReviewerPrincipalIds : List String
  requiredReviewerTeamIds : List String
  disclosure : DisclosureClassification
  label : Option String := none
deriving DecidableEq, Repr

structure ReviewerDirectoryEntry where
  principalId : String
  teamIds : List String
  active : Option Bool := none
deriving DecidableEq, Repr

structure ReviewRequirement where
  id : String
  ruleId : String
  changeId : String
  changeRevisionId : String
  scopeKind : OwnershipScopeKind
  scopeId : String
  disclosure : DisclosureClassification
  requiredReviewerPrincipalIds : List String
  requiredReviewerTeamIds : List String
  candidatePrincipalIds : List String
  reason : String
deriving DecidableEq, Repr

inductive ReviewFindingKind
  | comment | requestChanges | security | policy
deriving DecidableEq, Repr

inductive ReviewFindingSeverity
  | info | warning | blocking
deriving DecidableEq, Repr

instance : ToString ReviewFindingSeverity where
  toString
    | .info => "info"
    | .warning => "warning"
    | .blocking => "blocking"

inductive ReviewFindingState
  | «open» | resolved | dismissed
deriving DecidableEq, Repr

structure ReviewScope where
  moduleId : Option String := none
  sourceSpaceId : Option String := none
  targetId : Option String := none
  path : Option String := none
  symbol : Option String := none
deriving DecidableEq, Repr

structure ReviewFinding where
  id : String
  projectId : String
  cohortId : String
  changeId : String
  changeRevisionId : String
  author : ActorRef
  kind : ReviewFindingKind
  severity : ReviewFindingSeverity
  state : ReviewFindingState
  summary : String
  scope : Option ReviewScope
  disclosure : DisclosureClassification
  createdAt : String
  updatedAt : String
  resolution : Option String
  resolvedBy : Option ActorRef
  receipt : String
deriving DecidableEq, Repr

/-- An approval of one requirement, with the author and the verifiers of the member as
they were when it was given. -/
structure ReviewApproval where
  id : String
  projectId : String
  cohortId : String
  requirementId : String
  changeId : String
  changeRevisionId : String
  reviewer : ActorRef
  authorActorId : Option String
  verifierActorIds : List String
  evidenceIds : List String
  policyVersion : String
  approvedAt : String
  receipt : String
deriving DecidableEq, Repr

structure IntegrationCohortMember where
  changeId : String
  changeRevisionId : String
  baseProjectRevisionId : String
  author : Option ActorRef
  authorActorId : Option String
  verifierActorIds : List String
  affectedModuleIds : List String
  affectedSourceSpaceIds : List String
  affectedTargetIds : List String
  declaredEffects : List String
deriving DecidableEq, Repr

inductive IntegrationConflictKind
  | textual | semantic | schema | dependency | policy | disclosure
deriving DecidableEq, Repr

inductive IntegrationConflictSeverity
  | blocking | warning
deriving DecidableEq, Repr

inductive IntegrationConflictState
  | «open» | resolved
deriving DecidableEq, Repr

/-- A Conflict as an analyzer reports it. -/
structure IntegrationConflictCandidate where
  kind : IntegrationConflictKind
  severity : IntegrationConflictSeverity
  changeIds : List String
  scopeIds : List String
  description : String
  disclosure : DisclosureClassification
  receipt : String
  recoveryAction : String
deriving DecidableEq, Repr

structure IntegrationConflict where
  id : String
  projectId : String
  cohortId : String
  kind : IntegrationConflictKind
  severity : IntegrationConflictSeverity
  state : IntegrationConflictState
  changeIds : List String
  changeRevisionIds : List String
  scopeIds : List String
  analyzerId : String
  description : String
  disclosure : DisclosureClassification
  createdAt : String
  resolvedAt : Option String
  resolutionRevisionIds : Option (List String)
  receipt : String
  recoveryAction : String
deriving DecidableEq, Repr

inductive IntegrationCohortState
  | proposed | blocked | ready | stale | landed
deriving DecidableEq, Repr

structure IntegrationCohort where
  id : String
  projectId : String
  baseProjectRevisionId : String
  members : List IntegrationCohortMember
  conflictIds : List String
  state : IntegrationCohortState
  createdBy : ActorRef
  createdAt : String
  updatedAt : String
  receipt : String
deriving DecidableEq, Repr

structure CollaborationPolicy where
  version : String
  requiredEvidence : List EvidenceRequirement
  requiredEvidenceByEffect : Option (OrderedMap String (List EvidenceRequirement)) := none
deriving DecidableEq, Repr

structure IntegrationAnalyzerInput where
  projectId : String
  baseProjectRevisionId : String
  members : List IntegrationCohortMember
deriving DecidableEq, Repr

inductive CollaborationAuditRole
  | author | verifier | reviewer | landing | promotion | analyzer
deriving DecidableEq, Repr

inductive CollaborationAuditOutcome
  | observed | succeeded | denied
deriving DecidableEq, Repr

structure CollaborationAuditEvent where
  projectId : String
  cohortId : Option String
  changeId : Option String
  changeRevisionId : Option String
  role : CollaborationAuditRole
  action : String
  outcome : CollaborationAuditOutcome
  actor : ActorRef
  policyVersion : String
  disclosure : DisclosureClassification
  occurredAt : String
  receipt : String
deriving DecidableEq, Repr

inductive CollaborationBlockerKind
  | staleBase | openConflict | openFinding | requiredReviewer | staleApproval
  | missingEvidence | staleEvidence | failedEvidence | separationOfDuty | invalidState
deriving DecidableEq, Repr

structure CollaborationBlocker where
  kind : CollaborationBlockerKind
  affectedObject : String
  changeId : Option String := none
  scopeId : Option String := none
  disclosure : DisclosureClassification
  message : String
  recoveryAction : String
  safeCommand : String
deriving DecidableEq, Repr

inductive CollaborationDecision
  | allow | deny | indeterminate
deriving DecidableEq, Repr

instance : ToString CollaborationDecision where
  toString
    | .allow => "allow"
    | .deny => "deny"
    | .indeterminate => "indeterminate"

structure CollaborationPolicyExplanation where
  projectId : String
  cohortId : String
  decision : CollaborationDecision
  policyVersion : String
  authorizationEpoch : Option String
  baseProjectRevisionId : String
  currentCanonicalProjectRevisionId : String
  blockers : List CollaborationBlocker
  safeNextCommands : List String
  receipt : String
deriving DecidableEq, Repr

inductive CollaborationErrorCode
  | invalidInput | projectMismatch | duplicateMember | changeRevisionMismatch
  | changeRevisionNotLatest | baseMismatch | cohortNotFound | conflictNotFound
  | findingNotFound | requirementNotFound | reviewerNotRequired | separationOfDuty
  | idempotencyConflict | policyBlocked | landingAuthorityUnavailable | landingResultMismatch
deriving DecidableEq, Repr

structure CollaborationError where
  code : CollaborationErrorCode
  message : String
  affectedObject : String
  recoveryAction : String
  receipt : String
  explanation : Option CollaborationPolicyExplanation := none
deriving DecidableEq, Repr

/-- A rejected promise: one of the coordinator's errors, or what an analyzer or the
Landing authority threw. -/
inductive CollaborationFailure
  | rejected (error : CollaborationError)
  | thrown
deriving DecidableEq, Repr

/-! ## Inputs -/

structure CreateCohortMemberInput where
  change : Change
  revision : ChangeRevision
  verifierActors : Option (List ActorRef) := none
deriving DecidableEq, Repr

structure CreateCohortInput where
  members : List CreateCohortMemberInput
  actor : ActorRef
  baseProjectRevisionId : Option String := none
  id : Option String := none
deriving DecidableEq, Repr

structure SubmitFindingInput where
  cohortId : String
  changeId : String
  changeRevisionId : String
  author : ActorRef
  kind : ReviewFindingKind
  severity : ReviewFindingSeverity
  summary : String
  disclosure : Option DisclosureClassification := none
  scope : Option ReviewScope := none
  idempotencyKey : Option String := none
deriving DecidableEq, Repr

structure ResolveFindingInput where
  findingId : String
  actor : ActorRef
  resolution : String
deriving DecidableEq, Repr

structure ApproveInput where
  cohortId : String
  requirementId : String
  reviewer : ActorRef
  evidenceIds : Option (List String) := none
  idempotencyKey : Option String := none
deriving DecidableEq, Repr

structure ResolveIntegrationConflictInput where
  conflictId : String
  resolutionRevisionIds : List String
  actor : ActorRef
deriving DecidableEq, Repr

structure RecordPromotionInput where
  cohortId : Option String := none
  promotionId : String
  targetId : String
  releaseId : String
  actor : ActorRef
  receipt : String
deriving DecidableEq, Repr

/-- What `new CollaborationCoordinator` is given. An analyzer is known by its id, and
of the Landing authority only that it is configured: both answer from outside. -/
structure CollaborationCoordinatorInput where
  projectId : String
  canonicalRevision : ProjectRevision
  policy : CollaborationPolicy
  ownershipRules : List ReviewOwnershipRule
  reviewerDirectory : List ReviewerDirectoryEntry
  analyzers : List String
  landingAuthority : Bool
  authorizationEpoch : Option String := none
deriving DecidableEq, Repr

/-! ## Hashed identifiers -/

/-- What names a Review Requirement. -/
structure RequirementKey where
  cohortId : String
  ruleId : String
  changeId : String
  changeRevisionId : String
deriving DecidableEq, Repr

/-- The values the coordinator hashes into identifiers. -/
inductive StableValue
  | integrationConflict (cohortId analyzerId : String) (candidate : IntegrationConflictCandidate)
  | reviewRequirement (key : RequirementKey)
deriving DecidableEq, Repr

/-- `stableId`: the first 24 hex digits of the digest, under a prefix. -/
def stableId (sha256 : StableValue → String) (kind : String) (value : StableValue) : String :=
  kind ++ ":" ++ String.ofList ((sha256 value).toList.take 24)

def requirementId (sha256 : StableValue → String) (key : RequirementKey) : String :=
  stableId sha256 "review-requirement" (.reviewRequirement key)

end Anyam.ChangeControl
