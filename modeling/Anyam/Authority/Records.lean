import Anyam.ChangeControl.CollaborationRecords
import Anyam.Delivery.PromotionRecords
import Anyam.Execution.RunnerRecords
import Anyam.Kernel.Json
import Anyam.Kernel.Mirror
import Anyam.Lib.Collections

/-!
# Authority records

The data of `cloudflare/authority-plane.ts`: the records of a Realm, the snapshot that holds
them, the commands and sessions that change it, and what a command answers.

A record whose contract type is already a kernel record extends it with the fields the
coordinator writes; one with a field the coordinator takes from a request without checking it
is written out here with that field as a text. The constant `protocol` tags are left out.

The snapshot keeps its twenty-seven collections as one family indexed by `Collection`, as the
store does; every collection also has its own name. Keys are plain keys: the names every host
object inherits are not special here.
-/

namespace Anyam.Authority

open Anyam.Lib Anyam.Kernel Anyam.Delivery Anyam.Execution

/-! ## Projects, Views and Source Spaces -/

structure Project extends Kernel.Project where
  name : String
  referenceType : String
deriving DecidableEq, Repr

structure SourceSpace where
  id : String
  name : String
  classification : SourceSpaceClassification
  repositoryId : Option String
deriving DecidableEq, Repr

/-- `classification` is the text a request asked for. -/
structure ProjectView extends Kernel.ProjectView where
  projectionId : String
  classification : String
deriving DecidableEq, Repr

/-! ## Intents -/

inductive IntentStatus
  | «open» | closed
deriving DecidableEq, Repr

instance : ToString IntentStatus where
  toString
    | .open => "open"
    | .closed => "closed"

structure Intent where
  id : String
  projectId : String
  title : String
  description : String
  status : IntentStatus
  author : ActorRef
  assigneePrincipalIds : List String
  labels : List String
  disclosure : DisclosureClassification
  createdAt : String
  updatedAt : String
  closedAt : Option String := none
  closedBy : Option ActorRef := none
  receipt : String
deriving DecidableEq, Repr

structure IntentComment where
  id : String
  intentId : String
  projectId : String
  author : ActorRef
  body : String
  disclosure : DisclosureClassification
  createdAt : String
  receipt : String
deriving DecidableEq, Repr

/-! ## Pull Requests -/

inductive PullRequestStatus
  | «open» | closed | merged | blocked
deriving DecidableEq, Repr

instance : ToString PullRequestStatus where
  toString
    | .open => "open"
    | .closed => "closed"
    | .merged => "merged"
    | .blocked => "blocked"

inductive PullRequestReviewState
  | pending | changesRequested | approved
deriving DecidableEq, Repr

instance : ToString PullRequestReviewState where
  toString
    | .pending => "pending"
    | .changesRequested => "changes-requested"
    | .approved => "approved"

structure PullRequestReview where
  id : String
  pullRequestId : String
  reviewer : ActorRef
  state : PullRequestReviewState
  headCommit : String
  baseCommit : String
  revisionSetDigest : String
  reviewDigest : String
  reviewedAt : String
  receipt : String
deriving DecidableEq, Repr

structure PullRequest where
  id : String
  projectId : String
  changeId : String
  provider : String
  externalKey : Option String := none
  remoteRepository : Option String := none
  sourceSpaceId : Option String := none
  headRef : String
  baseRef : String
  headCommit : String
  baseCommit : String
  title : String
  description : String
  status : PullRequestStatus
  reviewState : PullRequestReviewState
  reviewDigest : Option String := none
  reviewHeadCommit : Option String := none
  reviewBaseCommit : Option String := none
  reviewRevisionSetDigest : Option String := none
  reviewInvalidatedAt : Option String := none
  reviews : Option (List PullRequestReview) := none
  revisionIds : List String
  disclosure : DisclosureClassification
  createdAt : String
  updatedAt : String
  closedAt : Option String := none
  mergedAt : Option String := none
  receipt : String
deriving DecidableEq, Repr

/-! ## Changes and their Revisions -/

structure ChangeOrigin extends Kernel.ChangeOrigin where
  externalProposalKey : Option String := none
  externalProposalKind : Option String := none
  externalProposalHead : Option String := none
  externalProposalBase : Option String := none
  externalProposalInstallation : Option String := none
  externalProposalSourceIdentity : Option String := none
  externalDeliveryId : Option String := none
deriving DecidableEq, Repr

structure Change where
  id : String
  projectId : String
  intentId : String
  baseProjectRevisionId : String
  status : ChangeStatus
  latestRevisionId : Option String
  workspaceId : Option String
  author : ActorRef
  origin : Option ChangeOrigin
  revertsChangeRevisionId : Option String := none
deriving DecidableEq, Repr

inductive GitObjectFormat
  | sha1 | sha256
deriving DecidableEq, Repr

structure RepositoryObservation where
  repositoryId : String
  sourceSpaceId : String
  workspaceId : String
  projectViewId : String
  objectFormat : GitObjectFormat
  symbolicRef : String
  commitOid : String
  treeOid : String
  baseCommitOid : String
  manifestDigest : String
  observedAt : String
  receipt : String
deriving DecidableEq, Repr

/-- What the digest of a mirror observation is taken over. -/
structure MirrorObservationClaims where
  repositoryId : String
  sourceSpaceId : String
  mirrorId : String
  proposalKey : String
  deliveryId : String
  provider : String
  remoteRepository : String
  projectViewId : String
  objectFormat : GitObjectFormat
  symbolicRef : String
  commitOid : String
  treeOid : String
  baseCommitOid : String
  observedAt : String
  receipt : String
deriving DecidableEq, Repr

structure MirrorRepositoryObservation extends MirrorObservationClaims where
  manifestDigest : String
deriving DecidableEq, Repr

/-- `kind` is the text a request gave. -/
structure ChangeRevision where
  id : String
  changeId : String
  projectRevisionId : String
  projectViewId : String
  sequence : Nat
  parentRevisionId : Option String
  declaredEffects : List String
  baseProjectRevisionId : String
  workspaceId : Option String
  sourceSpaceSnapshots : Snapshots
  sourceSpaceObservations : Option (OrderedMap String RepositoryObservation)
  mirrorRepositoryObservations : Option (OrderedMap String MirrorRepositoryObservation)
  affectedSourceSpaceIds : List String
  author : ActorRef
  kind : Option String
deriving DecidableEq, Repr

/-! ## Evidence, Artifacts and Releases -/

/-- A disclosure whose classification is the text a request gave. -/
structure Disclosure where
  projectionId : String
  classification : String
deriving DecidableEq, Repr

/-- The producer is always the Run the Evidence names. -/
structure Evidence where
  id : String
  key : String
  criterion : String
  outcome : EvidenceOutcome
  validityKey : String
  actionId : String
  verifierId : String
  toolchainDigest : String
  dependencyDigest : String
  environmentDigest : String
  inputDigests : List String
  effectDigests : List String
  outputDigest : String
  createdAt : String
  projectRevisionId : String
  projectViewId : String
  changeRevisionId : Option String
  runId : String
  actor : ActorRef
  runnerId : String
  policyVersion : String
  authorizationEpoch : String
  capabilityGrantId : String
  disclosure : Disclosure
  receipt : String
  invalidators : List String
  owner : String
  sourceSpaceSnapshots : Option Snapshots := none
  actionContractDigest : Option String := none
  verifierContractDigest : Option String := none
  targetId : Option String := none
  workspaceId : Option String := none
deriving DecidableEq, Repr

structure Artifact extends Kernel.Artifact where
  changeRevisionId : Option String
  runId : Option String
  actionId : Option String
  outputPath : Option String
  provenanceDigest : Option String
  disclosure : Option Disclosure
deriving DecidableEq, Repr

/-- What the closure digest of a Release is taken over. -/
structure ReleaseInputBody where
  buildDefinitionDigest : String
  dependencyDigest : String
  toolchainDigest : String
  environmentDigest : String
  artifactDigests : List String
deriving DecidableEq, Repr

structure ReleaseInputSet extends ReleaseInputBody where
  inputClosureDigest : String
deriving DecidableEq, Repr

structure Release where
  id : String
  projectRevisionId : String
  artifactIds : List String
  evidenceIds : List String
  configurationDigests : List String
  stateAssumptions : List String
  policyVersion : String
  status : ReleaseStatus
  name : Option String
  changeRevisionId : Option String
  provenanceDigest : Option String
  inputSet : ReleaseInputSet
  migrationPlan : MigrationPlan
  receipt : String
deriving DecidableEq, Repr

/-! ## Targets and Promotions -/

/-- `currentReleaseId` is `none` for both the absent field and `null`. -/
structure Target extends Kernel.Target where
  currentReleaseId : Option String := none
  releaseHistory : Option (List String) := none
  lastPromotionId : Option String := none
deriving DecidableEq, Repr

inductive CheckpointStage
  | preview | apply | health | rollback | complete | reconcile
deriving DecidableEq, Repr

inductive AuthorityStatus
  | succeeded | blocked | indeterminate
deriving DecidableEq, Repr

instance : ToString AuthorityStatus where
  toString
    | .succeeded => "succeeded"
    | .blocked => "blocked"
    | .indeterminate => "indeterminate"

structure PromotionReconciliationCheckpoint where
  idempotencyKey : String
  attempt : Nat
  stage : CheckpointStage
  providerOperationIds : List String
  receipt : String
  executionDigest : Option String := none
  releaseId : Option String := none
  targetId : Option String := none
  status : Option AuthorityStatus := none
  updatedAt : Option String := none
deriving DecidableEq, Repr

structure PromotionRecord extends Delivery.PromotionRecord where
  createdAt : String
  updatedAt : String
  executionIdempotencyKey : Option String := none
  reconciliationCheckpoint : Option PromotionReconciliationCheckpoint := none
deriving DecidableEq, Repr

/-! ## Mirrors -/

structure RepositoryMirror extends Kernel.RepositoryMirror where
  createdAt : String
deriving DecidableEq, Repr

inductive ProposalKind
  | pullRequest | ref | commit
deriving DecidableEq, Repr

instance : ToString ProposalKind where
  toString
    | .pullRequest => "pull-request"
    | .ref => "ref"
    | .commit => "commit"

/-- The status of an external proposal is one of the statuses of a Pull Request. -/
structure ExternalProposal where
  id : String
  ledgerKey : String
  mirrorId : String
  projectId : String
  sourceSpaceId : String
  provider : String
  installationId : Option String
  sourceIdentity : String
  remoteRepository : String
  proposalKind : ProposalKind
  proposalKey : String
  remoteRef : Option String
  baseRef : Option String
  baseCommit : Option String
  latestHeadCommit : String
  observedHeadCommits : List String
  changeId : String
  changeRevisionIds : List String
  status : PullRequestStatus
  lastDeliveryId : Option String
  disclosure : DisclosureClassification
  createdAt : String
  updatedAt : String
  receipt : String
deriving DecidableEq, Repr

inductive DeliveryState
  | received | processed | duplicate | blocked
deriving DecidableEq, Repr

instance : ToString DeliveryState where
  toString
    | .received => "received"
    | .processed => "processed"
    | .duplicate => "duplicate"
    | .blocked => "blocked"

structure MirrorDelivery where
  id : String
  mirrorId : String
  provider : String
  installationId : Option String
  sourceIdentity : String
  remoteRepository : String
  deliveryId : String
  deliveryKey : String
  eventType : String
  proposalKey : Option String
  operationId : Option String
  state : DeliveryState
  createdAt : String
  processedAt : Option String
  receipt : String
deriving DecidableEq, Repr

/-! ## Accepted Runner completions -/

structure AcceptedRunDetail where
  runId : String
  job : RunnerJob
  attempt : RunnerAttempt
  result : RunnerResult
  runnerProfile : RunnerProfile
  resultDigest : String
deriving DecidableEq, Repr

/-! ## Canonical-ref projections

The records of `canonical-ref-reconciliation.ts`. Epochs and generations are natural numbers. -/

structure CanonicalRefBinding where
  sourceSpaceId : String
  repositoryId : String
  ref : String
deriving DecidableEq, Repr

/-- A bound ref with the snapshot it is to show and the one it showed before. -/
structure SelectedRef extends CanonicalRefBinding where
  desiredOid : String
  baseOid : String
deriving DecidableEq, Repr

/-- What a provider reports of a ref. `oid` is `none` for a ref that does not exist. -/
structure FencedRefObservation extends CanonicalRefBinding where
  providerId : String
  oid : Option String
  generation : Nat
  epoch : Nat
  projectRevisionId : Option String
  candidateOid : Option String
  sealed : Bool
  challenge : String
  receipt : String
deriving DecidableEq, Repr

inductive ProjectionState
  | pending | complete
deriving DecidableEq, Repr

structure CanonicalRefProjectionRecord where
  id : String
  projectId : String
  projectRevisionId : String
  landingId : String
  providerId : String
  qualificationReceipt : String
  epoch : Nat
  policyVersion : String
  state : ProjectionState
  bindings : List SelectedRef
  repaired : OrderedMap String FencedRefObservation
  sealed : OrderedMap String FencedRefObservation
  receipt : String
deriving DecidableEq

/-! ## Cohort Landings -/

structure CohortMember where
  changeId : String
  changeRevisionId : String
deriving DecidableEq, Repr

/-- What a cohort Landing keeps of its review. The collaboration records leave out the id of an
explanation, so it stands next to it here. -/
structure CohortReviewPacket where
  cohortId : String
  members : List CohortMember
  priorProjectionCompletion : Option CanonicalRefProjectionRecord
  explanationId : String
  explanation : ChangeControl.CollaborationPolicyExplanation
  evidence : List Evidence
  approvals : Option (List ChangeControl.ReviewApproval)
deriving DecidableEq

/-! ## Commands -/

inductive AuthorityCommandName
  | projectCreate
  | intentCreate | intentAssign | intentComment | intentClose | intentReopen
  | pullRequestOpen | pullRequestUpdate | pullRequestReview | pullRequestClose
  | pullRequestReopen | pullRequestBlock | pullRequestMerge
  | workspaceCreate | changeCreate | revisionPublish
  | runnerRegister | runRequest | runnerComplete | runRecord | evidenceRecord | artifactRecord
  | landingApply | releaseCreate | targetConfigure
  | promotionRequest | promotionExecute | promotionReconcile
  | mirrorConfigure | mirrorSync | mirrorReconcile
deriving DecidableEq, Repr

instance : ToString AuthorityCommandName where
  toString
    | .projectCreate => "project.create"
    | .intentCreate => "intent.create"
    | .intentAssign => "intent.assign"
    | .intentComment => "intent.comment"
    | .intentClose => "intent.close"
    | .intentReopen => "intent.reopen"
    | .pullRequestOpen => "pullRequest.open"
    | .pullRequestUpdate => "pullRequest.update"
    | .pullRequestReview => "pullRequest.review"
    | .pullRequestClose => "pullRequest.close"
    | .pullRequestReopen => "pullRequest.reopen"
    | .pullRequestBlock => "pullRequest.block"
    | .pullRequestMerge => "pullRequest.merge"
    | .workspaceCreate => "workspace.create"
    | .changeCreate => "change.create"
    | .revisionPublish => "revision.publish"
    | .runnerRegister => "runner.register"
    | .runRequest => "run.request"
    | .runnerComplete => "runner.complete"
    | .runRecord => "run.record"
    | .evidenceRecord => "evidence.record"
    | .artifactRecord => "artifact.record"
    | .landingApply => "landing.apply"
    | .releaseCreate => "release.create"
    | .targetConfigure => "target.configure"
    | .promotionRequest => "promotion.request"
    | .promotionExecute => "promotion.execute"
    | .promotionReconcile => "promotion.reconcile"
    | .mirrorConfigure => "mirror.configure"
    | .mirrorSync => "mirror.sync"
    | .mirrorReconcile => "mirror.reconcile"

inductive SessionKind
  | human | agent | runner | mirror
deriving DecidableEq, Repr

instance : ToString SessionKind where
  toString
    | .human => "human"
    | .agent => "agent"
    | .runner => "runner"
    | .mirror => "mirror"

structure AuthoritySession where
  realmId : String
  principalId : String
  actorId : String
  sessionId : String
  clientId : String
  authorizationEpoch : Nat
  taskId : Option String := none
  capabilityGrantId : Option String := none
  delegatedBySessionId : Option String := none
  modelProvider : Option String := none
  kind : Option SessionKind := none
deriving DecidableEq, Repr

def actorRef (session : AuthoritySession) : ActorRef where
  principalId := session.principalId
  actorId := session.actorId
  sessionId := session.sessionId
  clientId := session.clientId

abbrev Payload := OrderedMap String Json

structure AuthorityCommand where
  protocol : String
  command : AuthorityCommandName
  idempotencyKey : String
  expectedVersion : Option Int := none
  payload : Payload

def authorityCommandProtocol : String := "anyam.authority-command/v1"

/-! ## Results and errors -/

/-- One entry of the value a command answers with. -/
inductive AuthorityValue
  | project (record : Project)
  | canonicalRevision (record : ProjectRevision)
  | sourceSpaces (records : List SourceSpace)
  | intent (record : Intent)
  | comment (record : IntentComment)
  | pullRequest (record : PullRequest)
  | workspace (record : Workspace)
  | view (record : ProjectView)
  | change (record : Change)
  | revision (record : ChangeRevision)
  | run (record : Run)
  | evidence (record : Evidence)
  | artifact (record : Artifact)
  | artifacts (records : List Artifact)
  | attempt (record : RunnerAttempt)
  | runner (record : RunnerProfile)
  | mirror (record : RepositoryMirror)
  | operation (record : MirrorOperation)
  | checkpoint (record : MirrorCheckpoint)
  | delivery (record : MirrorDelivery)
  | proposal (record : ExternalProposal)
  | landing (record : Landing)
  | reviewPacket (record : CohortReviewPacket)
  | projection (record : CanonicalRefProjectionRecord)
  | release (record : Release)
  | releaseOfProject (record : Release) (projectId : String)
  | target (record : Target)
  | promotion (record : PromotionRecord)
  | promotionCheckpoint (record : PromotionReconciliationCheckpoint)
deriving DecidableEq

structure AuthorityCommandResult where
  command : AuthorityCommandName
  status : AuthorityStatus
  version : Nat
  value : List AuthorityValue
  receipt : String
  recoveryAction : Option String := none
deriving DecidableEq

inductive AuthorityErrorCode
  | invalidRequest | idempotencyConflict | staleState | notFound | conflict | blocked
  | indeterminate
deriving DecidableEq, Repr

structure AuthorityPlaneError where
  code : AuthorityErrorCode
  message : String
  recoveryAction : String
  receipt : String
deriving DecidableEq, Repr

/-- What an operation can throw: its own error, or one of a helper that it does not
translate, by its message. -/
inductive AuthorityFailure
  | authority (error : AuthorityPlaneError)
  | untranslated (message : String)
deriving DecidableEq, Repr

/-- Refuse with an Authority error. -/
def refusal (code : AuthorityErrorCode) (message recoveryAction receipt : String) :
    AuthorityFailure :=
  .authority ⟨code, message, recoveryAction, receipt⟩

/-! ## The snapshot -/

structure AuthorityAuditEvent where
  id : String
  command : AuthorityCommandName
  idempotencyKey : String
  actor : ActorRef
  outcome : AuthorityStatus
  stateVersion : Nat
  occurredAt : String
  taskId : Option String := none
  capabilityGrantId : Option String := none
  delegatedBySessionId : Option String := none
  modelProvider : Option String := none
  receipt : String
deriving DecidableEq, Repr

structure IdempotencyRecord where
  fingerprint : String
  result : AuthorityCommandResult
deriving DecidableEq

/-- `ENTITY_COLLECTIONS`. -/
inductive Collection
  | projects | sourceSpaces | projectRevisions | intents | intentComments | pullRequests
  | projectViews | workspaces | changes | changeRevisions | runs | runnerProfiles
  | runnerAttempts | runDetails | evidence | artifacts | landings | canonicalRefProjections
  | releases | targets | promotions | mirrors | mirrorOperations | mirrorCheckpoints
  | externalProposals | mirrorDeliveries | canonicalByProject
deriving DecidableEq, Repr

/-- The collections, in their order. -/
def Collection.all : List Collection :=
  [.projects, .sourceSpaces, .projectRevisions, .intents, .intentComments, .pullRequests,
    .projectViews, .workspaces, .changes, .changeRevisions, .runs, .runnerProfiles,
    .runnerAttempts, .runDetails, .evidence, .artifacts, .landings, .canonicalRefProjections,
    .releases, .targets, .promotions, .mirrors, .mirrorOperations, .mirrorCheckpoints,
    .externalProposals, .mirrorDeliveries, .canonicalByProject]

theorem Collection.mem_all (c : Collection) : c ∈ all := by
  cases c <;> decide

abbrev Collection.Record : Collection → Type
  | .projects => Project
  | .sourceSpaces => SourceSpace
  | .projectRevisions => ProjectRevision
  | .intents => Intent
  | .intentComments => IntentComment
  | .pullRequests => PullRequest
  | .projectViews => ProjectView
  | .workspaces => Workspace
  | .changes => Change
  | .changeRevisions => ChangeRevision
  | .runs => Run
  | .runnerProfiles => RunnerProfile
  | .runnerAttempts => RunnerAttempt
  | .runDetails => AcceptedRunDetail
  | .evidence => Evidence
  | .artifacts => Artifact
  | .landings => Landing
  | .canonicalRefProjections => CanonicalRefProjectionRecord
  | .releases => Release
  | .targets => Target
  | .promotions => PromotionRecord
  | .mirrors => RepositoryMirror
  | .mirrorOperations => MirrorOperation
  | .mirrorCheckpoints => MirrorCheckpoint
  | .externalProposals => ExternalProposal
  | .mirrorDeliveries => MirrorDelivery
  | .canonicalByProject => String

structure AuthorityPlaneSnapshot where
  realmId : String
  version : Nat
  records : Collections Collection String Collection.Record
  idempotency : OrderedMap String IdempotencyRecord
  audit : List AuthorityAuditEvent

def emptyAuthorityPlaneSnapshot (realmId : String) : AuthorityPlaneSnapshot where
  realmId
  version := 0
  records := .empty
  idempotency := .empty
  audit := []

namespace AuthorityPlaneSnapshot

variable (s : AuthorityPlaneSnapshot)

abbrev projects : OrderedMap String Project := s.records .projects
abbrev sourceSpaces : OrderedMap String SourceSpace := s.records .sourceSpaces
abbrev projectRevisions : OrderedMap String ProjectRevision := s.records .projectRevisions
abbrev intents : OrderedMap String Intent := s.records .intents
abbrev intentComments : OrderedMap String IntentComment := s.records .intentComments
abbrev pullRequests : OrderedMap String PullRequest := s.records .pullRequests
abbrev projectViews : OrderedMap String ProjectView := s.records .projectViews
abbrev workspaces : OrderedMap String Workspace := s.records .workspaces
abbrev changes : OrderedMap String Change := s.records .changes
abbrev changeRevisions : OrderedMap String ChangeRevision := s.records .changeRevisions
abbrev runs : OrderedMap String Run := s.records .runs
abbrev runnerProfiles : OrderedMap String RunnerProfile := s.records .runnerProfiles
abbrev evidence : OrderedMap String Evidence := s.records .evidence
abbrev artifacts : OrderedMap String Artifact := s.records .artifacts
abbrev releases : OrderedMap String Release := s.records .releases
abbrev targets : OrderedMap String Target := s.records .targets
abbrev promotions : OrderedMap String PromotionRecord := s.records .promotions
abbrev mirrors : OrderedMap String RepositoryMirror := s.records .mirrors
abbrev mirrorOperations : OrderedMap String MirrorOperation := s.records .mirrorOperations
abbrev mirrorCheckpoints : OrderedMap String MirrorCheckpoint := s.records .mirrorCheckpoints
abbrev externalProposals : OrderedMap String ExternalProposal := s.records .externalProposals
abbrev mirrorDeliveries : OrderedMap String MirrorDelivery := s.records .mirrorDeliveries
abbrev canonicalByProject : OrderedMap String String := s.records .canonicalByProject

/-- `next[collection][id] = record`. -/
def put (c : Collection) (id : String) (record : c.Record) : AuthorityPlaneSnapshot :=
  { s with records := s.records.put c id record }

@[simp] theorem put_same (c : Collection) (id : String) (record : c.Record) :
    (s.put c id record).records c = (s.records c).set id record :=
  Collections.put_same ..

@[simp] theorem put_other {c c' : Collection} (id : String) (record : c.Record) (h : c' ≠ c) :
    (s.put c id record).records c' = s.records c' :=
  Collections.put_other _ _ _ h

variable {s} in
/-- A write under a new key keeps every collection. -/
theorem kept_put {c : Collection} {id : String} {record : c.Record}
    (h : (s.records c).get? id = none) (c' : Collection) :
    OrderedMap.Kept (s.records c') ((s.put c id record).records c') :=
  Collections.kept_put h c'

/-- The two snapshots differ at most in the collections `cs`: what a command that writes only
these leaves as it was. -/
structure WritesOnly (cs : List Collection) (s s' : AuthorityPlaneSnapshot) : Prop where
  realmId : s'.realmId = s.realmId
  version : s'.version = s.version
  idempotency : s'.idempotency = s.idempotency
  audit : s'.audit = s.audit
  records : ∀ c ∉ cs, s'.records c = s.records c

namespace WritesOnly

variable {s} {s' s'' : AuthorityPlaneSnapshot} {cs : List Collection}

theorem refl (cs : List Collection) (s : AuthorityPlaneSnapshot) : WritesOnly cs s s :=
  ⟨rfl, rfl, rfl, rfl, fun _ _ => rfl⟩

theorem trans (h : WritesOnly cs s s') (h' : WritesOnly cs s' s'') : WritesOnly cs s s'' :=
  ⟨h'.realmId.trans h.realmId, h'.version.trans h.version, h'.idempotency.trans h.idempotency,
    h'.audit.trans h.audit, fun c hc => (h'.records c hc).trans (h.records c hc)⟩

theorem mono {cs' : List Collection} (h : WritesOnly cs s s') (hcs : cs ⊆ cs') :
    WritesOnly cs' s s' :=
  { h with records := fun c hc => h.records c fun hmem => hc (hcs hmem) }

/-- A write of one of the collections. -/
theorem put (h : WritesOnly cs s s') {c : Collection} (hc : c ∈ cs) (id : String)
    (record : c.Record) : WritesOnly cs s (s'.put c id record) := by
  refine ⟨h.realmId, h.version, h.idempotency, h.audit, fun c' hc' => ?_⟩
  have hne : c' ≠ c := by
    rintro rfl
    exact hc' hc
  rw [put_other _ _ _ hne, h.records c' hc']

end WritesOnly

end AuthorityPlaneSnapshot

/-! ## Runner completions -/

/-- `payload.completion`, which the coordinator casts to its type. -/
structure RunnerCompletionValue where
  result : RunnerResult
  job : RunnerJob
  attempt : RunnerAttempt
  runnerProfile : RunnerProfile
  run : Run
  outputs : List RunnerOutputReference
  resultDigest : String
  credentialState : String
  receipt : String
deriving DecidableEq

/-- The fields of a command that carries a completion. `fingerprint` is the JSON text of
its payload. -/
structure RunnerCompletionCommand where
  protocol : String
  command : AuthorityCommandName
  idempotencyKey : String
  expectedVersion : Option Int := none
  completion : RunnerCompletionValue
  payloadText : String

inductive CustodyErrorCode
  | blocked | conflict | indeterminate
deriving DecidableEq, Repr

structure RunnerArtifactCustodyError where
  code : CustodyErrorCode
  reason : String
deriving DecidableEq, Repr

/-- `retainRunnerArtifacts` with the bindings of a Realm: the receipt of the retained bytes,
or its error. -/
abbrev RunnerArtifactCustody :=
  RunnerJob → List RunnerOutputReference → Except RunnerArtifactCustodyError String

/-! ## Promotion executions -/

structure PromotionExecutionReleaseBundle where
  release : Release
  artifacts : List Artifact
  evidence : List Evidence
deriving DecidableEq

/-- What the execution digest is taken over. -/
structure PromotionExecutionClaims where
  realmId : String
  projectId : String
  projectReferenceType : String
  projectSourceSpaceIds : List String
  promotionId : String
  promotionProjectId : String
  promotionTargetId : String
  promotionReleaseId : String
  promotionReleaseDigest : String
  promotionPreviousReleaseId : Option String
  promotionExpectedCurrentReleaseId : Option String
  promotionKind : PromotionKind
  promotionIdempotencyKey : String
  release : Release
  artifacts : List Artifact
  evidence : List Evidence
  previousRelease : Option PromotionExecutionReleaseBundle
  targetId : String
  targetProjectId : String
  targetAdapterId : String
  targetAcceptedArtifactTypes : List String
  targetRequiredEvidenceKeys : List String
  targetDeploymentProfile : TargetDeploymentProfile
  expectedCurrentReleaseId : Option String
  executionIdempotencyKey : String

structure PromotionExecutionContext where
  realmId : String
  stateVersion : Nat
  project : Project
  promotion : PromotionRecord
  release : Release
  artifacts : List Artifact
  evidence : List Evidence
  previousRelease : Option PromotionExecutionReleaseBundle
  target : Target
  expectedCurrentReleaseId : Option String
  executionIdempotencyKey : String
  actor : ActorRef
  executionDigest : String
deriving DecidableEq

/-- The Target of an execution result. -/
structure PromotionExecutionTarget where
  id : String
  projectId : String
  state : TargetState
  currentReleaseId : Option String
  releaseHistory : List String
  deploymentProfile : Option TargetDeploymentProfile := none
deriving DecidableEq

structure PromotionExecutionResult where
  protocol : String
  status : AuthorityStatus
  adapterId : String
  executionDigest : String
  promotion : PromotionRecord
  target : PromotionExecutionTarget
  checkpoint : Option PromotionReconciliationCheckpoint := none
  receipt : String
  recoveryAction : Option String := none
deriving DecidableEq

/-- A provider executor: it returns a result, or throws with a message. -/
abbrev TrustedPromotionExecutor :=
  PromotionExecutionContext → Except String PromotionExecutionResult

structure PromotionExecutionRequest where
  promotionId : String
  executionIdempotencyKey : String
  expectedVersion : Option Int := none
  executor : TrustedPromotionExecutor
  session : AuthoritySession

structure PromotionReconciliationRequest where
  promotionId : String
  reconciliationIdempotencyKey : String
  expectedVersion : Option Int := none
  executor : TrustedPromotionExecutor
  session : AuthoritySession

/-! ## What a command is given -/

/-- What the coordinator calls outside this development: SHA-256 of a text in hexadecimal and
of the records whose digests it compares, the credential scanner on a receipt, a completion
and an execution result (the path it finds), and the Unicode tables. -/
structure AuthorityServices where
  text : UnicodeText
  sha256 : String → String
  scanReceipt : String → Bool
  scanCompletion : RunnerCompletionValue → Bool
  scanExecutionResult : PromotionExecutionResult → Option String
  profile : ProfileServices
  planDigest : MigrationPlanBody → String
  inputClosureDigest : ReleaseInputBody → String
  buildDefinitionDigest : List String → String
  mirrorObservationDigest : MirrorObservationClaims → String
  executionDigest : PromotionExecutionClaims → String
  runner : RunnerServices

/-- The identifier `opaqueId` draws for each kind, and the reading of the clock. -/
structure Drawn where
  uuid : String → String
  now : String

def Drawn.opaqueId (drawn : Drawn) (kind : String) : String :=
  Kernel.opaqueId kind (drawn.uuid kind)

end Anyam.Authority
