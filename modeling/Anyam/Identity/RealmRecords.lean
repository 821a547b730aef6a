import Anyam.Kernel.Contracts
import Anyam.Lib.Ancestry
import Anyam.Lib.Closure
import Anyam.Lib.Transact

/-!
# Realm records

The data of `identity/realm.ts`: Principals, Clients, Agents, Actors, Sessions, Tasks,
Relationships, Source Space Policies, Capability Grants and Credentials, the inputs of the
operations, Policy Explanations, and the errors. Dates are the texts that are kept;
`Date.parse`, `Date.prototype.toISOString` and the digest of a token are given as
`RealmServices`, and the clock as the readings a call takes.

- `Capability.text`, `roleCapabilities`: the capability names and what each role grants.
- `resourceMatches`, `budgetIsNarrower`: the two comparisons of scopes.
-/

namespace Anyam.Identity

open Anyam.Lib Anyam.Kernel

/-! ## Enumerations -/

inductive AuthenticationMethod
  | passkey | oidc
deriving DecidableEq, Repr

abbrev AuthenticationStrength := AuthenticationMethod

inductive PrincipalStatus
  | active | disabled
deriving DecidableEq, Repr

/-- The status of a Session, a Grant or a Credential. -/
inductive LifetimeStatus
  | active | revoked | expired
deriving DecidableEq, Repr

/-- The status of a Client, an Agent, an Actor, a Passkey or a Relationship. -/
inductive EnrollmentStatus
  | active | revoked
deriving DecidableEq, Repr

inductive TaskStatus
  | active | closed
deriving DecidableEq, Repr

inductive ActorKind
  | human | agent | service | runner
deriving DecidableEq, Repr

inductive PolicyDecisionKind
  | allow | deny | indeterminate
deriving DecidableEq, Repr

inductive CredentialClass
  | realmApi | git | mcp | runner | integration | deployment | promotion
deriving DecidableEq, Repr

inductive AuthorityClass
  | none | change | landing | promotion
deriving DecidableEq, Repr

inductive ClientKind
  | browser | cli | mcp | git | runner | integration | deployment | promotion
deriving DecidableEq, Repr

inductive RealmRole
  | viewer | contributor | reviewer | maintainer | releaseManager | securityReviewer | moderator
  | owner
deriving DecidableEq, Repr

inductive RelationshipKind
  | organizationMember | teamMember
deriving DecidableEq, Repr

inductive SourceSpaceClassification
  | «public» | internal | restricted | resultOnly
deriving DecidableEq, Repr

inductive Capability
  | projectInspect | sourceRead | sourcePropose | workspaceInspect | workspaceWrite
  | changeInspect | changePublishRevision | intentInspect | intentWrite | pullRequestInspect
  | pullRequestWrite | reviewSubmitFinding | changeApprove | runInvoke | evidenceRead | secretUse
  | secretValueRead | landingRequest | releaseCreate | targetConfigure | promotionRequest
  | targetRead | targetPromote | extensionInstall | extensionManage | extensionInvoke
  | governanceProfileManage | governanceProfileEvaluate | agentDelegate | publicModerate
  | policyManage | identityManage
deriving DecidableEq, Repr

/-- The text a capability is written as. -/
def Capability.text : Capability → String
  | projectInspect => "project.inspect"
  | sourceRead => "source.read"
  | sourcePropose => "source.propose"
  | workspaceInspect => "workspace.inspect"
  | workspaceWrite => "workspace.write"
  | changeInspect => "change.inspect"
  | changePublishRevision => "change.publish_revision"
  | intentInspect => "intent.inspect"
  | intentWrite => "intent.write"
  | pullRequestInspect => "pullRequest.inspect"
  | pullRequestWrite => "pullRequest.write"
  | reviewSubmitFinding => "review.submit_finding"
  | changeApprove => "change.approve"
  | runInvoke => "run.invoke"
  | evidenceRead => "evidence.read"
  | secretUse => "secret.use"
  | secretValueRead => "secret.value.read"
  | landingRequest => "landing.request"
  | releaseCreate => "release.create"
  | targetConfigure => "target.configure"
  | promotionRequest => "promotion.request"
  | targetRead => "target.read"
  | targetPromote => "target.promote"
  | extensionInstall => "extension.install"
  | extensionManage => "extension.manage"
  | extensionInvoke => "extension.invoke"
  | governanceProfileManage => "governance.profile.manage"
  | governanceProfileEvaluate => "governance.profile.evaluate"
  | agentDelegate => "agent.delegate"
  | publicModerate => "public.moderate"
  | policyManage => "policy.manage"
  | identityManage => "identity.manage"

def agentDefaultCredentialClasses : List CredentialClass := [.realmApi, .git, .mcp]

def agentProhibitedCapabilities : List Capability :=
  [.policyManage, .identityManage, .targetPromote]

def CredentialClass.text : CredentialClass → String
  | realmApi => "realm-api"
  | git => "git"
  | mcp => "mcp"
  | runner => "runner"
  | integration => "integration"
  | deployment => "deployment"
  | promotion => "promotion"

/-- `CREDENTIAL_AUDIENCES`. -/
def credentialAudience (credentialClass : CredentialClass) : String :=
  "aud:anyam:" ++ credentialClass.text

def LifetimeStatus.text : LifetimeStatus → String
  | active => "active"
  | revoked => "revoked"
  | expired => "expired"

def EnrollmentStatus.text : EnrollmentStatus → String
  | active => "active"
  | revoked => "revoked"

def PrincipalStatus.text : PrincipalStatus → String
  | active => "active"
  | disabled => "disabled"

def ActorKind.text : ActorKind → String
  | human => "human"
  | agent => "agent"
  | service => "service"
  | runner => "runner"

def PolicyDecisionKind.text : PolicyDecisionKind → String
  | allow => "allow"
  | deny => "deny"
  | indeterminate => "indeterminate"

/-- `ROLE_CAPABILITIES`. -/
def roleCapabilities : RealmRole → List Capability
  | .viewer => [.projectInspect, .intentInspect, .sourceRead, .workspaceInspect, .changeInspect,
      .pullRequestInspect, .evidenceRead, .targetRead]
  | .contributor => [.projectInspect, .intentInspect, .sourceRead, .workspaceInspect,
      .workspaceWrite, .changeInspect, .changePublishRevision, .pullRequestInspect,
      .pullRequestWrite, .reviewSubmitFinding, .runInvoke, .evidenceRead, .targetRead,
      .agentDelegate]
  | .reviewer => [.projectInspect, .intentInspect, .sourceRead, .workspaceInspect, .changeInspect,
      .pullRequestInspect, .pullRequestWrite, .reviewSubmitFinding, .changeApprove, .evidenceRead,
      .targetRead]
  | .maintainer => [.projectInspect, .intentInspect, .sourceRead, .sourcePropose,
      .workspaceInspect, .workspaceWrite, .changeInspect, .changePublishRevision,
      .pullRequestInspect, .pullRequestWrite, .reviewSubmitFinding, .changeApprove, .runInvoke,
      .evidenceRead, .landingRequest, .targetRead, .extensionInstall, .extensionManage,
      .extensionInvoke, .governanceProfileEvaluate, .agentDelegate]
  | .releaseManager => [.projectInspect, .intentInspect, .sourceRead, .changeInspect,
      .pullRequestInspect, .pullRequestWrite, .reviewSubmitFinding, .changeApprove, .evidenceRead,
      .targetRead, .targetPromote, .landingRequest, .releaseCreate, .promotionRequest,
      .extensionInvoke]
  | .securityReviewer => [.projectInspect, .intentInspect, .sourceRead, .workspaceInspect,
      .changeInspect, .pullRequestInspect, .pullRequestWrite, .reviewSubmitFinding, .changeApprove,
      .runInvoke, .evidenceRead, .targetRead, .governanceProfileEvaluate]
  | .moderator => [.projectInspect, .intentInspect, .changeInspect, .pullRequestInspect,
      .evidenceRead, .publicModerate]
  | .owner => [.projectInspect, .intentInspect, .sourceRead, .sourcePropose, .workspaceInspect,
      .workspaceWrite, .changeInspect, .changePublishRevision, .pullRequestInspect,
      .pullRequestWrite, .reviewSubmitFinding, .changeApprove, .runInvoke, .evidenceRead,
      .secretUse, .landingRequest, .releaseCreate, .targetConfigure, .promotionRequest,
      .targetRead, .targetPromote, .extensionInstall, .extensionManage, .extensionInvoke,
      .governanceProfileManage, .governanceProfileEvaluate, .agentDelegate, .policyManage,
      .identityManage]

/-! ## Resources and budgets -/

structure ResourceRef where
  realmId : String
  organizationId : Option String := none
  projectId : Option String := none
  sourceSpaceId : Option String := none
  workspaceId : Option String := none
  changeId : Option String := none
  pullRequestId : Option String := none
  runId : Option String := none
  releaseId : Option String := none
  targetId : Option String := none
deriving DecidableEq, Repr

/-- The parts of a resource that a scope may leave open. -/
def resourceKeys : List (ResourceRef → Option String) :=
  [(·.organizationId), (·.projectId), (·.sourceSpaceId), (·.workspaceId), (·.changeId),
    (·.pullRequestId), (·.runId), (·.releaseId), (·.targetId)]

def resourceMatches (scope resource : ResourceRef) : Bool :=
  scope.realmId = resource.realmId &&
    resourceKeys.all fun key => key scope = none || key resource = key scope

theorem resourceMatches_iff {scope resource : ResourceRef} :
    resourceMatches scope resource = true ↔ scope.realmId = resource.realmId ∧
      ∀ key ∈ resourceKeys, key scope = none ∨ key resource = key scope := by
  simp only [resourceMatches, Bool.and_eq_true, decide_eq_true_eq, List.all_eq_true,
    Bool.or_eq_true]

theorem resourceMatches_trans {a b c : ResourceRef} (h : resourceMatches a b = true)
    (h' : resourceMatches b c = true) : resourceMatches a c = true := by
  rw [resourceMatches_iff] at h h' ⊢
  refine ⟨h.1.trans h'.1, fun key hkey => ?_⟩
  rcases h.2 key hkey with hnone | heq
  · exact .inl hnone
  · rcases h'.2 key hkey with hnone | heq'
    · exact .inl (heq ▸ hnone)
    · exact .inr (heq'.trans heq)

/-- A bound of a budget. -/
inductive BudgetValue
  | number (value : Rat)
  | text (value : String)
deriving DecidableEq

/-- A number is compared as a number; everything else must be the same. -/
def BudgetValue.within (value parent : BudgetValue) : Bool :=
  match value, parent with
  | .number v, .number p => v ≤ p
  | v, p => v = p

abbrev Budget := OrderedMap String BudgetValue

def budgetIsNarrower (candidate parent : Budget) : Bool :=
  candidate.entries.all fun entry =>
    match parent.get? entry.1 with
    | none => true
    | some parent => entry.2.within parent

theorem budgetIsNarrower_iff {candidate parent : Budget} :
    budgetIsNarrower candidate parent = true ↔ ∀ k v p, candidate.get? k = some v →
      parent.get? k = some p → v.within p = true := by
  rw [budgetIsNarrower, List.all_eq_true]
  constructor
  · intro h k v p hv hp
    have := h (k, v) (OrderedMap.get?_eq_some_iff.mp hv)
    simpa only [hp] using this
  · rintro h ⟨k, v⟩ hentry
    cases hp : parent.get? k with
    | none => simp only
    | some p => simpa only [hp] using h k v p (OrderedMap.get?_eq_some_iff.mpr hentry) hp

/-- `listIsSubset`. -/
def listIsSubset {α : Type} [DecidableEq α] (candidate parent : List α) : Bool :=
  candidate.all (· ∈ parent)

@[simp] theorem listIsSubset_iff {α : Type} [DecidableEq α] {candidate parent : List α} :
    listIsSubset candidate parent = true ↔ ∀ x ∈ candidate, x ∈ parent := by
  simp [listIsSubset]

/-! ## Records -/

structure Realm where
  id : String
  name : String
  relyingPartyId : String
  policyVersion : String
  authorizationEpoch : Nat
  createdAt : String
deriving DecidableEq, Repr

structure Principal where
  id : String
  realmId : String
  displayName : String
  status : PrincipalStatus
  createdAt : String
deriving DecidableEq, Repr

structure PasskeyCredential where
  id : String
  principalId : String
  realmId : String
  relyingPartyId : String
  signCount : Int
  status : EnrollmentStatus
deriving DecidableEq, Repr

structure OidcProvider where
  id : String
  realmId : String
  issuer : String
  clientId : String
  status : PrincipalStatus
deriving DecidableEq, Repr

structure OidcIdentity where
  issuer : String
  subject : String
  principalId : String
deriving DecidableEq, Repr

structure RealmClient where
  id : String
  realmId : String
  kind : ClientKind
  status : EnrollmentStatus
  allowedAudiences : List CredentialClass
  allowedOperations : List String
deriving DecidableEq, Repr

structure RealmActor extends ActorRef where
  realmId : String
  kind : ActorKind
  status : EnrollmentStatus
  agentId : Option String := none
  delegatedByActorId : Option String := none
  delegatedBySessionId : Option String := none
  modelProvider : Option String := none
deriving DecidableEq, Repr

structure RealmAgent where
  id : String
  realmId : String
  principalId : String
  name : String
  runtime : String
  modelProvider : String
  clientId : String
  allowedCredentialClasses : List CredentialClass
  status : EnrollmentStatus
  createdAt : String
  revokedAt : Option String := none
deriving DecidableEq, Repr

structure RealmSession where
  id : String
  realmId : String
  principalId : String
  actorId : String
  clientId : String
  method : AuthenticationMethod
  strength : AuthenticationStrength
  issuedAt : String
  expiresAt : String
  authorizationEpoch : Nat
  status : LifetimeStatus
  actorKind : Option ActorKind := none
  agentId : Option String := none
  delegatedByActorId : Option String := none
  delegatedBySessionId : Option String := none
deriving DecidableEq, Repr

structure RealmTask where
  id : String
  realmId : String
  principalId : String
  actorId : String
  sessionId : String
  purpose : String
  workspaceId : Option String := none
  changeId : Option String := none
  modelProvider : Option String := none
  agentId : Option String := none
  delegatedByActorId : Option String := none
  delegatedBySessionId : Option String := none
  createdAt : String
  status : TaskStatus
deriving DecidableEq, Repr

structure Relationship where
  id : String
  realmId : String
  principalId : String
  kind : RelationshipKind
  subjectId : String
  role : RealmRole
  resource : ResourceRef
  deniedCapabilities : List Capability
  status : EnrollmentStatus
deriving DecidableEq, Repr

structure SourceSpacePolicy where
  id : String
  realmId : String
  sourceSpaceId : String
  classification : SourceSpaceClassification
  allowedCapabilities : List Capability
  deniedCapabilities : List Capability
  readerPrincipalIds : List String
  allowedModelProviders : List String
  discoverable : Bool
  policyVersion : String
deriving DecidableEq, Repr

structure RealmCapabilityGrant where
  id : String
  realmId : String
  subjectId : String
  resource : ResourceRef
  actions : List Capability
  expiresAt : String
  status : LifetimeStatus
  principalId : String
  actorId : String
  clientId : String
  sessionId : String
  taskId : String
  sourceSpaceIds : List String
  effects : List String
  allowedModelProviders : List String
  allowedCredentialClasses : List CredentialClass
  deniedActions : List Capability
  budget : Budget
  policyVersion : String
  authorizationEpoch : Nat
  agentId : Option String := none
  delegatedByActorId : Option String := none
  delegatedBySessionId : Option String := none
  parentGrantId : Option String := none
  consentAt : Option String := none
deriving DecidableEq

structure IssuedCredentialRecord where
  id : String
  realmId : String
  credentialClass : CredentialClass
  audience : String
  principalId : String
  actorId : String
  clientId : String
  sessionId : String
  taskId : String
  grantId : String
  resource : ResourceRef
  tokenDigest : String
  issuedAt : String
  expiresAt : String
  authorizationEpoch : Nat
  status : LifetimeStatus
deriving DecidableEq, Repr

/-! ## Decisions -/

inductive FactorStatus
  | satisfied | missing | denied | unknown
deriving DecidableEq, Repr

structure PolicyFactor where
  name : String
  status : FactorStatus
  detail : Option String := none
deriving DecidableEq, Repr

inductive PolicyCode
  | allowed | forbidden | notFound | indeterminate
deriving DecidableEq, Repr

def PolicyCode.text : PolicyCode → String
  | allowed => "allowed"
  | forbidden => "forbidden"
  | notFound => "not_found"
  | indeterminate => "indeterminate"

structure PolicyExplanation where
  id : String
  decision : PolicyDecisionKind
  code : PolicyCode
  operation : String
  resource : Option ResourceRef
  policyVersion : String
  authorizationEpoch : Nat
  satisfiedCapabilities : List Capability
  missingCapabilities : List Capability
  factors : List PolicyFactor
  remediation : String
  recheckAt : String
  safeProjection : Bool
deriving DecidableEq, Repr

structure PolicyDecision where
  allowed : Bool
  explanation : PolicyExplanation
deriving DecidableEq, Repr

structure RealmIdentityError where
  code : String
  message : String
  explanation : Option PolicyExplanation := none
  affectedObject : Option String := none
  recoveryAction : String
  receipt : String
deriving DecidableEq, Repr

/-- What a method can throw: its own error, or the one of a date that is not a date. -/
inductive RealmFailure
  | realm (error : RealmIdentityError)
  | invalidDate
deriving DecidableEq, Repr

/-! ## Inputs -/

structure PolicyApproval where
  required : Bool := false
  approved : Bool := false
  approverActorId : Option String := none
  authorActorId : Option String := none
  verifierActorId : Option String := none
deriving DecidableEq, Repr

structure PolicyEvaluationInput where
  operation : String
  capability : Option Capability := none
  principalId : String
  actorId : String
  clientId : String
  sessionId : String
  taskId : Option String := none
  grantId : Option String := none
  resource : ResourceRef
  sourceSpaceId : Option String := none
  effect : Option String := none
  modelProvider : Option String := none
  requiredCredentialClass : Option CredentialClass := none
  requiredAuthStrength : Option AuthenticationStrength := none
  authorityClass : Option AuthorityClass := none
  promotionId : Option String := none
  approval : Option PolicyApproval := none
  discoverable : Option Bool := none
  «protected» : Option Bool := none
deriving DecidableEq, Repr

structure CreateTaskInput where
  principalId : String
  actorId : String
  sessionId : String
  purpose : String
  workspaceId : Option String := none
  changeId : Option String := none
  modelProvider : Option String := none
deriving DecidableEq, Repr

structure CreateTaskGrantInput where
  principalId : String
  actorId : String
  clientId : String
  sessionId : String
  taskId : String
  resource : ResourceRef
  sourceSpaceIds : List String
  actions : List Capability
  effects : Option (List String) := none
  allowedModelProviders : Option (List String) := none
  allowedCredentialClasses : Option (List CredentialClass) := none
  deniedActions : Option (List Capability) := none
  budget : Option Budget := none
  expiresAt : Option String := none
  parentGrantId : Option String := none
  agentId : Option String := none
  delegatedByActorId : Option String := none
  delegatedBySessionId : Option String := none
  consentAt : Option String := none
deriving DecidableEq

structure AgentDelegationInput where
  humanSessionId : String
  parentGrantId : String
  agentId : String
  purpose : String
  resource : ResourceRef
  sourceSpaceIds : List String
  actions : List Capability
  effects : Option (List String) := none
  allowedCredentialClasses : Option (List CredentialClass) := none
  budget : Option Budget := none
  expiresAt : Option String := none
  workspaceId : Option String := none
  changeId : Option String := none
  consentAt : Option String := none
deriving DecidableEq

structure OwnerTaskGrantInput where
  sessionId : String
  purpose : String
  resource : ResourceRef
  sourceSpaceIds : List String
  actions : List Capability
  effects : Option (List String) := none
  expiresAt : Option String := none
deriving DecidableEq, Repr

structure TaskGrantValidationInput where
  principalId : String
  actorId : String
  clientId : String
  sessionId : String
  taskId : String
  grantId : String
  resource : ResourceRef
  sourceSpaceIds : List String
  action : Capability
  effects : Option (List String) := none
deriving DecidableEq, Repr

inductive TaskGrantValidationResult
  | valid (taskId grantId expiresAt : String) (authorizationEpoch sourceSpaceCount : Nat)
      (receipt : String)
  | invalid (code recoveryAction receipt : String)
deriving DecidableEq, Repr

structure IssueCredentialInput where
  credentialClass : CredentialClass
  principalId : String
  actorId : String
  clientId : String
  sessionId : String
  taskId : String
  grantId : String
  resource : ResourceRef
deriving DecidableEq, Repr

structure CredentialValidationInput where
  credentialClass : Option CredentialClass := none
  audience : Option String := none
  resource : Option ResourceRef := none
deriving DecidableEq, Repr

inductive CredentialValidationResult
  | valid (credential : IssuedCredentialRecord)
  | invalid (code explanation receipt : String)
deriving DecidableEq, Repr

/-- What `delegateAgent` returns. -/
structure RealmAgentDelegation where
  agent : RealmAgent
  actor : RealmActor
  session : RealmSession
  task : RealmTask
  grant : RealmCapabilityGrant
  delegatedBy : ActorRef
  receipt : String
deriving DecidableEq

/-! ## State -/

/-- The records a recovery snapshot carries: all but the credentials. -/
structure RealmRecords where
  realm : Realm
  principals : OrderedMap String Principal
  agents : OrderedMap String RealmAgent
  passkeys : OrderedMap String PasskeyCredential
  oidcProviders : OrderedMap String OidcProvider
  oidcIdentities : OrderedMap String OidcIdentity
  clients : OrderedMap String RealmClient
  actors : OrderedMap String RealmActor
  sessions : OrderedMap String RealmSession
  tasks : OrderedMap String RealmTask
  relationships : OrderedMap String Relationship
  sourceSpacePolicies : OrderedMap String SourceSpacePolicy
  grants : OrderedMap String RealmCapabilityGrant

structure RealmState extends RealmRecords where
  credentials : OrderedMap String IssuedCredentialRecord

structure RealmRecoverySnapshot extends RealmRecords where
  credentialFree : Bool

/-- The fields of a policy object that never change. -/
structure RealmSettings where
  sessionLifetimeMs : Int
  credentialLifetimeMs : Int
deriving DecidableEq, Repr

/-! ## Services and the clock -/

/-- `Date.parse` (`none` for `NaN`), `Date.prototype.toISOString`, and SHA-256 of a token. -/
structure RealmServices where
  dateParse : String → Option Int
  toISOString : Int → String
  tokenDigest : String → String

/-- The readings of the clock, in milliseconds: at the empty path what a function reads
itself, below `i` what its `i`-th callee reads. Nothing relates one reading to another. -/
abbrev RealmClock := List Nat → Int

namespace RealmClock

def now (clock : RealmClock) : Int := clock []

def sub (clock : RealmClock) (i : Nat) : RealmClock := fun path => clock (i :: path)

end RealmClock

/-- `Date.parse(value) <= now`, which is false for `NaN`. -/
def RealmServices.expired (services : RealmServices) (value : String) (now : Int) : Bool :=
  match services.dateParse value with
  | some time => time ≤ now
  | none => false

/-- `Date.parse(left) > Date.parse(right)`, which is false for `NaN`. -/
def RealmServices.after (services : RealmServices) (left right : String) : Bool :=
  match services.dateParse left, services.dateParse right with
  | some l, some r => r < l
  | _, _ => false

/-- The identifiers a call draws: `opaqueId(kind)`, and the random token. -/
structure RealmDrawn where
  uuid : String → String
  token : String

def RealmDrawn.opaqueId (drawn : RealmDrawn) (kind : String) : String :=
  Kernel.opaqueId kind (drawn.uuid kind)

end Anyam.Identity
