import Anyam.Kernel.Evidence

/-!
# Execution contracts

Actions and Verifiers, the normalized input and output of an Action, Runs, and the
Runner plane's profiles, Jobs, Attempts and events, with the source's field names.
A Runner profile and a Runner Job are split where the source's object changes: the
first part is written once. Job and Attempt states are one union in the source.
-/

namespace Anyam.Kernel

open Anyam.Lib

/-! ## Actions -/

/-- One declared output of an Action: a path with the type of its Artifact. -/
structure ActionArtifactOutput where
  path : String
  type : String
deriving DecidableEq, Repr

structure ActionArtifactOutputContract where
  outputs : List ActionArtifactOutput
deriving DecidableEq, Repr

/-- `resources` has each value as its JSON text. -/
structure Action where
  id : String
  moduleId : String
  moduleRoot : String
  dependencyIds : List String
  command : String
  inputGlobs : List String
  outputPaths : List String
  artifactOutputContract : Option ActionArtifactOutputContract
  network : List String
  resources : OrderedMap String String
  contractDigest : String
deriving DecidableEq, Repr

inductive VerifierDisclosure
  | full | resultOnly
deriving DecidableEq, Repr

structure Verifier where
  id : String
  actionId : String
  disclosure : VerifierDisclosure
  requiredFor : List String
  contractDigest : String
deriving DecidableEq, Repr

structure NormalizedActionInput where
  action : Action
  verifier : Option Verifier
  projectRevisionId : String
  projectViewId : String
  sourceSpaceSnapshots : Snapshots
  changeRevisionId : Option String
  workspaceId : Option String
  inputDigests : List String
  effectDigests : List String
  dependencyDigest : String
  toolchainDigest : String
  environmentDigest : String
  policyVersion : String
  authorizationEpoch : String
  targetId : Option String
  targetDeploymentProfileDigest : Option String
  disclosure : DisclosurePolicyRef
  actor : ActorRef
  capabilityGrantId : String
  runnerId : String
deriving DecidableEq, Repr

/-- What a Runner may report of an Action. -/
inductive ActionStatus
  | succeeded | failed | indeterminate
deriving DecidableEq, Repr

instance : ToString ActionStatus where
  toString
    | .succeeded => "succeeded"
    | .failed => "failed"
    | .indeterminate => "indeterminate"

structure NormalizedActionOutput where
  status : ActionStatus
  exitCode : Option Int
  inputDigests : List String
  outputDigests : List String
  outputDigest : String
  stdoutDigest : String
  stderrDigest : String
deriving DecidableEq, Repr

/-! ## Runs -/

inductive RunStatus
  | queued | running | succeeded | failed | indeterminate
deriving DecidableEq, Repr

structure Run where
  id : String
  actionId : String
  projectRevisionId : String
  projectViewId : String
  runnerId : String
  attemptId : Option String
  verifierId : Option String
  actionContractDigest : Option String
  artifactOutputContract : Option ActionArtifactOutputContract
  verifierContractDigest : Option String
  status : RunStatus
  outputDigest : Option String
  changeRevisionId : Option String
  workspaceId : Option String
  inputDigests : Option (List String)
  outputDigests : Option (List String)
  effectDigests : Option (List String)
  dependencyDigest : Option String
  toolchainDigest : Option String
  environmentDigest : Option String
  policyVersion : Option String
  targetId : Option String
  actor : Option ActorRef
  capabilityGrantId : Option String
  exitCode : Option Int
  stdoutDigest : Option String
  stderrDigest : Option String
deriving DecidableEq, Repr

/-! ## Runners -/

inductive RunnerStatus
  | enrolled | active | unavailable | disabled | quarantined
deriving DecidableEq, Repr

instance : ToString RunnerStatus where
  toString
    | .enrolled => "enrolled"
    | .active => "active"
    | .unavailable => "unavailable"
    | .disabled => "disabled"
    | .quarantined => "quarantined"

inductive RunnerNetworkEnforcement
  | denyAll | cloudflareSandbox | customerEgressProxy
deriving DecidableEq, Repr

instance : ToString RunnerNetworkEnforcement where
  toString
    | .denyAll => "deny-all"
    | .cloudflareSandbox => "cloudflare-sandbox"
    | .customerEgressProxy => "customer-egress-proxy"

inductive RunnerSecretUse
  | brokered | none | unverified
deriving DecidableEq, Repr

structure RunnerPlatform where
  operatingSystem : String
  architecture : String
  isolation : String
deriving DecidableEq, Repr

/-- What a Runner was enrolled with. -/
structure RunnerEnrollment where
  id : String
  realmId : String
  provider : String
  publicKey : String
  platform : RunnerPlatform
  capabilities : List String
  networkDestinations : List String
  networkEnforcement : RunnerNetworkEnforcement
  networkBoundaryReceipt : String
  secretUse : RunnerSecretUse
  canUploadArtifacts : Bool
  canUploadEvidence : Bool
  enrolledAt : String
deriving DecidableEq, Repr

structure RunnerProfile extends RunnerEnrollment where
  status : RunnerStatus
  profileDigest : String
  updatedAt : String
  receipt : String
deriving DecidableEq, Repr

/-! ## Jobs and Attempts -/

inductive RunnerJobState
  | queued | offered | claimed | running | cancelRequested
  | succeeded | failed | indeterminate | cancelled | expired | quarantined
deriving DecidableEq, Repr

instance : ToString RunnerJobState where
  toString
    | .queued => "queued"
    | .offered => "offered"
    | .claimed => "claimed"
    | .running => "running"
    | .cancelRequested => "cancel-requested"
    | .succeeded => "succeeded"
    | .failed => "failed"
    | .indeterminate => "indeterminate"
    | .cancelled => "cancelled"
    | .expired => "expired"
    | .quarantined => "quarantined"

abbrev RunnerAttemptState := RunnerJobState

structure RunnerOutputLocations where
  logs : String
  artifacts : String
  evidence : String
deriving DecidableEq, Repr

/-- What a Runner Job is created with. -/
structure RunnerJobManifest where
  id : String
  projectId : String
  runId : String
  actionId : String
  actionContractDigest : String
  artifactOutputContract : Option ActionArtifactOutputContract
  verifierId : Option String
  verifierContractDigest : Option String
  projectRevisionId : String
  projectViewId : String
  sourceSpaceSnapshots : Snapshots
  changeRevisionId : Option String
  workspaceId : Option String
  targetId : Option String
  inputManifestDigest : String
  inputDigests : List String
  outputPaths : List String
  effectDigests : List String
  dependencyDigest : String
  toolchainDigest : String
  environmentDigest : String
  policyVersion : String
  authorizationEpoch : String
  capabilityGrantId : String
  actor : ActorRef
  disclosure : DisclosurePolicyRef
  runnerRequirements : List String
  networkDestinations : List String
  secretUseAliases : List String
  outputLocations : RunnerOutputLocations
  idempotencyKey : String
  createdAt : String
deriving DecidableEq, Repr

/-- The network fields are filled by the claim. -/
structure RunnerJob extends RunnerJobManifest where
  networkEnforcement : Option RunnerNetworkEnforcement := none
  networkBoundaryReceipt : Option String := none
  state : RunnerJobState
  attemptIds : List String
  currentAttemptId : String
  currentRunnerId : Option String := none
  updatedAt : String
  recoveryAction : Option String := none
  receipt : String
deriving DecidableEq, Repr

structure RunnerAttempt where
  id : String
  jobId : String
  runId : String
  runnerId : Option String := none
  state : RunnerAttemptState
  leaseExpiresAt : String
  challengeDigest : Option String := none
  jobCredentialDigest : Option String := none
  claimedAt : Option String := none
  lastHeartbeatAt : Option String := none
  completedAt : Option String := none
  resultDigest : Option String := none
  recoveryAction : Option String := none
  receipt : String
deriving DecidableEq, Repr

inductive RunnerOutputKind
  | log | artifact | evidence
deriving DecidableEq, Repr

instance : ToString RunnerOutputKind where
  toString
    | .log => "log"
    | .artifact => "artifact"
    | .evidence => "evidence"

/-- The root a Job assigns to outputs of a kind. -/
def RunnerOutputLocations.rootOf (locations : RunnerOutputLocations) : RunnerOutputKind → String
  | .log => locations.logs
  | .artifact => locations.artifacts
  | .evidence => locations.evidence

structure RunnerOutputReference where
  id : String
  kind : RunnerOutputKind
  runId : String
  attemptId : String
  location : String
  outputPath : Option String
  digest : String
  disclosure : DisclosurePolicyRef
  receipt : String
deriving DecidableEq, Repr

structure RunnerEvent where
  sequence : Nat
  type : String
  runnerId : Option String
  jobId : Option String
  attemptId : Option String
  runId : Option String
  actor : Option ActorRef
  «from» : Option RunnerJobState
  «to» : Option RunnerJobState
  receipt : String
deriving DecidableEq, Repr

end Anyam.Kernel
