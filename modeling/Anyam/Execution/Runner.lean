import Anyam.Execution.RunnerRecords

/-!
# The external Runner coordinator

`ExternalRunnerCoordinator` of `execution/runner.ts`. A method that only changes the
state when it returns is an `Except` of its reply and the next state; `claim`, `expire`
and the methods a credential authorizes can throw after they changed something, and
return the state beside the outcome. Identifiers, challenges and tokens are drawn by the
caller; every copy the source hands out is the record itself.
-/

namespace Anyam.Execution

open Anyam.Lib Anyam.Kernel

structure ExternalRunnerCoordinator where
  realmId : String
  projectId : String
  runners : OrderedMap String RunnerProfile
  jobs : OrderedMap String StoredJob
  attempts : OrderedMap String RunnerAttempt
  offers : OrderedMap String String
  credentials : OrderedMap String StoredCredential
  outputs : OrderedMap String (List RunnerOutputReference)
  idempotency : OrderedMap String String
  retryIdempotency : OrderedMap String String
  events : List RunnerEvent
deriving DecidableEq, Repr

/-- The input of `emit`. -/
structure RunnerEventInput where
  type : String
  runnerId : Option String := none
  jobId : Option String := none
  attemptId : Option String := none
  runId : Option String := none
  actor : Option ActorRef := none
  «from» : Option RunnerJobState := none
  «to» : Option RunnerJobState := none
  receipt : String
deriving DecidableEq, Repr

/-- The identifiers `enqueue` draws. -/
structure DrawnJob where
  run : String
  attempt : String
  job : String
deriving DecidableEq, Repr

/-- The states a finished Attempt has; each is final for the Attempt. -/
def terminalStates : List RunnerJobState :=
  [.succeeded, .failed, .indeterminate, .cancelled, .expired, .quarantined]

/-- The states a Job can be retried from. -/
def retryableJobStates : List RunnerJobState :=
  [.failed, .indeterminate, .cancelled, .expired, .quarantined]

/-- The states of a Job that a Runner works on or was offered. -/
def heldStates : List RunnerJobState := [.offered, .claimed, .running, .cancelRequested]

namespace ExternalRunnerCoordinator

def initial (realmId projectId : String) : ExternalRunnerCoordinator where
  realmId
  projectId
  runners := .empty
  jobs := .empty
  attempts := .empty
  offers := .empty
  credentials := .empty
  outputs := .empty
  idempotency := .empty
  retryIdempotency := .empty
  events := []

/-- The constructor. -/
def create (realmId projectId : String) : Except RunnerFailure ExternalRunnerCoordinator := do
  nonEmpty realmId "realmId"
  nonEmpty projectId "projectId"
  return initial realmId projectId

variable (services : RunnerServices) (s : ExternalRunnerCoordinator)

/-! ### Lookups and edits -/

def requireRunner (runnerId : String) : Except RunnerFailure RunnerProfile :=
  orThrow (s.runners.get? runnerId) (.runner {
    code := .runnerNotFound
    message := s!"Runner {runnerId} is not enrolled in this Realm."
    affectedObject := runnerId
    recoveryAction := "enroll the Runner in this Realm before using the pull protocol"
    receipt := s!"runner={runnerId}; enrolled=false" })

def requireJob (jobId : String) : Except RunnerFailure StoredJob :=
  orThrow (s.jobs.get? jobId) (.runner {
    code := .jobNotFound
    message := s!"Runner Job {jobId} is not present in the authoritative Run ledger."
    affectedObject := jobId
    recoveryAction := "restore the Run ledger or enqueue a new immutable Job"
    receipt := s!"job={jobId}; present=false" })

def requireAttempt (attemptId : String) : Except RunnerFailure RunnerAttempt :=
  orThrow (s.attempts.get? attemptId) (.runner {
    code := .attemptNotFound
    message := s!"Runner Attempt {attemptId} is not present in the authoritative Attempt ledger."
    affectedObject := attemptId
    recoveryAction := "restore the Attempt ledger or retry the Job from its last verified checkpoint"
    receipt := s!"attempt={attemptId}; present=false" })

def emit (input : RunnerEventInput) : ExternalRunnerCoordinator :=
  { s with events := s.events ++ [{
      sequence := s.events.length + 1
      type := input.type
      runnerId := truthy input.runnerId
      jobId := truthy input.jobId
      attemptId := truthy input.attemptId
      runId := truthy input.runId
      actor := input.actor
      «from» := input.from
      «to» := input.to
      receipt := input.receipt }] }

/-- The state after a Runner was edited in place. -/
def putRunner (runner : RunnerProfile) : ExternalRunnerCoordinator :=
  { s with runners := s.runners.set runner.id runner }

/-- The state after a Job and an Attempt were edited in place, or filed. -/
def put (stored : StoredJob) (attempt : RunnerAttempt) : ExternalRunnerCoordinator :=
  { s with
    jobs := s.jobs.set stored.job.id stored
    attempts := s.attempts.set attempt.id attempt }

def revokeAttemptCredentials (attemptId : String) : ExternalRunnerCoordinator :=
  { s with credentials := s.credentials.map fun credential =>
      if credential.attemptId = attemptId then { credential with status := .revoked }
      else credential }

/-! ### Runners -/

def enrollRunner (input : RunnerEnrollmentInput) (clock : Clock) :
    Except RunnerFailure (RunnerProfile × ExternalRunnerCoordinator) := do
  nonEmpty input.id "runner.id"
  nonEmpty input.provider "runner.provider"
  nonEmpty input.publicKey "runner.publicKey"
  nonEmpty input.enrollmentReceipt "runner.enrollmentReceipt"
  require (services.verifyPublicKey input.publicKey) (.runner {
    code := .invalidInput
    message := s!"Runner {input.id} supplied an invalid public key."
    affectedObject := input.id
    recoveryAction := "enroll the Runner with a parseable public key and retry"
    receipt := s!"runner={input.id}; publicKey=invalid" })
  require (¬ s.runners.has input.id) (.runner {
    code := .runnerExists
    message := s!"Runner {input.id} is already enrolled."
    affectedObject := input.id
    recoveryAction := "rotate the existing Runner identity through an explicit replacement operation or choose a new Runner ID"
    receipt := s!"runner={input.id}; enrollment=duplicate" })
  let capabilities ← unique input.capabilities "runner.capabilities"
  let networkDestinations ← unique input.networkDestinations "runner.networkDestinations"
  let destinations := String.intercalate "," networkDestinations
  require (input.networkBoundaryReceipt ≠ "" ∧
      includes input.networkBoundaryReceipt s!"networkEnforcement={input.networkEnforcement}") (.runner {
    code := .invalidInput
    message := s!"Runner {input.id} did not provide a receipt for its actual network boundary."
    affectedObject := input.id
    recoveryAction := s!"enroll the Runner with a receipt naming networkEnforcement={input.networkEnforcement}"
    receipt := s!"runner={input.id}; networkEnforcement={input.networkEnforcement}; networkBoundaryReceipt=missing-or-mismatched" })
  require (¬ (networkDestinations = [] ∧ input.networkEnforcement ≠ .denyAll)) (.runner {
    code := .invalidInput
    message := s!"Runner {input.id} declares {input.networkEnforcement} for an empty network policy."
    affectedObject := input.id
    recoveryAction := "use networkEnforcement=deny-all for an empty allowlist"
    receipt := s!"runner={input.id}; networkDestinations=empty; networkEnforcement={input.networkEnforcement}; failClosed=true" })
  require (¬ (networkDestinations ≠ [] ∧ input.networkEnforcement = .denyAll)) (.runner {
    code := .invalidInput
    message := s!"Runner {input.id} declares deny-all while advertising network destinations."
    affectedObject := input.id
    recoveryAction := "attach a qualified Cloudflare Sandbox or customer egress proxy boundary for the declared destinations"
    receipt := s!"runner={input.id}; networkDestinations={destinations}; networkEnforcement=deny-all; failClosed=true" })
  let enrollment : RunnerEnrollment := {
    id := input.id
    realmId := s.realmId
    provider := input.provider
    publicKey := input.publicKey
    platform := input.platform
    capabilities
    networkDestinations
    networkEnforcement := input.networkEnforcement
    networkBoundaryReceipt := input.networkBoundaryReceipt
    secretUse := input.secretUse
    canUploadArtifacts := input.canUploadArtifacts
    canUploadEvidence := input.canUploadEvidence
    enrolledAt := clock 0 }
  let receipt := s!"runner={input.id}; enrolled=true; approvedBy={input.approvedBy.actorId}; {input.enrollmentReceipt}"
  let profile : RunnerProfile := {
    toRunnerEnrollment := enrollment
    status := .enrolled
    profileDigest := services.profileDigest enrollment receipt
    updatedAt := clock 0
    receipt }
  return (profile, (s.putRunner profile).emit {
    type := "runner.enrolled"
    runnerId := some profile.id
    actor := some input.approvedBy
    receipt := profile.receipt })

/-- A Runner moved to another status, with the receipt and the event of the move. -/
def moveRunner (runner : RunnerProfile) (status : RunnerStatus) (type receipt : String)
    (actor : ActorRef) (clock : Clock) : RunnerProfile × ExternalRunnerCoordinator :=
  let runner := { runner with status, updatedAt := clock 0, receipt }
  (runner, (s.putRunner runner).emit
    { type, runnerId := some runner.id, actor := some actor, receipt })

def activateRunner (runnerId : String) (actor : ActorRef) (clock : Clock) :
    Except RunnerFailure (RunnerProfile × ExternalRunnerCoordinator) := do
  let runner ← s.requireRunner runnerId
  require (runner.status = .enrolled ∨ runner.status = .unavailable) (.runner {
    code := .runnerState
    message := s!"Runner {runner.id} is {runner.status}; only enrolled or unavailable Runners can be activated."
    affectedObject := runner.id
    recoveryAction := "inspect Runner state and activate only an enrolled or recovered Runner"
    receipt := s!"runner={runner.id}; state={runner.status}; required=enrolled|unavailable" })
  return s.moveRunner runner .active "runner.activated"
    s!"runner={runner.id}; state=active; actor={actor.actorId}" actor clock

def disableRunner (runnerId : String) (actor : ActorRef) (reason : String) (clock : Clock) :
    Except RunnerFailure (RunnerProfile × ExternalRunnerCoordinator) := do
  nonEmpty reason "reason"
  let runner ← s.requireRunner runnerId
  return s.moveRunner runner .disabled "runner.disabled"
    s!"runner={runner.id}; state=disabled; reason={reason}" actor clock

/-- `runnerMatchesJob`. -/
def runnerMatchesJob (runner : RunnerProfile) (job : RunnerJob) : Bool :=
  if runner.status ≠ .active then false
  else if ¬ ∀ required ∈ job.runnerRequirements, required ∈ runner.capabilities then false
  else if ¬ ∀ destination ∈ job.networkDestinations, destination ∈ runner.networkDestinations then false
  else if job.networkDestinations.length = 0 ∧ runner.networkEnforcement ≠ .denyAll then false
  else if job.networkDestinations.length > 0 ∧ runner.networkEnforcement = .denyAll then false
  else if job.secretUseAliases.length > 0 ∧ runner.secretUse ≠ .brokered then false
  else if job.outputPaths.length > 0 ∧ ¬ runner.canUploadArtifacts then false
  else if (truthy job.verifierId).isSome ∧ ¬ runner.canUploadEvidence then false
  else true

/-! ### Jobs -/

/-- The Job, the Run and the first Attempt of a new request. -/
def newJob (input : ExternalRunRequest) (runnerRequirements secretUseAliases : List String)
    (outputLocations : RunnerOutputLocations)
    (artifactOutputContract : Option ActionArtifactOutputContract) (requestDigest runId : String)
    (drawn : DrawnJob) (createdAt : String) : StoredJob × RunnerAttempt :=
  let action := input.actionInput.action
  let attemptId := opaqueId "runner-attempt" drawn.attempt
  let jobId := opaqueId "runner-job" drawn.job
  let run : Run := {
    id := runId
    actionId := action.id
    projectRevisionId := input.actionInput.projectRevisionId
    projectViewId := input.actionInput.projectViewId
    runnerId := "runner:unassigned"
    attemptId := some attemptId
    verifierId := input.actionInput.verifier.map Verifier.id
    actionContractDigest := some action.contractDigest
    artifactOutputContract
    verifierContractDigest := input.actionInput.verifier.map Verifier.contractDigest
    status := .queued
    outputDigest := none
    changeRevisionId := truthy input.actionInput.changeRevisionId
    workspaceId := truthy input.actionInput.workspaceId
    inputDigests := some input.actionInput.inputDigests
    outputDigests := none
    effectDigests := some input.actionInput.effectDigests
    dependencyDigest := some input.actionInput.dependencyDigest
    toolchainDigest := some input.actionInput.toolchainDigest
    environmentDigest := some input.actionInput.environmentDigest
    policyVersion := some input.actionInput.policyVersion
    targetId := truthy input.actionInput.targetId
    actor := some input.actionInput.actor
    capabilityGrantId := some input.actionInput.capabilityGrantId
    exitCode := none
    stdoutDigest := none
    stderrDigest := none }
  let job : RunnerJob := {
    id := jobId
    projectId := s.projectId
    runId
    actionId := action.id
    actionContractDigest := action.contractDigest
    artifactOutputContract
    verifierId := input.actionInput.verifier.map Verifier.id
    verifierContractDigest := input.actionInput.verifier.map Verifier.contractDigest
    projectRevisionId := input.actionInput.projectRevisionId
    projectViewId := input.actionInput.projectViewId
    sourceSpaceSnapshots := input.actionInput.sourceSpaceSnapshots
    changeRevisionId := truthy input.actionInput.changeRevisionId
    workspaceId := truthy input.actionInput.workspaceId
    targetId := truthy input.actionInput.targetId
    inputManifestDigest := requestDigest
    inputDigests := input.actionInput.inputDigests
    outputPaths := action.outputPaths
    effectDigests := input.actionInput.effectDigests
    dependencyDigest := input.actionInput.dependencyDigest
    toolchainDigest := input.actionInput.toolchainDigest
    environmentDigest := input.actionInput.environmentDigest
    policyVersion := input.actionInput.policyVersion
    authorizationEpoch := input.actionInput.authorizationEpoch
    capabilityGrantId := input.actionInput.capabilityGrantId
    actor := input.actionInput.actor
    disclosure := input.actionInput.disclosure
    runnerRequirements
    networkDestinations := action.network
    secretUseAliases
    outputLocations
    idempotencyKey := input.idempotencyKey
    createdAt
    state := .queued
    attemptIds := [attemptId]
    currentAttemptId := attemptId
    updatedAt := createdAt
    receipt := s!"runnerJob=queued; job={jobId}; run={runId}; inputManifest={requestDigest}; canonicalWrite=false" }
  let attempt : RunnerAttempt := {
    id := attemptId
    jobId
    runId
    state := .queued
    leaseExpiresAt := input.leaseExpiresAt
    receipt := s!"runnerAttempt=queued; attempt={attemptId}; job={jobId}; leaseExpiresAt={input.leaseExpiresAt}" }
  (⟨job, run, requestDigest⟩, attempt)

/-- The Job a request with a used idempotency key is answered with. -/
def requestedBefore (existingId idempotencyKey requestDigest : String) :
    Except RunnerFailure QueuedJob := do
  let existing ← orThrow
    ((s.jobs.get? existingId).filter fun existing => existing.requestDigest = requestDigest) (.runner {
      code := .jobIdempotencyConflict
      message := s!"Runner Job idempotency key {idempotencyKey} was already used for a different input manifest."
      affectedObject := idempotencyKey
      recoveryAction := "use a new idempotency key only after checking the existing Run and its immutable input digest"
      receipt := s!"idempotencyKey={idempotencyKey}; existingJob={existingId}; requestDigest={requestDigest}" })
  return ⟨existing.job, existing.run, ← s.requireAttempt existing.job.currentAttemptId⟩

/-- File a new Job with its Run, its Attempt and its idempotency key. -/
def fileJob (stored : StoredJob) (attempt : RunnerAttempt) : ExternalRunnerCoordinator :=
  { s.put stored attempt with
    idempotency := s.idempotency.set stored.job.idempotencyKey stored.job.id }.emit {
      type := "runner.job.queued"
      jobId := some stored.job.id
      attemptId := some attempt.id
      runId := some stored.run.id
      actor := some stored.job.actor
      «to» := some .queued
      receipt := stored.job.receipt }

def enqueue (input : ExternalRunRequest) (drawn : DrawnJob) (clock : Clock) :
    Except RunnerFailure (QueuedJob × ExternalRunnerCoordinator) := do
  nonEmpty input.idempotencyKey "idempotencyKey"
  let secretUseAliases ← unique (input.secretUseAliases.getD []) "secretUseAliases"
  let outputLocations ← normalizeOutputLocations input.outputLocations
  let artifactOutputContract ← actionOutputContract input.actionInput.action
  let requestDigest := services.requestDigest
    ⟨input.actionInput, input.runnerRequirements, secretUseAliases, outputLocations⟩
  match truthy (s.idempotency.get? input.idempotencyKey) with
  | some existingId =>
    let existing ← s.requestedBefore existingId input.idempotencyKey requestDigest
    return (existing, s)
  | none =>
    nonEmpty input.actionInput.projectRevisionId "actionInput.projectRevisionId"
    nonEmpty input.actionInput.projectViewId "actionInput.projectViewId"
    nonEmpty input.actionInput.capabilityGrantId "actionInput.capabilityGrantId"
    nonEmpty input.actionInput.policyVersion "actionInput.policyVersion"
    nonEmpty input.actionInput.authorizationEpoch "actionInput.authorizationEpoch"
    futureTimestamp services input.leaseExpiresAt (clock 0) "leaseExpiresAt"
    require (∀ destination ∈ input.actionInput.action.network, trim destination ≠ "") (.runner {
      code := .invalidInput
      message := "Action network destinations must be non-empty."
      affectedObject := input.actionInput.action.id
      recoveryAction := "remove empty network destinations from the Action contract"
      receipt := s!"action={input.actionInput.action.id}; network=invalid" })
    let runnerRequirements ← unique input.runnerRequirements "runnerRequirements"
    let runId := input.runId.getD (opaqueId "run" drawn.run)
    nonEmpty runId "runId"
    let (stored, attempt) := s.newJob input runnerRequirements secretUseAliases outputLocations
      artifactOutputContract requestDigest runId drawn (clock 1)
    return (⟨stored.job, stored.run, attempt⟩, s.fileJob stored attempt)

/-! ### Offers and claims -/

/-- The first queued Job the Runner matches, by creation time and then by id. -/
def candidate (runner : RunnerProfile) : Option StoredJob :=
  ((s.jobs.values.filter fun stored =>
      stored.job.state = .queued ∧ runnerMatchesJob runner stored.job).mergeSort
    fun left right =>
      (services.localeCompare left.job.createdAt right.job.createdAt).then
        (services.localeCompare left.job.id right.job.id) ≠ .gt).head?

/-- The state after an Attempt was offered to a Runner. -/
def offerTo (runner : RunnerProfile) (stored : StoredJob) (attempt : RunnerAttempt)
    (challenge : String) (clock : Clock) : RunnerJobOffer × ExternalRunnerCoordinator :=
  let challengeDigest := services.digest challenge
  let attempt := { attempt with
    challengeDigest := some challengeDigest
    state := .offered
    receipt := s!"runnerAttempt=offered; attempt={attempt.id}; runner={runner.id}; challengeDigest={challengeDigest}" }
  let job := { stored.job with
    state := .offered
    currentRunnerId := some runner.id
    updatedAt := clock 0
    receipt := s!"runnerJob=offered; job={stored.job.id}; runner={runner.id}; attempt={attempt.id}" }
  (⟨job, attempt, challenge, attempt.receipt⟩,
    { s.put { stored with job } attempt with
      offers := s.offers.set attempt.id challenge }.emit {
        type := "runner.job.offered"
        runnerId := some runner.id
        jobId := some job.id
        attemptId := some attempt.id
        runId := some stored.run.id
        «to» := some .offered
        receipt := job.receipt })

def pull (runnerId challenge : String) (clock : Clock) :
    Except RunnerFailure (Option RunnerJobOffer × ExternalRunnerCoordinator) := do
  let runner ← s.requireRunner runnerId
  require (runner.status = .active) (.runner {
    code := .runnerNotEligible
    message := s!"Runner {runner.id} is {runner.status} and cannot pull jobs."
    affectedObject := runner.id
    recoveryAction := "activate a qualified Runner or select another enrolled Runner"
    receipt := s!"runner={runner.id}; state={runner.status}; required=active" })
  match s.candidate services runner with
  | none => return (none, s)
  | some candidate =>
    let attempt ← s.requireAttempt candidate.job.currentAttemptId
    if attempt.state ≠ .queued then return (none, s)
    let (offer, next) := s.offerTo services runner candidate attempt challenge clock
    return (some offer, next)

/-- `expire`, which always throws. -/
def expire (jobId : String) (clock : Clock) : RunnerFailure × ExternalRunnerCoordinator :=
  match s.requireJob jobId with
  | .error failure => (failure, s)
  | .ok stored =>
    match s.requireAttempt stored.job.currentAttemptId with
    | .error failure => (failure, s)
    | .ok attempt =>
      if services.after attempt.leaseExpiresAt (clock 0) then
        let now := clock 1
        (.runner {
          code := .leaseNotExpired
          message := s!"Runner Attempt {attempt.id} has not reached its lease expiry."
          affectedObject := attempt.id
          recoveryAction := "wait for the recorded lease expiry or request explicit cancellation"
          receipt := s!"attempt={attempt.id}; leaseExpiresAt={attempt.leaseExpiresAt}; now={now}" }, s)
      else if attempt.state ∈ terminalStates then
        (.runner {
          code := .resultReplay
          message := s!"Runner Attempt {attempt.id} is already finalized as {attempt.state}."
          affectedObject := attempt.id
          recoveryAction := "inspect the existing Attempt and create a retry only when recovery is permitted"
          receipt := s!"attempt={attempt.id}; state={attempt.state}" }, s)
      else
        let now := clock 2
        let recoveryAction := "inspect Runner availability and retry from a fresh Attempt after confirming no provider side effect escaped the lease"
        let previousJobState := stored.job.state
        let attempt := { attempt with
          state := .expired
          completedAt := some (clock 1)
          recoveryAction := some recoveryAction
          receipt := s!"runnerAttempt=expired; attempt={attempt.id}; leaseExpiresAt={attempt.leaseExpiresAt}; now={now}" }
        let job := { stored.job with
          state := .expired
          updatedAt := clock 3
          recoveryAction := some recoveryAction
          receipt := s!"runnerJob=expired; job={stored.job.id}; attempt={attempt.id}; providerResult=unknown" }
        let run := { stored.run with status := .indeterminate }
        (.runner {
          code := .leaseExpired
          message := s!"Runner Attempt {attempt.id} expired before a trusted Result was accepted."
          affectedObject := attempt.id
          recoveryAction
          receipt := attempt.receipt },
          ((s.revokeAttemptCredentials attempt.id).put { stored with job, run } attempt).emit {
            type := "runner.attempt.expired"
            runnerId := attempt.runnerId
            jobId := some job.id
            attemptId := some attempt.id
            runId := some run.id
            «from» := some previousJobState
            «to» := some .expired
            receipt := attempt.receipt })

/-- The checks of `claim` before it reads the clock. -/
def claimable (input : RunnerClaim) :
    Except RunnerFailure (RunnerProfile × StoredJob × RunnerAttempt) := do
  let runner ← s.requireRunner input.runnerId
  let stored ← s.requireJob input.jobId
  let attempt ← s.requireAttempt input.attemptId
  require (runner.status = .active) (.runner {
    code := .runnerNotEligible
    message := s!"Runner {runner.id} is {runner.status} and cannot claim Runner Job {stored.job.id}."
    affectedObject := runner.id
    recoveryAction := "activate a qualified Runner or retry the Job with another active Runner"
    receipt := s!"runner={runner.id}; state={runner.status}; job={stored.job.id}" })
  require (attempt.jobId = stored.job.id ∧ stored.job.currentAttemptId = attempt.id) (.runner {
    code := .attemptMismatch
    message := s!"Runner Attempt {attempt.id} is not the current Attempt for Job {stored.job.id}."
    affectedObject := attempt.id
    recoveryAction := "pull the current offered Attempt and retry the claim"
    receipt := s!"job={stored.job.id}; currentAttempt={stored.job.currentAttemptId}; receivedAttempt={attempt.id}" })
  require (stored.job.state = .offered ∧ attempt.state = .offered) (.runner {
    code := .jobState
    message := s!"Runner Job {stored.job.id} is {stored.job.state}; only an offered Job can be claimed."
    affectedObject := stored.job.id
    recoveryAction := "pull a queued Job or inspect the existing Attempt state"
    receipt := s!"job={stored.job.id}; jobState={stored.job.state}; attemptState={attempt.state}" })
  return (runner, stored, attempt)

/-- `claimMessage`. -/
def claimMessage (challenge : String) : String := s!"anyam.runner-claim/v1|{challenge}"

/-- The challenge was offered for the Attempt, and the Runner signed it. -/
def provesClaim (runner : RunnerProfile) (attempt : RunnerAttempt) (input : RunnerClaim) : Bool :=
  truthy (s.offers.get? attempt.id) = some input.challenge &&
    attempt.challengeDigest = some (services.digest input.challenge) &&
    services.verifyProof runner.publicKey (claimMessage input.challenge) input.signature

/-- The state after a Runner claimed an Attempt, with the credential issued for it. -/
def grantTo (runner : RunnerProfile) (stored : StoredJob) (attempt : RunnerAttempt)
    (token credentialUuid : String) (clock : Clock) : RunnerJobLease × ExternalRunnerCoordinator :=
  let credential : StoredCredential := {
    id := opaqueId "runner-job-credential" credentialUuid
    digest := services.digest token
    jobId := stored.job.id
    attemptId := attempt.id
    runnerId := runner.id
    expiresAt := attempt.leaseExpiresAt
    status := .active }
  let attempt := { attempt with
    runnerId := some runner.id
    state := .running
    claimedAt := some (clock 0)
    lastHeartbeatAt := some (clock 0)
    jobCredentialDigest := some credential.digest
    receipt := s!"runnerAttempt=running; attempt={attempt.id}; runner={runner.id}; credential={credential.id}; credentialStored=false" }
  let job := { stored.job with
    state := .running
    currentRunnerId := some runner.id
    networkEnforcement := some runner.networkEnforcement
    networkBoundaryReceipt := some runner.networkBoundaryReceipt
    updatedAt := clock 1
    receipt := s!"runnerJob=running; job={stored.job.id}; attempt={attempt.id}; runner={runner.id}; canonicalWrite=false" }
  let run := { stored.run with runnerId := runner.id, status := .running }
  (⟨job, attempt, ⟨credential.id, "runner-job", job.id, attempt.id, runner.id, credential.expiresAt, token⟩,
      attempt.receipt⟩,
    { s.put { stored with job, run } attempt with
      credentials := s.credentials.set credential.id credential }.emit {
        type := "runner.job.claimed"
        runnerId := some runner.id
        jobId := some job.id
        attemptId := some attempt.id
        runId := some run.id
        «to» := some .running
        receipt := job.receipt })

def claim (input : RunnerClaim) (token credentialUuid : String) (clock : Clock) :
    Except RunnerFailure RunnerJobLease × ExternalRunnerCoordinator :=
  match s.claimable input with
  | .error failure => (.error failure, s)
  | .ok (runner, stored, attempt) =>
    if services.notAfter attempt.leaseExpiresAt (clock 0) then
      let (failure, next) := s.expire services input.jobId fun k => clock (k + 1)
      (.error failure, next)
    else if ¬ s.provesClaim services runner attempt input then
      (.error (.runner {
        code := .runnerProofInvalid
        message := s!"Runner {runner.id} did not prove possession of its enrolled identity for Attempt {attempt.id}."
        affectedObject := runner.id
        recoveryAction := "sign the exact pull challenge with the enrolled private key and retry the claim"
        receipt := s!"runner={runner.id}; attempt={attempt.id}; proof=invalid" }), s)
    else
      let (lease, next) := s.grantTo services runner stored attempt token credentialUuid
        fun k => clock (k + 1)
      (.ok lease, next)

/-! ### Credentials -/

/-- The stored credential of a token: known, active, and bound to what the token says. -/
def presentedCredential (token : RunnerJobCredential) : Except RunnerFailure StoredCredential := do
  require (token.audience = "runner-job") (.runner {
    code := .credentialInvalid
    message := "Runner Job credential audience is invalid."
    affectedObject := token.id
    recoveryAction := "use the short-lived credential returned by the current Attempt claim"
    receipt := s!"credential={token.id}; audience={token.audience}" })
  let found := s.credentials.values.find? fun candidate =>
    candidate.id = token.id ∧ candidate.digest = services.digest token.token
  let present := found.isSome
  let status := (found.map fun credential => toString credential.status).getD "missing"
  let credential ← orThrow (found.filter fun credential => credential.status = .active) (.runner {
    code := .credentialInvalid
    message := s!"Runner Job credential {token.id} is not active."
    affectedObject := token.id
    recoveryAction := "claim the current Attempt again or request a fresh retry Attempt"
    receipt := s!"credential={token.id}; present={present}; status={status}" })
  require (credential.jobId = token.jobId ∧ credential.attemptId = token.attemptId ∧
      credential.runnerId = token.runnerId) (.runner {
    code := .leaseInvalid
    message := s!"Runner Job credential {token.id} is bound to another Job, Attempt, or Runner."
    affectedObject := token.id
    recoveryAction := "use the exact credential returned for this Runner Attempt"
    receipt := s!"credential={token.id}; job={token.jobId}; attempt={token.attemptId}; runner={token.runnerId}" })
  return credential

/-- The Job and the Attempt an unexpired credential authorizes. -/
def authorizedAttempt (token : RunnerJobCredential) (credential : StoredCredential) :
    Except RunnerFailure (StoredJob × RunnerAttempt × StoredCredential) := do
  let stored ← s.requireJob credential.jobId
  let attempt ← s.requireAttempt credential.attemptId
  let attemptRunner := attempt.runnerId.getD "none"
  require (attempt.runnerId = some credential.runnerId ∧
      stored.job.currentAttemptId = attempt.id) (.runner {
    code := .leaseInvalid
    message := s!"Runner Job credential {token.id} no longer matches the authoritative Attempt."
    affectedObject := token.id
    recoveryAction := "stop the Runner process and inspect the current Attempt before retrying"
    receipt := s!"credential={token.id}; attemptRunner={attemptRunner}; credentialRunner={credential.runnerId}; currentAttempt={stored.job.currentAttemptId}" })
  return (stored, attempt, credential)

def authorizeCredential (token : RunnerJobCredential) (clock : Clock) :
    Except RunnerFailure (StoredJob × RunnerAttempt × StoredCredential) × ExternalRunnerCoordinator :=
  match s.presentedCredential services token with
  | .error failure => (.error failure, s)
  | .ok credential =>
    if services.notAfter credential.expiresAt (clock 0) then
      let now := clock 1
      let revoked := { credential with status := .revoked }
      (.error (.runner {
        code := .leaseExpired
        message := s!"Runner Job credential {token.id} has expired with its Attempt lease."
        affectedObject := token.id
        recoveryAction := "inspect provider state and retry from a fresh Attempt"
        receipt := s!"credential={token.id}; expiresAt={credential.expiresAt}; now={now}" }),
        { s with credentials := s.credentials.set revoked.id revoked })
    else (s.authorizedAttempt token credential, s)

/-- The Attempt after a heartbeat of its Runner. -/
def beatOf (attempt : RunnerAttempt) (credential : StoredCredential) (progressDigest : Option String)
    (now : String) : RunnerAttempt :=
  let progress := progressDigest.getD "none"
  { attempt with
    lastHeartbeatAt := some now
    receipt := s!"runnerAttempt=heartbeat; attempt={attempt.id}; runner={credential.runnerId}; progressDigest={progress}" }

def heartbeat (token : RunnerJobCredential) (progressDigest : Option String) (clock : Clock) :
    Except RunnerFailure RunnerAttempt × ExternalRunnerCoordinator :=
  match s.authorizeCredential services token clock with
  | (.error failure, s) => (.error failure, s)
  | (.ok (stored, attempt, credential), s) =>
    if stored.job.state ≠ .running ∧ stored.job.state ≠ .cancelRequested then
      (.error (.runner {
        code := .jobState
        message := s!"Runner Job {stored.job.id} is {stored.job.state}; it cannot receive a heartbeat."
        affectedObject := stored.job.id
        recoveryAction := "inspect the current Job state and stop work when the Attempt is no longer active"
        receipt := s!"job={stored.job.id}; state={stored.job.state}" }), s)
    else
      let attempt := beatOf attempt credential progressDigest (clock 1)
      (.ok attempt, (s.put stored attempt).emit {
        type := "runner.attempt.heartbeat"
        runnerId := some credential.runnerId
        jobId := some stored.job.id
        attemptId := some attempt.id
        runId := some stored.run.id
        receipt := attempt.receipt })

/-! ### Cancellation and results -/

def requestCancellation (jobId : String) (actor : ActorRef) (reason : String) (clock : Clock) :
    Except RunnerFailure (RunnerJob × ExternalRunnerCoordinator) := do
  nonEmpty reason "reason"
  let stored ← s.requireJob jobId
  let attempt ← s.requireAttempt stored.job.currentAttemptId
  require (stored.job.state = .running ∨ stored.job.state = .offered ∨
      stored.job.state = .claimed) (.runner {
    code := .cancellationInvalid
    message := s!"Runner Job {stored.job.id} is {stored.job.state}; cancellation requires an active Attempt."
    affectedObject := stored.job.id
    recoveryAction := "inspect the recorded Job state and retry only while the Attempt is active"
    receipt := s!"job={stored.job.id}; state={stored.job.state}" })
  let previousState := stored.job.state
  let recoveryAction := some "the Runner must report cooperative stop, forced termination, or unknown cleanup before the Job can be retried"
  let attempt := { attempt with
    state := .cancelRequested
    recoveryAction
    receipt := s!"runnerAttempt=cancel-requested; attempt={attempt.id}; reason={reason}" }
  let job := { stored.job with
    state := .cancelRequested
    updatedAt := clock 0
    recoveryAction
    receipt := s!"runnerJob=cancel-requested; job={stored.job.id}; attempt={attempt.id}; reason={reason}" }
  return (job, (s.put { stored with job } attempt).emit {
    type := "runner.job.cancel-requested"
    runnerId := attempt.runnerId
    jobId := some job.id
    attemptId := some attempt.id
    runId := some stored.run.id
    actor := some actor
    «from» := some previousState
    «to» := some .cancelRequested
    receipt := job.receipt })

/-- How an Attempt ends: the arguments of `completeAttempt` after its records. -/
structure AttemptEnd where
  runnerId : String
  state : RunnerJobState
  runStatus : RunStatus
  resultDigest : String
  recoveryAction : Option String
  receipt : String
  normalizedOutput : Option NormalizedActionOutput := none

/-- The result fields of a Run, overwritten by a normalized output. -/
def withOutput (run : Run) : Option NormalizedActionOutput → Run
  | none => run
  | some output => { run with
      inputDigests := some output.inputDigests
      outputDigests := some output.outputDigests
      exitCode := output.exitCode.or run.exitCode
      stdoutDigest := some output.stdoutDigest
      stderrDigest := some output.stderrDigest }

/-- `completeAttempt`, with the records it leaves. Job and Attempt end in one state. -/
def completeAttempt (stored : StoredJob) (attempt : RunnerAttempt) (ending : AttemptEnd)
    (clock : Clock) : StoredJob × RunnerAttempt × ExternalRunnerCoordinator :=
  let previousJobState := stored.job.state
  let attempt := { attempt with
    state := ending.state
    completedAt := some (clock 0)
    resultDigest := some ending.resultDigest
    recoveryAction := (truthy ending.recoveryAction).or attempt.recoveryAction
    receipt := s!"runnerAttempt={ending.state}; attempt={attempt.id}; runner={ending.runnerId}; resultDigest={ending.resultDigest}; {ending.receipt}" }
  let job := { stored.job with
    state := ending.state
    updatedAt := clock 1
    recoveryAction := (truthy ending.recoveryAction).or stored.job.recoveryAction
    receipt := s!"runnerJob={ending.state}; job={stored.job.id}; attempt={attempt.id}; resultDigest={ending.resultDigest}; {ending.receipt}" }
  let run := withOutput { stored.run with
    runnerId := ending.runnerId
    status := ending.runStatus
    outputDigest := some ((ending.normalizedOutput.map NormalizedActionOutput.outputDigest).getD
      ending.resultDigest) } ending.normalizedOutput
  let stored := { stored with job, run }
  (stored, attempt, ((s.revokeAttemptCredentials attempt.id).put stored attempt).emit {
    type := s!"runner.job.{ending.state}"
    runnerId := some ending.runnerId
    jobId := some job.id
    attemptId := some attempt.id
    runId := some run.id
    «from» := some previousJobState
    «to» := some ending.state
    receipt := job.receipt })

def completion (stored : StoredJob) (attempt : RunnerAttempt) (receipt : String)
    (proof : Option (RunnerResult × RunnerProfile)) : RunnerCompletion where
  job := stored.job
  attempt
  run := stored.run
  outputs := (s.outputs.get? attempt.id).getD []
  resultDigest := attempt.resultDigest.getD (services.digest receipt)
  receipt
  proof

/-- How a confirmed cancellation ends its Attempt. -/
def cancellationEnd (credential : StoredCredential) (outcome : RunnerCancellationOutcome)
    (receipt : String) : AttemptEnd where
  runnerId := credential.runnerId
  state := if outcome = .unknown then .quarantined else .cancelled
  runStatus := .indeterminate
  resultDigest := services.cancellationDigest outcome receipt
  recoveryAction := some (if outcome = .unknown then
    "revoke Runner credentials, quarantine the Runner, inspect cleanup, and retry from a fresh Attempt only after reconciliation"
    else "retry the immutable Job with a new idempotency key when the cancellation cause is understood")
  receipt

def finalizeCancellation (token : RunnerJobCredential) (outcome : RunnerCancellationOutcome)
    (receipt : String) (clock : Clock) :
    Except RunnerFailure RunnerCompletion × ExternalRunnerCoordinator :=
  match nonEmpty receipt "receipt" with
  | .error failure => (.error failure, s)
  | .ok _ =>
    match s.authorizeCredential services token clock with
    | (.error failure, s) => (.error failure, s)
    | (.ok (stored, attempt, credential), s) =>
      if stored.job.state ≠ .cancelRequested ∨ attempt.state ≠ .cancelRequested then
        (.error (.runner {
          code := .cancellationInvalid
          message := s!"Runner Job {stored.job.id} is not waiting for cancellation confirmation."
          affectedObject := stored.job.id
          recoveryAction := "request cancellation first and report the current Attempt state"
          receipt := s!"job={stored.job.id}; jobState={stored.job.state}; attemptState={attempt.state}" }), s)
      else
        let (stored, attempt, s) := s.completeAttempt stored attempt
          (cancellationEnd services credential outcome receipt) fun k => clock (k + 1)
        (.ok (s.completion services stored attempt receipt none), s)

/-- The states of a Job and of a Run for what a Runner reported. -/
def reportedJobState : ActionStatus → RunnerJobState
  | .succeeded => .succeeded
  | .failed => .failed
  | .indeterminate => .indeterminate

def reportedRunStatus : ActionStatus → RunStatus
  | .succeeded => .succeeded
  | .failed => .failed
  | .indeterminate => .indeterminate

/-- The checks of `submit` on an authorized Result; returns the Runner that signed it. -/
def acceptableResult (stored : StoredJob) (attempt : RunnerAttempt) (credential : StoredCredential)
    (result : RunnerResult) : Except RunnerFailure RunnerProfile := do
  require (stored.job.state = .running ∨ stored.job.state = .cancelRequested)
    (if stored.job.state ∈ terminalStates then .runner {
      code := .resultReplay
      message := s!"Runner Job {stored.job.id} already reached {stored.job.state}; this result is a replay."
      affectedObject := stored.job.id
      recoveryAction := "inspect the accepted Attempt result and create a new retry Attempt instead of replaying the old result"
      receipt := s!"job={stored.job.id}; state={stored.job.state}; attempt={attempt.id}" }
    else .runner {
      code := .jobState
      message := s!"Runner Job {stored.job.id} is {stored.job.state}; it cannot accept a result."
      affectedObject := stored.job.id
      recoveryAction := "submit only while the current Attempt is running or cancellation is being confirmed"
      receipt := s!"job={stored.job.id}; state={stored.job.state}" })
  require (stored.job.state ≠ .cancelRequested) (.runner {
    code := .cancellationInvalid
    message := s!"Runner Job {stored.job.id} has a pending cancellation and cannot accept a normal result."
    affectedObject := stored.job.id
    recoveryAction := "report cancellation outcome through finalizeCancellation"
    receipt := s!"job={stored.job.id}; state=cancel-requested" })
  let expectedContext ← runnerResultContext stored.job attempt
  require (result.context.SameJson expectedContext) (.runner {
    code := .resultInputMismatch
    message := s!"Runner Result for Job {stored.job.id} does not carry the immutable execution context issued for Attempt {attempt.id}."
    affectedObject := attempt.id
    recoveryAction := "echo the exact signed Runner Result context from the claimed Job and Attempt; do not alter source, Action, Verifier, policy, lease, or replay fields"
    receipt := s!"job={stored.job.id}; attempt={attempt.id}; context=not-matched; replayId={result.context.replayId}" })
  let message := services.resultMessage
    ⟨expectedContext, result.status, result.output, result.outputs, truthy result.recoveryAction⟩
  let runner ← orThrow (s.runners.get? credential.runnerId) (.runner {
    code := .runnerNotFound
    message := s!"Runner {credential.runnerId} is not enrolled."
    affectedObject := credential.runnerId
    recoveryAction := "enroll the Runner before submitting a Result"
    receipt := s!"runner={credential.runnerId}; enrolled=false" })
  require (services.verifyProof runner.publicKey message result.signature) (.runner {
    code := .resultSignatureInvalid
    message := s!"Runner {credential.runnerId} did not sign the exact Result for Attempt {attempt.id}."
    affectedObject := attempt.id
    recoveryAction := "sign the canonical Runner Result with the enrolled Runner identity and retry before the lease expires"
    receipt := s!"runner={credential.runnerId}; attempt={attempt.id}; resultSignature=invalid" })
  let expectedInputs := String.intercalate "," stored.job.inputDigests
  let receivedInputs := String.intercalate "," result.output.inputDigests
  require (result.output.inputDigests = stored.job.inputDigests) (.runner {
    code := .resultInputMismatch
    message := s!"Runner Result for Job {stored.job.id} names inputs different from the immutable input manifest."
    affectedObject := stored.job.id
    recoveryAction := "rerun against the exact Project View and input digest set recorded in the Runner Job"
    receipt := s!"job={stored.job.id}; expectedInputs={expectedInputs}; receivedInputs={receivedInputs}" })
  validateOutput stored.job attempt result
  return runner

/-- A submitted output as it is stored for its Run and Attempt. -/
def normalizedOutputOf (stored : StoredJob) (attempt : RunnerAttempt) (outputUuid : Nat → String)
    (output : RunnerOutputInput × Nat) : Except RunnerFailure RunnerOutputReference := do
  return {
    id := output.1.id.getD (opaqueId "runner-output" (outputUuid output.2))
    kind := output.1.kind
    runId := stored.run.id
    attemptId := attempt.id
    location := ← safeLocation output.1.location "runnerOutput.location" .resultOutputScope
    outputPath := output.1.outputPath
    digest := output.1.digest
    disclosure := output.1.disclosure
    receipt := output.1.receipt }

/-- How an accepted Result ends its Attempt. -/
def resultEnd (stored : StoredJob) (attempt : RunnerAttempt) (credential : StoredCredential)
    (result : RunnerResult) : AttemptEnd :=
  let resultDigest := services.resultDigest stored.job.id attempt.id result
  { runnerId := credential.runnerId
    state := reportedJobState result.status
    runStatus := reportedRunStatus result.status
    resultDigest
    recoveryAction := result.recoveryAction.or (if result.status = .succeeded then none
      else some "inspect the scoped Runner outputs and retry with a new idempotency key after correcting the failure")
    receipt := s!"runnerResult={result.status}; {resultDigest}"
    normalizedOutput := some result.output }

def submit (token : RunnerJobCredential) (result : RunnerResult) (outputUuid : Nat → String)
    (clock : Clock) : Except RunnerFailure RunnerCompletion × ExternalRunnerCoordinator :=
  match s.authorizeCredential services token clock with
  | (.error failure, s) => (.error failure, s)
  | (.ok (stored, attempt, credential), s) =>
    match s.acceptableResult services stored attempt credential result with
    | .error failure => (.error failure, s)
    | .ok runner =>
      let (stored, attempt, s) := s.completeAttempt stored attempt
        (resultEnd services stored attempt credential result) fun k => clock (k + 1)
      match result.outputs.zipIdx.mapM (normalizedOutputOf stored attempt outputUuid) with
      | .error failure => (.error failure, s)
      | .ok outputs =>
        let s := { s with outputs := s.outputs.set attempt.id outputs }
        (.ok (s.completion services stored attempt
          s!"runnerResult={result.status}; outputs={outputs.length}" (some (result, runner))), s)

/-! ### Lost Runners -/

/-- What a lost Runner does to the Jobs it holds. -/
structure RunnerLoss where
  state : RunnerJobState
  recoveryAction : String
  attemptReceipt : String → String
  jobReceipt : String → String

/-- End the Attempt of a Job the lost Runner holds. -/
def loseJob (runnerId : String) (loss : RunnerLoss) (stored : StoredJob) (attempt : RunnerAttempt)
    (clock : Clock) : ExternalRunnerCoordinator :=
  let previousJobState := stored.job.state
  let attempt := { attempt with
    state := loss.state
    completedAt := some (clock 0)
    recoveryAction := some loss.recoveryAction
    receipt := loss.attemptReceipt attempt.id }
  let job := { stored.job with
    state := loss.state
    updatedAt := clock 1
    recoveryAction := some loss.recoveryAction
    receipt := loss.jobReceipt stored.job.id }
  let run := { stored.run with status := .indeterminate }
  ((s.revokeAttemptCredentials attempt.id).put { stored with job, run } attempt).emit {
    type := s!"runner.job.{loss.state}"
    runnerId := some runnerId
    jobId := some job.id
    attemptId := some attempt.id
    runId := some run.id
    «from» := some previousJobState
    «to» := some loss.state
    receipt := job.receipt }

/-- The loop over the Jobs of a lost Runner, by their ids. -/
def loseJobs (runnerId : String) (loss : RunnerLoss) :
    List String → Clock → ExternalRunnerCoordinator →
      Except RunnerFailure Unit × ExternalRunnerCoordinator
  | [], _, s => (.ok (), s)
  | jobId :: jobIds, clock, s =>
    match (s.jobs.get? jobId).filter fun stored =>
        stored.job.currentRunnerId = some runnerId ∧ stored.job.state ∈ heldStates with
    | none => loseJobs runnerId loss jobIds clock s
    | some stored =>
      match s.requireAttempt stored.job.currentAttemptId with
      | .error failure => (.error failure, s)
      | .ok attempt =>
        loseJobs runnerId loss jobIds (fun k => clock (k + 2))
          (s.loseJob runnerId loss stored attempt clock)

/-- `markRunnerUnavailable` and `quarantineRunner`: move the Runner, then end the
Attempts it holds. -/
def loseRunner (runnerId : String) (actor : ActorRef) (reason : String) (status : RunnerStatus)
    (type : String) (loss : RunnerLoss) (clock : Clock) :
    Except RunnerFailure RunnerProfile × ExternalRunnerCoordinator :=
  match nonEmpty reason "reason" with
  | .error failure => (.error failure, s)
  | .ok _ =>
    match s.requireRunner runnerId with
    | .error failure => (.error failure, s)
    | .ok runner =>
      let (runner, s) := s.moveRunner runner status type
        s!"runner={runner.id}; state={status}; reason={reason}" actor clock
      match loseJobs runner.id loss s.jobs.keys (fun k => clock (k + 1)) s with
      | (.error failure, s) => (.error failure, s)
      | (.ok _, s) => (.ok runner, s)

def unavailability (runnerId reason : String) : RunnerLoss where
  state := .indeterminate
  recoveryAction := "restore or replace the unavailable Runner, reconcile provider state, then retry from a fresh Attempt"
  attemptReceipt attemptId := s!"runnerAttempt=indeterminate; attempt={attemptId}; runner={runnerId}; provider=unavailable; reason={reason}"
  jobReceipt jobId := s!"runnerJob=indeterminate; job={jobId}; runner={runnerId}; provider=unavailable"

def markRunnerUnavailable (runnerId : String) (actor : ActorRef) (reason : String) (clock : Clock) :
    Except RunnerFailure RunnerProfile × ExternalRunnerCoordinator :=
  s.loseRunner runnerId actor reason .unavailable "runner.unavailable"
    (unavailability runnerId reason) clock

def quarantine (runnerId reason : String) : RunnerLoss where
  state := .quarantined
  recoveryAction := "preserve the Attempt as quarantined, rotate Runner credentials, inspect cleanup, and retry only with a qualified Runner"
  attemptReceipt attemptId := s!"runnerAttempt=quarantined; attempt={attemptId}; runner={runnerId}; reason={reason}"
  jobReceipt jobId := s!"runnerJob=quarantined; job={jobId}; runner={runnerId}; reason={reason}"

def quarantineRunner (runnerId : String) (actor : ActorRef) (reason : String) (clock : Clock) :
    Except RunnerFailure RunnerProfile × ExternalRunnerCoordinator :=
  s.loseRunner runnerId actor reason .quarantined "runner.quarantined"
    (quarantine runnerId reason) clock

/-! ### Retries -/

/-- The Job a retry with a used key is answered with: `none` when the key is new. -/
def retriedBefore (input : RunnerRetryRequest) : Except RunnerFailure (Option QueuedJob) :=
  match truthy (s.retryIdempotency.get? input.idempotencyKey) with
  | none => return none
  | some existingJobId => do
    require (existingJobId = input.jobId) (.runner {
      code := .jobIdempotencyConflict
      message := s!"Retry idempotency key {input.idempotencyKey} belongs to another Runner Job."
      affectedObject := input.idempotencyKey
      recoveryAction := "use a fresh retry idempotency key"
      receipt := s!"idempotencyKey={input.idempotencyKey}; existingJob={existingJobId}; requestedJob={input.jobId}" })
    let existing ← s.requireJob input.jobId
    return some ⟨existing.job, existing.run, ← s.requireAttempt existing.job.currentAttemptId⟩

/-- A Job with a fresh Attempt in the place of its finished one. -/
def retriedJob (stored : StoredJob) (previousAttempt : RunnerAttempt) (input : RunnerRetryRequest)
    (attemptUuid : String) (clock : Clock) : StoredJob × RunnerAttempt :=
  let attemptId := opaqueId "runner-attempt" attemptUuid
  let attempt : RunnerAttempt := {
    id := attemptId
    jobId := stored.job.id
    runId := stored.run.id
    state := .queued
    leaseExpiresAt := input.leaseExpiresAt
    recoveryAction := some "pull and claim this fresh Attempt only after selecting a Runner whose capability profile satisfies the immutable Job"
    receipt := s!"runnerAttempt=queued; attempt={attemptId}; previousAttempt={previousAttempt.id}; retry=true; actor={input.actor.actorId}" }
  let job := { stored.job with
    attemptIds := stored.job.attemptIds ++ [attemptId]
    currentAttemptId := attemptId
    currentRunnerId := none
    state := .queued
    updatedAt := clock 0
    recoveryAction := some "pull and claim the fresh Attempt; the previous Attempt remains immutable and inspectable"
    receipt := s!"runnerJob=queued; job={stored.job.id}; retry=true; previousAttempt={previousAttempt.id}; currentAttempt={attemptId}" }
  let run := { stored.run with
    runnerId := "runner:unassigned"
    status := .queued
    attemptId := some attemptId }
  ({ stored with job, run }, attempt)

def retry (input : RunnerRetryRequest) (attemptUuid : String) (clock : Clock) :
    Except RunnerFailure (QueuedJob × ExternalRunnerCoordinator) := do
  nonEmpty input.idempotencyKey "idempotencyKey"
  match ← s.retriedBefore input with
  | some existing => return (existing, s)
  | none =>
    let stored ← s.requireJob input.jobId
    require (stored.job.state ∈ retryableJobStates) (.runner {
      code := .retryInvalid
      message := s!"Runner Job {stored.job.id} is {stored.job.state}; it cannot be retried from this state."
      affectedObject := stored.job.id
      recoveryAction := "retry only a failed, indeterminate, cancelled, expired, or quarantined Job"
      receipt := s!"job={stored.job.id}; state={stored.job.state}" })
    futureTimestamp services input.leaseExpiresAt (clock 0) "leaseExpiresAt"
    let previousAttempt ← s.requireAttempt stored.job.currentAttemptId
    let (stored, attempt) := retriedJob stored previousAttempt input attemptUuid fun k => clock (k + 1)
    return (⟨stored.job, stored.run, attempt⟩,
      { s.put stored attempt with
        retryIdempotency := s.retryIdempotency.set input.idempotencyKey stored.job.id }.emit {
          type := "runner.job.retried"
          jobId := some stored.job.id
          attemptId := some attempt.id
          runId := some stored.run.id
          actor := some input.actor
          «to» := some .queued
          receipt := stored.job.receipt })

end ExternalRunnerCoordinator

end Anyam.Execution
