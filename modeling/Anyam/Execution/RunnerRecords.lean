import Anyam.Execution.ActionArtifactOutput

/-!
# Runner records

The data of `execution/runner.ts`: what a Runner is enrolled with, what a Run is
requested with, the credential of a claimed Job, the signed Result, and the errors. The
digests, signatures and the reading of dates are given as `RunnerServices`; the clock
is given to each operation as the readings it takes.
-/

namespace Anyam.Execution

open Anyam.Lib Anyam.Kernel

/-! ## Errors -/

inductive RunnerErrorCode
  | invalidInput | runnerExists | runnerNotFound | runnerNotEligible | runnerProofInvalid
  | runnerState | jobNotFound | jobIdempotencyConflict | jobState | attemptNotFound
  | attemptMismatch | leaseInvalid | leaseExpired | leaseNotExpired | credentialInvalid
  | resultSignatureInvalid | resultReplay | resultInputMismatch | resultOutputInvalid
  | resultOutputScope | cancellationInvalid | retryInvalid
deriving DecidableEq, Repr

structure RunnerError where
  code : RunnerErrorCode
  message : String
  affectedObject : String
  recoveryAction : String
  receipt : String
deriving DecidableEq, Repr

/-- What a coordinator method can throw: its own error, or one of the contract parser
that it does not translate. -/
inductive RunnerFailure
  | runner (error : RunnerError)
  | artifactOutput (error : ActionArtifactOutputError)
deriving DecidableEq, Repr

/-! ## Inputs -/

structure RunnerEnrollmentInput where
  id : String
  provider : String
  publicKey : String
  platform : RunnerPlatform
  capabilities : List String
  networkDestinations : List String
  networkEnforcement : RunnerNetworkEnforcement
  networkBoundaryReceipt : String
  secretUse : RunnerSecretUse
  canUploadArtifacts : Bool
  canUploadEvidence : Bool
  approvedBy : ActorRef
  enrollmentReceipt : String
deriving DecidableEq, Repr

structure ExternalRunRequest where
  idempotencyKey : String
  runId : Option String := none
  actionInput : NormalizedActionInput
  runnerRequirements : List String
  secretUseAliases : Option (List String) := none
  outputLocations : RunnerOutputLocations
  leaseExpiresAt : String
deriving DecidableEq, Repr

/-- What `runnerInputManifestDigest` is taken over. -/
structure RunnerInputManifest where
  actionInput : NormalizedActionInput
  runnerRequirements : List String
  secretUseAliases : List String
  outputLocations : RunnerOutputLocations
deriving DecidableEq, Repr

structure RunnerClaim where
  runnerId : String
  jobId : String
  attemptId : String
  challenge : String
  signature : String
deriving DecidableEq, Repr

structure RunnerRetryRequest where
  jobId : String
  idempotencyKey : String
  leaseExpiresAt : String
  actor : ActorRef
deriving DecidableEq, Repr

inductive RunnerCancellationOutcome
  | stopped | forced | unknown
deriving DecidableEq, Repr

/-! ## Credentials and Results -/

structure RunnerJobCredential where
  id : String
  audience : String
  jobId : String
  attemptId : String
  runnerId : String
  expiresAt : String
  token : String
deriving DecidableEq, Repr

inductive CredentialStatus
  | active | revoked
deriving DecidableEq, Repr

instance : ToString CredentialStatus where
  toString
    | .active => "active"
    | .revoked => "revoked"

structure StoredCredential where
  id : String
  digest : String
  jobId : String
  attemptId : String
  runnerId : String
  expiresAt : String
  status : CredentialStatus
deriving DecidableEq, Repr

structure StoredJob where
  job : RunnerJob
  run : Run
  requestDigest : String
deriving DecidableEq, Repr

/-- A submitted output. `runId` and `attemptId` are never allowed, and are checked. -/
structure RunnerOutputInput extends TypedOutput where
  id : Option String
  location : String
  disclosure : DisclosurePolicyRef
  receipt : String
  runId : Option String := none
  attemptId : Option String := none
deriving DecidableEq, Repr

structure RunnerResultContext where
  replayId : String
  jobId : String
  attemptId : String
  runnerId : String
  leaseExpiresAt : String
  inputManifestDigest : String
  sourceSpaceSnapshots : Snapshots
  actionId : String
  actionContractDigest : String
  artifactOutputContract : Option ActionArtifactOutputContract
  verifierId : Option String
  verifierContractDigest : Option String
  projectRevisionId : String
  projectViewId : String
  changeRevisionId : Option String
  workspaceId : Option String
  policyVersion : String
  authorizationEpoch : String
  capabilityGrantId : String
  networkEnforcement : RunnerNetworkEnforcement
  networkBoundaryReceipt : String
deriving DecidableEq, Repr

/-- `stableJson(left) === stableJson(right)`: equal up to the order of the keys of the
one record with free keys. -/
def RunnerResultContext.SameJson (left right : RunnerResultContext) : Prop :=
  left.sourceSpaceSnapshots.entries.Perm right.sourceSpaceSnapshots.entries ∧
    { left with sourceSpaceSnapshots := right.sourceSpaceSnapshots } = right

instance (left right : RunnerResultContext) : Decidable (left.SameJson right) :=
  inferInstanceAs (Decidable (_ ∧ _))

structure RunnerResult where
  status : ActionStatus
  output : NormalizedActionOutput
  outputs : List RunnerOutputInput
  context : RunnerResultContext
  recoveryAction : Option String
  signature : String
deriving DecidableEq, Repr

/-- What a Runner signs of its Result. -/
structure RunnerResultMessage where
  context : RunnerResultContext
  status : ActionStatus
  output : NormalizedActionOutput
  outputs : List RunnerOutputInput
  recoveryAction : Option String
deriving DecidableEq, Repr

/-! ## Replies -/

structure RunnerJobOffer where
  job : RunnerJob
  attempt : RunnerAttempt
  challenge : String
  receipt : String
deriving DecidableEq, Repr

structure RunnerJobLease where
  job : RunnerJob
  attempt : RunnerAttempt
  credential : RunnerJobCredential
  receipt : String
deriving DecidableEq, Repr

structure QueuedJob where
  job : RunnerJob
  run : Run
  attempt : RunnerAttempt
deriving DecidableEq, Repr

/-- A completion; a signed one has the Result and the profile it was verified with. -/
structure RunnerCompletion where
  job : RunnerJob
  attempt : RunnerAttempt
  run : Run
  outputs : List RunnerOutputReference
  resultDigest : String
  receipt : String
  proof : Option (RunnerResult × RunnerProfile)
deriving DecidableEq, Repr

/-! ## Services -/

/-- The readings of the clock an operation keeps or compares, in order. -/
abbrev Clock := Nat → String

/-- What the coordinator calls outside its own module: SHA-256 digests, the signed
message of a Result, public keys and signatures, `Date.parse` (`none` for `NaN`) and the
locale's order of strings. -/
structure RunnerServices where
  digest : String → String
  /-- Of an enrollment and its receipt. -/
  profileDigest : RunnerEnrollment → String → String
  requestDigest : RunnerInputManifest → String
  cancellationDigest : RunnerCancellationOutcome → String → String
  resultDigest : String → String → RunnerResult → String
  resultMessage : RunnerResultMessage → String
  verifyPublicKey : String → Bool
  verifyProof : String → String → String → Bool
  dateParse : String → Option Int
  localeCompare : String → String → Ordering

/-- `Date.parse(left) <= Date.parse(right)`; false when either is `NaN`. -/
def RunnerServices.notAfter (services : RunnerServices) (left right : String) : Bool :=
  match services.dateParse left, services.dateParse right with
  | some l, some r => l ≤ r
  | _, _ => false

/-- `Date.parse(left) > Date.parse(right)`; false when either is `NaN`. -/
def RunnerServices.after (services : RunnerServices) (left right : String) : Bool :=
  match services.dateParse left, services.dateParse right with
  | some l, some r => r < l
  | _, _ => false

/-! ## Checks of an input -/

def nonEmpty (value field : String) : Except RunnerFailure Unit :=
  require (trim value ≠ "") (.runner {
    code := .invalidInput
    message := s!"{field} must not be empty."
    affectedObject := field
    recoveryAction := s!"provide a non-empty {field} and retry"
    receipt := s!"field={field}; present=false" })

def unique (values : List String) (field : String) : Except RunnerFailure (List String) := do
  require values.Nodup (.runner {
    code := .invalidInput
    message := s!"{field} contains duplicate values."
    affectedObject := field
    recoveryAction := s!"remove duplicate {field} entries and retry"
    receipt := s!"field={field}; count={values.length}; unique={values.dedup.length}" })
  return values

def futureTimestamp (services : RunnerServices) (value now field : String) :
    Except RunnerFailure Unit :=
  require (services.dateParse value ≠ none ∧ ¬ services.notAfter value now) (.runner {
    code := .invalidInput
    message := s!"{field} must be a valid future timestamp."
    affectedObject := field
    recoveryAction := s!"set {field} after the current coordinator time and retry"
    receipt := s!"field={field}; value={value}; now={now}" })

/-- `/^[A-Za-z]:\//`. -/
def startsWithDrive (value : String) : Bool :=
  match value.toList with
  | c :: ':' :: '/' :: _ => c.isAlpha
  | _ => false

def safeLocation (value field : String) (code : RunnerErrorCode) : Except RunnerFailure String := do
  nonEmpty value field
  let normalized := stripTrailingSlashes (replaceBackslashes value)
  let quoted := jsonString value
  require (¬ (startsWith normalized "/" ∨ startsWithDrive normalized ∨
      ∃ segment ∈ split '/' normalized, segment = ".." ∨ segment = ".") ∧ normalized ≠ "") (.runner {
    code
    message := s!"{field} must be a non-empty scoped location without traversal."
    affectedObject := field
    recoveryAction := s!"use a relative {field} location below the coordinator-assigned Run output root"
    receipt := s!"field={field}; value={quoted}; rule=normalized-no-traversal" })
  return normalized

def normalizeOutputLocations (input : RunnerOutputLocations) :
    Except RunnerFailure RunnerOutputLocations := do
  return {
    logs := ← safeLocation input.logs "outputLocations.logs" .invalidInput
    artifacts := ← safeLocation input.artifacts "outputLocations.artifacts" .invalidInput
    evidence := ← safeLocation input.evidence "outputLocations.evidence" .invalidInput }

/-- The Artifact contract of an Action, parsed against its output paths. -/
def actionOutputContract (action : Action) :
    Except RunnerFailure (Option ActionArtifactOutputContract) :=
  match action.artifactOutputContract with
  | none => return none
  | some contract =>
    match parseActionArtifactOutputContract contract (some action.outputPaths) with
    | .ok contract => return some contract
    | .error failure => .error (.runner {
        code := .invalidInput
        message := failure.message
        affectedObject := action.id
        recoveryAction := "declare unique typed paths within the Action output paths"
        receipt := s!"artifactOutputContract={failure.reason}; job=not-created" })

/-! ## Checks of a Result -/

def disclosureRank : DisclosureClassification → Nat
  | .public => 0
  | .project => 1
  | .restricted => 2

def disclosureAllows (outer inner : DisclosureClassification) : Bool :=
  disclosureRank inner ≤ disclosureRank outer

/-- The path before the last `=`, when it is not empty. -/
def pathFromDigest (value : String) : Option String :=
  ((splitAtLast '=' value).map Prod.fst).filter fun path => path ≠ ""

/-- `root.replace(/\/$/, "")`. -/
def dropTrailingSlash (root : String) : String :=
  match root.toList.reverse with
  | '/' :: rest => String.ofList rest.reverse
  | _ => root

def locationWithin (location root : String) : Bool :=
  location = root || startsWith location (dropTrailingSlash root ++ "/")

/-- `runnerResultContext`: the context issued for a claimed Job and its Attempt. -/
def runnerResultContext (job : RunnerJob) (attempt : RunnerAttempt) :
    Except RunnerFailure RunnerResultContext := do
  let missing : RunnerFailure := .runner {
    code := .resultInputMismatch
    message := s!"Runner Job {job.id} has no enrolled network boundary receipt after claim."
    affectedObject := job.id
    recoveryAction := "claim the Job through a Runner with a qualified network boundary before producing a Result"
    receipt := s!"job={job.id}; networkBoundary=missing; resultContext=not-issued" }
  let networkEnforcement ← orThrow job.networkEnforcement missing
  let networkBoundaryReceipt ← orThrow (truthy job.networkBoundaryReceipt) missing
  let artifactOutputContract ← match job.artifactOutputContract with
    | none => pure none
    | some contract => ((parseActionArtifactOutputContract contract (some job.outputPaths)).mapError
        .artifactOutput).map some
  return {
    replayId := s!"{job.id}:{attempt.id}"
    jobId := job.id
    attemptId := attempt.id
    runnerId := (attempt.runnerId.or job.currentRunnerId).getD "runner:unassigned"
    leaseExpiresAt := attempt.leaseExpiresAt
    inputManifestDigest := job.inputManifestDigest
    sourceSpaceSnapshots := job.sourceSpaceSnapshots
    actionId := job.actionId
    actionContractDigest := job.actionContractDigest
    artifactOutputContract
    verifierId := truthy job.verifierId
    verifierContractDigest := truthy job.verifierContractDigest
    projectRevisionId := job.projectRevisionId
    projectViewId := job.projectViewId
    changeRevisionId := truthy job.changeRevisionId
    workspaceId := truthy job.workspaceId
    policyVersion := job.policyVersion
    authorizationEpoch := job.authorizationEpoch
    capabilityGrantId := job.capabilityGrantId
    networkEnforcement
    networkBoundaryReceipt }

/-- The checks of one submitted output against its Job and Attempt. -/
def validateSubmittedOutput (job : RunnerJob) (attempt : RunnerAttempt)
    (output : RunnerOutputInput) : Except RunnerFailure Unit := do
  let normalizedLocation ← safeLocation output.location "runnerOutput.location" .resultOutputScope
  nonEmpty output.digest "runnerOutput.digest"
  nonEmpty output.receipt "runnerOutput.receipt"
  let runId := output.runId.getD "undefined"
  let attemptId := output.attemptId.getD "undefined"
  let name := output.id.getD "unnamed"
  let expectedLocation := job.outputLocations.rootOf output.kind
  require (output.runId = none ∧ output.attemptId = none) (.runner {
    code := .resultOutputInvalid
    message := "Runner output references must not override coordinator-owned Run or Attempt identity."
    affectedObject := job.id
    recoveryAction := "omit runId and attemptId from submitted output references; Anyam attaches them after validation"
    receipt := s!"job={job.id}; runIdInput={runId}; attemptIdInput={attemptId}" })
  require (locationWithin normalizedLocation expectedLocation) (.runner {
    code := .resultOutputScope
    message := s!"Runner output {name} is outside its Run-scoped {output.kind} location."
    affectedObject := job.id
    recoveryAction := s!"upload {output.kind} only below {expectedLocation} for this Run Attempt"
    receipt := s!"job={job.id}; kind={output.kind}; location={normalizedLocation}; expectedRoot={expectedLocation}" })
  require (disclosureAllows job.disclosure.classification output.disclosure.classification) (.runner {
    code := .resultOutputScope
    message := s!"Runner output {name} discloses more than the Job's Project View."
    affectedObject := job.id
    recoveryAction := "return a disclosure-safe output projection or request an authorized Project View before retrying"
    receipt := s!"job={job.id}; jobDisclosure={job.disclosure.classification}; outputDisclosure={output.disclosure.classification}" })
  require (¬ (output.kind = .artifact ∧ ¬ includes normalizedLocation attempt.id)) (.runner {
    code := .resultOutputScope
    message := s!"Artifact output {name} is not bound to Attempt {attempt.id}."
    affectedObject := job.id
    recoveryAction := "include the current Attempt identity in the Artifact output location"
    receipt := s!"job={job.id}; attempt={attempt.id}; location={normalizedLocation}" })

def validateOutput (job : RunnerJob) (attempt : RunnerAttempt) (result : RunnerResult) :
    Except RunnerFailure Unit := do
  (validateActionArtifactOutputs job.artifactOutputContract job.outputPaths result.status
      result.output.outputDigests (result.outputs.map RunnerOutputInput.toTypedOutput)).mapError
    fun failure => .runner {
      code := .resultOutputInvalid
      message := failure.message
      affectedObject := job.id
      recoveryAction := "return exactly the declared Artifact paths with their matching normalized Action digests"
      receipt := s!"artifactOutputContract={failure.reason}; result=not-accepted" }
  let expectedPaths := job.outputPaths.dedup
  let receivedPaths := result.output.outputDigests.map pathFromDigest
  let expectedOutputs := String.intercalate "," job.outputPaths
  let receivedOutputs := String.intercalate "," result.output.outputDigests
  require (result.output.status = result.status) (.runner {
    code := .resultOutputInvalid
    message := s!"Runner Result for Job {job.id} has a status mismatch between its envelope and normalized output."
    affectedObject := job.id
    recoveryAction := "set the Runner Result and NormalizedActionOutput statuses to the same value"
    receipt := s!"job={job.id}; resultStatus={result.status}; outputStatus={result.output.status}" })
  require (∀ path ∈ receivedPaths, ∃ expected ∈ expectedPaths, path = some expected) (.runner {
    code := .resultOutputInvalid
    message := s!"Runner Result for Job {job.id} names an output outside the Action contract."
    affectedObject := job.id
    recoveryAction := "return only output digests for the declared Action output paths"
    receipt := s!"job={job.id}; expectedOutputs={expectedOutputs}; receivedOutputs={receivedOutputs}" })
  require (receivedPaths.Nodup ∧
      ¬ (result.status = .succeeded ∧ receivedPaths.length ≠ expectedPaths.length)) (.runner {
    code := .resultOutputInvalid
    message := s!"Runner Result for Job {job.id} does not contain exactly one digest for each declared output."
    affectedObject := job.id
    recoveryAction := "produce every declared output exactly once or return a failed Result with the missing-output receipt"
    receipt := s!"job={job.id}; expectedCount={expectedPaths.length}; receivedCount={receivedPaths.length}" })
  forM result.outputs (validateSubmittedOutput job attempt)

end Anyam.Execution
