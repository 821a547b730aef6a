import Anyam.Authority.Runs

/-!
# Runner completions

`AuthorityPlaneCoordinator.applyRunnerCompletion`: a Result that an enrolled Runner signed turns
a queued Run into a terminal one, with its Evidence and Artifacts. The completion is typed, so
the checks of its shape always pass; where its Job has no network boundary, no Result context
matches it.

- `Completed`: what an accepted completion is applied with, and what it files of it.
- **`checkRunnerCompletion_ok`**: the queued Run, and where its Job agrees with it.
- **`applyRunnerCompletion_ok`**: an accepted completion is filed under new ids.
-/

namespace Anyam.Authority

open Anyam.Lib Anyam.Kernel Anyam.Execution

/-! ## The scope of the outputs -/

def safeRunnerLocation (value field : String) : Except AuthorityFailure String := do
  let location := stripTrailingSlashes (replaceBackslashes
    (← requiredString (some (.string value)) field))
  require (location ≠ "" ∧ ¬ startsWith location "/" ∧ ¬ startsWithDrive location ∧
      ∀ segment ∈ split '/' location, segment ≠ "." ∧ segment ≠ ".." ∧ segment ≠ "")
    (refusal .conflict
      s!"{field} is not a safe relative Runner output location."
      "submit only a normalized path below the coordinator-assigned output root; no Authority state was changed"
      s!"{field}=unsafe; runnerCompletion=not-applied")
  return location

/-- Unlike the Runner coordinator's, this compares with the root without its slash. -/
def locationWithin (location root : String) : Bool :=
  location = dropTrailingSlash root || startsWith location (dropTrailingSlash root ++ "/")

def attemptToken (attemptId : String) : Except AuthorityFailure String :=
  requiredString (some (.string attemptId)) "runnerOutput.attemptId"

/-- The checks of one output reference. -/
def validateOutputReference (job : RunnerJob) (output : RunnerOutputReference) :
    Except AuthorityFailure Unit := do
  let location ← safeRunnerLocation output.location "runnerOutput.location"
  let root := job.outputLocations.rootOf output.kind
  require (locationWithin location root ∧
      disclosureAllows job.disclosure.classification output.disclosure.classification)
    (refusal .conflict
      s!"Runner output {output.id} is outside the declared output or disclosure boundary."
      "return output references below the Run-scoped root and within the Project View disclosure; no Authority state was changed"
      s!"job={job.id}; output={output.id}; root={root}; runnerCompletion=not-applied")
  let _ ← requiredString (some (.string output.digest)) s!"runnerOutput.{output.id}.digest"
  require (output.attemptId = job.currentAttemptId) (refusal .conflict
    s!"Runner output {output.id} is bound to a different Attempt."
    "submit only output references produced by the current Runner Attempt; no Authority state was changed"
    s!"job={job.id}; output={output.id}; expectedAttempt={job.currentAttemptId}; receivedAttempt={output.attemptId}; runnerCompletion=not-applied")
  if output.kind = .artifact then
    let token ← attemptToken output.attemptId
    require (includes location token) (refusal .conflict
      s!"Artifact output {output.id} is not bound to its Attempt."
      "include the current Attempt identity in the artifact output location; no Authority state was changed"
      s!"output={output.id}; attempt={output.attemptId}; runnerCompletion=not-applied")

/-- The received paths are exactly the declared ones, each once. -/
def sameOutputPaths (received : List (Option String)) (declared : List String) : Prop :=
  (∀ path ∈ received, ∃ expected ∈ declared, path = some expected) ∧ received.Nodup ∧
    received.length = declared.dedup.length

instance (received : List (Option String)) (declared : List String) :
    Decidable (sameOutputPaths received declared) :=
  inferInstanceAs (Decidable (_ ∧ _ ∧ _))

def validateRunnerCompletionOutputScope (job : RunnerJob) (result : RunnerResult)
    (outputs : List RunnerOutputReference) : Except AuthorityFailure Unit := do
  require (result.output.status = result.status ∧
      sameStrings result.output.inputDigests job.inputDigests = true) (refusal .conflict
    "Runner Result output does not match the immutable Job inputs or status."
    "return the exact normalized output produced for this Runner Job; no Authority state was changed"
    s!"job={job.id}; output=status-or-input-mismatch; runnerCompletion=not-applied")
  actionArtifactContract (validateActionArtifactOutputs job.artifactOutputContract job.outputPaths
    result.status result.output.outputDigests
    (outputs.map fun output => ⟨output.kind, output.outputPath, output.digest⟩))
  let receivedPaths := result.output.outputDigests.map pathFromDigest
  let expectedOutputs := String.intercalate "," job.outputPaths
  let receivedOutputs := String.intercalate "," result.output.outputDigests
  require (result.status = .succeeded → sameOutputPaths receivedPaths job.outputPaths)
    (refusal .conflict
      "Runner Result output paths do not exactly match the declared Action outputs."
      "produce one digest for every declared output path and no undeclared paths; no Authority state was changed"
      s!"job={job.id}; expectedOutputs={expectedOutputs}; receivedOutputs={receivedOutputs}; runnerCompletion=not-applied")
  forM outputs (validateOutputReference job)

/-! ## The checks of a completion -/

/-- The enrolled Runner of a completion. -/
def enrolledRunner (next : AuthorityPlaneSnapshot) (runner : RunnerProfile) (runnerId : String) :
    Except AuthorityFailure RunnerProfile := do
  let registeredRunner ← orThrow (next.runnerProfiles.get? runnerId) (refusal .notFound
    s!"Runner {runnerId} is not enrolled in the Authority Realm."
    "enroll and synchronize the Runner profile before submitting a completion"
    s!"runner={runnerId}; enrolled=false; runnerCompletion=not-applied")
  require (registeredRunner.profileDigest = runner.profileDigest ∧
      registeredRunner.publicKey = runner.publicKey) (refusal .conflict
    s!"Runner {runnerId} completion uses a different enrolled profile."
    "submit with the exact credential-free profile synchronized during Runner enrollment"
    s!"runner={runnerId}; profileDigest=not-matched; runnerCompletion=not-applied")
  require (registeredRunner.status = .active ∨ registeredRunner.status = .enrolled)
    (refusal .blocked
      s!"Runner {runnerId} is {registeredRunner.status} and cannot complete a Run."
      "reactivate or replace the Runner, reconcile provider state, and retry from a fresh Attempt"
      s!"runner={runnerId}; status={registeredRunner.status}; runnerCompletion=not-applied")
  return registeredRunner

/-- The queued Run of a completion, whose Job, Attempt and Result are its own. -/
def queuedRun (next : AuthorityPlaneSnapshot) (completion : RunnerCompletionValue)
    (runnerId : String) : Except AuthorityFailure Run := do
  let job := completion.job
  let attempt := completion.attempt
  let result := completion.result
  let completionRun := completion.run
  let run ← orThrow (next.runs.get? completionRun.id) (refusal .notFound
    s!"Queued Run {completionRun.id} is not present in Authority."
    "request a fresh Run and submit its matching Runner completion; no Authority state was changed"
    s!"run={completionRun.id}; runnerCompletion=not-applied; discoverable=false")
  require (run.status = .queued ∨ run.status = .running) (refusal .conflict
    s!"Run {run.id} is already {run.status}; this Runner completion is a replay or stale Attempt."
    "inspect the accepted Run result and do not replay the signed completion"
    s!"run={run.id}; status={run.status}; attempt={attempt.id}; runnerCompletion=not-applied")
  require (job.runId = run.id ∧ attempt.runId = run.id ∧ completionRun.id = job.runId)
    (refusal .conflict
      "Runner Job, Attempt, and Run identities do not agree."
      "submit the completion produced for the exact queued Run; no Authority state was changed"
      s!"run={run.id}; jobRun={job.runId}; attemptRun={attempt.runId}; runnerCompletion=not-applied")
  require (attempt.jobId = job.id ∧ job.currentAttemptId = attempt.id ∧
      attempt.runnerId = some runnerId ∧ job.currentRunnerId = some runnerId) (refusal .conflict
    "Runner Job and Attempt are not the current enrolled Runner Attempt."
    "submit only the current Attempt returned by the Runner coordinator; no Authority state was changed"
    s!"job={job.id}; attempt={attempt.id}; runner={runnerId}; runnerCompletion=not-applied")
  require (toString job.state = toString result.status ∧
      toString attempt.state = toString result.status ∧
      toString completionRun.status = toString result.status) (refusal .conflict
    "Runner completion states do not agree across Job, Attempt, Result, and Run."
    "return one immutable completion with matching succeeded, failed, or indeterminate states"
    s!"jobState={job.state}; attemptState={attempt.state}; resultStatus={result.status}; runStatus={completionRun.status}; runnerCompletion=not-applied")
  return run

/-- The fields of the queued Run that its Job must have, with what both have there. -/
def expectedRunFields (run : Run) (job : RunnerJob) :
    List (String × Option String × Option String) :=
  [("actionId", some run.actionId, some job.actionId),
   ("projectRevisionId", some run.projectRevisionId, some job.projectRevisionId),
   ("projectViewId", some run.projectViewId, some job.projectViewId),
   ("changeRevisionId", run.changeRevisionId, job.changeRevisionId),
   ("workspaceId", run.workspaceId, job.workspaceId),
   ("verifierId", run.verifierId, job.verifierId),
   ("actionContractDigest", run.actionContractDigest, some job.actionContractDigest),
   ("verifierContractDigest", run.verifierContractDigest, job.verifierContractDigest),
   ("policyVersion", run.policyVersion, some job.policyVersion),
   ("capabilityGrantId", run.capabilityGrantId, some job.capabilityGrantId)]

/-- The comparison of a Job with its queued Run. -/
def requireQueuedManifest (run : Run) (job : RunnerJob) : Except AuthorityFailure Unit := do
  forM (expectedRunFields run job) fun (field, expected, received) =>
    let expectedText := expected.getD "undefined"
    let receivedText := received.getD "undefined"
    require (expected = received) (refusal .conflict
      s!"Runner completion {field} does not match queued Run {run.id}."
      "re-run the exact Authority Run request and submit its matching Runner Job; no Authority state was changed"
      s!"run={run.id}; field={field}; expected={expectedText}; received={receivedText}; runnerCompletion=not-applied")
  require (sameStrings (run.inputDigests.getD []) job.inputDigests = true ∧
      sameStrings (run.effectDigests.getD []) job.effectDigests = true) (refusal .conflict
    s!"Runner Job inputs or effects do not match queued Run {run.id}."
    "submit the result from the immutable input manifest recorded for this Run"
    s!"run={run.id}; inputOrEffects=not-matched; runnerCompletion=not-applied")
  require (run.artifactOutputContract = job.artifactOutputContract) (refusal .conflict
    "Runner Artifact contract differs from the queued Run."
    "submit the Job for the exact Run output declaration; no state was changed"
    "artifactOutputContract=queued-run-mismatch; runnerCompletion=not-applied")

/-- `runnerResultContextClaims`; `none` where it has an undefined field, which no context of a
Result has. -/
def runnerResultContextClaims (job : RunnerJob) (attempt : RunnerAttempt) :
    Except AuthorityFailure (Option RunnerResultContext) := do
  let artifactOutputContract ← match job.artifactOutputContract with
    | none => pure none
    | some contract => ((parseActionArtifactOutputContract contract (some job.outputPaths)).mapError
        fun failure => .untranslated failure.message).map some
  return do
    let networkEnforcement ← job.networkEnforcement
    let networkBoundaryReceipt ← job.networkBoundaryReceipt
    return {
      replayId := s!"{job.id}:{attempt.id}"
      jobId := job.id
      attemptId := attempt.id
      runnerId := (attempt.runnerId.or job.currentRunnerId).getD "runner:unassigned"
      leaseExpiresAt := attempt.leaseExpiresAt
      inputManifestDigest := job.inputManifestDigest
      sourceSpaceSnapshots := job.sourceSpaceSnapshots
      actionId := job.actionId
      actionContractDigest := job.actionContractDigest
      artifactOutputContract
      verifierId := truthy job.verifierId
      verifierContractDigest := truthy job.verifierContractDigest
      projectRevisionId := job.projectRevisionId
      projectViewId := job.projectViewId
      changeRevisionId := truthy job.changeRevisionId
      workspaceId := truthy job.workspaceId
      policyVersion := job.policyVersion
      authorizationEpoch := job.authorizationEpoch
      capabilityGrantId := job.capabilityGrantId
      networkEnforcement
      networkBoundaryReceipt }

/-- The fields of an output that a Runner signs. -/
structure OutputShape where
  kind : RunnerOutputKind
  location : String
  outputPath : Option String
  digest : String
  disclosure : DisclosurePolicyRef
  receipt : String
deriving DecidableEq

def signedOutputShape (output : RunnerOutputInput) : OutputShape :=
  ⟨output.kind, output.location, output.outputPath, output.digest, output.disclosure,
    output.receipt⟩

def receivedOutputShape (output : RunnerOutputReference) : OutputShape :=
  ⟨output.kind, output.location, output.outputPath, output.digest, output.disclosure,
    output.receipt⟩

/-- The checks of the signed Result: its context, its signature, its digest and its outputs. -/
def requireSignedResult (services : AuthorityServices) (registeredRunner : RunnerProfile)
    (completion : RunnerCompletionValue) (runnerId resultDigest : String) :
    Except AuthorityFailure Unit := do
  let job := completion.job
  let attempt := completion.attempt
  let result := completion.result
  let expectedContext ← runnerResultContextClaims job attempt
  require (∃ expected ∈ expectedContext, result.context.SameJson expected) (refusal .conflict
    s!"Runner Result context does not match Attempt {attempt.id}."
    "echo the exact signed context issued by the enrolled Runner coordinator; no Authority state was changed"
    s!"job={job.id}; attempt={attempt.id}; context=not-matched; runnerCompletion=not-applied")
  let message := services.runner.resultMessage {
    context := result.context
    status := result.status
    output := result.output
    outputs := result.outputs
    recoveryAction := truthy result.recoveryAction }
  let signature ← requiredString (some (.string result.signature)) "completion.result.signature"
  require (services.runner.verifyProof registeredRunner.publicKey message signature = true)
    (refusal .blocked
      s!"Runner {runnerId} signed Result verification failed."
      "submit the exact Result signed by the enrolled Runner key before the Attempt lease expires"
      s!"runner={runnerId}; attempt={attempt.id}; resultSignature=invalid; runnerCompletion=not-applied")
  let recomputedDigest := services.runner.resultDigest job.id attempt.id result
  let expectedDigest := attempt.resultDigest.getD recomputedDigest
  require (recomputedDigest = resultDigest ∧
      ∀ digest ∈ truthy attempt.resultDigest, digest = resultDigest) (refusal .conflict
    s!"Runner Result digest does not match Attempt {attempt.id}."
    "submit the unchanged signed Result returned by the Runner coordinator; no Authority state was changed"
    s!"job={job.id}; attempt={attempt.id}; expectedDigest={expectedDigest}; receivedDigest={resultDigest}; runnerCompletion=not-applied")
  require (result.outputs.map signedOutputShape = completion.outputs.map receivedOutputShape)
    (refusal .conflict
      "Runner completion outputs differ from the signed Result envelope."
      "forward the exact output references returned by the Runner coordinator; no Authority state was changed"
      s!"job={job.id}; attempt={attempt.id}; outputs=signed-shape-mismatch; runnerCompletion=not-applied")

/-- The snapshots of what a Run was requested for. -/
def producingSnapshots (next : AuthorityPlaneSnapshot) (run : Run) : Option Snapshots :=
  (((truthy run.changeRevisionId).bind next.changeRevisions.get?).map
      ChangeRevision.sourceSpaceSnapshots).or
    ((next.projectRevisions.get? run.projectRevisionId).map ProjectRevision.sourceSpaceSnapshots)

/-- The Job has the snapshots of the producing View, and no others. -/
def sourceClosure (next : AuthorityPlaneSnapshot) (run : Run) (job : RunnerJob) : Prop :=
  ∃ view ∈ next.projectViews.get? run.projectViewId, job.projectId = view.projectId ∧
    ∃ snapshots ∈ producingSnapshots next run, view.visibleSourceSpaceIds ≠ [] ∧
      view.visibleSourceSpaceIds.Nodup ∧
      job.sourceSpaceSnapshots.keys.length = view.visibleSourceSpaceIds.length ∧
      ∀ id ∈ view.visibleSourceSpaceIds, job.sourceSpaceSnapshots.get? id = snapshots.get? id

instance (next : AuthorityPlaneSnapshot) (run : Run) (job : RunnerJob) :
    Decidable (sourceClosure next run job) :=
  inferInstanceAs (Decidable (∃ view ∈ _, _))

/-! ## What a completion files -/

/-- What a completion is applied with: the queued Run, the enrolled Runner and what was read of
the completion. -/
structure Completed where
  run : Run
  registeredRunner : RunnerProfile
  completion : RunnerCompletionValue
  runnerId : String
  resultDigest : String
  receipt : String

namespace Completed

variable (done : Completed)

def status : RunStatus :=
  match done.completion.result.status with
  | .succeeded => .succeeded
  | .failed => .failed
  | .indeterminate => .indeterminate

def terminalRun : Run :=
  let job := done.completion.job
  let output := done.completion.result.output
  { done.run with
    runnerId := done.runnerId
    attemptId := some done.completion.attempt.id
    status := done.status
    outputDigest := some output.outputDigest
    inputDigests := some output.inputDigests
    outputDigests := some output.outputDigests
    effectDigests := some job.effectDigests
    dependencyDigest := some job.dependencyDigest
    toolchainDigest := some job.toolchainDigest
    environmentDigest := some job.environmentDigest
    actor := some job.actor
    capabilityGrantId := some job.capabilityGrantId
    exitCode := output.exitCode.or done.run.exitCode
    stdoutDigest := some output.stdoutDigest
    stderrDigest := some output.stderrDigest
    targetId := (truthy job.targetId).or done.run.targetId }

def evidenceId : String := s!"evidence:{done.completion.attempt.id}"

def outcome : EvidenceOutcome :=
  match done.completion.result.status with
  | .succeeded => .passed
  | .failed => .failed
  | .indeterminate => .indeterminate

/-- The Evidence, with the receipt of the bytes the Realm holds. -/
def evidence (createdAt custodyReceipt : String) : Evidence :=
  let job := done.completion.job
  let resultDigest := done.resultDigest
  let receipt := done.receipt
  let verifier := job.verifierId.getD "action"
  let verifierContract := job.verifierContractDigest.getD "none"
  { id := done.evidenceId
    key := s!"runner:{job.actionId}:{verifier}"
    criterion :=
      "The enrolled Runner signed the exact Action result for the recorded Project Revision."
    outcome := done.outcome
    validityKey :=
      s!"{job.projectRevisionId}:{job.actionContractDigest}:{verifierContract}:{resultDigest}"
    actionId := job.actionId
    verifierId := job.verifierId.getD "verifier:runner-result"
    toolchainDigest := job.toolchainDigest
    dependencyDigest := job.dependencyDigest
    environmentDigest := job.environmentDigest
    inputDigests := job.inputDigests
    effectDigests := job.effectDigests
    outputDigest := done.completion.result.output.outputDigest
    createdAt
    projectRevisionId := done.run.projectRevisionId
    projectViewId := done.run.projectViewId
    changeRevisionId := truthy done.run.changeRevisionId
    runId := done.run.id
    actor := job.actor
    runnerId := done.runnerId
    policyVersion := job.policyVersion
    authorizationEpoch := job.authorizationEpoch
    capabilityGrantId := job.capabilityGrantId
    disclosure := ⟨job.disclosure.projectionId, toString job.disclosure.classification⟩
    receipt := s!"{receipt}; runnerSignature=verified; resultDigest={resultDigest}; outputReadBack=runner-attested; credentialState=closed; {custodyReceipt}"
    invalidators := ["project-revision", "action-contract", "verifier-contract", "runner-profile",
      "policy-version"]
    owner := done.runnerId
    targetId := truthy job.targetId
    workspaceId := truthy job.workspaceId
    sourceSpaceSnapshots := some job.sourceSpaceSnapshots
    actionContractDigest := some job.actionContractDigest
    verifierContractDigest := truthy job.verifierContractDigest }

/-- The Artifact of one output, at its index among the Artifact outputs. -/
def artifact (output : RunnerOutputReference) (index : Nat) : Artifact :=
  let job := done.completion.job
  let position := index + 1
  { id := (truthy (some output.id)).getD s!"artifact:{done.completion.attempt.id}:{position}"
    type := ((job.artifactOutputContract.bind fun contract =>
      contract.outputs.find? fun entry => some entry.path = output.outputPath).map
        ActionArtifactOutput.type).getD "runner.output"
    digest := output.digest
    projectRevisionId := done.run.projectRevisionId
    changeRevisionId := truthy done.run.changeRevisionId
    runId := some done.run.id
    actionId := some job.actionId
    outputPath := some (output.outputPath.getD output.location)
    provenanceDigest := some done.resultDigest
    disclosure := some ⟨output.disclosure.projectionId,
      toString output.disclosure.classification⟩ }

def artifacts : List Artifact :=
  ((done.completion.outputs.filter fun output => output.kind = .artifact).zipIdx).map
    fun (output, index) => done.artifact output index

def runDetail : AcceptedRunDetail where
  runId := done.run.id
  job := done.completion.job
  attempt := done.completion.attempt
  result := done.completion.result
  runnerProfile := done.registeredRunner
  resultDigest := done.resultDigest

/-- `for (const artifact of artifacts) next.artifacts[artifact.id] = artifact`. -/
def putArtifacts (next : AuthorityPlaneSnapshot) (artifacts : List Artifact) :
    AuthorityPlaneSnapshot :=
  artifacts.foldl (fun next artifact => next.put .artifacts artifact.id artifact) next

/-- What is written once every check has passed. -/
def file (next : AuthorityPlaneSnapshot) (evidence : Evidence) : AuthorityPlaneSnapshot :=
  let attempt := done.completion.attempt
  ((putArtifacts ((next.put .runs done.run.id done.terminalRun).put .evidence evidence.id evidence)
    done.artifacts).put .runnerAttempts attempt.id attempt).put .runDetails done.run.id
      done.runDetail

end Completed

/-- The receipt of the bytes the Realm holds. -/
def custodyReceipt (custody : Option RunnerArtifactCustody) (job : RunnerJob)
    (outputs : List RunnerOutputReference) : Except AuthorityFailure String :=
  match custody with
  | none => .ok "artifactByteCustody=runner-attested"
  | some retainRunnerArtifacts => (retainRunnerArtifacts job outputs).mapError fun failure =>
      let reason := failure.reason
      refusal
        (match failure.code with
          | .blocked => .blocked
          | .conflict => .conflict
          | .indeterminate => .indeterminate)
        s!"Runner Artifact byte custody is {reason}."
        (if failure.code = .blocked then
          "bind customer-owned ANYAM_RUNNER_OUTPUTS and the executor's ANYAM_PROMOTION_ARTIFACTS bucket, then retry the same completion"
        else
          "reconcile the exact Attempt output and digest-addressed Artifact objects, then retry the same signed completion and idempotency key")
        s!"artifactByteCustody={reason}; runnerCompletion=not-applied; artifactWrite=may-have-occurred; credentialMaterialStored=false"

/-- The checks of a completion, in their order, and what it is applied with. -/
def checkRunnerCompletion (services : AuthorityServices) (next : AuthorityPlaneSnapshot)
    (completion : RunnerCompletionValue) : Except AuthorityFailure Completed := do
  require (services.scanCompletion completion = false) (refusal .invalidRequest
    "Runner completion must be credential-free."
    "remove credential material before forwarding the signed completion; no state was changed"
    "runnerCompletion=credential-material-rejected; transition=not-applied")
  let attempt := completion.attempt
  let job := completion.job
  let resultDigest ← requiredString (some (.string completion.resultDigest))
    "completion.resultDigest"
  let credentialState ← requiredString (some (.string completion.credentialState))
    "completion.credentialState"
  require (credentialState = "closed") (refusal .conflict
    "Runner completion arrived while its Attempt credential was not closed."
    "revoke the Attempt credential in the Runner coordinator before submitting completion; no Authority state was changed"
    s!"attempt={attempt.id}; credentialState={credentialState}; runnerCompletion=not-applied")
  let receipt ← receiptString services (some (.string completion.receipt)) "completion.receipt"
  let runnerId ← requiredString (some (.string completion.runnerProfile.id))
    "completion.runnerProfile.id"
  let registeredRunner ← enrolledRunner next completion.runnerProfile runnerId
  let run ← queuedRun next completion runnerId
  requireQueuedManifest run job
  requireSignedResult services registeredRunner completion runnerId resultDigest
  validateRunnerCompletionOutputScope job completion.result completion.outputs
  require (sourceClosure next run job) (refusal .conflict
    "Signed Runner Source snapshots must match the exact producing View and Revision."
    "submit a completion bound to the queued Run's exact Source scope; no state was changed"
    "runnerCompletion=source-closure-mismatch; transition=not-applied")
  return { run, registeredRunner, completion, runnerId, resultDigest, receipt }

def applyRunnerCompletion (services : AuthorityServices) (next : AuthorityPlaneSnapshot)
    (command : RunnerCompletionCommand) (custody : Option RunnerArtifactCustody) (drawn : Drawn) :
    Applied := do
  let completion := command.completion
  let attempt := completion.attempt
  let result := completion.result
  let done ← checkRunnerCompletion services next completion
  require (next.evidence.get? done.evidenceId = none) (refusal .conflict
    s!"Evidence {done.evidenceId} already exists for Attempt {attempt.id}."
    "reuse the original Authority idempotency key or inspect the accepted completion; no state was changed"
    s!"evidence={done.evidenceId}; attempt={attempt.id}; runnerCompletion=not-applied")
  forM done.artifacts fun artifact =>
    require (next.artifacts.get? artifact.id = none) (refusal .conflict
      s!"Artifact {artifact.id} already exists for Attempt {attempt.id}."
      "reuse the original Authority idempotency key or inspect the accepted completion; no state was changed"
      s!"artifact={artifact.id}; attempt={attempt.id}; runnerCompletion=not-applied")
  let custodyReceipt ← custodyReceipt custody completion.job completion.outputs
  let evidence := done.evidence drawn.now custodyReceipt
  let artifacts := done.artifacts
  let runId := done.run.id
  let runnerId := done.runnerId
  let resultDigest := done.resultDigest
  let value : List AuthorityValue := [.run done.terminalRun, .evidence evidence,
    .artifacts artifacts, .attempt attempt, .runner done.registeredRunner]
  let receipt := s!"run={runId}; attempt={attempt.id}; runner={runnerId}; status={result.status}; evidence={evidence.id}; artifacts={artifacts.length}; resultDigest={resultDigest}; credentialState=closed; outputReadBack=runner-attested; {custodyReceipt}; canonicalWrite=false"
  return (done.file next evidence,
    if result.status = .indeterminate then
      unsettled .indeterminate command.command next value receipt
        (result.recoveryAction.getD
          "reconcile the Runner provider result before using this Evidence or Artifact")
    else
      success command.command next value receipt)

/-! ## What an accepted completion agrees on -/

/-- A Job has every field of its queued Run that the coordinator compares. -/
structure MatchesQueuedRun (run : Run) (job : RunnerJob) : Prop where
  actionId : run.actionId = job.actionId
  projectRevisionId : run.projectRevisionId = job.projectRevisionId
  projectViewId : run.projectViewId = job.projectViewId
  changeRevisionId : run.changeRevisionId = job.changeRevisionId
  workspaceId : run.workspaceId = job.workspaceId
  verifierId : run.verifierId = job.verifierId
  actionContractDigest : run.actionContractDigest = some job.actionContractDigest
  verifierContractDigest : run.verifierContractDigest = job.verifierContractDigest
  policyVersion : run.policyVersion = some job.policyVersion
  capabilityGrantId : run.capabilityGrantId = some job.capabilityGrantId
  inputDigests : run.inputDigests.getD [] = job.inputDigests
  effectDigests : run.effectDigests.getD [] = job.effectDigests
  artifactOutputContract : run.artifactOutputContract = job.artifactOutputContract

theorem requireQueuedManifest_ok {run : Run} {job : RunnerJob}
    (h : requireQueuedManifest run job = .ok ()) : MatchesQueuedRun run job := by
  simp only [requireQueuedManifest, expectedRunFields, bind_eq_ok, exists_unit, forM_eq_ok,
    require_eq_ok, List.forall_mem_cons, Option.some.injEq, sameStrings, decide_eq_true_eq] at h
  obtain ⟨⟨action, revision, view, changeRevision, workspace, verifier, actionContract,
    verifierContract, policy, grant, -⟩, ⟨inputs, effects⟩, contract⟩ := h
  exact ⟨action, revision, view, changeRevision, workspace, verifier, actionContract,
    verifierContract, policy, grant, inputs, effects, contract⟩

theorem queuedRun_ok {next : AuthorityPlaneSnapshot} {completion : RunnerCompletionValue}
    {runnerId : String} {run : Run} (h : queuedRun next completion runnerId = .ok run) :
    next.runs.get? run.id = some run ∧ completion.run.id = run.id ∧
      (run.status = .queued ∨ run.status = .running) := by
  simp only [queuedRun, bind_eq_ok, orThrow_eq_ok, require_eq_ok, exists_unit, pure_eq_ok] at h
  obtain ⟨_, hrun, hstatus, ⟨hjob, -, hid⟩, -, -, rfl⟩ := h
  have hkey : completion.run.id = _ := hid.trans hjob
  exact ⟨hkey ▸ hrun, hkey, hstatus⟩

/-- The inputs a Result reports are its Job's. -/
theorem validateRunnerCompletionOutputScope_ok {job : RunnerJob} {result : RunnerResult}
    {outputs : List RunnerOutputReference}
    (h : validateRunnerCompletionOutputScope job result outputs = .ok ()) :
    result.output.inputDigests = job.inputDigests := by
  simp only [validateRunnerCompletionOutputScope, bind_eq_ok, require_eq_ok, exists_unit,
    sameStrings, decide_eq_true_eq] at h
  exact h.1.2

section

variable {services : AuthorityServices} {next next' : AuthorityPlaneSnapshot}
  {command : RunnerCompletionCommand} {completion : RunnerCompletionValue} {done : Completed}
  {custody : Option RunnerArtifactCustody} {drawn : Drawn} {result : AuthorityCommandResult}

theorem checkRunnerCompletion_ok (h : checkRunnerCompletion services next completion = .ok done) :
    done.completion = completion ∧ next.runs.get? done.run.id = some done.run ∧
      completion.run.id = done.run.id ∧
      (done.run.status = .queued ∨ done.run.status = .running) ∧
      MatchesQueuedRun done.run completion.job ∧
      completion.result.output.inputDigests = completion.job.inputDigests := by
  simp only [checkRunnerCompletion, bind_eq_ok, require_eq_ok, exists_unit, pure_eq_ok] at h
  obtain ⟨-, _, -, _, -, -, _, -, _, -, _, -, run, hrun, hmanifest, -, hscope, -, rfl⟩ := h
  obtain ⟨hget, hid, hstatus⟩ := queuedRun_ok hrun
  exact ⟨rfl, hget, hid, hstatus, requireQueuedManifest_ok hmanifest,
    validateRunnerCompletionOutputScope_ok hscope⟩

/-- An accepted completion files its Evidence and Artifacts under new ids. -/
theorem applyRunnerCompletion_ok
    (h : applyRunnerCompletion services next command custody drawn = .ok (next', result)) :
    ∃ (done : Completed) (receipt : String),
      checkRunnerCompletion services next command.completion = .ok done ∧
      next.evidence.get? done.evidenceId = none ∧
      (∀ artifact ∈ done.artifacts, next.artifacts.get? artifact.id = none) ∧
      next' = done.file next (done.evidence drawn.now receipt) := by
  simp only [applyRunnerCompletion, bind_eq_ok, require_eq_ok, forM_eq_ok, exists_unit,
    pure_eq_ok, Prod.mk.injEq] at h
  obtain ⟨done, hdone, hevidence, hartifacts, receipt, -, rfl, -⟩ := h
  exact ⟨done, receipt, hdone, hevidence, hartifacts, rfl⟩

end

/-! ## The frame of what is filed -/

namespace Completed

variable {next : AuthorityPlaneSnapshot} {artifacts : List Artifact}

theorem putArtifacts_writes (next : AuthorityPlaneSnapshot) (artifacts : List Artifact) :
    AuthorityPlaneSnapshot.WritesOnly [.artifacts] next (putArtifacts next artifacts) := by
  induction artifacts generalizing next with
  | nil => exact .refl ..
  | cons artifact artifacts ih =>
    have hput := (AuthorityPlaneSnapshot.WritesOnly.refl [.artifacts] next).put
      (c := .artifacts) (List.mem_cons_self ..) artifact.id artifact
    exact hput.trans (ih (next.put .artifacts artifact.id artifact))

/-- Artifacts under new ids keep the ones that are there. -/
theorem putArtifacts_kept (m : OrderedMap String Artifact)
    (hm : OrderedMap.Kept m next.artifacts)
    (hnew : ∀ artifact ∈ artifacts, m.get? artifact.id = none) :
    OrderedMap.Kept m (putArtifacts next artifacts).artifacts := by
  induction artifacts generalizing next with
  | nil => exact hm
  | cons artifact artifacts ih =>
    rw [List.forall_mem_cons] at hnew
    refine ih ?_ hnew.2
    intro k v hv
    have hne : k ≠ artifact.id := by
      rintro rfl
      rw [hnew.1] at hv
      cases hv
    show (next.artifacts.set artifact.id artifact).get? k = some v
    rw [OrderedMap.get?_set_ne _ _ hne]
    exact hm k v hv

variable (done : Completed)

theorem file_writes (next : AuthorityPlaneSnapshot) (evidence : Evidence) :
    AuthorityPlaneSnapshot.WritesOnly [.runs, .evidence, .artifacts, .runnerAttempts, .runDetails]
      next (done.file next evidence) := by
  refine .put (.put (.trans (.put (.put (.refl _ next) ?_ ..) ?_ ..)
    ((putArtifacts_writes ..).mono ?_)) ?_ ..) ?_ ..
  all_goals simp

theorem file_runs (next : AuthorityPlaneSnapshot) (evidence : Evidence) :
    (done.file next evidence).runs = next.runs.set done.run.id done.terminalRun :=
  (putArtifacts_writes _ done.artifacts).records .runs (by simp)

theorem file_evidence (next : AuthorityPlaneSnapshot) (evidence : Evidence) :
    (done.file next evidence).evidence = next.evidence.set evidence.id evidence :=
  (putArtifacts_writes _ done.artifacts).records .evidence (by simp)

theorem file_artifacts (next : AuthorityPlaneSnapshot) (evidence : Evidence) :
    (done.file next evidence).artifacts =
      (putArtifacts ((next.put .runs done.run.id done.terminalRun).put .evidence evidence.id
        evidence) done.artifacts).artifacts := rfl

end Completed

end Anyam.Authority
