import Anyam.Authority.System

/-!
# What the owner asked a Run for

A Run is requested with the fields its owner fixed, and a completion rebuilds it from the Job of
the Runner. The coordinator compares the fields of one list with the queued Run, and the Runner
signs the fields of another; the Target and the digests of the dependencies, the toolchain and the
environment are in neither.

- **`requestedRun_kept`**: a Run is as it was requested, until a completion is submitted.
- `SameClosure`: the Job has the Target and the given digests of the queued Run.
- **`completeRunner_keepsIntent`**: an accepted completion keeps what the owner fixed exactly for
  such a Job.
-/

namespace Anyam.Authority

open Anyam.Lib Anyam.Kernel Anyam.Delivery Anyam.Execution

/-! ## Between the request and the completion -/

section

variable {services : AuthorityServices} {s next : AuthorityPlaneSnapshot} {drawn : Drawn}
  {operation : AuthorityOperation} {id : String} {run : Run}

/-- The completion an operation submits is one of the Run. -/
def AuthorityOperation.Completes (operation : AuthorityOperation) (id : String) : Prop :=
  ∃ command session custody, operation = .completeRunner command session custody ∧
    command.completion.run.id = id

/-- A command files a Run under a new id only. -/
theorem apply_run_kept {command : AuthorityCommand} {session : AuthoritySession}
    {applied : AuthorityCommandResult}
    (h : apply services s command session drawn = .ok (next, applied)) :
    OrderedMap.Kept s.runs next.runs := by
  by_cases hruns : .runs ∈ command.command.writes
  · unfold apply at h
    cases hname : command.command <;> rw [hname] at hruns <;> simp only [hname] at h
    case runRequest =>
      obtain ⟨_, _, hnew, -, -, rfl⟩ := runRequest_ok h
      exact .set hnew
    case runRecord =>
      obtain ⟨_, _, hnew, -, rfl⟩ := runRecord_ok h
      exact .set hnew
    case runnerComplete => exact absurd h nofun
    all_goals exact absurd hruns (by decide)
  · exact .of_eq ((apply_writes h).records .runs hruns)

/-- A transition keeps every Run but the one it completes. -/
theorem Writes.run_kept (h : Writes services s drawn operation next)
    (hrun : s.runs.get? id = some run) :
    next.runs.get? id = some run ∨ operation.Completes id := by
  cases h with
  | command _ _ h => exact .inl (apply_run_kept h id run hrun)
  | enrollment _ => exact .inl hrun
  | @completion command session custody _ _ h =>
    obtain ⟨done, receipt, hdone, -, -, rfl⟩ := applyRunnerCompletion_ok h
    by_cases hid : id = done.run.id
    · obtain ⟨-, -, heq, -⟩ := checkRunnerCompletion_ok hdone
      exact .inr ⟨command, session, custody, rfl, heq.trans hid.symm⟩
    · left
      rw [done.file_runs, OrderedMap.get?_set_ne _ _ hid]
      exact hrun
  | promotion _ h _ =>
    left
    rw [AuthorityPlaneSnapshot.runs, h.records .runs (by decide)]
    exact hrun

/-- **A Run is as it was requested**, until a completion of it is submitted. -/
theorem requestedRun_kept {ok : AuthorityPlaneSnapshot → AuthorityCall → Prop}
    {tr : List AuthorityTransition} {s' : AuthorityPlaneSnapshot}
    (h : Lib.Run (step services) ok s tr s') (hrun : s.runs.get? id = some run) :
    s'.runs.get? id = some run ∨
      ∃ t ∈ tr, t.op.operation.Completes id ∧ t.pre.runs.get? id = some run := by
  induction h with
  | nil => exact .inl hrun
  | @snoc tr m call _ _ ih =>
    rcases ih with hkept | ⟨t, ht, hcompletes⟩
    · rcases step_records services call m with heq | ⟨written, hwrites, heq⟩
      · exact .inl (by rw [AuthorityPlaneSnapshot.runs, heq]; exact hkept)
      · rcases hwrites.run_kept hkept with hnext | hcompletes
        · exact .inl (by rw [AuthorityPlaneSnapshot.runs, heq]; exact hnext)
        · exact .inr ⟨_, List.mem_append_right _ (List.mem_singleton_self _), hcompletes, hkept⟩
    · exact .inr ⟨t, List.mem_append_left _ ht, hcompletes⟩

end

/-! ## The completion -/

/-- A terminal Run has every field that its owner fixed; the digests that were not given are the
Runner's. -/
structure SameIntent (requested terminal : Run) : Prop where
  actionId : terminal.actionId = requested.actionId
  projectRevisionId : terminal.projectRevisionId = requested.projectRevisionId
  projectViewId : terminal.projectViewId = requested.projectViewId
  changeRevisionId : terminal.changeRevisionId = requested.changeRevisionId
  workspaceId : terminal.workspaceId = requested.workspaceId
  verifierId : terminal.verifierId = requested.verifierId
  actionContractDigest : terminal.actionContractDigest = requested.actionContractDigest
  verifierContractDigest : terminal.verifierContractDigest = requested.verifierContractDigest
  dependencyDigest : ∀ digest ∈ requested.dependencyDigest,
    terminal.dependencyDigest = some digest
  toolchainDigest : ∀ digest ∈ requested.toolchainDigest, terminal.toolchainDigest = some digest
  environmentDigest : ∀ digest ∈ requested.environmentDigest,
    terminal.environmentDigest = some digest
  targetId : terminal.targetId = requested.targetId
  policyVersion : terminal.policyVersion = requested.policyVersion
  capabilityGrantId : terminal.capabilityGrantId = requested.capabilityGrantId
  inputDigests : terminal.inputDigests.getD [] = requested.inputDigests.getD []
  effectDigests : terminal.effectDigests.getD [] = requested.effectDigests.getD []
  artifactOutputContract : terminal.artifactOutputContract = requested.artifactOutputContract

/-- A completion leaves the queued Run with what its owner fixed, and Evidence of its Target. -/
structure KeepsIntent (s s' : AuthorityPlaneSnapshot) (completion : RunnerCompletionValue) :
    Prop where
  run : ∃ requested ∈ s.runs.get? completion.run.id, ∃ terminal ∈ s'.runs.get? completion.run.id,
    SameIntent requested terminal
  evidence : ∃ requested ∈ s.runs.get? completion.run.id,
    ∃ evidence ∈ s'.evidence.get? s!"evidence:{completion.attempt.id}",
      evidence.runId = requested.id ∧ evidence.targetId = requested.targetId

/-- The Job has the Target and the given digests of its queued Run. -/
def SameClosure (run : Run) (job : RunnerJob) : Prop :=
  truthy job.targetId = run.targetId ∧
    (∀ digest ∈ run.dependencyDigest, job.dependencyDigest = digest) ∧
    (∀ digest ∈ run.toolchainDigest, job.toolchainDigest = digest) ∧
    ∀ digest ∈ run.environmentDigest, job.environmentDigest = digest

namespace Completed

variable {next : AuthorityPlaneSnapshot} {done : Completed} {completion : RunnerCompletionValue}

/-- The terminal Run keeps what was fixed when its Job has the Target and the digests. -/
theorem sameIntent (hjob : done.completion = completion)
    (hmatches : MatchesQueuedRun done.run completion.job)
    (hinputs : completion.result.output.inputDigests = completion.job.inputDigests)
    (h : SameClosure done.run completion.job) : SameIntent done.run done.terminalRun := by
  subst hjob
  obtain ⟨htarget, hdependency, htoolchain, henvironment⟩ := h
  have hinput : done.completion.result.output.inputDigests = done.run.inputDigests.getD [] :=
    hinputs.trans hmatches.inputDigests.symm
  refine ⟨rfl, rfl, rfl, rfl, rfl, rfl, rfl, rfl, ?_, ?_, ?_, ?_, rfl,
    hmatches.capabilityGrantId.symm, hinput, hmatches.effectDigests.symm, rfl⟩
  · intro digest hdigest
    exact congrArg some (hdependency digest hdigest)
  · intro digest hdigest
    exact congrArg some (htoolchain digest hdigest)
  · intro digest hdigest
    exact congrArg some (henvironment digest hdigest)
  · show (truthy done.completion.job.targetId).or done.run.targetId = done.run.targetId
    rw [htarget, Option.or_self]

/-- And only then, as its Evidence names the Target of the Job. -/
theorem sameClosure (hjob : done.completion = completion)
    (hintent : SameIntent done.run done.terminalRun)
    (htarget : truthy completion.job.targetId = done.run.targetId) :
    SameClosure done.run completion.job := by
  subst hjob
  exact ⟨htarget, fun digest h => Option.some.inj (hintent.dependencyDigest digest h),
    fun digest h => Option.some.inj (hintent.toolchainDigest digest h),
    fun digest h => Option.some.inj (hintent.environmentDigest digest h)⟩

end Completed

section

variable {services : AuthorityServices} {s s' : AuthorityPlaneSnapshot}
  {command : RunnerCompletionCommand} {session : AuthoritySession}
  {custody : Option RunnerArtifactCustody} {drawn : Drawn} {result : AuthorityCommandResult}

/-- **Owner intent through completion**: an accepted completion was recorded before, or it keeps
what the owner fixed exactly when its Job has the Target and the digests of the queued Run. -/
theorem completeRunner_keepsIntent
    (h : completeRunner services s command session custody drawn = .ok (s', result)) :
    s' = s ∨ ∃ requested, s.runs.get? command.completion.run.id = some requested ∧
      (KeepsIntent s s' command.completion ↔ SameClosure requested command.completion.job) := by
  rcases completeRunner_ok h with rfl | ⟨key, next, applied, -, -, happly, heq⟩
  · exact .inl rfl
  obtain ⟨done, receipt, hdone, -, -, rfl⟩ := applyRunnerCompletion_ok happly
  obtain ⟨rfl, -⟩ := Prod.mk.inj heq
  obtain ⟨hjob, hrun, hid, -, hmatches, hinputs⟩ := checkRunnerCompletion_ok hdone
  have hterminal : (done.file s (done.evidence drawn.now receipt)).runs.get? done.run.id =
      some done.terminalRun := by
    rw [done.file_runs, OrderedMap.get?_set_self]
  have hevidence : (done.file s (done.evidence drawn.now receipt)).evidence.get?
      s!"evidence:{command.completion.attempt.id}" = some (done.evidence drawn.now receipt) := by
    rw [done.file_evidence, ← hjob]
    exact OrderedMap.get?_set_self _ _ _
  refine .inr ⟨done.run, hid ▸ hrun, ?_, fun hclosure => ?_⟩
  · rintro ⟨⟨requested, hrequested, terminal, hfiled, hintent⟩, _, hrequested', evidence,
      hrecorded, -, htarget⟩
    rw [hid] at hrequested hrequested' hfiled
    cases hrun.symm.trans hrequested
    cases hrun.symm.trans hrequested'
    cases hterminal.symm.trans hfiled
    cases hevidence.symm.trans hrecorded
    exact done.sameClosure hjob hintent (hjob ▸ htarget)
  · refine ⟨⟨done.run, hid ▸ hrun, done.terminalRun, hid ▸ hterminal,
      done.sameIntent hjob hmatches hinputs hclosure⟩, done.run, hid ▸ hrun, _, hevidence, rfl, ?_⟩
    exact (congrArg (fun completion => truthy completion.job.targetId) hjob).trans hclosure.1

end

/-! ## A Run without a Target -/

namespace Sample

/-- The Runner of the completion. -/
def runner : RunnerProfile where
  id := "runner:1"
  realmId := "realm:1"
  provider := "provider"
  publicKey := "key:1"
  platform := ⟨"linux", "arm64", "container"⟩
  capabilities := []
  networkDestinations := []
  networkEnforcement := .denyAll
  networkBoundaryReceipt := "networkEnforcement=deny-all"
  secretUse := .none
  canUploadArtifacts := false
  canUploadEvidence := false
  enrolledAt := "2026-01-01T00:00:00.000Z"
  status := .active
  profileDigest := "sha256:profile"
  updatedAt := "2026-01-01T00:00:00.000Z"
  receipt := "runner=active"

/-- A Job for the Run of `requestRun`, on a Target. -/
def job (targetId : Option String) : RunnerJob where
  id := "runner-job:1"
  projectId := "project:1"
  runId := "run:1"
  actionId := "action:1"
  actionContractDigest := "sha256:action"
  artifactOutputContract := none
  verifierId := none
  verifierContractDigest := none
  projectRevisionId := "revision:1"
  projectViewId := "project-view:2"
  sourceSpaceSnapshots := .ofList [("space:1", "snapshot:1")]
  changeRevisionId := none
  workspaceId := none
  targetId
  inputManifestDigest := "sha256:manifest"
  inputDigests := []
  outputPaths := []
  effectDigests := []
  dependencyDigest := "sha256:dependency"
  toolchainDigest := "sha256:toolchain"
  environmentDigest := "sha256:environment"
  policyVersion := "policy:1"
  authorizationEpoch := "1"
  capabilityGrantId := "grant:1"
  actor := actorRef session
  disclosure := ⟨"projection:1", .project⟩
  runnerRequirements := []
  networkDestinations := []
  secretUseAliases := []
  outputLocations := ⟨"logs", "artifacts", "evidence"⟩
  idempotencyKey := "job:1"
  createdAt := "2026-01-01T00:00:00.000Z"
  networkEnforcement := some .denyAll
  networkBoundaryReceipt := some "networkEnforcement=deny-all"
  state := .succeeded
  attemptIds := ["runner-attempt:1"]
  currentAttemptId := "runner-attempt:1"
  currentRunnerId := some "runner:1"
  updatedAt := "2026-01-01T00:00:00.000Z"
  receipt := "job=succeeded"

def attempt : RunnerAttempt where
  id := "runner-attempt:1"
  jobId := "runner-job:1"
  runId := "run:1"
  runnerId := some "runner:1"
  state := .succeeded
  leaseExpiresAt := "2026-01-02T00:00:00.000Z"
  receipt := "attempt=succeeded"

/-- The Result of the Job: no Target is in what the Runner signs. -/
def result : RunnerResult where
  status := .succeeded
  output := ⟨.succeeded, some 0, [], [], "sha256:output", "sha256:stdout", "sha256:stderr"⟩
  outputs := []
  context := {
    replayId := "runner-job:1:runner-attempt:1"
    jobId := "runner-job:1"
    attemptId := "runner-attempt:1"
    runnerId := "runner:1"
    leaseExpiresAt := "2026-01-02T00:00:00.000Z"
    inputManifestDigest := "sha256:manifest"
    sourceSpaceSnapshots := .ofList [("space:1", "snapshot:1")]
    actionId := "action:1"
    actionContractDigest := "sha256:action"
    artifactOutputContract := none
    verifierId := none
    verifierContractDigest := none
    projectRevisionId := "revision:1"
    projectViewId := "project-view:2"
    changeRevisionId := none
    workspaceId := none
    policyVersion := "policy:1"
    authorizationEpoch := "1"
    capabilityGrantId := "grant:1"
    networkEnforcement := .denyAll
    networkBoundaryReceipt := "networkEnforcement=deny-all" }
  recoveryAction := none
  signature := "key:1runner-job:1:runner-attempt:1"

/-- The completed Run, as the Runner coordinator has it. -/
def completedRun (targetId : Option String) : Run where
  id := "run:1"
  actionId := "action:1"
  projectRevisionId := "revision:1"
  projectViewId := "project-view:2"
  runnerId := "runner:1"
  attemptId := some "runner-attempt:1"
  verifierId := none
  actionContractDigest := some "sha256:action"
  artifactOutputContract := none
  verifierContractDigest := none
  status := .succeeded
  outputDigest := some "sha256:output"
  changeRevisionId := none
  workspaceId := none
  inputDigests := some []
  outputDigests := some []
  effectDigests := some []
  dependencyDigest := some "sha256:dependency"
  toolchainDigest := some "sha256:toolchain"
  environmentDigest := some "sha256:environment"
  policyVersion := some "policy:1"
  targetId
  actor := some (actorRef session)
  capabilityGrantId := some "grant:1"
  exitCode := some 0
  stdoutDigest := some "sha256:stdout"
  stderrDigest := some "sha256:stderr"

def completion (targetId : Option String) : RunnerCompletionCommand where
  protocol := authorityCommandProtocol
  command := .runnerComplete
  idempotencyKey := "complete:1"
  completion := {
    result
    job := job targetId
    attempt
    runnerProfile := runner
    run := completedRun targetId
    outputs := []
    resultDigest := "runner-job:1runner-attempt:1"
    credentialState := "closed"
    receipt := "completion=accepted" }
  payloadText := "completion"

/-- A Run is requested without a Target, and a Runner is enrolled. -/
def requested : List AuthorityCall := [
  createProject "1" "project:1" "revision:1" "space:1",
  createWorkspace "2" "project:1" "revision:1" "workspace:1",
  requestRun "3" "project:1" "revision:1" "project-view:2",
  ⟨.registerRunnerProfile runner runnerSession, drawn "4"⟩]

def queued : AuthorityPlaneSnapshot := (after requested).2

def completed (targetId : Option String) :
    Except AuthorityFailure (AuthorityPlaneSnapshot × AuthorityCommandResult) :=
  completeRunner services queued (completion targetId) runnerSession none (drawn "5")

end Sample

namespace Sample

theorem queued_run : AuthorityRun services (fun s call => call.drawn.Fresh s) "realm:1"
    (after requested).1 queued :=
  run_after (by decide +kernel)

theorem completed_ok (targetId : Option String) (h : (completed targetId).isOk = true) :
    ∃ s' result, completed targetId = .ok (s', result) := by
  rcases hcompleted : completed targetId with failure | ⟨s', result⟩
  · rw [hcompleted] at h
    cases h
  · exact ⟨s', result, rfl⟩

end Sample

/-- A queued Run, and another Workspace of its Project. -/
theorem requestedRun_kept_sample :
    let later := exec (step Sample.services) Sample.queued
      [Sample.createWorkspace "5" "project:1" "revision:1" "workspace:2"]
    ∃ run, Sample.queued.runs.get? "run:1" = some run ∧
      (later.2.runs.get? "run:1" = some run ∨ ∃ t ∈ later.1,
        t.op.operation.Completes "run:1" ∧ t.pre.runs.get? "run:1" = some run) := by
  intro later
  obtain ⟨run, hget⟩ := Option.isSome_iff_exists.mp
    (show (Sample.queued.runs.get? "run:1").isSome = true by decide +kernel)
  have hlater : Lib.Run (step Sample.services) (fun _ _ => True) Sample.queued later.1 later.2 :=
    run_exec (.of_forall (fun _ _ => trivial) ..)
  exact ⟨run, hget, requestedRun_kept hlater hget⟩

/-- A completion for no Target keeps what the owner of the Run fixed. -/
theorem completeRunner_keepsIntent_untargeted :
    ∃ s' result, Sample.completed none = .ok (s', result) ∧
      (s' = Sample.queued ∨ ∃ requested,
        Sample.queued.runs.get? (Sample.completion none).completion.run.id = some requested ∧
        (KeepsIntent Sample.queued s' (Sample.completion none).completion ↔
          SameClosure requested (Sample.job none))) := by
  obtain ⟨s', result, h⟩ := Sample.completed_ok none (by decide +kernel)
  exact ⟨s', result, h, completeRunner_keepsIntent h⟩

/-- A Run that is requested without a Target is completed, and its Evidence is of one. -/
theorem completeRunner_retargets :
    ∃ tr s' result,
      AuthorityRun Sample.services (fun s call => call.drawn.Fresh s) "realm:1" tr Sample.queued ∧
      completeRunner Sample.services Sample.queued (Sample.completion (some "target:2"))
        Sample.runnerSession none (Sample.drawn "5") = .ok (s', result) ∧
      s' ≠ Sample.queued ∧
      ¬ KeepsIntent Sample.queued s' (Sample.completion (some "target:2")).completion := by
  obtain ⟨hok, hrequested, hbefore, hafter⟩ :
      (Sample.completed (some "target:2")).isOk = true ∧
      (Sample.queued.runs.get? "run:1").map Run.targetId = some none ∧
      Sample.queued.evidence.get? "evidence:runner-attempt:1" = none ∧
      (Sample.completed (some "target:2")).toOption.map (fun completed =>
        (completed.1.evidence.get? "evidence:runner-attempt:1").map Evidence.targetId) =
          some (some (some "target:2")) := by decide +kernel
  obtain ⟨s', result, h⟩ := Sample.completed_ok (some "target:2") hok
  have hevidence : (s'.evidence.get? "evidence:runner-attempt:1").map Evidence.targetId =
      some (some "target:2") := by
    rw [h] at hafter
    exact Option.some.inj hafter
  refine ⟨_, s', result, Sample.queued_run, h, ?_, ?_⟩
  · rintro rfl
    rw [hbefore] at hevidence
    cases hevidence
  · rintro ⟨-, requested, hrequest, evidence, hfiled, -, htarget⟩
    have hrun : requested.targetId = none := by
      have hget : Sample.queued.runs.get? "run:1" = some requested := hrequest
      rw [hget] at hrequested
      exact Option.some.inj hrequested
    have hnamed : evidence.targetId = some "target:2" := by
      have hget : s'.evidence.get? "evidence:runner-attempt:1" = some evidence := hfiled
      rw [hget] at hevidence
      exact Option.some.inj hevidence
    rw [hrun, hnamed] at htarget
    cases htarget

end Anyam.Authority
