import Anyam.Execution.RunnerEligibility
import Anyam.Execution.RunnerLedger

/-!
# The result of a Run

A Run shows the result of its current Attempt: the fields a completion fills. A retry
gives the Run another Attempt and leaves these fields, and a completion without an
output overwrites only one of them.

- `ResultEffect`, **`step_resultEffect`**: what one operation does to the result of a Run.
- `ResultsCurrent`: each Run shows nothing, or what was accepted for the Attempt it names.
- **`resultsCurrent_of_run`**: in a run this holds after every operation exactly when every
  Job that is retried has a Run that shows nothing.
-/

namespace Anyam.Execution

open Anyam.Lib Anyam.Kernel

/-- The fields of a Run that a completed Attempt fills. -/
structure RunResult where
  outputDigest : Option String := none
  outputDigests : Option (List String) := none
  exitCode : Option Int := none
  stdoutDigest : Option String := none
  stderrDigest : Option String := none
deriving DecidableEq, Repr

/-- The result of a Run that shows none. -/
def RunResult.unset : RunResult := {}

/-- The result an Action's output gives. -/
def RunResult.ofOutput (output : NormalizedActionOutput) : RunResult where
  outputDigest := some output.outputDigest
  outputDigests := some output.outputDigests
  exitCode := output.exitCode
  stdoutDigest := some output.stdoutDigest
  stderrDigest := some output.stderrDigest

/-- What a Run shows. -/
def resultOf (run : Kernel.Run) : RunResult where
  outputDigest := run.outputDigest
  outputDigests := run.outputDigests
  exitCode := run.exitCode
  stdoutDigest := run.stdoutDigest
  stderrDigest := run.stderrDigest

/-- The completion a reply hands out. -/
def RunnerReply.completed : RunnerReply → Option RunnerCompletion
  | .completion value => some value
  | _ => none

/-- The result an operation reported, when it was answered with a completion: the output
of a Result, or the digest of a confirmed cancellation. -/
def RunnerOperation.reported : RunnerOperation → RunnerCompletion → Option RunResult
  | .submit _ result _ _, _ => some (.ofOutput result.output)
  | .finalizeCancellation _ _ _ _, completion => some { outputDigest := some completion.resultDigest }
  | _, _ => none

/-- The request of a retry, with the readings of the clock. -/
def RunnerOperation.retried : RunnerOperation → Option (RunnerRetryRequest × Clock)
  | .retry input _ clock => some (input, clock)
  | _ => none

namespace ExternalRunnerCoordinator

variable {s s' : ExternalRunnerCoordinator} {services : RunnerServices} {op : RunnerOperation}
  {reply : RunnerReply}

/-- The result was accepted for the Attempt. -/
def Accepts (op : RunnerOperation) (reply : RunnerReply) (attemptId : String) (result : RunResult) :
    Prop :=
  ∃ completion ∈ reply.completed, completion.attempt.id = attemptId ∧ result ∈ op.reported completion

/-- The retry passes its checks, with a new key. -/
def Retriable (services : RunnerServices) (s : ExternalRunnerCoordinator) (input : RunnerRetryRequest)
    (clock : Clock) : Prop :=
  trim input.idempotencyKey ≠ "" ∧ truthy (s.retryIdempotency.get? input.idempotencyKey) = none ∧
    (∃ stored ∈ s.jobs.get? input.jobId, stored.job.state ∈ retryableJobStates) ∧
    services.dateParse input.leaseExpiresAt ≠ none ∧
    ¬ services.notAfter input.leaseExpiresAt (clock 0)

instance (services : RunnerServices) (s : ExternalRunnerCoordinator) (input : RunnerRetryRequest)
    (clock : Clock) : Decidable (s.Retriable services input clock) :=
  inferInstanceAs (Decidable (_ ∧ _ ∧ (∃ stored ∈ s.jobs.get? input.jobId, _) ∧ _ ∧ ¬ _))

/-! ## What one operation does to a result -/

/-- What an operation does to the Job under an id: a Run keeps its result, or is filed
without one, or is given another Attempt, or shows what was accepted. -/
inductive ResultEffect (services : RunnerServices) (s : ExternalRunnerCoordinator)
    (op : RunnerOperation) (reply : RunnerReply) (id : String) :
    Option StoredJob → StoredJob → Prop
  | kept {stored stored' : StoredJob} (hresult : resultOf stored'.run = resultOf stored.run)
      (hattempt : stored'.run.attemptId = stored.run.attemptId)
      (hstate : stored'.job.state ∉ terminalStates → stored.job.state ∉ terminalStates) :
      ResultEffect services s op reply id (some stored) stored'
  | filed {stored' : StoredJob} (hresult : resultOf stored'.run = .unset) :
      ResultEffect services s op reply id none stored'
  | retried {input attemptUuid clock} {stored stored' : StoredJob}
      (hop : op = .retry input attemptUuid clock) (hid : input.jobId = id)
      (hretriable : s.Retriable services input clock)
      (hresult : resultOf stored'.run = resultOf stored.run)
      (hattempt : stored'.run.attemptId = some (opaqueId "runner-attempt" attemptUuid)) :
      ResultEffect services s op reply id (some stored) stored'
  | completed {stored stored' : StoredJob} (hunfinished : stored.job.state ∉ terminalStates)
      (hterminal : stored'.job.state ∈ terminalStates)
      (hresult : resultOf stored.run = .unset → ∃ attemptId, stored'.run.attemptId = some attemptId ∧
        Accepts op reply attemptId (resultOf stored'.run)) :
      ResultEffect services s op reply id (some stored) stored'

/-- Every Run shows what it showed, for the same Attempt. -/
def KeepsResults (s s' : ExternalRunnerCoordinator) : Prop :=
  ∀ id stored', s'.jobs.get? id = some stored' → ∃ stored, s.jobs.get? id = some stored ∧
    resultOf stored'.run = resultOf stored.run ∧ stored'.run.attemptId = stored.run.attemptId ∧
    (stored'.job.state ∉ terminalStates → stored.job.state ∉ terminalStates)

theorem KeepsResults.refl (s : ExternalRunnerCoordinator) : s.KeepsResults s :=
  fun _ stored hjob => ⟨stored, hjob, rfl, rfl, fun hstate => hstate⟩

theorem keepsResults_of_jobs (h : s'.jobs = s.jobs) : s.KeepsResults s' := by
  intro id stored hjob
  rw [h] at hjob
  exact KeepsResults.refl s id stored hjob

theorem KeepsResults.trans {s₁ s₂ s₃ : ExternalRunnerCoordinator} (h : s₁.KeepsResults s₂)
    (h' : s₂.KeepsResults s₃) : s₁.KeepsResults s₃ := by
  intro id third hthird
  obtain ⟨second, hsecond, hresult', hattempt', hstate'⟩ := h' id third hthird
  obtain ⟨first, hfirst, hresult, hattempt, hstate⟩ := h id second hsecond
  exact ⟨first, hfirst, hresult'.trans hresult, hattempt'.trans hattempt, hstate ∘ hstate'⟩

/-- A Job was written over, with a Run that shows the same. -/
theorem keepsResults_put (hs : s.Sound) {id : String} {stored stored' : StoredJob}
    (hjob : s.jobs.get? id = some stored)
    (hjobs : s'.jobs = s.jobs.set stored.job.id stored' := by rfl)
    (hresult : resultOf stored'.run = resultOf stored.run := by rfl)
    (hattempt : stored'.run.attemptId = stored.run.attemptId := by rfl)
    (hstate : stored'.job.state ∉ terminalStates → stored.job.state ∉ terminalStates := by
      exact fun hstate => hstate) : s.KeepsResults s' := by
  intro k found hfound
  rw [hjobs, OrderedMap.get?_set] at hfound
  split at hfound
  · rename_i hk
    cases hfound
    refine ⟨stored, ?_, hresult, hattempt, hstate⟩
    rw [hk, hs.found_job hjob]
  · exact ⟨found, hfound, rfl, rfl, fun hstate => hstate⟩

theorem KeepsResults.effect (h : s.KeepsResults s') {id : String} {stored' : StoredJob}
    (hjob : s'.jobs.get? id = some stored') :
    ResultEffect services s op reply id (s.jobs.get? id) stored' := by
  obtain ⟨stored, hbefore, hresult, hattempt, hstate⟩ := h id stored' hjob
  rw [hbefore]
  exact .kept hresult hattempt hstate

/-! ### Operations that complete nothing -/

theorem pull_keepsResults (hs : s.Sound) {runnerId challenge : String} {clock : Clock}
    {offer : Option RunnerJobOffer}
    (h : s.pull services runnerId challenge clock = .ok (offer, s')) : s.KeepsResults s' := by
  cases offer with
  | none =>
    simp only [pull, bind_eq_ok, require_eq_ok, exists_unit] at h
    obtain ⟨runner, -, -, h⟩ := h
    split at h
    · cases h
      exact .refl s
    · simp only [bind_eq_ok] at h
      obtain ⟨attempt, -, h⟩ := h
      split at h <;> cases h
      exact .refl s
  | some offer =>
    obtain ⟨runner, stored, attempt, -, hmem, hqueued, -, -, hoffer⟩ := pull_eq_offer h
    obtain ⟨id, hjob⟩ := OrderedMap.mem_values_iff.mp hmem
    have hunfinished : stored.job.state ∉ terminalStates := hqueued ▸ (by decide)
    cases hoffer
    exact keepsResults_put hs hjob rfl rfl rfl fun _ => hunfinished

theorem expire_keepsResults (hs : s.Sound) (jobId : String) (clock : Clock) :
    s.KeepsResults (s.expire services jobId clock).2 := by
  unfold expire
  split
  · exact .refl s
  · rename_i stored hjob
    split
    · exact .refl s
    · split
      · exact .refl s
      · split
        · exact .refl s
        · refine keepsResults_put hs (requireJob_eq_ok.mp hjob) rfl rfl rfl fun hstate => ?_
          exact absurd (show RunnerJobState.expired ∈ terminalStates by decide) hstate

theorem claim_keepsResults (hs : s.Sound) (input : RunnerClaim) (token credentialUuid : String)
    (clock : Clock) : s.KeepsResults (s.claim services input token credentialUuid clock).2 := by
  unfold claim
  split
  · exact .refl s
  · rename_i runner stored attempt hclaimable
    split
    · exact expire_keepsResults hs _ _
    · split
      · exact .refl s
      · obtain ⟨-, hjob, -, -, -, hoffered, -⟩ := claimable_eq_ok.mp hclaimable
        have hunfinished : stored.job.state ∉ terminalStates := hoffered ▸ (by decide)
        exact keepsResults_put hs hjob rfl rfl rfl fun _ => hunfinished

theorem heartbeat_keepsResults (hs : s.Sound) (token : RunnerJobCredential)
    (progressDigest : Option String) (clock : Clock) :
    s.KeepsResults (s.heartbeat services token progressDigest clock).2 := by
  unfold heartbeat
  rcases authorizeCredential_cases hs token clock with
    ⟨stored, attempt, credential, hauthorizes, heq⟩ | ⟨failure, s', heq, hjobs, -⟩
  · rw [heq]
    simp only []
    split
    · exact .refl s
    · exact keepsResults_put hs hauthorizes.jobFound
  · rw [heq]
    exact keepsResults_of_jobs hjobs

theorem requestCancellation_keepsResults (hs : s.Sound) {jobId : String} {actor : ActorRef}
    {reason : String} {clock : Clock} {job : RunnerJob}
    (h : s.requestCancellation jobId actor reason clock = .ok (job, s')) : s.KeepsResults s' := by
  simp only [requestCancellation, bind_eq_ok, require_eq_ok, exists_unit, requireJob_eq_ok,
    pure_eq_ok] at h
  obtain ⟨-, stored, hjob, attempt, -, hstate, heq⟩ := h
  cases heq
  refine keepsResults_put hs hjob rfl rfl rfl fun _ => ?_
  rcases hstate with h | h | h <;> rw [h] <;> decide

theorem loseJobs_keepsResults (runnerId : String) {loss : RunnerLoss}
    (hterminal : loss.state ∈ terminalStates) :
    ∀ (jobIds : List String) (clock : Clock) {s : ExternalRunnerCoordinator}, s.Sound →
      s.KeepsResults (loseJobs runnerId loss jobIds clock s).2
  | [], _, s, _ => .refl s
  | jobId :: jobIds, clock, s, hs => by
    unfold loseJobs
    split
    · exact loseJobs_keepsResults runnerId hterminal jobIds _ hs
    · rename_i stored hfound
      obtain ⟨hjob, hholds⟩ := Option.filter_eq_some_iff.mp hfound
      replace hholds := of_decide_eq_true hholds
      split
      · exact .refl s
      · rename_i attempt hattempt
        replace hattempt := requireAttempt_eq_ok.mp hattempt
        have hlost : Move (.expire jobId clock) (.offer none) s
            (s.loseJob runnerId loss stored attempt clock) :=
          loseJob_move hs hterminal clock hjob hattempt hholds.2
        have hkept : s.KeepsResults (s.loseJob runnerId loss stored attempt clock) :=
          keepsResults_put hs hjob rfl rfl rfl fun hstate => absurd hterminal hstate
        exact hkept.trans (loseJobs_keepsResults runnerId hterminal jobIds _ (hlost.sound hs))

theorem loseRunner_keepsResults (hs : s.Sound) (runnerId : String) (actor : ActorRef)
    (reason : String) (status : RunnerStatus) (type : String) {loss : RunnerLoss}
    (hterminal : loss.state ∈ terminalStates) (clock : Clock) :
    s.KeepsResults (s.loseRunner runnerId actor reason status type loss clock).2 := by
  rcases loseRunner_cases s runnerId actor reason status type loss clock with
    ⟨failure, heq⟩ | ⟨runner, receipt, -, hrunner, heq⟩
  · rw [heq]
    exact .refl s
  · rw [heq]
    have hid : runner.id = runnerId := hs.runnersKeyed _ _ hrunner
    have hmoved : Moves (.expire runnerId clock) (.offer none) s
        (s.moveRunner runner status type receipt actor clock).2 :=
      moveRunner_moves hs (hid ▸ hrunner) _ _ _ _ _
    have hkept : s.KeepsResults (s.moveRunner runner status type receipt actor clock).2 :=
      keepsResults_of_jobs rfl
    exact hkept.trans (loseJobs_keepsResults runner.id hterminal _ _ (hmoved.sound hs))

/-! ### Completions -/

/-- The result that is left on a Run which showed nothing but the new digest. -/
theorem resultOf_withOutput {run : Kernel.Run} {output : Option NormalizedActionOutput}
    {resultDigest : String}
    (hrest : run.outputDigests = none ∧ run.exitCode = none ∧ run.stdoutDigest = none ∧
      run.stderrDigest = none)
    (hdigest : run.outputDigest =
      some ((output.map NormalizedActionOutput.outputDigest).getD resultDigest)) :
    resultOf (withOutput run output) =
      (output.map RunResult.ofOutput).getD { outputDigest := some resultDigest } := by
  obtain ⟨hdigests, hexit, hstdout, hstderr⟩ := hrest
  cases output with
  | none => simp [withOutput, resultOf, hdigest, hdigests, hexit, hstdout, hstderr]
  | some output => simp [withOutput, resultOf, RunResult.ofOutput, hdigest, hexit]

/-- What `completeAttempt` leaves on a Run that showed nothing. -/
theorem completeAttempt_result {stored : StoredJob} {attempt : RunnerAttempt} {ending : AttemptEnd}
    {clock : Clock} (hunset : resultOf stored.run = .unset) :
    resultOf (s.completeAttempt stored attempt ending clock).1.run =
      (ending.normalizedOutput.map RunResult.ofOutput).getD
        { outputDigest := some ending.resultDigest } := by
  simp only [resultOf, RunResult.unset, RunResult.mk.injEq] at hunset
  show resultOf (withOutput _ _) = _
  exact resultOf_withOutput hunset.2 rfl

/-- The Jobs after a completion whose result was accepted. -/
theorem completeAttempt_effect (hs : s.Sound) {token : RunnerJobCredential} {stored : StoredJob}
    {attempt : RunnerAttempt} {credential : StoredCredential} {ending : AttemptEnd} {clock : Clock}
    (hauthorizes : s.Authorizes services token stored attempt credential)
    (hunfinished : stored.job.state ∉ terminalStates) (hterminal : ending.state ∈ terminalStates)
    (haccepts : Accepts op reply attempt.id ((ending.normalizedOutput.map RunResult.ofOutput).getD
      { outputDigest := some ending.resultDigest }))
    (hjobs : s'.jobs = (s.completeAttempt stored attempt ending clock).2.2.jobs) {id : String}
    {stored' : StoredJob} (hjob : s'.jobs.get? id = some stored') :
    ResultEffect services s op reply id (s.jobs.get? id) stored' := by
  have hset : s'.jobs = s.jobs.set stored.job.id (s.completeAttempt stored attempt ending clock).1 :=
    hjobs
  rw [hset, OrderedMap.get?_set] at hjob
  split at hjob
  · rename_i hid
    cases hjob
    rw [hid, hs.found_job hauthorizes.jobFound]
    refine .completed hunfinished hterminal fun hunset => ⟨attempt.id, ?_, ?_⟩
    · have hcurrent : attempt.id = stored.job.currentAttemptId :=
        hs.attemptsKeyed _ _ hauthorizes.attemptFound
      have hkept : (s.completeAttempt stored attempt ending clock).1.run.attemptId =
          stored.run.attemptId := withOutput_attemptId _ _
      rw [hkept, hs.run _ _ hauthorizes.jobFound, hcurrent]
    · rw [completeAttempt_result hunset]
      exact haccepts
  · rw [hjob]
    exact .kept rfl rfl fun hstate => hstate

/-- A cancellation is refused and changes no Job, or completes the Attempt. -/
theorem finalizeCancellation_cases (hs : s.Sound) (token : RunnerJobCredential)
    (outcome : RunnerCancellationOutcome) (receipt : String) (clock : Clock) :
    (∃ failure s', s.finalizeCancellation services token outcome receipt clock = (.error failure, s') ∧
      s'.jobs = s.jobs) ∨
    ∃ stored attempt credential completion s', s.Authorizes services token stored attempt credential ∧
      stored.job.state = .cancelRequested ∧ completion.attempt.id = attempt.id ∧
      completion.resultDigest = services.cancellationDigest outcome receipt ∧
      s.finalizeCancellation services token outcome receipt clock = (.ok completion, s') ∧
      s'.jobs = (s.completeAttempt stored attempt
        (cancellationEnd services credential outcome receipt) fun k => clock (k + 1)).2.2.jobs := by
  unfold finalizeCancellation
  cases nonEmpty receipt "receipt" with
  | error failure => exact .inl ⟨failure, s, rfl, rfl⟩
  | ok _ =>
    simp only []
    rcases @authorizeCredential_cases s services hs token clock with
      ⟨stored, attempt, credential, hauthorizes, heq⟩ | ⟨failure, s', heq, hjobs, -⟩
    · rw [heq]
      simp only []
      by_cases hstate : stored.job.state ≠ .cancelRequested ∨ attempt.state ≠ .cancelRequested
      · rw [if_pos hstate]
        exact .inl ⟨_, s, rfl, rfl⟩
      · rw [if_neg hstate]
        have hrequested : stored.job.state = .cancelRequested := by
          by_contra hother
          exact hstate (.inl hother)
        exact .inr ⟨stored, attempt, credential, _, _, hauthorizes, hrequested, rfl, rfl, rfl, rfl⟩
    · rw [heq]
      exact .inl ⟨failure, s', rfl, hjobs⟩

/-- The outputs of an acceptable Result are normalized without an error. -/
theorem exists_normalizedOutputs {stored : StoredJob} {attempt : RunnerAttempt}
    {credential : StoredCredential} {result : RunnerResult} {runner : RunnerProfile}
    (h : s.acceptableResult services stored attempt credential result = .ok runner)
    (written : StoredJob) (finished : RunnerAttempt) (outputUuid : Nat → String) :
    ∃ outputs, result.outputs.zipIdx.mapM (normalizedOutputOf written finished outputUuid) =
      .ok outputs := by
  simp only [acceptableResult, bind_eq_ok, require_eq_ok, exists_unit, validateOutput, forM_eq_ok,
    pure_eq_ok] at h
  obtain ⟨-, -, context, -, -, found, -, -, -, ⟨-, -, -, -, houtputs⟩, -⟩ := h
  refine exists_mapM_eq_ok fun output houtput => ?_
  have hvalid := houtputs output.1 (List.fst_mem_of_mem_zipIdx houtput)
  simp only [validateSubmittedOutput, bind_eq_ok] at hvalid
  obtain ⟨location, hlocation, -⟩ := hvalid
  unfold normalizedOutputOf
  rw [hlocation]
  exact ⟨_, rfl⟩

/-- A Result is refused and changes no Job, or completes the Attempt. -/
theorem submit_cases (hs : s.Sound) (token : RunnerJobCredential) (result : RunnerResult)
    (outputUuid : Nat → String) (clock : Clock) :
    (∃ failure s', s.submit services token result outputUuid clock = (.error failure, s') ∧
      s'.jobs = s.jobs) ∨
    ∃ stored attempt credential completion s', s.Authorizes services token stored attempt credential ∧
      stored.job.state = .running ∧ completion.attempt.id = attempt.id ∧
      s.submit services token result outputUuid clock = (.ok completion, s') ∧
      s'.jobs = (s.completeAttempt stored attempt (resultEnd services stored attempt credential result)
        fun k => clock (k + 1)).2.2.jobs := by
  unfold submit
  rcases @authorizeCredential_cases s services hs token clock with
    ⟨stored, attempt, credential, hauthorizes, heq⟩ | ⟨failure, s', heq, hjobs, -⟩
  · rw [heq]
    simp only []
    cases hresult : s.acceptableResult services stored attempt credential result with
    | error failure => exact .inl ⟨failure, s, rfl, rfl⟩
    | ok runner =>
      simp only []
      obtain ⟨outputs, houtputs⟩ := exists_normalizedOutputs hresult
        (s.completeAttempt stored attempt (resultEnd services stored attempt credential result)
          fun k => clock (k + 1)).1
        (s.completeAttempt stored attempt (resultEnd services stored attempt credential result)
          fun k => clock (k + 1)).2.1 outputUuid
      rw [houtputs]
      exact .inr ⟨stored, attempt, credential, _, _, hauthorizes, acceptableResult_running hresult,
        rfl, rfl, rfl⟩
  · rw [heq]
    exact .inl ⟨failure, s', rfl, hjobs⟩

/-! ### New Jobs and retries -/

/-- A request that was queued before changes nothing, and a new one files a Job whose Run
shows nothing. -/
theorem enqueue_effect {input : ExternalRunRequest} {drawn : DrawnJob} {clock : Clock}
    {queued : QueuedJob} (hfresh : s.Fresh (.enqueue input drawn clock))
    (h : s.enqueue services input drawn clock = .ok (queued, s')) {id : String} {stored' : StoredJob}
    (hjob : s'.jobs.get? id = some stored') :
    ResultEffect services s op reply id (s.jobs.get? id) stored' := by
  simp only [enqueue, bind_eq_ok, exists_unit] at h
  obtain ⟨-, secretUseAliases, -, outputLocations, -, contract, -, h⟩ := h
  split at h
  · simp only [bind_eq_ok, pure_eq_ok] at h
    obtain ⟨existing, -, heq⟩ := h
    cases heq
    exact (KeepsResults.refl s).effect hjob
  · simp only [bind_eq_ok, require_eq_ok, exists_unit, pure_eq_ok] at h
    obtain ⟨-, -, -, -, -, -, -, requirements, -, -, heq⟩ := h
    cases heq
    replace hjob : (s.jobs.set (opaqueId "runner-job" drawn.job) _).get? id = some stored' := hjob
    rw [OrderedMap.get?_set] at hjob
    split at hjob
    · rename_i hid
      cases hjob
      rw [hid, hfresh.2 _ rfl]
      exact .filed rfl
    · rw [hjob]
      exact .kept rfl rfl fun hstate => hstate

/-- The key of a retry is new when it is answered with no Job of before. -/
theorem retriedBefore_eq_none {input : RunnerRetryRequest} :
    s.retriedBefore input = .ok none ↔ truthy (s.retryIdempotency.get? input.idempotencyKey) = none := by
  unfold retriedBefore
  split
  · rename_i hnew
    exact ⟨fun _ => hnew, fun _ => rfl⟩
  · rename_i jobId hused
    rw [hused]
    constructor
    · intro h
      simp only [bind_eq_ok, exists_unit, pure_eq_ok] at h
      obtain ⟨-, existing, -, attempt, -, hsome⟩ := h
      cases hsome
    · intro hnone
      cases hnone

/-- What a retry that was accepted did: nothing, or it gave a finished Job another Attempt. -/
theorem retry_cases {input : RunnerRetryRequest} {attemptUuid : String} {clock : Clock}
    {queued : QueuedJob} (h : s.retry services input attemptUuid clock = .ok (queued, s')) :
    s' = s ∧ truthy (s.retryIdempotency.get? input.idempotencyKey) ≠ none ∨
      ∃ stored stored', s.Retriable services input clock ∧
        s.jobs.get? input.jobId = some stored ∧ s'.jobs = s.jobs.set stored.job.id stored' ∧
        resultOf stored'.run = resultOf stored.run ∧
        stored'.run.attemptId = some (opaqueId "runner-attempt" attemptUuid) := by
  simp only [retry, nonEmpty, bind_eq_ok, require_eq_ok, exists_unit] at h
  obtain ⟨hkey, before, hbefore, h⟩ := h
  split at h
  · cases h
    refine .inl ⟨rfl, fun hnew => ?_⟩
    cases hbefore.symm.trans (retriedBefore_eq_none.mpr hnew)
  · simp only [bind_eq_ok, require_eq_ok, exists_unit, requireJob_eq_ok, futureTimestamp,
      pure_eq_ok] at h
    obtain ⟨stored, hjob, hstate, ⟨hlease, hfuture⟩, previous, -, heq⟩ := h
    cases heq
    exact .inr ⟨stored, _, ⟨hkey, retriedBefore_eq_none.mp hbefore, ⟨stored, hjob, hstate⟩, hlease,
      hfuture⟩, hjob, rfl, rfl, rfl⟩

/-- A retry that passes its checks is accepted. -/
theorem retry_of_retriable (hs : s.Sound) {input : RunnerRetryRequest} (attemptUuid : String)
    {clock : Clock} (h : s.Retriable services input clock) :
    ∃ queued s', s.retry services input attemptUuid clock = .ok (queued, s') := by
  obtain ⟨hkey, hnew, ⟨stored, hjob, hstate⟩, hlease, hfuture⟩ := h
  obtain ⟨attempt, hattempt, -, -⟩ := hs.current _ _ hjob
  have hchecked : nonEmpty input.idempotencyKey "idempotencyKey" = .ok () := require_eq_ok.mpr hkey
  have hfuture' : futureTimestamp services input.leaseExpiresAt (clock 0) "leaseExpiresAt" = .ok () :=
    require_eq_ok.mpr ⟨hlease, hfuture⟩
  unfold retry
  rw [hchecked, retriedBefore_eq_none.mpr hnew, requireJob_eq_ok.mpr hjob]
  simp only [bind, Except.bind, require, if_pos hstate, hfuture', requireAttempt_eq_ok.mpr hattempt]
  exact ⟨_, _, rfl⟩

theorem retry_effect (hs : s.Sound) {input : RunnerRetryRequest} {attemptUuid : String}
    {clock : Clock} {queued : QueuedJob}
    (h : s.retry services input attemptUuid clock = .ok (queued, s')) {id : String}
    {stored' : StoredJob} (hjob : s'.jobs.get? id = some stored') :
    ResultEffect services s (.retry input attemptUuid clock) reply id (s.jobs.get? id) stored' := by
  rcases retry_cases h with
    ⟨rfl, -⟩ | ⟨stored, written, hretriable, hfound, hjobs, hresult, hattempt⟩
  · exact (KeepsResults.refl _).effect hjob
  · rw [hjobs, OrderedMap.get?_set] at hjob
    split at hjob
    · rename_i hid
      cases hjob
      have hkeyed : stored.job.id = input.jobId := hs.jobsKeyed _ _ hfound
      rw [hid, hs.found_job hfound]
      exact .retried rfl hkeyed.symm hretriable hresult hattempt
    · rw [hjob]
      exact .kept rfl rfl fun hstate => hstate

/-! ### Every operation -/

theorem called_effect {α : Type} {replyOf : α → RunnerReply}
    {call : Except RunnerFailure (α × ExternalRunnerCoordinator)} {id : String}
    (h : ∀ {value s'}, call = .ok (value, s') → ∀ {stored'}, s'.jobs.get? id = some stored' →
      ResultEffect services s op (s.called replyOf call).1 id (s.jobs.get? id) stored')
    {stored' : StoredJob} (hjob : (s.called replyOf call).2.jobs.get? id = some stored') :
    ResultEffect services s op (s.called replyOf call).1 id (s.jobs.get? id) stored' := by
  cases call with
  | error failure => exact (KeepsResults.refl s).effect hjob
  | ok returned => exact h rfl hjob

theorem replied_effect {α : Type} {replyOf : α → RunnerReply}
    {call : Except RunnerFailure α × ExternalRunnerCoordinator} (h : s.KeepsResults call.2)
    {id : String} {stored' : StoredJob}
    (hjob : (replied replyOf call).2.jobs.get? id = some stored') :
    ResultEffect services s op reply id (s.jobs.get? id) stored' := by
  obtain ⟨_ | value, next⟩ := call
  · exact h.effect hjob
  · exact h.effect hjob

/-- **One operation** does one of these to the Job under an id. -/
theorem step_resultEffect (hs : s.Sound) (hfresh : s.Fresh op) {id : String} {stored' : StoredJob}
    (hjob : (step services op s).2.jobs.get? id = some stored') :
    ResultEffect services s op (step services op s).1 id (s.jobs.get? id) stored' := by
  cases op with
  | enrollRunner input clock =>
    simp only [step] at hjob ⊢
    refine called_effect (fun hcall _ hjob => ?_) hjob
    simp only [enrollRunner, bind_eq_ok, require_eq_ok, exists_unit, pure_eq_ok] at hcall
    obtain ⟨-, -, -, -, -, -, capabilities, -, destinations, -, -, -, -, heq⟩ := hcall
    cases heq
    exact (KeepsResults.refl s).effect hjob
  | activateRunner runnerId actor clock =>
    simp only [step] at hjob ⊢
    refine called_effect (fun hcall _ hjob => ?_) hjob
    simp only [activateRunner, bind_eq_ok, require_eq_ok, exists_unit, pure_eq_ok] at hcall
    obtain ⟨runner, -, -, heq⟩ := hcall
    cases heq
    exact (KeepsResults.refl s).effect hjob
  | disableRunner runnerId actor reason clock =>
    simp only [step] at hjob ⊢
    refine called_effect (fun hcall _ hjob => ?_) hjob
    simp only [disableRunner, bind_eq_ok, exists_unit, pure_eq_ok] at hcall
    obtain ⟨-, runner, -, heq⟩ := hcall
    cases heq
    exact (KeepsResults.refl s).effect hjob
  | enqueue input drawn clock =>
    simp only [step] at hjob ⊢
    exact called_effect (fun hcall _ => enqueue_effect hfresh hcall) hjob
  | pull runnerId challenge clock =>
    simp only [step] at hjob ⊢
    exact called_effect (fun hcall _ => (pull_keepsResults hs hcall).effect) hjob
  | claim input token credentialUuid clock =>
    simp only [step] at hjob ⊢
    exact replied_effect (claim_keepsResults hs input token credentialUuid clock) hjob
  | heartbeat token progressDigest clock =>
    simp only [step] at hjob ⊢
    exact replied_effect (heartbeat_keepsResults hs token progressDigest clock) hjob
  | requestCancellation jobId actor reason clock =>
    simp only [step] at hjob ⊢
    exact called_effect (fun hcall _ => (requestCancellation_keepsResults hs hcall).effect) hjob
  | finalizeCancellation token outcome receipt clock =>
    simp only [step] at hjob ⊢
    rcases @finalizeCancellation_cases s services hs token outcome receipt clock with
      ⟨failure, s', heq, hjobs⟩ |
        ⟨stored, attempt, credential, completion, s', hauthorizes, hstate, hid, hdigest, heq, hjobs⟩
    · rw [heq] at hjob ⊢
      exact (keepsResults_of_jobs hjobs).effect hjob
    · rw [heq] at hjob ⊢
      have hterminal : (cancellationEnd services credential outcome receipt).state ∈ terminalStates := by
        show (if outcome = .unknown then RunnerJobState.quarantined else .cancelled) ∈ terminalStates
        split <;> decide
      refine completeAttempt_effect hs hauthorizes (hstate ▸ by decide) hterminal
        ⟨completion, rfl, hid, ?_⟩ hjobs hjob
      show some ({ outputDigest := some completion.resultDigest } : RunResult) =
        some { outputDigest := some (services.cancellationDigest outcome receipt) }
      rw [hdigest]
  | submit token result outputUuid clock =>
    simp only [step] at hjob ⊢
    rcases @submit_cases s services hs token result outputUuid clock with
      ⟨failure, s', heq, hjobs⟩ |
        ⟨stored, attempt, credential, completion, s', hauthorizes, hstate, hid, heq, hjobs⟩
    · rw [heq] at hjob ⊢
      exact (keepsResults_of_jobs hjobs).effect hjob
    · rw [heq] at hjob ⊢
      have hterminal : (resultEnd services stored attempt credential result).state ∈ terminalStates := by
        show reportedJobState result.status ∈ terminalStates
        cases result.status <;> decide
      exact completeAttempt_effect hs hauthorizes (hstate ▸ by decide) hterminal
        ⟨completion, rfl, hid, rfl⟩ hjobs hjob
  | expire jobId clock => exact (expire_keepsResults hs jobId clock).effect hjob
  | markRunnerUnavailable runnerId actor reason clock =>
    have hterminal : (unavailability runnerId reason).state ∈ terminalStates := by
      show RunnerJobState.indeterminate ∈ terminalStates
      decide
    simp only [step] at hjob ⊢
    exact replied_effect (loseRunner_keepsResults hs runnerId actor reason _ _ hterminal clock) hjob
  | quarantineRunner runnerId actor reason clock =>
    have hterminal : (quarantine runnerId reason).state ∈ terminalStates := by
      show RunnerJobState.quarantined ∈ terminalStates
      decide
    simp only [step] at hjob ⊢
    exact replied_effect (loseRunner_keepsResults hs runnerId actor reason _ _ hterminal clock) hjob
  | retry input attemptUuid clock =>
    simp only [step] at hjob ⊢
    refine called_effect (fun hcall _ hjob => ?_) hjob
    exact retry_effect hs hcall hjob

/-! ## Along a run -/

variable {realmId projectId : String} {tr : List RunnerTransition}

/-- Every Run shows nothing, or what was accepted for the Attempt it names. -/
def ResultsCurrent (tr : List RunnerTransition) (s : ExternalRunnerCoordinator) : Prop :=
  ∀ id stored, s.jobs.get? id = some stored → resultOf stored.run = .unset ∨
    ∃ attemptId, stored.run.attemptId = some attemptId ∧
      ∃ t ∈ tr, Accepts t.op t.reply attemptId (resultOf stored.run)

/-- The Run of a Job that is retried shows nothing. -/
def RetriesUnset (services : RunnerServices) (s : ExternalRunnerCoordinator)
    (op : RunnerOperation) : Prop :=
  ∀ call ∈ op.retried, s.Retriable services call.1 call.2 →
    ∀ stored ∈ s.jobs.get? call.1.jobId, resultOf stored.run = .unset

instance (services : RunnerServices) (s : ExternalRunnerCoordinator) (op : RunnerOperation) :
    Decidable (s.RetriesUnset services op) :=
  inferInstanceAs (Decidable (∀ call ∈ op.retried, _ → ∀ stored ∈ s.jobs.get? call.1.jobId, _))

/-- The Run of a Job that is not finished shows nothing. -/
def UnfinishedUnset (s : ExternalRunnerCoordinator) : Prop :=
  ∀ id stored, s.jobs.get? id = some stored → stored.job.state ∉ terminalStates →
    resultOf stored.run = .unset

/-- **One operation** keeps the results current, when it retries no Job that shows one. -/
theorem step_resultsCurrent (hs : s.Sound) (hfresh : s.Fresh op) (hunset : s.RetriesUnset services op)
    (hresults : s.UnfinishedUnset ∧ ResultsCurrent tr s) :
    (step services op s).2.UnfinishedUnset ∧
      ResultsCurrent (tr ++ [.of (step services) s op]) (step services op s).2 := by
  obtain ⟨hunfinished, hcurrent⟩ := hresults
  have hlonger : ResultsCurrent (tr ++ [.of (step services) s op]) s := by
    intro id stored hjob
    refine (hcurrent id stored hjob).imp_right fun ⟨attemptId, hid, t, ht, haccepts⟩ => ?_
    exact ⟨attemptId, hid, t, List.mem_append_left _ ht, haccepts⟩
  -- what the effect on each Job leaves of both
  have heach : ∀ id stored', (step services op s).2.jobs.get? id = some stored' →
      (stored'.job.state ∉ terminalStates → resultOf stored'.run = .unset) ∧
        (resultOf stored'.run = .unset ∨ ∃ attemptId, stored'.run.attemptId = some attemptId ∧
          ∃ t ∈ tr ++ [.of (step services) s op],
            Accepts t.op t.reply attemptId (resultOf stored'.run)) := by
    intro id stored' hjob
    have heffect := step_resultEffect hs hfresh hjob
    generalize hbefore : s.jobs.get? id = before at heffect
    cases heffect with
    | kept hresult hattempt hstate =>
      rw [hresult, hattempt]
      exact ⟨fun hopen => hunfinished id _ hbefore (hstate hopen), hlonger id _ hbefore⟩
    | filed hresult => exact ⟨fun _ => hresult, .inl hresult⟩
    | retried hop hid hretriable hresult _ =>
      subst hop hid
      have hnone : resultOf _ = .unset := hunset _ rfl hretriable _ hbefore
      exact ⟨fun _ => hresult.trans hnone, .inl (hresult.trans hnone)⟩
    | completed hopen hterminal hresult =>
      obtain ⟨attemptId, hattempt, haccepts⟩ := hresult (hunfinished id _ hbefore hopen)
      exact ⟨fun hstate => absurd hterminal hstate, .inr ⟨attemptId, hattempt, _,
        List.mem_append_right _ (List.mem_singleton.mpr rfl), haccepts⟩⟩
  exact ⟨fun id stored' hjob => (heach id stored' hjob).1,
    fun id stored' hjob => (heach id stored' hjob).2⟩

theorem resultsCurrent_of_retriesUnset (hrun : RunFrom services realmId projectId Fresh tr s)
    (hunset : ∀ t ∈ tr, t.pre.RetriesUnset services t.op) :
    s.UnfinishedUnset ∧ ResultsCurrent tr s := by
  induction hrun with
  | nil =>
    constructor
    · intro id stored hjob
      simp [initial] at hjob
    · intro id stored hjob
      simp [initial] at hjob
  | snoc op hbefore hfresh ih =>
    have hs : Sound _ := sound_of_run (fun _ _ h => h) hbefore
    exact step_resultsCurrent hs hfresh
      (hunset _ (List.mem_append_right _ (List.mem_singleton.mpr rfl)))
      (ih fun t ht => hunset t (List.mem_append_left _ ht))

/-! ### A result belongs to an Attempt that was started -/

theorem started_of_accepts (hs : s.Sound) {attemptId : String} {result : RunResult}
    (h : Accepts op (step services op s).1 attemptId result) : s.Started attemptId := by
  -- the Attempt a credential authorizes is in the state of its Job
  have hstarted : ∀ {token stored attempt credential},
      s.Authorizes services token stored attempt credential → stored.job.state ≠ .queued →
      s.Started attempt.id := by
    intro token stored attempt credential hauthorizes hstate
    obtain ⟨found, hfound, -, hsame⟩ := hs.current _ _ hauthorizes.jobFound
    have hid : attempt.id = stored.job.currentAttemptId :=
      hs.attemptsKeyed _ _ hauthorizes.attemptFound
    rw [hid]
    exact ⟨found, hfound, hsame ▸ hstate⟩
  obtain ⟨completion, hreply, rfl, hreported⟩ := h
  cases op with
  | submit token submitted outputUuid clock =>
    simp only [step] at hreply
    rcases @submit_cases s services hs token submitted outputUuid clock with
      ⟨failure, s', heq, -⟩ | ⟨stored, attempt, credential, _, s', hauthorizes, hstate, hid, heq, -⟩
    · rw [heq] at hreply
      cases hreply
    · rw [heq] at hreply
      cases hreply
      rw [hid]
      exact hstarted hauthorizes (hstate ▸ by decide)
  | finalizeCancellation token outcome receipt clock =>
    simp only [step] at hreply
    rcases @finalizeCancellation_cases s services hs token outcome receipt clock with
      ⟨failure, s', heq, -⟩ | ⟨stored, attempt, credential, _, s', hauthorizes, hstate, hid, -, heq, -⟩
    · rw [heq] at hreply
      cases hreply
    · rw [heq] at hreply
      cases hreply
      rw [hid]
      exact hstarted hauthorizes (hstate ▸ by decide)
  | _ => cases hreported

theorem started_of_run (hrun : RunFrom services realmId projectId Fresh tr s) :
    ∀ t ∈ tr, ∀ attemptId result, Accepts t.op t.reply attemptId result → s.Started attemptId := by
  refine (sound_invariant (fun tr s => ∀ t ∈ tr, ∀ attemptId result,
    Accepts t.op t.reply attemptId result → s.Started attemptId) (fun _ _ h => h) ?_ ?_ hrun).2
  · intro t ht
    cases ht
  · intro tr s op hs _ hbefore hmoves t ht attemptId result haccepts
    rcases List.mem_append.mp ht with ht | ht
    · exact hmoves.started (hbefore t ht attemptId result haccepts)
    · cases List.mem_singleton.mp ht
      exact hmoves.started (started_of_accepts hs haccepts)

/-- The results are current after every operation of the run. -/
def StaysCurrent (tr : List RunnerTransition) : Prop :=
  ∀ tr₁ t tr₂, tr = tr₁ ++ t :: tr₂ → ResultsCurrent (tr₁ ++ [t]) t.post

/-- **The results are current after every operation** of a run with fresh identifiers,
exactly when every Job that is retried has a Run that shows nothing. -/
theorem resultsCurrent_of_run (hrun : RunFrom services realmId projectId Fresh tr s) :
    StaysCurrent tr ↔ ∀ t ∈ tr, t.pre.RetriesUnset services t.op := by
  constructor
  · intro hresults t ht
    obtain ⟨tr₁, tr₂, rfl⟩ := List.append_of_mem ht
    obtain ⟨hbefore, heq, hfresh, -⟩ := hrun.split
    have hs : t.pre.Sound := sound_of_run (fun _ _ h => h) hbefore
    rintro ⟨input, clock⟩ hretry hretriable stored hjob
    obtain ⟨attemptUuid, hop⟩ : ∃ attemptUuid, t.op = .retry input attemptUuid clock := by
      revert hretry
      cases t.op <;> simp [RunnerOperation.retried]
    obtain ⟨queued, s', hcall⟩ := retry_of_retriable hs attemptUuid hretriable
    obtain ⟨hqueued, hpost⟩ : t.reply = .queued queued ∧ t.post = s' := by
      rw [heq, hop]
      simp only [Transition.of, step, hcall]
      exact ⟨rfl, rfl⟩
    rcases retry_cases hcall with
      ⟨-, hused⟩ | ⟨found, stored', -, hfound, hjobs, hresult, hattempt⟩
    · exact absurd hretriable.2.1 hused
    cases hjob.symm.trans hfound
    have hjob' : t.post.jobs.get? stored.job.id = some stored' := by
      rw [hpost, hjobs, OrderedMap.get?_set_self]
    rcases hresults tr₁ t tr₂ rfl _ stored' hjob' with hunset | ⟨attemptId, hid, t', ht', haccepts⟩
    · exact hresult ▸ hunset
    · -- no result was accepted for the fresh Attempt
      cases hattempt.symm.trans hid
      rcases List.mem_append.mp ht' with ht' | ht'
      · obtain ⟨attempt, hfound, -⟩ := started_of_run hbefore t' ht' _ _ haccepts
        have hnone := hfresh.1 attemptUuid (by rw [hop]; rfl)
        rw [hnone] at hfound
        cases hfound
      · cases List.mem_singleton.mp ht'
        obtain ⟨completion, hcompleted, -⟩ := haccepts
        rw [hqueued] at hcompleted
        cases hcompleted
  · rintro hunset tr₁ t tr₂ rfl
    rw [List.append_cons] at hrun
    obtain ⟨m, hm, -⟩ := hrun.of_append
    obtain ⟨_, _, hlast⟩ := hm.of_append
    obtain ⟨-, -, rfl⟩ := hlast.of_singleton
    exact (resultsCurrent_of_retriesUnset hm fun t' ht' =>
      hunset t' (List.append_cons .. ▸ List.mem_append_left _ ht')).2

end ExternalRunnerCoordinator

open ExternalRunnerCoordinator

namespace Sample

/-- The Runner of `claimJob` confirms a cancellation. -/
def confirmCancellation (runnerId uuid : String) : RunnerOperation :=
  .finalizeCancellation (credentialOf runnerId uuid) .stopped "stopped" early

/-- A Job is cancelled, which leaves the digest of the cancellation on its Run. -/
def cancelled : List RunnerOperation :=
  [enrollRunner "r1" ["gpu"], activateRunner "r1", enqueueJob "1", .pull "r1" "challenge" early,
   claimJob "r1" "1" "challenge",
   .requestCancellation (opaqueId "runner-job" "1") runnerActor "cancelled" early,
   confirmCancellation "r1" "1"]

def retryJob (uuid attemptUuid : String) : RunnerOperation :=
  .retry ⟨opaqueId "runner-job" uuid, "again", "lease", runnerActor⟩ attemptUuid early

end Sample

/-- A lost Job shows nothing, and may be retried. -/
theorem resultsCurrent_of_run_sample :
    StaysCurrent (Sample.runnersRan Sample.lostAndRetried).1 := by
  have hrun : RunFrom Sample.runnerServices "realm" "project" Fresh
      (Sample.runnersRan Sample.lostAndRetried).1 (Sample.runnersRan Sample.lostAndRetried).2 :=
    run_exec (by decide +kernel)
  exact (resultsCurrent_of_run hrun).mpr (by decide +kernel)

/-- The retried Run of a cancelled Job is queued for a fresh Attempt, and still shows the
digest of the cancellation. -/
theorem retried_run_shows_result :
    Admits (step Sample.runnerServices) Fresh (.initial "realm" "project")
        (Sample.cancelled ++ [Sample.retryJob "1" "2"]) ∧
      ¬ StaysCurrent (Sample.runnersRan (Sample.cancelled ++ [Sample.retryJob "1" "2"])).1 := by
  refine ⟨by decide +kernel, fun hresults => ?_⟩
  obtain ⟨t, ht, stored, hjob, hattempt, hresult, hother⟩ :
      ∃ t ∈ (Sample.runnersRan (Sample.cancelled ++ [Sample.retryJob "1" "2"])).1[7]?,
        ∃ stored ∈ t.post.jobs.get? (opaqueId "runner-job" "1"),
          stored.run.attemptId = some (opaqueId "runner-attempt" "2") ∧
          resultOf stored.run ≠ .unset ∧
          ∀ t ∈ (Sample.runnersRan (Sample.cancelled ++ [Sample.retryJob "1" "2"])).1,
            ∀ completion ∈ t.reply.completed,
              completion.attempt.id ≠ opaqueId "runner-attempt" "2" := by
    decide +kernel
  obtain ⟨tr₁, tr₂, htr⟩ := List.append_of_mem (List.mem_of_getElem? ht)
  rcases hresults tr₁ t tr₂ htr _ stored hjob with hunset | ⟨attemptId, hid, t', ht', haccepts⟩
  · exact hresult hunset
  · obtain ⟨completion, hcompletion, hsame, -⟩ := haccepts
    have hmem : t' ∈ (Sample.runnersRan (Sample.cancelled ++ [Sample.retryJob "1" "2"])).1 := by
      rw [htr]
      exact List.append_cons .. ▸ List.mem_append_left _ ht'
    refine hother t' hmem completion hcompletion (hsame.trans ?_)
    exact Option.some.inj (hid.symm.trans hattempt)

end Anyam.Execution
