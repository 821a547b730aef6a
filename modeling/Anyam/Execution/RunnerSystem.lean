import Mathlib.Logic.Relation
import Anyam.Execution.RunnerMoves

/-!
# The Runner coordinator as a system

Every operation is a sequence of moves of the ledger, and a run is any finite sequence
of operations on a new coordinator.

- **`step_moves`**: what one operation does in a sound state is a sequence of moves.
- **`sound_invariant`**: the run rule.
- **`sound_of_run`**: every state of a run is sound.
-/

namespace Anyam.Execution

open Anyam.Lib Anyam.Kernel

namespace ExternalRunnerCoordinator

variable {s s' : ExternalRunnerCoordinator} {services : RunnerServices} {op : RunnerOperation}
  {reply : RunnerReply}

/-! ## What one operation does -/

/-- The moves an operation makes one after the other. -/
abbrev Moves (op : RunnerOperation) (reply : RunnerReply) :
    ExternalRunnerCoordinator → ExternalRunnerCoordinator → Prop :=
  Relation.ReflTransGen (Move op reply)

theorem Moves.sound (h : Moves op reply s s') (hs : s.Sound) : s'.Sound := by
  induction h with
  | refl => exact hs
  | tail _ hmove ih => exact hmove.sound ih

theorem keepsEnrollments_of_eq (hs : s.Sound) (h : s'.runners = s.runners) : s.KeepsEnrollments s' :=
  ⟨h ▸ hs.runnersKeyed, fun _ runner hrunner => ⟨runner, h ▸ hrunner, rfl⟩⟩

/-- An operation that changes neither the ledger nor the Runners. -/
theorem moves_quiet (hs : s.Sound) (hjobs : s'.jobs = s.jobs := by rfl)
    (hattempts : s'.attempts = s.attempts := by rfl)
    (hcredentials : s'.credentials = s.credentials := by rfl)
    (hrunners : s'.runners = s.runners := by rfl) : Moves op reply s s' :=
  .single (.quiet hjobs hattempts (keepsCredentials_of_eq hcredentials)
    (keepsEnrollments_of_eq hs hrunners))

/-! ### Runners -/

theorem requireRunner_eq_ok {runnerId : String} {runner : RunnerProfile} :
    s.requireRunner runnerId = .ok runner ↔ s.runners.get? runnerId = some runner :=
  orThrow_eq_ok

theorem requireJob_eq_ok {jobId : String} {stored : StoredJob} :
    s.requireJob jobId = .ok stored ↔ s.jobs.get? jobId = some stored :=
  orThrow_eq_ok

theorem requireAttempt_eq_ok {attemptId : String} {attempt : RunnerAttempt} :
    s.requireAttempt attemptId = .ok attempt ↔ s.attempts.get? attemptId = some attempt :=
  orThrow_eq_ok

/-- A record found under an id is the record under its own id. -/
theorem Sound.found_job (hs : s.Sound) {id : String} {stored : StoredJob}
    (h : s.jobs.get? id = some stored) : s.jobs.get? stored.job.id = some stored := by
  have hid : stored.job.id = id := hs.jobsKeyed id stored h
  rw [hid, h]

theorem withOutput_attemptId (run : Run) (output : Option NormalizedActionOutput) :
    (withOutput run output).attemptId = run.attemptId := by
  cases output <;> rfl

/-- An unfinished Job and its current Attempt are written over. -/
theorem edits_of_put (hs : s.Sound) {id : String} {stored stored' : StoredJob}
    {attempt attempt' : RunnerAttempt} (hwrites : s.Writes stored' attempt' s')
    (hjob : s.jobs.get? id = some stored)
    (hattempt : s.attempts.get? stored.job.currentAttemptId = some attempt)
    (hunfinished : stored.job.state ∉ terminalStates)
    (hmanifest : stored'.job.toRunnerJobManifest = stored.job.toRunnerJobManifest := by rfl)
    (hattemptIds : stored'.job.attemptIds = stored.job.attemptIds := by rfl)
    (hcurrent : stored'.job.currentAttemptId = stored.job.currentAttemptId := by rfl)
    (hrun : stored'.run.attemptId = stored.run.attemptId := by
      first | rfl | exact withOutput_attemptId _ _)
    (hid : attempt'.id = attempt.id := by rfl) (hjobId : attempt'.jobId = attempt.jobId := by rfl)
    (hstate : attempt'.state = stored'.job.state := by rfl) :
    s.Edits stored stored' attempt attempt' s' :=
  ⟨hs.found_job hjob, hattempt, hunfinished, hmanifest, hattemptIds, hcurrent, hrun, hid, hjobId,
    hstate, hwrites⟩

/-- A Runner's record is replaced by one with the same enrollment, or added. -/
theorem keepsEnrollments_put (hs : s.Sound) (runner : RunnerProfile)
    (hsame : ∀ before, s.runners.get? runner.id = some before →
      runner.toRunnerEnrollment = before.toRunnerEnrollment)
    (hrunners : s'.runners = s.runners.set runner.id runner := by rfl) : s.KeepsEnrollments s' := by
  refine ⟨hrunners ▸ hs.runnersKeyed.set rfl, fun id before hbefore => ?_⟩
  rw [hrunners, OrderedMap.get?_set]
  split
  · rename_i hid
    exact ⟨runner, rfl, hsame before (hid ▸ hbefore)⟩
  · exact ⟨before, hbefore, rfl⟩

theorem enrollRunner_moves (hs : s.Sound) {input : RunnerEnrollmentInput} {clock : Clock}
    {profile : RunnerProfile} (h : s.enrollRunner services input clock = .ok (profile, s')) :
    Moves op reply s s' := by
  simp only [enrollRunner, bind_eq_ok, require_eq_ok, exists_unit, pure_eq_ok] at h
  obtain ⟨-, -, -, -, -, hnew, capabilities, -, destinations, -, -, -, -, heq⟩ := h
  cases heq
  have hnone : s.runners.get? input.id = none :=
    OrderedMap.has_eq_false_iff.mp (Bool.not_eq_true _ ▸ hnew)
  refine .single (.quiet rfl rfl (keepsCredentials_of_eq rfl)
    (keepsEnrollments_put hs _ fun before hbefore => ?_))
  rw [hnone] at hbefore
  cases hbefore

/-- Moving a Runner to another status keeps its enrollment. -/
theorem moveRunner_moves (hs : s.Sound) {runner : RunnerProfile}
    (hrunner : s.runners.get? runner.id = some runner) (status : RunnerStatus)
    (type receipt : String) (actor : ActorRef) (clock : Clock) :
    Moves op reply s (s.moveRunner runner status type receipt actor clock).2 := by
  refine .single (.quiet rfl rfl (keepsCredentials_of_eq rfl)
    (keepsEnrollments_put hs { runner with status, updatedAt := clock 0, receipt }
      fun before hbefore => ?_))
  rw [hrunner] at hbefore
  cases hbefore
  rfl

theorem activateRunner_moves (hs : s.Sound) {runnerId : String} {actor : ActorRef} {clock : Clock}
    {profile : RunnerProfile} (h : s.activateRunner runnerId actor clock = .ok (profile, s')) :
    Moves op reply s s' := by
  simp only [activateRunner, bind_eq_ok, require_eq_ok, exists_unit, requireRunner_eq_ok,
    pure_eq_ok] at h
  obtain ⟨runner, hrunner, -, heq⟩ := h
  have hid : runner.id = runnerId := hs.runnersKeyed _ _ hrunner
  cases heq
  exact moveRunner_moves hs (hid ▸ hrunner) _ _ _ _ _

theorem disableRunner_moves (hs : s.Sound) {runnerId : String} {actor : ActorRef} {reason : String}
    {clock : Clock} {profile : RunnerProfile}
    (h : s.disableRunner runnerId actor reason clock = .ok (profile, s')) : Moves op reply s s' := by
  simp only [disableRunner, bind_eq_ok, exists_unit, requireRunner_eq_ok, pure_eq_ok] at h
  obtain ⟨-, runner, hrunner, heq⟩ := h
  have hid : runner.id = runnerId := hs.runnersKeyed _ _ hrunner
  cases heq
  exact moveRunner_moves hs (hid ▸ hrunner) _ _ _ _ _

/-! ### Jobs -/

theorem newJob_queued (input : ExternalRunRequest)
    (runnerRequirements secretUseAliases : List String) (outputLocations : RunnerOutputLocations)
    (contract : Option ActionArtifactOutputContract) (requestDigest runId createdAt : String)
    {drawn : DrawnJob} (hjob : s.jobs.get? (opaqueId "runner-job" drawn.job) = none)
    (hattempt : s.attempts.get? (opaqueId "runner-attempt" drawn.attempt) = none)
    {new : StoredJob × RunnerAttempt}
    (hnew : s.newJob input runnerRequirements secretUseAliases outputLocations contract
      requestDigest runId drawn createdAt = new) :
    Moves op reply s (s.fileJob new.1 new.2) := by
  subst hnew
  have hnone : s.jobs.get? (s.newJob input runnerRequirements secretUseAliases outputLocations
      contract requestDigest runId drawn createdAt).1.job.id = none := hjob
  refine .single (.queued ?_ hattempt rfl rfl ?_ rfl ⟨rfl, rfl⟩ writes_of_put rfl)
  · intro previous hprevious
    rw [hnone] at hprevious
    cases hprevious
  · intro id
    rw [hnone]
    simp [newJob]

theorem enqueue_moves {input : ExternalRunRequest} {drawn : DrawnJob} {clock : Clock}
    {queued : QueuedJob} (hfresh : s.Fresh (.enqueue input drawn clock))
    (h : s.enqueue services input drawn clock = .ok (queued, s')) : Moves op reply s s' := by
  simp only [enqueue, bind_eq_ok, exists_unit] at h
  obtain ⟨-, secretUseAliases, -, outputLocations, -, contract, -, h⟩ := h
  split at h
  · simp only [bind_eq_ok, pure_eq_ok] at h
    obtain ⟨existing, -, heq⟩ := h
    cases heq
    exact .refl
  · simp only [bind_eq_ok, require_eq_ok, exists_unit, pure_eq_ok] at h
    obtain ⟨-, -, -, -, -, -, -, requirements, -, -, heq⟩ := h
    cases heq
    exact newJob_queued _ _ _ _ _ _ _ _ (hfresh.2 _ rfl) (hfresh.1 _ rfl) rfl

/-! ### Offers and claims -/

theorem candidate_eq_some {runner : RunnerProfile} {stored : StoredJob}
    (h : s.candidate services runner = some stored) :
    stored ∈ s.jobs.values ∧ stored.job.state = .queued ∧ runnerMatchesJob runner stored.job = true := by
  have hmem := List.mem_of_mem_head? h
  rw [List.mem_mergeSort, List.mem_filter, decide_eq_true_iff] at hmem
  exact hmem

/-- What an offer was made of. -/
theorem pull_eq_offer {runnerId challenge : String} {clock : Clock} {offer : RunnerJobOffer}
    (h : s.pull services runnerId challenge clock = .ok (some offer, s')) :
    ∃ runner stored attempt, s.runners.get? runnerId = some runner ∧
      stored ∈ s.jobs.values ∧ stored.job.state = .queued ∧
      runnerMatchesJob runner stored.job = true ∧
      s.attempts.get? stored.job.currentAttemptId = some attempt ∧
      s.offerTo services runner stored attempt challenge clock = (offer, s') := by
  simp only [pull, bind_eq_ok, require_eq_ok, exists_unit, requireRunner_eq_ok] at h
  obtain ⟨runner, hrunner, -, h⟩ := h
  split at h
  · cases h
  · rename_i stored hcandidate
    obtain ⟨hmem, hqueued, hmatches⟩ := candidate_eq_some hcandidate
    simp only [bind_eq_ok, requireAttempt_eq_ok] at h
    obtain ⟨attempt, hattempt, h⟩ := h
    split at h
    · cases h
    · refine ⟨runner, stored, attempt, hrunner, hmem, hqueued, hmatches, hattempt, ?_⟩
      cases h
      rfl

theorem pull_moves (hs : s.Sound) {runnerId challenge : String} {clock : Clock}
    {offer : Option RunnerJobOffer}
    (h : s.pull services runnerId challenge clock = .ok (offer, s')) :
    Moves (.pull runnerId challenge clock) (.offer offer) s s' := by
  cases offer with
  | none =>
    simp only [pull, bind_eq_ok, require_eq_ok, exists_unit] at h
    obtain ⟨runner, -, -, h⟩ := h
    split at h
    · cases h
      exact .refl
    · simp only [bind_eq_ok] at h
      obtain ⟨attempt, -, h⟩ := h
      split at h
      · cases h
        exact .refl
      · cases h
  | some offer =>
    obtain ⟨runner, stored, attempt, hrunner, hmem, hqueued, hmatches, hattempt, hoffer⟩ :=
      pull_eq_offer h
    obtain ⟨id, hjob⟩ := OrderedMap.mem_values_iff.mp hmem
    have hid : runner.id = runnerId := hs.runnersKeyed _ _ hrunner
    have hunfinished : stored.job.state ∉ terminalStates := hqueued ▸ (by decide)
    subst hid
    cases hoffer
    refine .single (.offered rfl rfl ?_ hrunner hmatches hqueued
      (edits_of_put hs writes_of_put hjob hattempt hunfinished) ?_ ?_ rfl)
    · rfl
    · rfl
    · rfl

theorem expire_moves (hs : s.Sound) (jobId : String) (clock : Clock) :
    Moves op reply s (s.expire services jobId clock).2 := by
  unfold expire
  cases hjob : s.requireJob jobId with
  | error failure => exact .refl
  | ok stored =>
    replace hjob := requireJob_eq_ok.mp hjob
    simp only []
    cases hattempt : s.requireAttempt stored.job.currentAttemptId with
    | error failure => exact .refl
    | ok attempt =>
      replace hattempt := requireAttempt_eq_ok.mp hattempt
      simp only []
      split
      · exact .refl
      · split
        · exact .refl
        · rename_i hunfinished
          obtain ⟨found, hfound, -, hsame⟩ := hs.current _ _ hjob
          rw [hattempt] at hfound
          cases hfound
          have hid : attempt.id = stored.job.currentAttemptId := hs.attemptsKeyed _ _ hattempt
          refine .single (.closed
            (edits_of_put hs writes_of_put hjob hattempt (hsame ▸ hunfinished)) ?_ (hid ▸ rfl))
          show RunnerJobState.expired ∈ terminalStates
          decide

/-- The records a claim that passed its checks is about. -/
theorem claimable_eq_ok {input : RunnerClaim} {runner : RunnerProfile} {stored : StoredJob}
    {attempt : RunnerAttempt} :
    s.claimable input = .ok (runner, stored, attempt) ↔
      s.runners.get? input.runnerId = some runner ∧ s.jobs.get? input.jobId = some stored ∧
      s.attempts.get? input.attemptId = some attempt ∧ runner.status = .active ∧
      (attempt.jobId = stored.job.id ∧ stored.job.currentAttemptId = attempt.id) ∧
      stored.job.state = .offered ∧ attempt.state = .offered := by
  simp only [claimable, bind_eq_ok, require_eq_ok, exists_unit, pure_eq_ok, requireRunner_eq_ok,
    requireJob_eq_ok, requireAttempt_eq_ok]
  constructor
  · rintro ⟨r, hrunner, j, hjob, a, hattempt, hactive, hcurrent, hoffered, heq⟩
    cases heq
    exact ⟨hrunner, hjob, hattempt, hactive, hcurrent, hoffered⟩
  · rintro ⟨hrunner, hjob, hattempt, hactive, hcurrent, hoffered⟩
    exact ⟨runner, hrunner, stored, hjob, attempt, hattempt, hactive, hcurrent, hoffered, rfl⟩

/-- What a lease was granted on. -/
theorem claim_eq_lease {input : RunnerClaim} {token credentialUuid : String} {clock : Clock}
    {lease : RunnerJobLease} (h : s.claim services input token credentialUuid clock = (.ok lease, s')) :
    ∃ runner stored attempt, s.claimable input = .ok (runner, stored, attempt) ∧
      services.notAfter attempt.leaseExpiresAt (clock 0) = false ∧
      s.provesClaim services runner attempt input = true ∧
      s.grantTo services runner stored attempt token credentialUuid (fun k => clock (k + 1)) =
        (lease, s') := by
  unfold claim at h
  cases hclaimable : s.claimable input with
  | error failure =>
    rw [hclaimable] at h
    cases h
  | ok found =>
    obtain ⟨runner, stored, attempt⟩ := found
    rw [hclaimable] at h
    simp only [] at h
    by_cases hexpired : services.notAfter attempt.leaseExpiresAt (clock 0) = true
    · rw [if_pos hexpired] at h
      cases h
    · rw [if_neg hexpired] at h
      by_cases hproved : s.provesClaim services runner attempt input = true
      · rw [if_neg (not_not_intro hproved)] at h
        refine ⟨runner, stored, attempt, rfl, Bool.eq_false_iff.mpr hexpired, hproved, ?_⟩
        cases h
        rfl
      · rw [if_pos hproved] at h
        cases h

/-- A claim that passed its checks is granted in one move. -/
theorem grantTo_move (hs : s.Sound) (services : RunnerServices) {input : RunnerClaim}
    {runner : RunnerProfile} {stored : StoredJob} {attempt : RunnerAttempt}
    {token credentialUuid : String} {lease : RunnerJobLease} (clock clock' : Clock)
    (hclaimable : s.claimable input = .ok (runner, stored, attempt)) :
    Move (.claim input token credentialUuid clock) (.lease lease) s
      (s.grantTo services runner stored attempt token credentialUuid clock').2 := by
  obtain ⟨hrunner, hjob, hattempt, -, ⟨-, hcurrent⟩, hoffered, -⟩ := claimable_eq_ok.mp hclaimable
  have hid : attempt.id = input.attemptId := hs.attemptsKeyed _ _ hattempt
  have hrunnerId : runner.id = input.runnerId := hs.runnersKeyed _ _ hrunner
  have hunfinished : stored.job.state ∉ terminalStates := hoffered ▸ (by decide)
  rw [← hid, ← hcurrent] at hattempt
  refine .granted rfl rfl (hs.jobsKeyed _ _ hjob).symm hrunner hoffered
    (edits_of_put hs writes_of_put hjob hattempt hunfinished) ?_ ?_ ⟨?_, ?_⟩ rfl
  · rfl
  · exact congrArg some hrunnerId
  · rfl
  · exact hcurrent.symm

theorem claim_moves (hs : s.Sound) (input : RunnerClaim) (token credentialUuid : String)
    (clock : Clock) :
    Moves (.claim input token credentialUuid clock)
      (replied .lease (s.claim services input token credentialUuid clock)).1 s
      (replied .lease (s.claim services input token credentialUuid clock)).2 := by
  unfold claim
  cases hclaimable : s.claimable input with
  | error failure => exact .refl
  | ok found =>
    obtain ⟨runner, stored, attempt⟩ := found
    simp only []
    split
    · exact expire_moves hs _ _
    · split
      · exact .refl
      · exact .single (grantTo_move hs services clock (fun k => clock (k + 1)) hclaimable)

/-! ### Credentials -/

/-- What a credential that was accepted stands for. -/
structure Authorizes (s : ExternalRunnerCoordinator) (services : RunnerServices)
    (token : RunnerJobCredential) (stored : StoredJob) (attempt : RunnerAttempt)
    (credential : StoredCredential) : Prop where
  found : credential ∈ s.credentials.values
  active : credential.status = .active
  digest : credential.digest = services.digest token.token
  bound : credential.jobId = token.jobId ∧ credential.attemptId = token.attemptId ∧
    credential.runnerId = token.runnerId
  jobFound : s.jobs.get? credential.jobId = some stored
  attemptFound : s.attempts.get? stored.job.currentAttemptId = some attempt
  current : stored.job.currentAttemptId = credential.attemptId
  runner : attempt.runnerId = some credential.runnerId

theorem presentedCredential_eq_ok {token : RunnerJobCredential} {credential : StoredCredential}
    (h : s.presentedCredential services token = .ok credential) :
    credential ∈ s.credentials.values ∧ credential.status = .active ∧
      credential.digest = services.digest token.token ∧ credential.jobId = token.jobId ∧
      credential.attemptId = token.attemptId ∧ credential.runnerId = token.runnerId := by
  simp only [presentedCredential, bind_eq_ok, require_eq_ok, exists_unit, orThrow_eq_ok, pure_eq_ok] at h
  obtain ⟨-, found, hfound, hbound, rfl⟩ := h
  obtain ⟨hfind, hactive⟩ := Option.filter_eq_some_iff.mp hfound
  have hmatches := List.find?_some hfind
  exact ⟨List.mem_of_find?_eq_some hfind, of_decide_eq_true hactive,
    (of_decide_eq_true hmatches).2, hbound⟩

/-- A credential is accepted and nothing changes, or the call throws, and at most
revokes a credential. -/
theorem authorizeCredential_cases (hs : s.Sound) (token : RunnerJobCredential) (clock : Clock) :
    (∃ stored attempt credential, s.Authorizes services token stored attempt credential ∧
      s.authorizeCredential services token clock = (.ok (stored, attempt, credential), s)) ∨
    ∃ failure s', s.authorizeCredential services token clock = (.error failure, s') ∧
      s'.jobs = s.jobs ∧ s'.attempts = s.attempts ∧ s'.runners = s.runners ∧ s.KeepsCredentials s' := by
  unfold authorizeCredential
  cases hpresented : s.presentedCredential services token with
  | error failure => exact .inr ⟨failure, s, rfl, rfl, rfl, rfl, fun _ _ hc _ => hc⟩
  | ok credential =>
    obtain ⟨hfound, hactive, hdigest, hbound⟩ := presentedCredential_eq_ok hpresented
    simp only []
    split
    · refine .inr ⟨_, _, rfl, rfl, rfl, rfl, fun id c hc hc' => ?_⟩
      rw [OrderedMap.get?_set] at hc
      split at hc
      · cases hc
        cases hc'
      · exact hc
    · cases hauthorized : s.authorizedAttempt token credential with
      | error failure => exact .inr ⟨failure, s, rfl, rfl, rfl, rfl, fun _ _ hc _ => hc⟩
      | ok authorized =>
        refine .inl ?_
        simp only [authorizedAttempt, bind_eq_ok, require_eq_ok, exists_unit, requireJob_eq_ok,
          requireAttempt_eq_ok, pure_eq_ok] at hauthorized
        obtain ⟨stored, hjob, attempt, hattempt, ⟨hrunner, hcurrent⟩, rfl⟩ := hauthorized
        have hid : attempt.id = credential.attemptId := hs.attemptsKeyed _ _ hattempt
        exact ⟨stored, attempt, credential, ⟨hfound, hactive, hdigest, hbound, hjob,
          hcurrent.trans hid ▸ hattempt, hcurrent.trans hid, hrunner⟩, rfl⟩

/-- An operation that throws while its credential is read. -/
theorem moves_of_refused (hs : s.Sound) (hjobs : s'.jobs = s.jobs)
    (hattempts : s'.attempts = s.attempts) (hrunners : s'.runners = s.runners)
    (hcredentials : s.KeepsCredentials s') : Moves op reply s s' :=
  .single (.quiet hjobs hattempts hcredentials (keepsEnrollments_of_eq hs hrunners))

theorem heartbeat_moves (hs : s.Sound) (token : RunnerJobCredential) (progressDigest : Option String)
    (clock : Clock) :
    Moves op reply s (s.heartbeat services token progressDigest clock).2 := by
  unfold heartbeat
  rcases authorizeCredential_cases hs token clock with
    ⟨stored, attempt, credential, hauthorizes, heq⟩ |
      ⟨failure, s', heq, hjobs, hattempts, hrunners, hkeeps⟩
  · rw [heq]
    simp only []
    split
    · exact .refl
    · rename_i hstate
      have hworked : WorkedOn stored.job.state := by
        unfold WorkedOn
        by_contra hidle
        exact hstate (not_or.mp hidle)
      obtain ⟨found, hfound, -, hsame⟩ := hs.current _ _ hauthorizes.jobFound
      rw [hauthorizes.attemptFound] at hfound
      cases hfound
      have hheld := held_of_workedOn hworked
      -- the Job is written as it is, and the Attempt with the new heartbeat
      have hbeat : ∀ {event}, s.Edits stored stored attempt
          (beatOf attempt credential progressDigest (clock 1))
          ((s.put stored (beatOf attempt credential progressDigest (clock 1))).emit event) :=
        ⟨hs.found_job hauthorizes.jobFound, hauthorizes.attemptFound,
          not_terminal_of_held hheld, rfl, rfl, rfl, rfl, rfl, rfl, hsame, writes_of_put⟩
      exact .single (.kept hheld hbeat (.inl rfl) rfl rfl)
  · rw [heq]
    exact moves_of_refused hs hjobs hattempts hrunners hkeeps

/-! ### Cancellation and results -/

theorem requestCancellation_moves (hs : s.Sound) {jobId : String} {actor : ActorRef}
    {reason : String} {clock : Clock} {job : RunnerJob}
    (h : s.requestCancellation jobId actor reason clock = .ok (job, s')) : Moves op reply s s' := by
  simp only [requestCancellation, bind_eq_ok, require_eq_ok, exists_unit, requireJob_eq_ok,
    requireAttempt_eq_ok, pure_eq_ok] at h
  obtain ⟨-, stored, hjob, attempt, hattempt, hstate, heq⟩ := h
  cases heq
  have hheld : stored.job.state ∈ heldStates := by
    rcases hstate with h | h | h <;> rw [h] <;> decide
  refine .single (.kept hheld
    (edits_of_put hs writes_of_put hjob hattempt (not_terminal_of_held hheld)) (.inr ?_) ?_ rfl)
  · rfl
  · rfl

/-- `completeAttempt` closes the Attempt. -/
theorem completeAttempt_moves (hs : s.Sound) {id : String} {stored : StoredJob}
    {attempt : RunnerAttempt} {ending : AttemptEnd} (clock : Clock)
    (hjob : s.jobs.get? id = some stored)
    (hattempt : s.attempts.get? stored.job.currentAttemptId = some attempt)
    (hunfinished : stored.job.state ∉ terminalStates) (hterminal : ending.state ∈ terminalStates) :
    Moves op reply s (s.completeAttempt stored attempt ending clock).2.2 := by
  have hid : attempt.id = stored.job.currentAttemptId := hs.attemptsKeyed _ _ hattempt
  exact .single (.closed (edits_of_put hs writes_of_put hjob hattempt hunfinished) hterminal
    (hid ▸ rfl))

theorem finalizeCancellation_moves (hs : s.Sound) (token : RunnerJobCredential)
    (outcome : RunnerCancellationOutcome) (receipt : String) (clock : Clock) :
    Moves op reply s (s.finalizeCancellation services token outcome receipt clock).2 := by
  unfold finalizeCancellation
  cases nonEmpty receipt "receipt" with
  | error failure => exact .refl
  | ok _ =>
    simp only []
    rcases authorizeCredential_cases hs token clock with
      ⟨stored, attempt, credential, hauthorizes, heq⟩ |
        ⟨failure, s', heq, hjobs, hattempts, hrunners, hkeeps⟩
    · rw [heq]
      simp only []
      split
      · exact .refl
      · rename_i hstate
        have hrequested : stored.job.state = .cancelRequested := by
          by_contra hother
          exact hstate (.inl hother)
        have hterminal : (cancellationEnd services credential outcome receipt).state ∈
            terminalStates := by
          show (if outcome = .unknown then RunnerJobState.quarantined else .cancelled) ∈ terminalStates
          split <;> decide
        exact completeAttempt_moves hs (fun k => clock (k + 1)) hauthorizes.jobFound
          hauthorizes.attemptFound (hrequested ▸ by decide) hterminal
    · rw [heq]
      exact moves_of_refused hs hjobs hattempts hrunners hkeeps

/-- What an accepted Result was checked for before its outputs. -/
theorem acceptableResult_running {stored : StoredJob} {attempt : RunnerAttempt}
    {credential : StoredCredential} {result : RunnerResult} {runner : RunnerProfile}
    (h : s.acceptableResult services stored attempt credential result = .ok runner) :
    stored.job.state = .running := by
  simp only [acceptableResult, bind_eq_ok, require_eq_ok, exists_unit] at h
  obtain ⟨hstate, hnot, -⟩ := h
  exact hstate.resolve_right hnot

theorem submit_moves (hs : s.Sound) (token : RunnerJobCredential) (result : RunnerResult)
    (outputUuid : Nat → String) (clock : Clock) :
    Moves op reply s (s.submit services token result outputUuid clock).2 := by
  unfold submit
  rcases authorizeCredential_cases hs token clock with
    ⟨stored, attempt, credential, hauthorizes, heq⟩ |
      ⟨failure, s', heq, hjobs, hattempts, hrunners, hkeeps⟩
  · rw [heq]
    simp only []
    cases hresult : s.acceptableResult services stored attempt credential result with
    | error failure => exact .refl
    | ok runner =>
      have hrunning := acceptableResult_running hresult
      have hterminal : (resultEnd services stored attempt credential result).state ∈ terminalStates := by
        show reportedJobState result.status ∈ terminalStates
        cases result.status <;> decide
      have hclosed : Moves op reply s (s.completeAttempt stored attempt
          (resultEnd services stored attempt credential result) fun k => clock (k + 1)).2.2 :=
        completeAttempt_moves hs _ hauthorizes.jobFound hauthorizes.attemptFound
          (hrunning ▸ by decide) hterminal
      simp only []
      split
      · exact hclosed
      · exact hclosed.trans (moves_quiet (hclosed.sound hs))
  · rw [heq]
    exact moves_of_refused hs hjobs hattempts hrunners hkeeps

/-! ### Lost Runners and retries -/

/-- The Attempt of a Job that a lost Runner holds is closed. -/
theorem loseJob_move (hs : s.Sound) {runnerId : String} {loss : RunnerLoss}
    (hterminal : loss.state ∈ terminalStates) (clock : Clock) {id : String} {stored : StoredJob}
    {attempt : RunnerAttempt} (hjob : s.jobs.get? id = some stored)
    (hattempt : s.attempts.get? stored.job.currentAttemptId = some attempt)
    (hheld : stored.job.state ∈ heldStates) :
    Move op reply s (s.loseJob runnerId loss stored attempt clock) := by
  have hid : attempt.id = stored.job.currentAttemptId := hs.attemptsKeyed _ _ hattempt
  exact .closed (edits_of_put hs writes_of_put hjob hattempt (not_terminal_of_held hheld)) hterminal
    (hid ▸ rfl)

theorem loseJobs_moves (runnerId : String) {loss : RunnerLoss}
    (hterminal : loss.state ∈ terminalStates) :
    ∀ (jobIds : List String) (clock : Clock) {s : ExternalRunnerCoordinator}, s.Sound →
      Moves op reply s (loseJobs runnerId loss jobIds clock s).2
  | [], _, _, _ => .refl
  | jobId :: jobIds, clock, s, hs => by
    unfold loseJobs
    split
    · exact loseJobs_moves runnerId hterminal jobIds clock hs
    · rename_i stored hheld
      obtain ⟨hjob, hheld⟩ := Option.filter_eq_some_iff.mp hheld
      replace hheld := (of_decide_eq_true hheld).2
      cases hattempt : s.requireAttempt stored.job.currentAttemptId with
      | error failure => exact .refl
      | ok attempt =>
        -- the Job is lost, and then the rest of the Jobs
        have hlost : Moves op reply s (s.loseJob runnerId loss stored attempt clock) :=
          .single (loseJob_move hs hterminal clock hjob (requireAttempt_eq_ok.mp hattempt) hheld)
        exact hlost.trans (loseJobs_moves runnerId hterminal jobIds _ (hlost.sound hs))

/-- A loss throws at once, or the Runner is moved and then the Jobs it holds are lost. -/
theorem loseRunner_cases (s : ExternalRunnerCoordinator) (runnerId : String) (actor : ActorRef)
    (reason : String) (status : RunnerStatus) (type : String) (loss : RunnerLoss) (clock : Clock) :
    (∃ failure, s.loseRunner runnerId actor reason status type loss clock = (.error failure, s)) ∨
      ∃ runner receipt, trim reason ≠ "" ∧ s.runners.get? runnerId = some runner ∧
        (s.loseRunner runnerId actor reason status type loss clock).2 =
          (loseJobs runner.id loss s.jobs.keys (fun k => clock (k + 1))
            (s.moveRunner runner status type receipt actor clock).2).2 := by
  unfold loseRunner
  cases hreason : nonEmpty reason "reason" with
  | error failure => exact .inl ⟨failure, rfl⟩
  | ok _ =>
    simp only [nonEmpty, require_eq_ok] at hreason
    simp only []
    cases hrunner : s.requireRunner runnerId with
    | error failure => exact .inl ⟨failure, rfl⟩
    | ok runner =>
      refine .inr ⟨runner, s!"runner={runner.id}; state={status}; reason={reason}", hreason,
        requireRunner_eq_ok.mp hrunner, ?_⟩
      simp only []
      split <;> rename_i hlose
      · exact (congrArg Prod.snd hlose).symm
      · exact (congrArg Prod.snd hlose).symm

theorem loseRunner_moves (hs : s.Sound) (runnerId : String) (actor : ActorRef) (reason : String)
    (status : RunnerStatus) (type : String) {loss : RunnerLoss} (hterminal : loss.state ∈ terminalStates)
    (clock : Clock) :
    Moves op reply s (s.loseRunner runnerId actor reason status type loss clock).2 := by
  rcases loseRunner_cases s runnerId actor reason status type loss clock with
    ⟨failure, heq⟩ | ⟨runner, receipt, -, hrunner, heq⟩
  · rw [heq]
  · rw [heq]
    have hid : runner.id = runnerId := hs.runnersKeyed _ _ hrunner
    have hmoved : Moves op reply s (s.moveRunner runner status type receipt actor clock).2 :=
      moveRunner_moves hs (hid ▸ hrunner) _ _ _ _ _
    exact hmoved.trans (loseJobs_moves runner.id hterminal _ _ (hmoved.sound hs))

theorem retry_moves (hs : s.Sound) {input : RunnerRetryRequest} {attemptUuid : String} {clock : Clock}
    {queued : QueuedJob} (hfresh : s.Fresh (.retry input attemptUuid clock))
    (h : s.retry services input attemptUuid clock = .ok (queued, s')) : Moves op reply s s' := by
  simp only [retry, bind_eq_ok, exists_unit] at h
  obtain ⟨-, before, -, h⟩ := h
  split at h
  · cases h
    exact .refl
  · simp only [bind_eq_ok, require_eq_ok, exists_unit, requireJob_eq_ok, pure_eq_ok] at h
    obtain ⟨stored, hjob, hstate, -, previous, -, heq⟩ := h
    cases heq
    have hfound := hs.found_job hjob
    refine .single (.queued ?_ (hfresh.1 _ rfl) rfl rfl ?_ rfl ⟨rfl, rfl⟩ writes_of_put rfl)
    · intro previous hprevious
      replace hprevious : s.jobs.get? stored.job.id = some previous := hprevious
      rw [hfound] at hprevious
      cases hprevious
      exact terminal_of_retryable hstate
    · intro id
      show id ∈ stored.job.attemptIds ++ [opaqueId "runner-attempt" attemptUuid] ↔
        id = opaqueId "runner-attempt" attemptUuid ∨ ∃ previous,
          s.jobs.get? stored.job.id = some previous ∧ id ∈ previous.job.attemptIds
      simp [hfound, or_comm]

/-! ### Every operation -/

theorem called_moves {α : Type} {reply : α → RunnerReply}
    {call : Except RunnerFailure (α × ExternalRunnerCoordinator)}
    (h : ∀ {value s'}, call = .ok (value, s') → Moves op (reply value) s s') :
    Moves op (s.called reply call).1 s (s.called reply call).2 := by
  cases call with
  | error failure => exact .refl
  | ok returned => exact h rfl

theorem replied_moves {α : Type} {replyOf : α → RunnerReply}
    {call : Except RunnerFailure α × ExternalRunnerCoordinator}
    (h : ∀ {reply}, Moves op reply s call.2) :
    Moves op (replied replyOf call).1 s (replied replyOf call).2 := by
  obtain ⟨_ | value, next⟩ := call
  · exact h
  · exact h

/-- **One operation** in a sound state is a sequence of moves. -/
theorem step_moves (hs : s.Sound) (hfresh : s.Fresh op) :
    Moves op (step services op s).1 s (step services op s).2 := by
  cases op with
  | enrollRunner input clock => exact called_moves (enrollRunner_moves hs)
  | activateRunner runnerId actor clock => exact called_moves (activateRunner_moves hs)
  | disableRunner runnerId actor reason clock => exact called_moves (disableRunner_moves hs)
  | enqueue input drawn clock => exact called_moves (enqueue_moves hfresh)
  | pull runnerId challenge clock => exact called_moves (pull_moves hs)
  | claim input token credentialUuid clock =>
    exact claim_moves hs input token credentialUuid clock
  | heartbeat token progressDigest clock =>
    exact replied_moves (heartbeat_moves hs token progressDigest clock)
  | requestCancellation jobId actor reason clock => exact called_moves (requestCancellation_moves hs)
  | finalizeCancellation token outcome receipt clock =>
    exact replied_moves (finalizeCancellation_moves hs token outcome receipt clock)
  | submit token result outputUuid clock =>
    exact replied_moves (submit_moves hs token result outputUuid clock)
  | expire jobId clock => exact expire_moves hs jobId clock
  | markRunnerUnavailable runnerId actor reason clock =>
    have hterminal : (unavailability runnerId reason).state ∈ terminalStates := by
      show RunnerJobState.indeterminate ∈ terminalStates
      decide
    exact replied_moves (loseRunner_moves hs runnerId actor reason _ _ hterminal clock)
  | quarantineRunner runnerId actor reason clock =>
    have hterminal : (quarantine runnerId reason).state ∈ terminalStates := by
      show RunnerJobState.quarantined ∈ terminalStates
      decide
    exact replied_moves (loseRunner_moves hs runnerId actor reason _ _ hterminal clock)
  | retry input attemptUuid clock => exact called_moves (retry_moves hs hfresh)

/-- Only a claim is answered with a lease. -/
theorem claim_of_lease {lease : RunnerJobLease} (h : (step services op s).1 = .lease lease) :
    ∃ input token credentialUuid clock, op = .claim input token credentialUuid clock ∧
      s.claim services input token credentialUuid clock = (.ok lease, (step services op s).2) := by
  cases op with
  | claim input token credentialUuid clock =>
    refine ⟨input, token, credentialUuid, clock, rfl, ?_⟩
    simp only [step] at h ⊢
    generalize s.claim services input token credentialUuid clock = call at h ⊢
    obtain ⟨failure | granted, next⟩ := call
    · cases h
    · cases h
      rfl
  | expire jobId clock => cases h
  | _ =>
    simp only [step, called, replied] at h
    split at h <;> cases h

/-! ## Runs -/

/-- One operation of a run, with its reply and the states around it. -/
abbrev RunnerTransition := Transition ExternalRunnerCoordinator RunnerOperation RunnerReply

/-- A run of a new coordinator. -/
abbrev RunFrom (services : RunnerServices) (realmId projectId : String)
    (ok : ExternalRunnerCoordinator → RunnerOperation → Prop) :
    List RunnerTransition → ExternalRunnerCoordinator → Prop :=
  Run (step services) ok (initial realmId projectId)

variable {realmId projectId : String} {ok : ExternalRunnerCoordinator → RunnerOperation → Prop}
  {tr : List RunnerTransition}

/-- **The run rule**: what holds at the start and the moves of every operation in a sound
state keep holds along every run with fresh identifiers. -/
theorem sound_invariant (I : List RunnerTransition → ExternalRunnerCoordinator → Prop)
    (hfresh : ∀ s op, ok s op → s.Fresh op) (h0 : I [] (initial realmId projectId))
    (hstep : ∀ tr s op, s.Sound → ok s op → I tr s →
      Moves op (step services op s).1 s (step services op s).2 →
      I (tr ++ [.of (step services) s op]) (step services op s).2)
    (hrun : RunFrom services realmId projectId ok tr s) : s.Sound ∧ I tr s := by
  refine hrun.traceInvariant (fun tr s => s.Sound ∧ I tr s) ⟨sound_initial _ _, h0⟩ ?_
  rintro tr s op ⟨hs, hI⟩ hok
  have hmoves : Moves op (step services op s).1 s (step services op s).2 :=
    step_moves hs (hfresh s op hok)
  exact ⟨hmoves.sound hs, hstep tr s op hs hok hI hmoves⟩

theorem sound_of_run (hfresh : ∀ s op, ok s op → s.Fresh op)
    (hrun : RunFrom services realmId projectId ok tr s) : s.Sound :=
  (sound_invariant (fun _ _ => True) hfresh trivial (fun _ _ _ _ _ _ _ => trivial) hrun).1

end ExternalRunnerCoordinator

/-! ## Concrete runs -/

namespace Sample

/-- Digests are their texts, a signature is the key before the message, and dates are
ordered by their lengths. -/
def runnerServices : RunnerServices where
  digest text := text
  profileDigest enrollment _ := enrollment.id
  requestDigest manifest := manifest.actionInput.action.contractDigest
  cancellationDigest _ receipt := receipt
  resultDigest jobId attemptId _ := jobId ++ attemptId
  resultMessage message := message.context.replayId
  verifyPublicKey key := key ≠ ""
  verifyProof key message signature := signature = key ++ message
  dateParse date := some date.length
  localeCompare := compare

def runnerActor : ActorRef := ⟨"principal", "actor", "session", "client"⟩

/-- Every reading of the clock is the earliest date. -/
def early : Clock := fun _ => ""

/-- Enroll a Runner without network whose key is its id. -/
def enrollRunner (id : String) (capabilities : List String) : RunnerOperation :=
  .enrollRunner {
    id
    provider := "provider"
    publicKey := id
    platform := ⟨"linux", "arm64", "container"⟩
    capabilities
    networkDestinations := []
    networkEnforcement := .denyAll
    networkBoundaryReceipt := "networkEnforcement=deny-all"
    secretUse := .none
    canUploadArtifacts := false
    canUploadEvidence := false
    approvedBy := runnerActor
    enrollmentReceipt := "receipt" } early

def activateRunner (id : String) : RunnerOperation := .activateRunner id runnerActor early

/-- An Action without outputs and network. -/
def runnerAction : Action where
  id := "action"
  moduleId := "module"
  moduleRoot := "."
  dependencyIds := []
  command := "make"
  inputGlobs := []
  outputPaths := []
  artifactOutputContract := none
  network := []
  resources := .empty
  contractDigest := "contract"

/-- Queue a Job that needs a GPU, with `uuid` for its identifiers. -/
def enqueueJob (uuid : String) : RunnerOperation :=
  .enqueue {
    idempotencyKey := uuid
    actionInput := {
      action := runnerAction
      verifier := none
      projectRevisionId := "r0"
      projectViewId := "view"
      sourceSpaceSnapshots := .empty
      changeRevisionId := none
      workspaceId := none
      inputDigests := []
      effectDigests := []
      dependencyDigest := "dependency"
      toolchainDigest := "toolchain"
      environmentDigest := "environment"
      policyVersion := "policy"
      authorizationEpoch := "epoch"
      targetId := none
      targetDeploymentProfileDigest := none
      disclosure := ⟨"projection", .project⟩
      actor := runnerActor
      capabilityGrantId := "grant"
      runnerId := "runner" }
    runnerRequirements := ["gpu"]
    outputLocations := ⟨"logs", "artifacts", "evidence"⟩
    leaseExpiresAt := "lease" } ⟨uuid, uuid, uuid⟩ early

/-- A Runner presents the challenge of an offer of `enqueueJob uuid`. -/
def claimJob (runnerId uuid challenge : String) : RunnerOperation :=
  .claim {
    runnerId
    jobId := opaqueId "runner-job" uuid
    attemptId := opaqueId "runner-attempt" uuid
    challenge
    signature := runnerId ++ ExternalRunnerCoordinator.claimMessage challenge }
    "token" uuid early

/-- The credential a Runner got for `claimJob`. -/
def credentialOf (runnerId uuid : String) : RunnerJobCredential where
  id := opaqueId "runner-job-credential" uuid
  audience := "runner-job"
  jobId := opaqueId "runner-job" uuid
  attemptId := opaqueId "runner-attempt" uuid
  runnerId
  expiresAt := "lease"
  token := "token"

/-- The trace and final state of a list of operations on a new coordinator. -/
def runnersRan (ops : List RunnerOperation) :
    List ExternalRunnerCoordinator.RunnerTransition × ExternalRunnerCoordinator :=
  exec (ExternalRunnerCoordinator.step runnerServices) (.initial "realm" "project") ops

end Sample

end Anyam.Execution
