import Anyam.Execution.Runner
import Anyam.Lib.Run

/-!
# The ledger of Runner Jobs

Runners, operators and the lease clock call the coordinator in any order, with any
arguments and any readings of the clock. `step` applies one operation. What it does to
the ledger of Jobs, Attempts and credentials is a sequence of `Move`s: a Job and its
Attempt are queued, offered, granted, kept or closed together, or nothing of them
changes.

- `Sound`: the invariant of the ledger.
- **`Move.sound`**: one move keeps it.
-/

namespace Anyam.Execution

open Anyam.Lib Anyam.Kernel

inductive RunnerOperation
  | enrollRunner (input : RunnerEnrollmentInput) (clock : Clock)
  | activateRunner (runnerId : String) (actor : ActorRef) (clock : Clock)
  | disableRunner (runnerId : String) (actor : ActorRef) (reason : String) (clock : Clock)
  | enqueue (input : ExternalRunRequest) (drawn : DrawnJob) (clock : Clock)
  | pull (runnerId challenge : String) (clock : Clock)
  | claim (input : RunnerClaim) (token credentialUuid : String) (clock : Clock)
  | heartbeat (token : RunnerJobCredential) (progressDigest : Option String) (clock : Clock)
  | requestCancellation (jobId : String) (actor : ActorRef) (reason : String) (clock : Clock)
  | finalizeCancellation (token : RunnerJobCredential) (outcome : RunnerCancellationOutcome)
      (receipt : String) (clock : Clock)
  | submit (token : RunnerJobCredential) (result : RunnerResult) (outputUuid : Nat → String)
      (clock : Clock)
  | expire (jobId : String) (clock : Clock)
  | markRunnerUnavailable (runnerId : String) (actor : ActorRef) (reason : String) (clock : Clock)
  | quarantineRunner (runnerId : String) (actor : ActorRef) (reason : String) (clock : Clock)
  | retry (input : RunnerRetryRequest) (attemptUuid : String) (clock : Clock)

/-- What an operation hands to its caller. -/
inductive RunnerReply
  | profile (profile : RunnerProfile)
  | queued (job : QueuedJob)
  | offer (offer : Option RunnerJobOffer)
  | lease (lease : RunnerJobLease)
  | attempt (attempt : RunnerAttempt)
  | job (job : RunnerJob)
  | completion (completion : RunnerCompletion)
  | threw (failure : RunnerFailure)
deriving DecidableEq, Repr

/-- The identifier an operation draws for a new Attempt. -/
def RunnerOperation.drawnAttempt : RunnerOperation → Option String
  | .enqueue _ drawn _ => some drawn.attempt
  | .retry _ attemptUuid _ => some attemptUuid
  | _ => none

/-- The identifier an operation draws for a new Job. -/
def RunnerOperation.drawnJob : RunnerOperation → Option String
  | .enqueue _ drawn _ => some drawn.job
  | _ => none

namespace ExternalRunnerCoordinator

/-! ## One operation -/

/-- A call that changes the state only when it returns. -/
def called {α : Type} (s : ExternalRunnerCoordinator) (reply : α → RunnerReply) :
    Except RunnerFailure (α × ExternalRunnerCoordinator) → RunnerReply × ExternalRunnerCoordinator
  | .error failure => (.threw failure, s)
  | .ok (value, next) => (reply value, next)

/-- The reply of a call that can throw after it changed the state. -/
def replied {α : Type} (reply : α → RunnerReply) :
    Except RunnerFailure α × ExternalRunnerCoordinator → RunnerReply × ExternalRunnerCoordinator
  | (.error failure, next) => (.threw failure, next)
  | (.ok value, next) => (reply value, next)

/-- Apply one operation. -/
def step (services : RunnerServices) :
    RunnerOperation → ExternalRunnerCoordinator → RunnerReply × ExternalRunnerCoordinator
  | .enrollRunner input clock, s => s.called .profile (s.enrollRunner services input clock)
  | .activateRunner runnerId actor clock, s => s.called .profile (s.activateRunner runnerId actor clock)
  | .disableRunner runnerId actor reason clock, s =>
    s.called .profile (s.disableRunner runnerId actor reason clock)
  | .enqueue input drawn clock, s => s.called .queued (s.enqueue services input drawn clock)
  | .pull runnerId challenge clock, s => s.called .offer (s.pull services runnerId challenge clock)
  | .claim input token credentialUuid clock, s =>
    replied .lease (s.claim services input token credentialUuid clock)
  | .heartbeat token progressDigest clock, s =>
    replied .attempt (s.heartbeat services token progressDigest clock)
  | .requestCancellation jobId actor reason clock, s =>
    s.called .job (s.requestCancellation jobId actor reason clock)
  | .finalizeCancellation token outcome receipt clock, s =>
    replied .completion (s.finalizeCancellation services token outcome receipt clock)
  | .submit token result outputUuid clock, s =>
    replied .completion (s.submit services token result outputUuid clock)
  | .expire jobId clock, s =>
    let (failure, next) := s.expire services jobId clock
    (.threw failure, next)
  | .markRunnerUnavailable runnerId actor reason clock, s =>
    replied .profile (s.markRunnerUnavailable runnerId actor reason clock)
  | .quarantineRunner runnerId actor reason clock, s =>
    replied .profile (s.quarantineRunner runnerId actor reason clock)
  | .retry input attemptUuid clock, s => s.called .queued (s.retry services input attemptUuid clock)

/-- The drawn identifiers are not in use. -/
def Fresh (s : ExternalRunnerCoordinator) (op : RunnerOperation) : Prop :=
  (∀ uuid ∈ op.drawnAttempt, s.attempts.get? (opaqueId "runner-attempt" uuid) = none) ∧
    ∀ uuid ∈ op.drawnJob, s.jobs.get? (opaqueId "runner-job" uuid) = none

instance (s : ExternalRunnerCoordinator) (op : RunnerOperation) : Decidable (s.Fresh op) :=
  inferInstanceAs (Decidable (_ ∧ _))

/-! ## The invariant -/

end ExternalRunnerCoordinator

/-- A credential may be active: its Attempt is worked on. -/
def WorkedOn (state : RunnerJobState) : Prop := state = .running ∨ state = .cancelRequested

instance (state : RunnerJobState) : Decidable (WorkedOn state) :=
  inferInstanceAs (Decidable (_ ∨ _))

theorem held_of_workedOn {state : RunnerJobState} (h : WorkedOn state) : state ∈ heldStates := by
  rcases h with rfl | rfl <;> decide

theorem not_terminal_of_held {state : RunnerJobState} (h : state ∈ heldStates) :
    state ∉ terminalStates := by
  revert h
  cases state <;> decide

theorem terminal_of_retryable {state : RunnerJobState} (h : state ∈ retryableJobStates) :
    state ∈ terminalStates := by
  revert h
  cases state <;> decide

theorem not_workedOn_of_terminal {state : RunnerJobState} (h : state ∈ terminalStates) :
    ¬ WorkedOn state :=
  fun hworked => not_terminal_of_held (held_of_workedOn hworked) h

namespace ExternalRunnerCoordinator

variable {s s' : ExternalRunnerCoordinator} {services : RunnerServices} {op : RunnerOperation}
  {reply : RunnerReply}

/-- Records are filed under their ids; a Job, its Run and its current Attempt agree; an
Attempt that is not current is finished; an active credential is for the current Attempt
of its Job, which is worked on, and is the only one for it. -/
structure Sound (s : ExternalRunnerCoordinator) : Prop where
  runnersKeyed : s.runners.SelfKeyed fun runner => runner.id
  jobsKeyed : s.jobs.SelfKeyed fun stored => stored.job.id
  attemptsKeyed : s.attempts.SelfKeyed RunnerAttempt.id
  current : ∀ id stored, s.jobs.get? id = some stored →
    ∃ attempt, s.attempts.get? stored.job.currentAttemptId = some attempt ∧
      attempt.jobId = id ∧ attempt.state = stored.job.state
  run : ∀ id stored, s.jobs.get? id = some stored →
    stored.run.attemptId = some stored.job.currentAttemptId
  listed : ∀ id stored, s.jobs.get? id = some stored → ∀ attemptId,
    attemptId ∈ stored.job.attemptIds ↔
      ∃ attempt, s.attempts.get? attemptId = some attempt ∧ attempt.jobId = id
  owned : ∀ id attempt, s.attempts.get? id = some attempt →
    ∃ stored, s.jobs.get? attempt.jobId = some stored ∧
      (stored.job.currentAttemptId ≠ id → attempt.state ∈ terminalStates)
  credential : ∀ id c, s.credentials.get? id = some c → c.status = .active →
    ∃ stored, s.jobs.get? c.jobId = some stored ∧ stored.job.currentAttemptId = c.attemptId ∧
      WorkedOn stored.job.state
  exclusive : ∀ id id' c c', s.credentials.get? id = some c → s.credentials.get? id' = some c' →
    c.status = .active → c'.status = .active → c.attemptId = c'.attemptId → id = id'

theorem sound_initial (realmId projectId : String) : (initial realmId projectId).Sound where
  runnersKeyed := OrderedMap.selfKeyed_empty _
  jobsKeyed := OrderedMap.selfKeyed_empty _
  attemptsKeyed := OrderedMap.selfKeyed_empty _
  current := by simp [initial]
  run := by simp [initial]
  listed := by simp [initial]
  owned := by simp [initial]
  credential := by simp [initial]
  exclusive := by simp [initial]

/-- The current Attempt of a Job belongs to no other Job. -/
theorem Sound.job_of_current (hs : s.Sound) {id id' : String} {stored stored' : StoredJob}
    (hjob : s.jobs.get? id = some stored) (hjob' : s.jobs.get? id' = some stored')
    (hsame : stored.job.currentAttemptId = stored'.job.currentAttemptId) : id = id' := by
  obtain ⟨attempt, hattempt, hid, -⟩ := hs.current id stored hjob
  obtain ⟨attempt', hattempt', hid', -⟩ := hs.current id' stored' hjob'
  rw [hsame, hattempt'] at hattempt
  cases hattempt
  rw [← hid, hid']

/-! ## Moves -/

/-- `s'` is `s` with one Job and one Attempt written, and other credentials, offers,
outputs, keys and events. -/
structure Writes (s : ExternalRunnerCoordinator) (stored : StoredJob) (attempt : RunnerAttempt)
    (s' : ExternalRunnerCoordinator) : Prop where
  jobs : ∀ k, s'.jobs.get? k = if k = stored.job.id then some stored else s.jobs.get? k
  attempts : ∀ k, s'.attempts.get? k = if k = attempt.id then some attempt else s.attempts.get? k
  runners : s'.runners = s.runners

theorem writes_of_put {stored : StoredJob} {attempt : RunnerAttempt}
    (hjobs : s'.jobs = s.jobs.set stored.job.id stored := by rfl)
    (hattempts : s'.attempts = s.attempts.set attempt.id attempt := by rfl)
    (hrunners : s'.runners = s.runners := by rfl) : s.Writes stored attempt s' where
  jobs k := by rw [hjobs, OrderedMap.get?_set]
  attempts k := by rw [hattempts, OrderedMap.get?_set]
  runners := hrunners

theorem Writes.jobsKeyed {stored : StoredJob} {attempt : RunnerAttempt}
    (h : s.Writes stored attempt s') (hs : s.Sound) :
    s'.jobs.SelfKeyed fun stored => stored.job.id := by
  intro id job hjob
  rw [h.jobs] at hjob
  split at hjob
  · rename_i hid
    rw [← Option.some.inj hjob, hid]
  · exact hs.jobsKeyed id job hjob

theorem Writes.attemptsKeyed {stored : StoredJob} {attempt : RunnerAttempt}
    (h : s.Writes stored attempt s') (hs : s.Sound) : s'.attempts.SelfKeyed RunnerAttempt.id := by
  intro id a ha
  rw [h.attempts] at ha
  split at ha
  · rename_i hid
    rw [← Option.some.inj ha, hid]
  · exact hs.attemptsKeyed id a ha

/-- A Job that is not finished was edited together with its current Attempt. -/
structure Edits (s : ExternalRunnerCoordinator) (stored stored' : StoredJob)
    (attempt attempt' : RunnerAttempt) (s' : ExternalRunnerCoordinator) : Prop where
  job : s.jobs.get? stored.job.id = some stored
  current : s.attempts.get? stored.job.currentAttemptId = some attempt
  unfinished : stored.job.state ∉ terminalStates
  manifest : stored'.job.toRunnerJobManifest = stored.job.toRunnerJobManifest
  attemptIds : stored'.job.attemptIds = stored.job.attemptIds
  currentAttemptId : stored'.job.currentAttemptId = stored.job.currentAttemptId
  run : stored'.run.attemptId = stored.run.attemptId
  id : attempt'.id = attempt.id
  jobId : attempt'.jobId = attempt.jobId
  state : attempt'.state = stored'.job.state
  writes : s.Writes stored' attempt' s'

/-- No credential became active. -/
def KeepsCredentials (s s' : ExternalRunnerCoordinator) : Prop :=
  ∀ id c, s'.credentials.get? id = some c → c.status = .active → s.credentials.get? id = some c

/-- Every Runner is still enrolled with what it was enrolled with. -/
def KeepsEnrollments (s s' : ExternalRunnerCoordinator) : Prop :=
  s'.runners.SelfKeyed (fun runner => runner.id) ∧
    ∀ id runner, s.runners.get? id = some runner →
      ∃ runner', s'.runners.get? id = some runner' ∧
        runner'.toRunnerEnrollment = runner.toRunnerEnrollment

/-- What the reply of an operation can do to the ledger in one move. -/
inductive Move (op : RunnerOperation) (reply : RunnerReply) (s : ExternalRunnerCoordinator) :
    ExternalRunnerCoordinator → Prop
  | quiet {s' : ExternalRunnerCoordinator} (hjobs : s'.jobs = s.jobs)
      (hattempts : s'.attempts = s.attempts) (hcredentials : s.KeepsCredentials s')
      (hrunners : s.KeepsEnrollments s') : Move op reply s s'
  /-- A new Job is queued with its first Attempt, or a finished one with a fresh one. -/
  | queued {stored attempt s'}
      (hfinished : ∀ previous, s.jobs.get? stored.job.id = some previous →
        previous.job.state ∈ terminalStates)
      (hfresh : s.attempts.get? attempt.id = none) (hjobId : attempt.jobId = stored.job.id)
      (hcurrent : stored.job.currentAttemptId = attempt.id)
      (hlisted : ∀ id, id ∈ stored.job.attemptIds ↔ id = attempt.id ∨
        ∃ previous, s.jobs.get? stored.job.id = some previous ∧ id ∈ previous.job.attemptIds)
      (hrun : stored.run.attemptId = some attempt.id)
      (hstate : attempt.state = .queued ∧ stored.job.state = .queued)
      (hwrites : s.Writes stored attempt s') (hcredentials : s'.credentials = s.credentials) :
      Move op reply s s'
  | offered {runner challenge clock offer stored stored' attempt attempt' s'}
      (hop : op = .pull runner.id challenge clock) (hreply : reply = .offer (some offer))
      (hoffer : offer.attempt.id = attempt.id) (hrunner : s.runners.get? runner.id = some runner)
      (hmatches : runnerMatchesJob runner stored.job = true) (hqueued : stored.job.state = .queued)
      (hedits : s.Edits stored stored' attempt attempt' s') (hstate : stored'.job.state = .offered)
      (hcurrent : stored'.job.currentRunnerId = some runner.id)
      (hcredentials : s'.credentials = s.credentials) : Move op reply s s'
  /-- An offered Attempt is claimed, and gets its credential. -/
  | granted {input token credentialUuid clock lease runner c stored stored' attempt attempt' s'}
      (hop : op = .claim input token credentialUuid clock) (hreply : reply = .lease lease)
      (hjobId : input.jobId = stored.job.id)
      (hrunner : s.runners.get? input.runnerId = some runner) (hoffered : stored.job.state = .offered)
      (hedits : s.Edits stored stored' attempt attempt' s') (hstate : stored'.job.state = .running)
      (hcurrent : stored'.job.currentRunnerId = some input.runnerId)
      (hbound : c.jobId = stored.job.id ∧ c.attemptId = stored.job.currentAttemptId)
      (hcredentials : s'.credentials = s.credentials.set c.id c) : Move op reply s s'
  /-- A held Attempt goes on, perhaps with its cancellation requested. -/
  | kept {stored stored' attempt attempt' s'} (hheld : stored.job.state ∈ heldStates)
      (hedits : s.Edits stored stored' attempt attempt' s')
      (hstate : stored'.job.state = stored.job.state ∨ stored'.job.state = .cancelRequested)
      (hcurrent : stored'.job.currentRunnerId = stored.job.currentRunnerId)
      (hcredentials : s'.credentials = s.credentials) : Move op reply s s'
  /-- The Attempt is finished, and its credentials are revoked. -/
  | closed {stored stored' attempt attempt' s'}
      (hedits : s.Edits stored stored' attempt attempt' s')
      (hterminal : stored'.job.state ∈ terminalStates)
      (hcredentials : s'.credentials =
        (s.revokeAttemptCredentials stored.job.currentAttemptId).credentials) : Move op reply s s'

/-! ### Moves keep soundness -/

/-- Nothing of the ledger changes, but credentials that end. -/
theorem Sound.quiet (hs : s.Sound) (hjobs : s'.jobs = s.jobs) (hattempts : s'.attempts = s.attempts)
    (hcredentials : s.KeepsCredentials s')
    (hrunners : s'.runners.SelfKeyed fun runner => runner.id) : s'.Sound where
  runnersKeyed := hrunners
  jobsKeyed := hjobs ▸ hs.jobsKeyed
  attemptsKeyed := hattempts ▸ hs.attemptsKeyed
  current := hjobs ▸ hattempts ▸ hs.current
  run := hjobs ▸ hs.run
  listed := hjobs ▸ hattempts ▸ hs.listed
  owned := hjobs ▸ hattempts ▸ hs.owned
  credential id c hc hactive := hjobs ▸ hs.credential id c (hcredentials id c hc hactive) hactive
  exclusive id id' c c' hc hc' hactive hactive' hsame :=
    hs.exclusive id id' c c' (hcredentials id c hc hactive) (hcredentials id' c' hc' hactive')
      hactive hactive' hsame

section Edits

variable {stored stored' : StoredJob} {attempt attempt' : RunnerAttempt}

theorem Edits.jobIds (h : s.Edits stored stored' attempt attempt' s') :
    stored'.job.id = stored.job.id :=
  congrArg RunnerJobManifest.id h.manifest

theorem Edits.attempt_id (h : s.Edits stored stored' attempt attempt' s') (hs : s.Sound) :
    attempt'.id = stored.job.currentAttemptId :=
  h.id.trans (hs.attemptsKeyed _ _ h.current)

/-- The edited Attempt is the current one of the Job, and no other Job's. -/
theorem Edits.attempt_job (h : s.Edits stored stored' attempt attempt' s') (hs : s.Sound) :
    attempt.jobId = stored.job.id ∧ attempt.state = stored.job.state := by
  obtain ⟨found, hfound, hjobId, hstate⟩ := hs.current _ _ h.job
  rw [h.current] at hfound
  cases hfound
  exact ⟨hjobId, hstate⟩

/-- Attempts stay with their Jobs. -/
theorem Edits.attempts_of_job (h : s.Edits stored stored' attempt attempt' s') (hs : s.Sound)
    (id jobId : String) :
    (∃ a, s'.attempts.get? id = some a ∧ a.jobId = jobId) ↔
      ∃ a, s.attempts.get? id = some a ∧ a.jobId = jobId := by
  rw [h.writes.attempts]
  split
  · rename_i hid
    rw [hid, h.attempt_id hs, h.current]
    simp [h.jobId]
  · rfl

/-- The credentials after an edit: the ones before, or new ones for the edited Attempt,
which is then worked on. -/
def EditsCredentials (s : ExternalRunnerCoordinator) (stored stored' : StoredJob)
    (s' : ExternalRunnerCoordinator) : Prop :=
  ∀ id c, s'.credentials.get? id = some c → c.status = .active →
    (s.credentials.get? id = some c ∧
        (c.attemptId = stored.job.currentAttemptId → WorkedOn stored'.job.state)) ∨
      c.jobId = stored.job.id ∧ c.attemptId = stored.job.currentAttemptId ∧
        WorkedOn stored'.job.state

theorem Edits.sound (h : s.Edits stored stored' attempt attempt' s') (hs : s.Sound)
    (hcredentials : s.EditsCredentials stored stored' s')
    (hexclusive : ∀ id id' c c', s'.credentials.get? id = some c →
      s'.credentials.get? id' = some c' → c.status = .active → c'.status = .active →
      c.attemptId = c'.attemptId → id = id') : s'.Sound := by
  have hattemptId := h.attempt_id hs
  obtain ⟨hjobId, -⟩ := h.attempt_job hs
  -- another Job keeps its record and its current Attempt
  have hother : ∀ id job, id ≠ stored.job.id → s.jobs.get? id = some job →
      job.job.currentAttemptId ≠ stored.job.currentAttemptId :=
    fun id job hne hjob hsame => hne (hs.job_of_current hjob h.job hsame)
  refine ⟨h.writes.runners ▸ hs.runnersKeyed, h.writes.jobsKeyed hs, h.writes.attemptsKeyed hs,
    fun id job hjob => ?_, fun id job hjob => ?_, fun id job hjob attemptId => ?_,
    fun id a ha => ?_, fun id c hc hactive => ?_, hexclusive⟩
  · -- the current Attempt of each Job: the edited one, or one that was not written
    rw [h.writes.jobs, h.jobIds] at hjob
    split at hjob
    · rename_i hid
      cases hjob
      refine ⟨attempt', ?_, h.jobId.trans (hjobId.trans hid.symm), h.state⟩
      rw [h.writes.attempts, h.currentAttemptId, hattemptId, if_pos rfl]
    · rename_i hid
      obtain ⟨a, ha, hstate⟩ := hs.current id job hjob
      refine ⟨a, ?_, hstate⟩
      rw [h.writes.attempts, hattemptId, if_neg (hother id job hid hjob), ha]
  · -- the Attempt its Run names
    rw [h.writes.jobs] at hjob
    split at hjob
    · cases hjob
      rw [h.run, h.currentAttemptId]
      exact hs.run _ _ h.job
    · exact hs.run id job hjob
  · -- the Attempts it lists
    rw [h.attempts_of_job hs]
    rw [h.writes.jobs, h.jobIds] at hjob
    split at hjob
    · rename_i hid
      cases hjob
      rw [h.attemptIds, hid]
      exact hs.listed _ _ h.job attemptId
    · exact hs.listed id job hjob attemptId
  · -- the Job of each Attempt
    rw [h.writes.attempts] at ha
    split at ha
    · rename_i hid
      cases ha
      refine ⟨stored', ?_, fun hne => absurd ?_ hne⟩
      · rw [h.writes.jobs, h.jobIds, h.jobId, hjobId, if_pos rfl]
      · rw [h.currentAttemptId, hid, hattemptId]
    · obtain ⟨job, hjob, hfinal⟩ := hs.owned id a ha
      rw [h.writes.jobs, h.jobIds]
      split
      · rename_i hid
        rw [hid, h.job] at hjob
        cases hjob
        exact ⟨stored', rfl, h.currentAttemptId ▸ hfinal⟩
      · exact ⟨job, hjob, hfinal⟩
  · -- the Job of each active credential
    rw [h.writes.jobs, h.jobIds]
    rcases hcredentials id c hc hactive with ⟨hbefore, hworked⟩ | ⟨hjob, hcurrent, hworked⟩
    · obtain ⟨job, hjob, hcurrent, hworkedOn⟩ := hs.credential id c hbefore hactive
      split
      · rename_i hid
        rw [hid, h.job] at hjob
        cases hjob
        exact ⟨stored', rfl, h.currentAttemptId.trans hcurrent, hworked hcurrent.symm⟩
      · exact ⟨job, hjob, hcurrent, hworkedOn⟩
    · rw [if_pos hjob]
      exact ⟨stored', rfl, h.currentAttemptId.trans hcurrent.symm, hworked⟩

end Edits

/-- Credentials that were there before the edit. -/
theorem KeepsCredentials.exclusive (h : s.KeepsCredentials s') (hs : s.Sound) :
    ∀ id id' c c', s'.credentials.get? id = some c → s'.credentials.get? id' = some c' →
      c.status = .active → c'.status = .active → c.attemptId = c'.attemptId → id = id' :=
  fun id id' c c' hc hc' hactive hactive' hsame =>
    hs.exclusive id id' c c' (h id c hc hactive) (h id' c' hc' hactive') hactive hactive' hsame

theorem keepsCredentials_of_eq (h : s'.credentials = s.credentials) : s.KeepsCredentials s' :=
  fun _ _ hc _ => h ▸ hc

/-- After a revocation, an active credential is one of before, for another Attempt. -/
theorem active_of_revoked {attemptId id : String} {c : StoredCredential}
    (hc : (s.revokeAttemptCredentials attemptId).credentials.get? id = some c)
    (hactive : c.status = .active) : s.credentials.get? id = some c ∧ c.attemptId ≠ attemptId := by
  unfold revokeAttemptCredentials at hc
  rw [OrderedMap.get?_map, Option.map_eq_some_iff] at hc
  obtain ⟨before, hbefore, heq⟩ := hc
  split at heq
  · subst heq
    cases hactive
  · subst heq
    exact ⟨hbefore, ‹_›⟩

/-- A credential of an offered Attempt is not active. -/
theorem Sound.no_credential (hs : s.Sound) {stored : StoredJob}
    (hjob : s.jobs.get? stored.job.id = some stored) (hidle : ¬ WorkedOn stored.job.state)
    {id : String} {c : StoredCredential} (hc : s.credentials.get? id = some c)
    (hactive : c.status = .active) : c.attemptId ≠ stored.job.currentAttemptId := by
  intro hsame
  obtain ⟨job, hfound, hcurrent, hworked⟩ := hs.credential id c hc hactive
  have hid := hs.job_of_current hfound hjob (hcurrent.trans hsame)
  rw [hid, hjob] at hfound
  cases hfound
  exact hidle hworked

/-- A new Job, or a finished one, gets an Attempt with a fresh id. -/
theorem Sound.queued (hs : s.Sound) {stored : StoredJob} {attempt : RunnerAttempt}
    (hfinished : ∀ previous, s.jobs.get? stored.job.id = some previous →
      previous.job.state ∈ terminalStates)
    (hfresh : s.attempts.get? attempt.id = none) (hjobId : attempt.jobId = stored.job.id)
    (hcurrent : stored.job.currentAttemptId = attempt.id)
    (hlisted : ∀ id, id ∈ stored.job.attemptIds ↔ id = attempt.id ∨
      ∃ previous, s.jobs.get? stored.job.id = some previous ∧ id ∈ previous.job.attemptIds)
    (hrun : stored.run.attemptId = some attempt.id)
    (hstate : attempt.state = .queued ∧ stored.job.state = .queued)
    (hwrites : s.Writes stored attempt s') (hcredentials : s'.credentials = s.credentials) :
    s'.Sound := by
  -- the fresh id is no Attempt of before
  have hne : ∀ id a, s.attempts.get? id = some a → id ≠ attempt.id := by
    rintro id a ha rfl
    rw [hfresh] at ha
    cases ha
  have hkept : ∀ id a, s.attempts.get? id = some a → s'.attempts.get? id = some a := by
    intro id a ha
    rw [hwrites.attempts, if_neg (hne id a ha), ha]
  have hnew : s'.attempts.get? attempt.id = some attempt := by
    rw [hwrites.attempts, if_pos rfl]
  refine ⟨hwrites.runners ▸ hs.runnersKeyed, hwrites.jobsKeyed hs, hwrites.attemptsKeyed hs,
    fun id job hjob => ?_, fun id job hjob => ?_, fun id job hjob attemptId => ?_,
    fun id a ha => ?_, fun id c hc hactive => ?_, ?_⟩
  · -- the current Attempt of each Job
    rw [hwrites.jobs] at hjob
    split at hjob
    · rename_i hid
      cases hjob
      exact ⟨attempt, hcurrent ▸ hnew, hjobId.trans hid.symm, hstate.1.trans hstate.2.symm⟩
    · obtain ⟨a, ha, hstate⟩ := hs.current id job hjob
      exact ⟨a, hkept _ a ha, hstate⟩
  · -- the Attempt its Run names
    rw [hwrites.jobs] at hjob
    split at hjob
    · cases hjob
      rw [hrun, hcurrent]
    · exact hs.run id job hjob
  · -- the Attempts it lists: the fresh one joins the ones of the Job
    rw [hwrites.attempts]
    rw [hwrites.jobs] at hjob
    split at hjob
    · rename_i hid
      cases hjob
      rw [hlisted]
      by_cases hsame : attemptId = attempt.id
      · simp [hsame, hjobId, hid]
      · rw [if_neg hsame, or_iff_right hsame]
        constructor
        · rintro ⟨previous, hprevious, hmem⟩
          exact hid ▸ (hs.listed _ previous hprevious attemptId).mp hmem
        · rintro ⟨a, ha, hjobOf⟩
          obtain ⟨previous, hprevious, -⟩ := hs.owned attemptId a ha
          rw [hjobOf, hid] at hprevious
          exact ⟨previous, hprevious,
            (hs.listed _ previous hprevious attemptId).mpr ⟨a, ha, hjobOf.trans hid⟩⟩
    · rename_i hid
      rw [hs.listed id job hjob attemptId]
      split
      · rename_i hsame
        rw [hsame, hfresh]
        simp [hjobId, Ne.symm hid]
      · rfl
  · -- the Job of each Attempt
    rw [hwrites.attempts] at ha
    split at ha
    · rename_i hid
      cases ha
      refine ⟨stored, ?_, fun hother => absurd (hcurrent.trans hid.symm) hother⟩
      rw [hwrites.jobs, hjobId, if_pos rfl]
    · obtain ⟨job, hjob, hfinal⟩ := hs.owned id a ha
      rw [hwrites.jobs]
      split
      · -- the Attempts of the finished Job are finished
        rename_i hid
        rw [hid] at hjob
        refine ⟨stored, rfl, fun _ => ?_⟩
        by_cases hlast : job.job.currentAttemptId = id
        · obtain ⟨found, hfound, -, hsame⟩ := hs.current _ job hjob
          rw [hlast, ha] at hfound
          cases hfound
          exact hsame ▸ hfinished job hjob
        · exact hfinal hlast
      · exact ⟨job, hjob, hfinal⟩
  · -- the Job of each active credential is not the queued one
    rw [hcredentials] at hc
    obtain ⟨job, hjob, hcurrentOf, hworked⟩ := hs.credential id c hc hactive
    rw [hwrites.jobs]
    split
    · rename_i hid
      exact absurd hworked (not_workedOn_of_terminal (hfinished job (hid ▸ hjob)))
    · exact ⟨job, hjob, hcurrentOf, hworked⟩
  · exact (keepsCredentials_of_eq hcredentials).exclusive hs

/-- **One move keeps soundness.** -/
theorem Move.sound (h : Move op reply s s') (hs : s.Sound) : s'.Sound := by
  cases h with
  | quiet hjobs hattempts hcredentials hrunners =>
    exact hs.quiet hjobs hattempts hcredentials hrunners.1
  | queued hfinished hfresh hjobId hcurrent hlisted hrun hstate hwrites hcredentials =>
    exact hs.queued hfinished hfresh hjobId hcurrent hlisted hrun hstate hwrites hcredentials
  | @offered runner challenge clock offer stored _ _ _ _ hop hreply hoffer hrunner hmatches hqueued
      hedits hstate hcurrent hcredentials =>
    have hkeeps := keepsCredentials_of_eq hcredentials
    refine hedits.sound hs (fun id c hc hactive => .inl ⟨hkeeps id c hc hactive, fun hsame => ?_⟩)
      (hkeeps.exclusive hs)
    have hidle : ¬ WorkedOn stored.job.state := hqueued ▸ (by decide)
    exact absurd hsame (hs.no_credential hedits.job hidle (hkeeps id c hc hactive) hactive)
  | @granted input _ _ _ _ runner c stored stored' attempt attempt' s' hop hreply hjobId hrunner hoffered
      hedits hstate hcurrent hbound hcredentials =>
    have hidle : ¬ WorkedOn stored.job.state := hoffered ▸ (by decide)
    -- an active credential is the new one, or one of before for another Attempt
    have hcases : ∀ id d, s'.credentials.get? id = some d → d.status = .active →
        id = c.id ∧ d = c ∨
          s.credentials.get? id = some d ∧ d.attemptId ≠ stored.job.currentAttemptId := by
      intro id d hd hactive
      rw [hcredentials, OrderedMap.get?_set] at hd
      split at hd
      · exact .inl ⟨‹_›, (Option.some.inj hd).symm⟩
      · exact .inr ⟨hd, hs.no_credential hedits.job hidle hd hactive⟩
    refine hedits.sound hs (fun id d hd hactive => ?_) ?_
    · rcases hcases id d hd hactive with ⟨-, rfl⟩ | ⟨hbefore, hne⟩
      · exact .inr ⟨hbound.1, hbound.2, .inl hstate⟩
      · exact .inl ⟨hbefore, fun hsame => absurd hsame hne⟩
    · intro id id' d d' hd hd' hactive hactive' hsame
      rcases hcases id d hd hactive with ⟨hid, rfl⟩ | ⟨hbefore, hne⟩ <;>
        rcases hcases id' d' hd' hactive' with ⟨hid', rfl⟩ | ⟨hbefore', hne'⟩
      · rw [hid, hid']
      · exact absurd (hsame.symm.trans hbound.2) hne'
      · exact absurd (hsame.trans hbound.2) hne
      · exact hs.exclusive id id' d d' hbefore hbefore' hactive hactive' hsame
  | kept hheld hedits hstate hcurrent hcredentials =>
    have hkeeps := keepsCredentials_of_eq hcredentials
    refine hedits.sound hs (fun id c hc hactive => .inl ⟨hkeeps id c hc hactive, fun hsame => ?_⟩)
      (hkeeps.exclusive hs)
    rcases hstate with hstate | hstate
    · rw [hstate]
      by_contra hidle
      exact hs.no_credential hedits.job hidle (hkeeps id c hc hactive) hactive hsame
    · exact .inr hstate
  | closed hedits hterminal hcredentials =>
    have hkeeps : s.KeepsCredentials s' := fun id c hc hactive =>
      (active_of_revoked (hcredentials ▸ hc) hactive).1
    refine hedits.sound hs (fun id c hc hactive => .inl ⟨hkeeps id c hc hactive, fun hsame => ?_⟩)
      (hkeeps.exclusive hs)
    exact absurd hsame (active_of_revoked (hcredentials ▸ hc) hactive).2

end ExternalRunnerCoordinator

end Anyam.Execution
