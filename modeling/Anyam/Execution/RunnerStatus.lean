import Anyam.Execution.RunnerSystem

/-!
# Disabled and quarantined Runners

The status of a Runner is written by four operations, and only `activateRunner` looks at
the one before. A credential is checked against its Job and Attempt, and not against the
status of its Runner.

- `statusOf_step`: what one operation does to the status of a Runner.
- `Recorded`: an active credential is for a Job that its Runner holds
  (**`recorded_of_run`**); so a quarantined Runner is left with none
  (`loseRunner_idle`).
- **`closedForGood_of_run`**: a disabled or quarantined Runner stays so and works on
  nothing, in every run where no such Runner is marked unavailable and no Runner is
  disabled while it has an active credential.
-/

namespace Anyam.Execution

open Anyam.Lib Anyam.Kernel

/-- The status an operation gives to a Runner. -/
def RunnerOperation.givenStatus : RunnerOperation → Option (String × RunnerStatus)
  | .activateRunner runnerId _ _ => some (runnerId, .active)
  | .disableRunner runnerId _ _ _ => some (runnerId, .disabled)
  | .markRunnerUnavailable runnerId _ _ _ => some (runnerId, .unavailable)
  | .quarantineRunner runnerId _ _ _ => some (runnerId, .quarantined)
  | _ => none

/-- The Runner an operation disables or quarantines. -/
def RunnerOperation.closed : RunnerOperation → Option String
  | .disableRunner runnerId _ _ _ => some runnerId
  | .quarantineRunner runnerId _ _ _ => some runnerId
  | _ => none

/-- The Runner an operation disables, with the reason. -/
def RunnerOperation.disabled : RunnerOperation → Option (String × String)
  | .disableRunner runnerId _ reason _ => some (runnerId, reason)
  | _ => none

/-- The Runner an operation marks unavailable, with the reason. -/
def RunnerOperation.madeUnavailable : RunnerOperation → Option (String × String)
  | .markRunnerUnavailable runnerId _ reason _ => some (runnerId, reason)
  | _ => none

/-- The credential an operation presents. -/
def RunnerOperation.presented : RunnerOperation → Option RunnerJobCredential
  | .heartbeat token _ _ => some token
  | .finalizeCancellation token _ _ _ => some token
  | .submit token _ _ _ => some token
  | _ => none

/-- The Runner profile a reply hands out. -/
def RunnerReply.moved : RunnerReply → Option RunnerProfile
  | .profile value => some value
  | _ => none

/-- The Attempt a reply hands out. -/
def RunnerReply.beaten : RunnerReply → Option RunnerAttempt
  | .attempt value => some value
  | _ => none

namespace ExternalRunnerCoordinator

variable {s s' : ExternalRunnerCoordinator} {services : RunnerServices} {op : RunnerOperation}
  {reply : RunnerReply} {id : String}

/-! ## The status of a Runner -/

def statusOf (s : ExternalRunnerCoordinator) (runnerId : String) : Option RunnerStatus :=
  (s.runners.get? runnerId).map RunnerProfile.status

/-- The Runner is disabled or quarantined. -/
def Closed (s : ExternalRunnerCoordinator) (runnerId : String) : Prop :=
  s.statusOf runnerId = some .disabled ∨ s.statusOf runnerId = some .quarantined

instance (s : ExternalRunnerCoordinator) (runnerId : String) : Decidable (s.Closed runnerId) :=
  inferInstanceAs (Decidable (_ ∨ _))

theorem statusOf_congr (h : s'.runners = s.runners) : s'.statusOf id = s.statusOf id := by
  rw [statusOf, h, statusOf]

theorem statusOf_moveRunner (runner : RunnerProfile) (status : RunnerStatus) (type receipt : String)
    (actor : ActorRef) (clock : Clock) :
    (s.moveRunner runner status type receipt actor clock).2.statusOf id =
      if id = runner.id then some status else s.statusOf id := by
  have hset : (s.moveRunner runner status type receipt actor clock).2.runners =
      s.runners.set runner.id { runner with status, updatedAt := clock 0, receipt } := rfl
  rw [statusOf, hset, OrderedMap.get?_set]
  split
  · rfl
  · rfl

/-! ### Operations that leave the Runners alone -/

theorem expire_runners (jobId : String) (clock : Clock) :
    (s.expire services jobId clock).2.runners = s.runners := by
  unfold expire
  split
  · rfl
  · split
    · rfl
    · split
      · rfl
      · split
        · rfl
        · rfl

theorem claim_runners (input : RunnerClaim) (token credentialUuid : String) (clock : Clock) :
    (s.claim services input token credentialUuid clock).2.runners = s.runners := by
  unfold claim
  split
  · rfl
  · split
    · exact expire_runners _ _
    · split
      · rfl
      · rfl

theorem enqueue_runners {input : ExternalRunRequest} {drawn : DrawnJob} {clock : Clock}
    {queued : QueuedJob} (h : s.enqueue services input drawn clock = .ok (queued, s')) :
    s'.runners = s.runners := by
  simp only [enqueue, bind_eq_ok, exists_unit] at h
  obtain ⟨-, secretUseAliases, -, outputLocations, -, contract, -, h⟩ := h
  split at h
  · simp only [bind_eq_ok, pure_eq_ok] at h
    obtain ⟨existing, -, heq⟩ := h
    cases heq
    rfl
  · simp only [bind_eq_ok, require_eq_ok, exists_unit, pure_eq_ok] at h
    obtain ⟨-, -, -, -, -, -, -, requirements, -, -, heq⟩ := h
    cases heq
    rfl

theorem pull_runners {runnerId challenge : String} {clock : Clock} {offer : Option RunnerJobOffer}
    (h : s.pull services runnerId challenge clock = .ok (offer, s')) : s'.runners = s.runners := by
  cases offer with
  | none =>
    simp only [pull, bind_eq_ok, require_eq_ok, exists_unit] at h
    obtain ⟨runner, -, -, h⟩ := h
    split at h
    · cases h
      rfl
    · simp only [bind_eq_ok] at h
      obtain ⟨attempt, -, h⟩ := h
      split at h <;> cases h
      rfl
  | some offer =>
    obtain ⟨runner, stored, attempt, -, -, -, -, -, hoffer⟩ := pull_eq_offer h
    cases hoffer
    rfl

theorem heartbeat_runners (hs : s.Sound) (token : RunnerJobCredential)
    (progressDigest : Option String) (clock : Clock) :
    (s.heartbeat services token progressDigest clock).2.runners = s.runners := by
  unfold heartbeat
  rcases authorizeCredential_cases hs token clock with
    ⟨stored, attempt, credential, -, heq⟩ | ⟨failure, s', heq, -, -, hrunners, -⟩
  · rw [heq]
    simp only []
    split <;> rfl
  · rw [heq]
    exact hrunners

theorem requestCancellation_runners {jobId : String} {actor : ActorRef} {reason : String}
    {clock : Clock} {job : RunnerJob}
    (h : s.requestCancellation jobId actor reason clock = .ok (job, s')) :
    s'.runners = s.runners := by
  simp only [requestCancellation, bind_eq_ok, require_eq_ok, exists_unit, pure_eq_ok] at h
  obtain ⟨-, stored, -, attempt, -, -, heq⟩ := h
  cases heq
  rfl

theorem finalizeCancellation_runners (hs : s.Sound) (token : RunnerJobCredential)
    (outcome : RunnerCancellationOutcome) (receipt : String) (clock : Clock) :
    (s.finalizeCancellation services token outcome receipt clock).2.runners = s.runners := by
  unfold finalizeCancellation
  split
  · rfl
  · rcases authorizeCredential_cases hs token clock with
      ⟨stored, attempt, credential, -, heq⟩ | ⟨failure, s', heq, -, -, hrunners, -⟩
    · rw [heq]
      simp only []
      split <;> rfl
    · rw [heq]
      exact hrunners

theorem submit_runners (hs : s.Sound) (token : RunnerJobCredential) (result : RunnerResult)
    (outputUuid : Nat → String) (clock : Clock) :
    (s.submit services token result outputUuid clock).2.runners = s.runners := by
  unfold submit
  rcases authorizeCredential_cases hs token clock with
    ⟨stored, attempt, credential, -, heq⟩ | ⟨failure, s', heq, -, -, hrunners, -⟩
  · rw [heq]
    simp only []
    split
    · rfl
    · split <;> rfl
  · rw [heq]
    exact hrunners

theorem retry_runners {input : RunnerRetryRequest} {attemptUuid : String} {clock : Clock}
    {queued : QueuedJob} (h : s.retry services input attemptUuid clock = .ok (queued, s')) :
    s'.runners = s.runners := by
  simp only [retry, bind_eq_ok, exists_unit] at h
  obtain ⟨-, before, -, h⟩ := h
  split at h
  · cases h
    rfl
  · simp only [bind_eq_ok, require_eq_ok, exists_unit, pure_eq_ok] at h
    obtain ⟨stored, -, -, -, previous, -, heq⟩ := h
    cases heq
    rfl

theorem loseJobs_runners (runnerId : String) (loss : RunnerLoss) :
    ∀ (jobIds : List String) (clock : Clock) (s : ExternalRunnerCoordinator),
      (loseJobs runnerId loss jobIds clock s).2.runners = s.runners
  | [], _, _ => rfl
  | jobId :: jobIds, clock, s => by
    unfold loseJobs
    split
    · exact loseJobs_runners runnerId loss jobIds _ s
    · split
      · rfl
      · exact loseJobs_runners runnerId loss jobIds _ _

/-! ### What one operation does to a status -/

theorem called_statusOf {α : Type} {reply : α → RunnerReply}
    {call : Except RunnerFailure (α × ExternalRunnerCoordinator)}
    (h : ∀ {value s'}, call = .ok (value, s') → s'.runners = s.runners) :
    (s.called reply call).2.statusOf id = s.statusOf id := by
  cases call with
  | error failure => rfl
  | ok returned => exact statusOf_congr (h rfl)

theorem replied_snd {α : Type} (replyOf : α → RunnerReply)
    (call : Except RunnerFailure α × ExternalRunnerCoordinator) :
    (replied replyOf call).2 = call.2 := by
  obtain ⟨_ | value, next⟩ := call
  · rfl
  · rfl

/-- An enrollment adds a Runner. -/
theorem enrollRunner_statusOf {input : RunnerEnrollmentInput} {clock : Clock}
    {profile : RunnerProfile} (h : s.enrollRunner services input clock = .ok (profile, s'))
    (hknown : s.statusOf id ≠ none) : s'.statusOf id = s.statusOf id := by
  simp only [enrollRunner, bind_eq_ok, require_eq_ok, exists_unit, pure_eq_ok] at h
  obtain ⟨-, -, -, -, -, hnew, capabilities, -, destinations, -, -, -, -, heq⟩ := h
  have hnone : s.runners.get? input.id = none :=
    OrderedMap.has_eq_false_iff.mp (Bool.not_eq_true _ ▸ hnew)
  have hne : id ≠ input.id := by
    rintro rfl
    rw [statusOf, hnone] at hknown
    exact hknown rfl
  cases heq
  exact congrArg (Option.map RunnerProfile.status) (OrderedMap.get?_set_ne _ _ hne)

theorem activateRunner_statusOf (hs : s.Sound) (id : String) {runnerId : String} {actor : ActorRef}
    {clock : Clock} {profile : RunnerProfile} (h : s.activateRunner runnerId actor clock = .ok (profile, s')) :
    (s.statusOf runnerId = some .enrolled ∨ s.statusOf runnerId = some .unavailable) ∧
      s'.statusOf id = if id = runnerId then some .active else s.statusOf id := by
  simp only [activateRunner, bind_eq_ok, require_eq_ok, exists_unit, requireRunner_eq_ok,
    pure_eq_ok] at h
  obtain ⟨runner, hrunner, hstatus, heq⟩ := h
  have hid : runner.id = runnerId := hs.runnersKeyed _ _ hrunner
  cases heq
  refine ⟨?_, hid ▸ statusOf_moveRunner runner _ _ _ _ _⟩
  rw [statusOf, hrunner]
  exact hstatus.imp (congrArg some) (congrArg some)

theorem disableRunner_eq_ok (hs : s.Sound) {runnerId : String} {actor : ActorRef} {reason : String}
    {clock : Clock} {profile : RunnerProfile}
    (h : s.disableRunner runnerId actor reason clock = .ok (profile, s')) :
    trim reason ≠ "" ∧ s'.credentials = s.credentials ∧
      ∀ id, s'.statusOf id = if id = runnerId then some .disabled else s.statusOf id := by
  simp only [disableRunner, nonEmpty, bind_eq_ok, require_eq_ok, exists_unit, requireRunner_eq_ok,
    pure_eq_ok] at h
  obtain ⟨hreason, runner, hrunner, heq⟩ := h
  have hid : runner.id = runnerId := hs.runnersKeyed _ _ hrunner
  cases heq
  exact ⟨hreason, rfl, fun _ => hid ▸ statusOf_moveRunner runner _ _ _ _ _⟩

/-- A lost Runner gets its status, unless the call throws at once. -/
theorem loseRunner_statusOf (hs : s.Sound) (id runnerId : String) (actor : ActorRef)
    (reason : String) (status : RunnerStatus) (type : String) (loss : RunnerLoss) (clock : Clock) :
    (s.loseRunner runnerId actor reason status type loss clock).2.statusOf id = s.statusOf id ∨
      trim reason ≠ "" ∧ (s.loseRunner runnerId actor reason status type loss clock).2.statusOf id =
        if id = runnerId then some status else s.statusOf id := by
  rcases loseRunner_cases s runnerId actor reason status type loss clock with
    ⟨failure, heq⟩ | ⟨runner, receipt, hreason, hrunner, heq⟩
  · rw [heq]
    exact .inl rfl
  · have hid : runner.id = runnerId := hs.runnersKeyed _ _ hrunner
    rw [heq, statusOf_congr (loseJobs_runners ..), statusOf_moveRunner, hid]
    exact .inr ⟨hreason, rfl⟩

/-- **One operation** leaves the status of an enrolled Runner, or gives it its own; an
activation only to an enrolled or an unavailable Runner, and an unavailability only with a
reason. -/
theorem statusOf_step (hs : s.Sound) (hknown : s.statusOf id ≠ none) :
    (step services op s).2.statusOf id = s.statusOf id ∨
      ∃ status, op.givenStatus = some (id, status) ∧
        (step services op s).2.statusOf id = some status ∧
        (status = .active → s.statusOf id = some .enrolled ∨ s.statusOf id = some .unavailable) ∧
        ∀ call ∈ op.madeUnavailable, trim call.2 ≠ "" := by
  cases op with
  | enrollRunner input clock =>
    refine .inl ?_
    simp only [step]
    cases hcall : s.enrollRunner services input clock with
    | error failure => rfl
    | ok returned => exact enrollRunner_statusOf hcall hknown
  | activateRunner runnerId actor clock =>
    simp only [step]
    cases hcall : s.activateRunner runnerId actor clock with
    | error failure => exact .inl rfl
    | ok returned =>
      obtain ⟨hbefore, hafter⟩ := activateRunner_statusOf hs id hcall
      by_cases hid : id = runnerId
      · subst hid
        rw [if_pos rfl] at hafter
        refine .inr ⟨.active, rfl, hafter, fun _ => hbefore, ?_⟩
        rintro _ ⟨⟩
      · rw [if_neg hid] at hafter
        exact .inl hafter
  | disableRunner runnerId actor reason clock =>
    simp only [step]
    cases hcall : s.disableRunner runnerId actor reason clock with
    | error failure => exact .inl rfl
    | ok returned =>
      obtain ⟨-, -, hafter⟩ := disableRunner_eq_ok hs hcall
      replace hafter := hafter id
      by_cases hid : id = runnerId
      · subst hid
        rw [if_pos rfl] at hafter
        refine .inr ⟨.disabled, rfl, hafter, ?_, ?_⟩
        · rintro ⟨⟩
        · rintro _ ⟨⟩
      · rw [if_neg hid] at hafter
        exact .inl hafter
  | enqueue input drawn clock => exact .inl (called_statusOf enqueue_runners)
  | pull runnerId challenge clock => exact .inl (called_statusOf pull_runners)
  | claim input token credentialUuid clock =>
    refine .inl (statusOf_congr ?_)
    rw [step, replied_snd, claim_runners]
  | heartbeat token progressDigest clock =>
    refine .inl (statusOf_congr ?_)
    rw [step, replied_snd, heartbeat_runners hs]
  | requestCancellation jobId actor reason clock =>
    exact .inl (called_statusOf requestCancellation_runners)
  | finalizeCancellation token outcome receipt clock =>
    refine .inl (statusOf_congr ?_)
    rw [step, replied_snd, finalizeCancellation_runners hs]
  | submit token result outputUuid clock =>
    refine .inl (statusOf_congr ?_)
    rw [step, replied_snd, submit_runners hs]
  | expire jobId clock => exact .inl (statusOf_congr (expire_runners jobId clock))
  | markRunnerUnavailable runnerId actor reason clock =>
    rw [step, replied_snd, markRunnerUnavailable]
    rcases loseRunner_statusOf hs id runnerId actor reason .unavailable "runner.unavailable"
      (unavailability runnerId reason) clock with hafter | ⟨hreason, hafter⟩
    · exact .inl hafter
    · by_cases hid : id = runnerId
      · subst hid
        rw [if_pos rfl] at hafter
        refine .inr ⟨.unavailable, rfl, hafter, ?_, ?_⟩
        · rintro ⟨⟩
        · rintro _ ⟨⟩
          exact hreason
      · rw [if_neg hid] at hafter
        exact .inl hafter
  | quarantineRunner runnerId actor reason clock =>
    rw [step, replied_snd, quarantineRunner]
    rcases loseRunner_statusOf hs id runnerId actor reason .quarantined "runner.quarantined"
      (quarantine runnerId reason) clock with hafter | ⟨hreason, hafter⟩
    · exact .inl hafter
    · by_cases hid : id = runnerId
      · subst hid
        rw [if_pos rfl] at hafter
        refine .inr ⟨.quarantined, rfl, hafter, ?_, ?_⟩
        · rintro ⟨⟩
        · rintro _ ⟨⟩
      · rw [if_neg hid] at hafter
        exact .inl hafter
  | retry input attemptUuid clock => exact .inl (called_statusOf retry_runners)

/-! ## Active credentials -/

/-- An active credential is for a Job that is recorded for its Runner. -/
def Recorded (s : ExternalRunnerCoordinator) : Prop :=
  ∀ k c, s.credentials.get? k = some c → c.status = .active →
    ∃ stored, s.jobs.get? c.jobId = some stored ∧ stored.job.currentRunnerId = some c.runnerId

/-- No credential of the Runner is active. -/
def Idle (s : ExternalRunnerCoordinator) (runnerId : String) : Prop :=
  ∀ c ∈ s.credentials.values, c.status = .active → c.runnerId ≠ runnerId

instance (s : ExternalRunnerCoordinator) (runnerId : String) : Decidable (s.Idle runnerId) :=
  inferInstanceAs (Decidable (∀ c ∈ s.credentials.values, _ → _))

theorem KeepsCredentials.trans {s₁ s₂ s₃ : ExternalRunnerCoordinator} (h : s₁.KeepsCredentials s₂)
    (h' : s₂.KeepsCredentials s₃) : s₁.KeepsCredentials s₃ :=
  fun id c hc hactive => h id c (h' id c hc hactive) hactive

theorem KeepsCredentials.idle (h : s.KeepsCredentials s') (hidle : s.Idle id) : s'.Idle id := by
  intro c hc hactive
  obtain ⟨k, hk⟩ := OrderedMap.mem_values_iff.mp hc
  exact hidle c (OrderedMap.mem_values_of_get? (h k c hk hactive)) hactive

/-- **One move** makes no credential active, but the grant of a lease. -/
theorem Move.keepsCredentials (h : Move op reply s s') (hreply : ∀ lease, reply ≠ .lease lease) :
    s.KeepsCredentials s' := by
  cases h with
  | quiet _ _ hcredentials _ => exact hcredentials
  | queued _ _ _ _ _ _ _ _ hcredentials => exact keepsCredentials_of_eq hcredentials
  | offered _ _ _ _ _ _ _ _ _ hcredentials => exact keepsCredentials_of_eq hcredentials
  | granted _ hlease => exact absurd hlease (hreply _)
  | kept _ _ _ _ hcredentials => exact keepsCredentials_of_eq hcredentials
  | closed _ _ hcredentials => exact fun id c hc hactive => (active_of_revoked (hcredentials ▸ hc) hactive).1

theorem Moves.keepsCredentials (h : Moves op reply s s') (hreply : ∀ lease, reply ≠ .lease lease) :
    s.KeepsCredentials s' := by
  induction h with
  | refl => exact fun _ _ hc _ => hc
  | tail _ hmove ih => exact ih.trans (hmove.keepsCredentials hreply)

/-- The Job of an active credential, when another Job was written. -/
theorem Recorded.of_writes {stored : StoredJob} {attempt : RunnerAttempt} (h : s.Recorded)
    (hwrites : s.Writes stored attempt s') (hkeeps : s.KeepsCredentials s')
    (hwritten : ∀ c before, s.jobs.get? c.jobId = some before → c.jobId = stored.job.id →
      c.status = .active → (∃ k, s'.credentials.get? k = some c) →
      before.job.currentRunnerId = some c.runnerId → stored.job.currentRunnerId = some c.runnerId) :
    s'.Recorded := by
  intro k c hc hactive
  obtain ⟨before, hbefore, hrunner⟩ := h k c (hkeeps k c hc hactive) hactive
  rw [hwrites.jobs]
  split
  · rename_i hid
    exact ⟨stored, rfl, hwritten c before hbefore hid hactive ⟨k, hc⟩ hrunner⟩
  · exact ⟨before, hbefore, hrunner⟩

/-- **One move** that grants no lease keeps active credentials recorded. -/
theorem Move.recorded (h : Move op reply s s') (hs : s.Sound) (hrecorded : s.Recorded)
    (hreply : ∀ lease, reply ≠ .lease lease) : s'.Recorded := by
  have hkeeps : s.KeepsCredentials s' := h.keepsCredentials hreply
  cases h with
  | quiet hjobs =>
    intro k c hc hactive
    rw [hjobs]
    exact hrecorded k c (hkeeps k c hc hactive) hactive
  | queued hfinished _ _ _ _ _ _ hwrites =>
    refine hrecorded.of_writes hwrites hkeeps fun c before hbefore hid hactive ⟨k, hk⟩ _ => ?_
    -- the Job of an active credential is not finished
    obtain ⟨found, hfound, -, hworked⟩ := hs.credential k c (hkeeps k c hk hactive) hactive
    exact absurd hworked (not_workedOn_of_terminal (hfinished found (hid ▸ hfound)))
  | @offered _ _ _ _ stored _ _ _ _ _ _ _ _ _ hqueued hedits =>
    refine hrecorded.of_writes hedits.writes hkeeps fun c before hbefore hid hactive ⟨k, hk⟩ _ => ?_
    -- and not queued
    obtain ⟨found, hfound, -, hworked⟩ := hs.credential k c (hkeeps k c hk hactive) hactive
    rw [hid, hedits.jobIds, hedits.job] at hfound
    cases hfound
    rw [hqueued] at hworked
    exact absurd hworked (by decide)
  | granted _ hlease => exact absurd hlease (hreply _)
  | kept _ hedits _ hcurrent =>
    refine hrecorded.of_writes hedits.writes hkeeps fun c before hbefore hid _ _ hrunner => ?_
    rw [hid, hedits.jobIds, hedits.job] at hbefore
    cases hbefore
    rw [hcurrent, hrunner]
  | @closed stored _ _ _ _ hedits _ hcredentials =>
    refine hrecorded.of_writes hedits.writes hkeeps fun c before hbefore hid hactive ⟨k, hk⟩ _ => ?_
    -- the credentials of the closed Attempt were revoked
    obtain ⟨found, hfound, hcurrent, -⟩ := hs.credential k c (hkeeps k c hk hactive) hactive
    rw [hid, hedits.jobIds, hedits.job] at hfound
    cases hfound
    exact absurd hcurrent.symm (active_of_revoked (hcredentials ▸ hk) hactive).2

theorem Moves.recorded (h : Moves op reply s s') (hs : s.Sound) (hrecorded : s.Recorded)
    (hreply : ∀ lease, reply ≠ .lease lease) : s'.Recorded := by
  induction h with
  | refl => exact hrecorded
  | tail hmoves hmove ih => exact hmove.recorded (Moves.sound hmoves hs) ih hreply

/-- The credential of a lease is for its Runner, and the Job is recorded for it. -/
theorem claim_recorded (hs : s.Sound) (hrecorded : s.Recorded) {input : RunnerClaim}
    {token credentialUuid : String} {clock : Clock} {lease : RunnerJobLease}
    (h : s.claim services input token credentialUuid clock = (.ok lease, s')) : s'.Recorded := by
  obtain ⟨runner, stored, attempt, hclaimable, -, -, hgrant⟩ := claim_eq_lease h
  obtain ⟨-, hjob, -, -, -, hoffered, -⟩ := claimable_eq_ok.mp hclaimable
  cases hgrant
  intro k c hc hactive
  replace hc : (s.credentials.set (opaqueId "runner-job-credential" credentialUuid) _).get? k =
    some c := hc
  rw [OrderedMap.get?_set] at hc
  show ∃ found, (s.jobs.set stored.job.id _).get? c.jobId = some found ∧ _
  split at hc
  · cases hc
    exact ⟨_, OrderedMap.get?_set_self _ _ _, rfl⟩
  · obtain ⟨found, hfound, hrunner⟩ := hrecorded k c hc hactive
    obtain ⟨found', hfound', -, hworked⟩ := hs.credential k c hc hactive
    cases hfound.symm.trans hfound'
    -- the claimed Job had no active credential
    have hne : c.jobId ≠ stored.job.id := by
      intro hid
      rw [hid, hs.found_job hjob] at hfound
      cases hfound
      rw [hoffered] at hworked
      exact absurd hworked (by decide)
    exact ⟨found, (OrderedMap.get?_set_ne _ _ hne).trans hfound, hrunner⟩

/-- **One operation** keeps active credentials recorded. -/
theorem step_recorded (hs : s.Sound) (hrecorded : s.Recorded)
    (hmoves : Moves op (step services op s).1 s (step services op s).2) :
    (step services op s).2.Recorded := by
  by_cases hlease : ∃ lease, (step services op s).1 = .lease lease
  · obtain ⟨lease, hlease⟩ := hlease
    obtain ⟨input, token, credentialUuid, clock, -, hclaim⟩ := claim_of_lease hlease
    exact claim_recorded hs hrecorded hclaim
  · exact hmoves.recorded hs hrecorded fun lease hreply => hlease ⟨lease, hreply⟩

/-- **One operation** issues no credential to a closed Runner. -/
theorem step_idle (hs : s.Sound) (hclosed : s.Closed id) (hidle : s.Idle id)
    (hmoves : Moves op (step services op s).1 s (step services op s).2) :
    (step services op s).2.Idle id := by
  by_cases hlease : ∃ lease, (step services op s).1 = .lease lease
  · obtain ⟨lease, hlease⟩ := hlease
    obtain ⟨input, token, credentialUuid, clock, -, hclaim⟩ := claim_of_lease hlease
    obtain ⟨runner, stored, attempt, hclaimable, -, -, hgrant⟩ := claim_eq_lease hclaim
    obtain ⟨hrunner, -, -, hactive, -⟩ := claimable_eq_ok.mp hclaimable
    have hrunnerId : runner.id = input.runnerId := hs.runnersKeyed _ _ hrunner
    -- the Runner of the lease is active, so it is another one
    have hne : runner.id ≠ id := by
      rintro rfl
      unfold Closed at hclosed
      rw [hrunnerId, statusOf, hrunner, Option.map_some, hactive] at hclosed
      revert hclosed
      decide
    rw [← congrArg Prod.snd hgrant]
    exact OrderedMap.forall_values_set hidle fun _ => hne
  · exact (hmoves.keepsCredentials fun lease hreply => hlease ⟨lease, hreply⟩).idle hidle

/-! ## Lost Runners -/

/-- The Runner holds the Job. -/
def Holds (runnerId : String) (stored : StoredJob) : Prop :=
  stored.job.currentRunnerId = some runnerId ∧ stored.job.state ∈ heldStates

/-- The loop over the Jobs of a lost Runner ends every Job it holds. -/
theorem loseJobs_released (runnerId : String) {loss : RunnerLoss}
    (hterminal : loss.state ∈ terminalStates) :
    ∀ (jobIds : List String) (clock : Clock) {s : ExternalRunnerCoordinator}, s.Sound →
      (∀ id stored, s.jobs.get? id = some stored → Holds runnerId stored → id ∈ jobIds) →
      (loseJobs runnerId loss jobIds clock s).1 = .ok () ∧
        ∀ id stored, (loseJobs runnerId loss jobIds clock s).2.jobs.get? id = some stored →
          ¬ Holds runnerId stored
  | [], _, s, _, hleft => ⟨rfl, fun id stored hjob hholds => nomatch hleft id stored hjob hholds⟩
  | jobId :: jobIds, clock, s, hs, hleft => by
    unfold loseJobs
    split
    · rename_i hnone
      refine loseJobs_released runnerId hterminal jobIds clock hs fun id stored hjob hholds => ?_
      rcases List.mem_cons.mp (hleft id stored hjob hholds) with rfl | hmem
      · rw [hjob] at hnone
        exact absurd hholds (by simpa [Holds] using hnone)
      · exact hmem
    · rename_i stored hfound
      obtain ⟨hjob, hholds⟩ := Option.filter_eq_some_iff.mp hfound
      replace hholds := of_decide_eq_true hholds
      obtain ⟨attempt, hattempt, -, -⟩ := hs.current _ _ hjob
      rw [requireAttempt_eq_ok.mpr hattempt]
      simp only []
      have hlost : Move (.expire jobId clock) (.offer none) s
          (s.loseJob runnerId loss stored attempt clock) :=
        loseJob_move hs hterminal clock hjob hattempt hholds.2
      refine loseJobs_released runnerId hterminal jobIds _ (hlost.sound hs) fun id other hother hheld => ?_
      replace hother : (s.jobs.set stored.job.id _).get? id = some other := hother
      rw [OrderedMap.get?_set] at hother
      split at hother
      · cases hother
        exact absurd hterminal (not_terminal_of_held hheld.2)
      · rename_i hne
        refine (List.mem_cons.mp (hleft id other hother hheld)).resolve_left ?_
        rintro rfl
        exact hne (hs.jobsKeyed _ _ hjob).symm

/-- No active credential is left to a Runner that holds no Job. -/
theorem Recorded.idle (hrecorded : s.Recorded) (hs : s.Sound)
    (hreleased : ∀ jobId stored, s.jobs.get? jobId = some stored → ¬ Holds id stored) : s.Idle id := by
  rintro c hc hactive rfl
  obtain ⟨k, hk⟩ := OrderedMap.mem_values_iff.mp hc
  obtain ⟨stored, hjob, hrunner⟩ := hrecorded k c hk hactive
  obtain ⟨found, hfound, -, hworked⟩ := hs.credential k c hk hactive
  cases hjob.symm.trans hfound
  exact hreleased _ stored hjob ⟨hrunner, held_of_workedOn hworked⟩

/-- A Runner that was lost holds no Job. -/
theorem loseRunner_released (hs : s.Sound) {runnerId : String} {actor : ActorRef} {reason : String}
    {status : RunnerStatus} {type : String} {loss : RunnerLoss} {clock : Clock}
    {profile : RunnerProfile} (hterminal : loss.state ∈ terminalStates)
    (h : (s.loseRunner runnerId actor reason status type loss clock).1 = .ok profile) :
    (s.loseRunner runnerId actor reason status type loss clock).2.statusOf runnerId = some status ∧
      ∀ jobId stored, (s.loseRunner runnerId actor reason status type loss clock).2.jobs.get? jobId =
        some stored → ¬ Holds runnerId stored := by
  rcases loseRunner_cases s runnerId actor reason status type loss clock with
    ⟨failure, hthrew⟩ | ⟨runner, receipt, -, hrunner, heq⟩
  · rw [hthrew] at h
    cases h
  have hid : runner.id = runnerId := hs.runnersKeyed _ _ hrunner
  rw [← hid] at hrunner
  rw [heq, ← hid]
  constructor
  · rw [statusOf_congr (loseJobs_runners ..), statusOf_moveRunner, if_pos rfl]
  · have hmoved : Moves (.expire runnerId clock) (.offer none) s
        (s.moveRunner runner status type receipt actor clock).2 :=
      moveRunner_moves hs hrunner _ _ _ _ _
    exact (loseJobs_released runner.id hterminal s.jobs.keys (fun k => clock (k + 1))
      (hmoved.sound hs) fun id stored hjob _ => OrderedMap.mem_keys_of_get? hjob).2

/-! ## Credentials that are accepted -/

/-- An operation whose credential was accepted presented an active one of its Runner. -/
theorem threw_of_idle (hs : s.Sound) (hidle : s.Idle id) {token : RunnerJobCredential}
    (htoken : token ∈ op.presented) (hrunner : token.runnerId = id) :
    ∃ failure, (step services op s).1 = .threw failure := by
  have hrefused : ∀ clock, ∃ failure s',
      s.authorizeCredential services token clock = (.error failure, s') := by
    intro clock
    rcases @authorizeCredential_cases s services hs token clock with
      ⟨stored, attempt, credential, hauthorizes, -⟩ | ⟨failure, s', heq, -⟩
    · exact absurd (hauthorizes.bound.2.2.trans hrunner) (hidle _ hauthorizes.found hauthorizes.active)
    · exact ⟨failure, s', heq⟩
  cases op with
  | heartbeat token progressDigest clock =>
    cases htoken
    obtain ⟨failure, s', heq⟩ := hrefused clock
    rw [step, heartbeat, heq]
    exact ⟨failure, rfl⟩
  | finalizeCancellation token outcome receipt clock =>
    cases htoken
    obtain ⟨failure, s', heq⟩ := hrefused clock
    rw [step, finalizeCancellation, heq]
    split
    · exact ⟨_, rfl⟩
    · exact ⟨failure, rfl⟩
  | submit token result outputUuid clock =>
    cases htoken
    obtain ⟨failure, s', heq⟩ := hrefused clock
    rw [step, submit, heq]
    exact ⟨failure, rfl⟩
  | _ => cases htoken

/-! ## Closed Runners along a run -/

/-- The operation disabled or quarantined the Runner. -/
def Closes (t : RunnerTransition) (runnerId : String) : Prop :=
  runnerId ∈ t.op.closed ∧ t.reply.moved.isSome

instance (t : RunnerTransition) (runnerId : String) : Decidable (Closes t runnerId) :=
  inferInstanceAs (Decidable (_ ∧ _))

/-- A Runner that was disabled or quarantined is never active afterwards, and no credential
of it is accepted. -/
def ClosedForGood (tr : List RunnerTransition) : Prop :=
  ∀ (i : Nat) t, tr[i]? = some t → ∀ runnerId, Closes t runnerId →
    ∀ (j : Nat) t', tr[j]? = some t' → i < j →
      t'.post.statusOf runnerId ≠ some .active ∧
        ∀ token ∈ t'.op.presented, token.runnerId = runnerId → ∃ failure, t'.reply = .threw failure

/-- No closed Runner is marked unavailable, and no Runner is disabled while it has an
active credential. -/
def KeepsClosed (s : ExternalRunnerCoordinator) (op : RunnerOperation) : Prop :=
  (∀ call ∈ op.madeUnavailable, trim call.2 ≠ "" → ¬ s.Closed call.1) ∧
    ∀ call ∈ op.disabled, trim call.2 ≠ "" → s.Idle call.1

instance (s : ExternalRunnerCoordinator) (op : RunnerOperation) : Decidable (s.KeepsClosed op) :=
  inferInstanceAs (Decidable ((∀ call ∈ op.madeUnavailable, _ → _) ∧ ∀ call ∈ op.disabled, _ → _))

theorem Closed.known (h : s.Closed id) : s.statusOf id ≠ none := by
  rcases h with h | h <;> rw [h] <;> nofun

theorem Closed.not_active (h : s.Closed id) : s.statusOf id ≠ some .active := by
  rcases h with h | h <;> rw [h] <;> nofun

/-- **One operation** leaves a closed Runner closed, when it does not mark it unavailable. -/
theorem step_closed (hs : s.Sound) (hclosed : s.Closed id) (hok : s.KeepsClosed op) :
    (step services op s).2.Closed id := by
  rcases @statusOf_step s services op id hs hclosed.known with hsame | ⟨status, hop, hafter, hactive, hreason⟩
  · unfold Closed
    rw [hsame]
    exact hclosed
  · cases op with
    | activateRunner runnerId actor clock =>
      cases hop
      rcases hclosed with h | h <;> rcases hactive rfl with h' | h' <;> cases h.symm.trans h'
    | disableRunner runnerId actor reason clock =>
      cases hop
      exact .inl hafter
    | quarantineRunner runnerId actor reason clock =>
      cases hop
      exact .inr hafter
    | markRunnerUnavailable runnerId actor reason clock =>
      cases hop
      exact absurd hclosed (hok.1 _ rfl (hreason _ rfl))
    | _ => cases hop

/-- **One operation** that closes a Runner leaves it closed and without an active
credential. -/
theorem step_closes (hs : s.Sound) (hrecorded : s.Recorded) (hok : s.KeepsClosed op)
    (hmoves : Moves op (step services op s).1 s (step services op s).2)
    (h : Closes (.of (step services) s op) id) :
    (step services op s).2.Closed id ∧ (step services op s).2.Idle id := by
  obtain ⟨hop, hreply⟩ := h
  have hafter : (step services op s).2.Recorded := step_recorded hs hrecorded hmoves
  have hsound : (step services op s).2.Sound := hmoves.sound hs
  cases op with
  | disableRunner runnerId actor reason clock =>
    cases hop
    simp only [Transition.of, step] at hreply ⊢
    cases hcall : s.disableRunner id actor reason clock with
    | error failure =>
      rw [hcall] at hreply
      cases hreply
    | ok returned =>
      obtain ⟨hreason, hcredentials, hstatus⟩ := disableRunner_eq_ok hs hcall
      refine ⟨.inl ?_, (keepsCredentials_of_eq hcredentials).idle (hok.2 _ rfl hreason)⟩
      exact (hstatus id).trans (if_pos rfl)
  | quarantineRunner runnerId actor reason clock =>
    cases hop
    have hterminal : (quarantine id reason).state ∈ terminalStates := by
      show RunnerJobState.quarantined ∈ terminalStates
      decide
    obtain ⟨value, hcall⟩ : ∃ value, (s.quarantineRunner id actor reason clock).1 = .ok value := by
      simp only [Transition.of, step] at hreply
      generalize s.quarantineRunner id actor reason clock = call at hreply
      obtain ⟨failure | value, next⟩ := call
      · cases hreply
      · exact ⟨value, rfl⟩
    obtain ⟨hstatus, hreleased⟩ := loseRunner_released hs hterminal hcall
    have hnext : (step services (.quarantineRunner id actor reason clock) s).2 =
        (s.quarantineRunner id actor reason clock).2 := replied_snd _ _
    rw [hnext] at hafter hsound ⊢
    exact ⟨.inr hstatus, hafter.idle hsound hreleased⟩
  | _ => cases hop

variable {realmId projectId : String} {tr : List RunnerTransition}

/-- Active credentials are recorded, and a Runner that was closed is closed and idle. -/
def ClosedSoFar (tr : List RunnerTransition) (s : ExternalRunnerCoordinator) : Prop :=
  s.Recorded ∧ ∀ t ∈ tr, ∀ id, Closes t id → s.Closed id ∧ s.Idle id

theorem closedSoFar_of_run
    (hrun : RunFrom services realmId projectId (fun s op => s.Fresh op ∧ s.KeepsClosed op) tr s) :
    s.Sound ∧ ClosedSoFar tr s := by
  refine sound_invariant ClosedSoFar (fun _ _ h => h.1) ⟨?_, ?_⟩ ?_ hrun
  · intro k c hc
    cases hc
  · intro t ht
    cases ht
  · rintro tr s op hs ⟨-, hok⟩ ⟨hrecorded, hbefore⟩ hmoves
    refine ⟨step_recorded hs hrecorded hmoves, fun t ht id hcloses => ?_⟩
    rcases List.mem_append.mp ht with ht | ht
    · obtain ⟨hclosed, hidle⟩ := hbefore t ht id hcloses
      exact ⟨step_closed hs hclosed hok, step_idle hs hclosed hidle hmoves⟩
    · cases List.mem_singleton.mp ht
      exact step_closes hs hrecorded hok hmoves hcloses

/-- **A disabled or quarantined Runner stays so and works on nothing**, in every run with
fresh identifiers where no such Runner is marked unavailable and no Runner is disabled
while it has an active credential. -/
theorem closedForGood_of_run
    (hrun : RunFrom services realmId projectId (fun s op => s.Fresh op ∧ s.KeepsClosed op) tr s) :
    ClosedForGood tr := by
  intro i t hi runnerId hcloses j t' hj hij
  obtain ⟨hbefore, heq, hok, -⟩ := hrun.at_position hj
  have hmem : t ∈ tr.take j := by
    refine List.mem_of_getElem? (i := i) ?_
    rw [List.getElem?_take_of_lt hij, hi]
  obtain ⟨hs, -, hclosed⟩ := closedSoFar_of_run hbefore
  obtain ⟨hclosed, hidle⟩ := hclosed t hmem runnerId hcloses
  rw [heq]
  refine ⟨(step_closed hs hclosed hok.2).not_active, fun token htoken hrunner => ?_⟩
  exact threw_of_idle hs hidle htoken hrunner

end ExternalRunnerCoordinator

open ExternalRunnerCoordinator

namespace Sample

/-- A Runner at work is closed, and presents its credential again. -/
def closedAtWork (close : RunnerOperation) : List RunnerOperation :=
  [enrollRunner "r1" ["gpu"], activateRunner "r1", enqueueJob "1", .pull "r1" "challenge" early,
   claimJob "r1" "1" "challenge", close,
   .heartbeat (credentialOf "r1" "1") none early]

/-- A Runner is closed, marked unavailable and activated. -/
def closedAndRecovered (close : RunnerOperation) : List RunnerOperation :=
  [enrollRunner "r1" ["gpu"], close, .markRunnerUnavailable "r1" runnerActor "lost" early,
   activateRunner "r1"]

end Sample

theorem closedForGood_of_run_sample :
    ClosedForGood (Sample.runnersRan
      (Sample.closedAtWork (.quarantineRunner "r1" Sample.runnerActor "leak" Sample.early))).1 := by
  have hrun : RunFrom Sample.runnerServices "realm" "project"
      (fun s op => s.Fresh op ∧ s.KeepsClosed op)
      (Sample.runnersRan (Sample.closedAtWork
        (.quarantineRunner "r1" Sample.runnerActor "leak" Sample.early))).1
      (Sample.runnersRan (Sample.closedAtWork
        (.quarantineRunner "r1" Sample.runnerActor "leak" Sample.early))).2 :=
    run_exec (by decide +kernel)
  exact closedForGood_of_run hrun

/-- A quarantined Runner is active again after it was marked unavailable, and a heartbeat
of a disabled Runner is accepted. -/
theorem closed_runner_returns :
    (Admits (step Sample.runnerServices) Fresh (.initial "realm" "project")
        (Sample.closedAndRecovered (.quarantineRunner "r1" Sample.runnerActor "leak" Sample.early)) ∧
      ¬ ClosedForGood (Sample.runnersRan (Sample.closedAndRecovered
        (.quarantineRunner "r1" Sample.runnerActor "leak" Sample.early))).1) ∧
    Admits (step Sample.runnerServices) Fresh (.initial "realm" "project")
        (Sample.closedAtWork (.disableRunner "r1" Sample.runnerActor "retired" Sample.early)) ∧
      ¬ ClosedForGood (Sample.runnersRan (Sample.closedAtWork
        (.disableRunner "r1" Sample.runnerActor "retired" Sample.early))).1 := by
  refine ⟨⟨by decide +kernel, fun hgood => ?_⟩, by decide +kernel, fun hgood => ?_⟩
  · obtain ⟨t, ht, hcloses, t', ht', hactive⟩ :
        ∃ t ∈ (Sample.runnersRan (Sample.closedAndRecovered
            (.quarantineRunner "r1" Sample.runnerActor "leak" Sample.early))).1[1]?,
          Closes t "r1" ∧ ∃ t' ∈ (Sample.runnersRan (Sample.closedAndRecovered
              (.quarantineRunner "r1" Sample.runnerActor "leak" Sample.early))).1[3]?,
            t'.post.statusOf "r1" = some .active := by
      decide +kernel
    exact (hgood 1 t ht "r1" hcloses 3 t' ht' (by decide)).1 hactive
  · obtain ⟨t, ht, hcloses, t', ht', token, htoken, hrunner, haccepted⟩ :
        ∃ t ∈ (Sample.runnersRan (Sample.closedAtWork
            (.disableRunner "r1" Sample.runnerActor "retired" Sample.early))).1[5]?,
          Closes t "r1" ∧ ∃ t' ∈ (Sample.runnersRan (Sample.closedAtWork
              (.disableRunner "r1" Sample.runnerActor "retired" Sample.early))).1[6]?,
            ∃ token ∈ t'.op.presented, token.runnerId = "r1" ∧ t'.reply.beaten.isSome := by
      decide +kernel
    obtain ⟨failure, hthrew⟩ := (hgood 5 t ht "r1" hcloses 6 t' ht' (by decide)).2 token htoken hrunner
    rw [hthrew] at haccepted
    cases haccepted

end Anyam.Execution
