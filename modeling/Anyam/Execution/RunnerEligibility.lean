import Anyam.Execution.RunnerSystem

/-!
# Eligible Runners

A Runner is matched with a Job when it pulls it. The claim names its Runner again, and
checks that this Runner is active and signed the challenge, but neither that it is the
one the Attempt was offered to nor that it matches the Job.

- `Satisfies`, `runnerMatchesJob_iff`: what a Job requires of its Runner.
- `Offers`: an offered Job is recorded for the Runner that pulled it, which satisfies it,
  and an Attempt is offered to one Runner (**`offers_of_run`**).
- **`eligible_of_run`**: in a run only eligible Runners claim and run Jobs exactly when
  every claim that passes the checks is by the Runner recorded for the Job.
-/

namespace Anyam.Execution

open Anyam.Lib Anyam.Kernel

/-- What a Job requires of the Runner that works on it. -/
structure Satisfies (runner : RunnerEnrollment) (job : RunnerJobManifest) : Prop where
  capabilities : ∀ required ∈ job.runnerRequirements, required ∈ runner.capabilities
  destinations : ∀ destination ∈ job.networkDestinations, destination ∈ runner.networkDestinations
  enforcement : job.networkDestinations = [] ↔ runner.networkEnforcement = .denyAll
  secrets : job.secretUseAliases ≠ [] → runner.secretUse = .brokered
  artifacts : job.outputPaths ≠ [] → runner.canUploadArtifacts = true
  evidence : (truthy job.verifierId).isSome → runner.canUploadEvidence = true

/-- The claim of an operation, with the readings of the clock. -/
def RunnerOperation.claimed : RunnerOperation → Option (RunnerClaim × Clock)
  | .claim input _ _ clock => some (input, clock)
  | _ => none

/-- The lease a reply hands out. -/
def RunnerReply.granted : RunnerReply → Option RunnerJobLease
  | .lease value => some value
  | _ => none

namespace ExternalRunnerCoordinator

variable {s s' : ExternalRunnerCoordinator} {services : RunnerServices} {op : RunnerOperation}
  {reply : RunnerReply}

theorem runnerMatchesJob_iff {runner : RunnerProfile} {job : RunnerJob} :
    runnerMatchesJob runner job = true ↔
      runner.status = .active ∧ Satisfies runner.toRunnerEnrollment job.toRunnerJobManifest := by
  unfold runnerMatchesJob
  constructor
  · intro h
    simp only [Bool.if_false_left, Bool.and_eq_true, Bool.not_eq_true', decide_eq_false_iff_not,
      not_not, not_and, List.length_pos_iff, List.length_eq_zero_iff, and_true] at h
    obtain ⟨hactive, hcapabilities, hdestinations, hdenied, hreachable, hsecrets, hartifacts,
      hevidence⟩ := h
    exact ⟨hactive, hcapabilities, hdestinations,
      ⟨hdenied, fun henforced => by_contra fun hne => hreachable hne henforced⟩,
      hsecrets, hartifacts, hevidence⟩
  · rintro ⟨hactive, h⟩
    simp only [Bool.if_false_left, Bool.and_eq_true, Bool.not_eq_true', decide_eq_false_iff_not,
      not_not, not_and, List.length_pos_iff, List.length_eq_zero_iff, and_true]
    exact ⟨hactive, h.capabilities, h.destinations, h.enforcement.mp,
      fun hne henforced => hne (h.enforcement.mpr henforced), h.secrets, h.artifacts, h.evidence⟩

/-! ## Offers and leases of a run -/

/-- The Runner pulled an offer of the Attempt. -/
def OfferedTo (tr : List RunnerTransition) (attemptId runnerId : String) : Prop :=
  ∃ t ∈ tr, ∃ challenge clock offer, t.op = .pull runnerId challenge clock ∧
    t.reply = .offer (some offer) ∧ offer.attempt.id = attemptId

/-- A claim that passes the checks is by the Runner recorded for the Job. -/
def ClaimedByHolder (services : RunnerServices) (s : ExternalRunnerCoordinator)
    (op : RunnerOperation) : Prop :=
  ∀ claim ∈ op.claimed, ∀ found ∈ (s.claimable claim.1).toOption,
    services.notAfter found.2.2.leaseExpiresAt (claim.2 0) = false →
    s.provesClaim services found.1 found.2.2 claim.1 = true →
    found.2.1.job.currentRunnerId = some claim.1.runnerId

instance (services : RunnerServices) (s : ExternalRunnerCoordinator) (op : RunnerOperation) :
    Decidable (s.ClaimedByHolder services op) :=
  inferInstanceAs (Decidable (∀ claim ∈ op.claimed, ∀ found ∈ (s.claimable claim.1).toOption, _ → _))

theorem mem_claimed_iff {input : RunnerClaim} {clock : Clock} :
    (input, clock) ∈ op.claimed ↔
      ∃ token credentialUuid, op = .claim input token credentialUuid clock := by
  cases op <;> simp [RunnerOperation.claimed]

theorem mem_granted_iff {lease : RunnerJobLease} : lease ∈ reply.granted ↔ reply = .lease lease := by
  cases reply <;> simp [RunnerReply.granted]

theorem mem_toOption_iff {α ε : Type} {call : Except ε α} {value : α} :
    value ∈ call.toOption ↔ call = .ok value := by
  cases call <;> simp [Except.toOption]

/-- Only a pull is answered with an offer. -/
theorem pull_of_offer {offer : RunnerJobOffer} (h : (step services op s).1 = .offer (some offer)) :
    ∃ runnerId challenge clock, op = .pull runnerId challenge clock ∧
      s.pull services runnerId challenge clock = .ok (some offer, (step services op s).2) := by
  cases op with
  | pull runnerId challenge clock =>
    refine ⟨runnerId, challenge, clock, rfl, ?_⟩
    simp only [step] at h ⊢
    generalize s.pull services runnerId challenge clock = call at h ⊢
    obtain failure | ⟨offered, next⟩ := call
    · cases h
    · cases h
      rfl
  | expire jobId clock => cases h
  | _ =>
    simp only [step, called, replied] at h
    split at h <;> cases h

/-! ## Who holds a Job -/

variable {tr : List RunnerTransition} {borrowed : Prop}

/-- The Runner recorded for the Job was offered its Attempt, and satisfies it. -/
def HeldBy (tr : List RunnerTransition) (s : ExternalRunnerCoordinator) (stored : StoredJob) : Prop :=
  ∃ runner, s.runners.get? runner.id = some runner ∧
    stored.job.currentRunnerId = some runner.id ∧
    OfferedTo tr stored.job.currentAttemptId runner.id ∧
    Satisfies runner.toRunnerEnrollment stored.job.toRunnerJobManifest

/-- Every Job under way is held by the Runner it was offered to, unless it was claimed
with a borrowed challenge. -/
def Held (borrowed : Prop) (tr : List RunnerTransition) (s : ExternalRunnerCoordinator) : Prop :=
  ∀ id stored, s.jobs.get? id = some stored → stored.job.state ∈ heldStates →
    HeldBy tr s stored ∨ borrowed ∧ stored.job.state ≠ .offered

theorem HeldBy.congr {stored stored' : StoredJob} (h : HeldBy tr s stored)
    (hrunners : s.KeepsEnrollments s')
    (hmanifest : stored'.job.toRunnerJobManifest = stored.job.toRunnerJobManifest)
    (hcurrent : stored'.job.currentAttemptId = stored.job.currentAttemptId)
    (hrunner : stored'.job.currentRunnerId = stored.job.currentRunnerId) : HeldBy tr s' stored' := by
  obtain ⟨runner, hfound, hrecorded, hoffered, hsatisfies⟩ := h
  obtain ⟨runner', hfound', hsame⟩ := hrunners.2 _ runner hfound
  have hid : runner'.id = runner.id := congrArg RunnerEnrollment.id hsame
  refine ⟨runner', hid ▸ hfound', ?_, ?_, ?_⟩
  · rw [hrunner, hrecorded, hid]
  · rw [hcurrent, hid]
    exact hoffered
  · rw [hsame, hmanifest]
    exact hsatisfies

theorem HeldBy.mono {tr' : List RunnerTransition} {stored : StoredJob} (h : HeldBy tr s stored)
    (hsub : tr ⊆ tr') : HeldBy tr' s stored := by
  obtain ⟨runner, hfound, hrecorded, ⟨t, ht, hoffer⟩, hsatisfies⟩ := h
  exact ⟨runner, hfound, hrecorded, ⟨t, hsub ht, hoffer⟩, hsatisfies⟩

/-- The other Jobs of a written one are held as before. -/
theorem Held.of_writes {stored : StoredJob} {attempt : RunnerAttempt} (h : Held borrowed tr s)
    (hs : s.Sound) (hwrites : s.Writes stored attempt s')
    (hstored : stored.job.state ∈ heldStates →
      HeldBy tr s' stored ∨ borrowed ∧ stored.job.state ≠ .offered) : Held borrowed tr s' := by
  intro id other hother hheld
  rw [hwrites.jobs] at hother
  split at hother
  · cases hother
    exact hstored hheld
  · refine (h id other hother hheld).imp_left fun hby => ?_
    exact hby.congr (keepsEnrollments_of_eq hs hwrites.runners) rfl rfl rfl

/-- **One move** of an operation of the trace keeps the Jobs held; a grant, when the
Runner that claims is the one recorded. -/
theorem Move.held (h : Move op reply s s') (hs : s.Sound) (hheld : Held borrowed tr s)
    (hop : ∃ t ∈ tr, t.op = op ∧ t.reply = reply)
    (hgranted : ∀ input token credentialUuid clock lease, op = .claim input token credentialUuid clock →
      reply = .lease lease → ∀ stored, s.jobs.get? input.jobId = some stored →
      stored.job.state = .offered → stored.job.currentRunnerId = some input.runnerId ∨ borrowed) :
    Held borrowed tr s' := by
  cases h with
  | quiet hjobs _ _ hrunners =>
    intro id stored hjob hstate
    rw [hjobs] at hjob
    exact (hheld id stored hjob hstate).imp_left fun hby => hby.congr hrunners rfl rfl rfl
  | queued _ _ _ _ _ _ hstate hwrites =>
    refine hheld.of_writes hs hwrites fun hqueued => ?_
    rw [hstate.2] at hqueued
    exact absurd hqueued (by decide)
  | @offered runner challenge clock offer stored _ attempt _ _ hpull hreply hoffer hrunner hmatches _
      hedits _ hcurrent =>
    -- the reply of the trace's operation is the offer
    obtain ⟨t, ht, hop, hanswer⟩ := hop
    refine hheld.of_writes hs hedits.writes fun _ => .inl ⟨runner, ?_, hcurrent, ?_, ?_⟩
    · rw [hedits.writes.runners, hrunner]
    · refine ⟨t, ht, challenge, clock, offer, hop.trans hpull, hanswer.trans hreply, ?_⟩
      rw [hoffer, hedits.currentAttemptId, ← hedits.attempt_id hs, hedits.id]
    · rw [hedits.manifest]
      exact (runnerMatchesJob_iff.mp hmatches).2
  | @granted input _ _ _ _ _ _ stored _ _ _ _ hclaim hreply hjobId _ hoffered hedits hstate hcurrent =>
    refine hheld.of_writes hs hedits.writes fun _ => ?_
    rcases hgranted _ _ _ _ _ hclaim hreply stored (hjobId ▸ hedits.job) hoffered with hsame | hborrowed
    · rcases hheld _ _ hedits.job (hoffered ▸ by decide) with hby | ⟨-, hother⟩
      · exact .inl (hby.congr (keepsEnrollments_of_eq hs hedits.writes.runners) hedits.manifest
          hedits.currentAttemptId (hcurrent.trans hsame.symm))
      · exact absurd hoffered hother
    · exact .inr ⟨hborrowed, hstate ▸ by decide⟩
  | kept hstates hedits hstate hcurrent =>
    refine hheld.of_writes hs hedits.writes fun _ => (hheld _ _ hedits.job hstates).imp ?_ ?_
    · exact fun hby => hby.congr (keepsEnrollments_of_eq hs hedits.writes.runners) hedits.manifest
        hedits.currentAttemptId hcurrent
    · refine And.imp_right fun hother => ?_
      rcases hstate with hsame | hcancelled
      · rwa [hsame]
      · rw [hcancelled]
        decide
  | closed hedits hterminal =>
    exact hheld.of_writes hs hedits.writes fun hstate =>
      absurd hterminal (not_terminal_of_held hstate)

theorem Moves.held (h : Moves op reply s s') (hs : s.Sound) (hheld : Held borrowed tr s)
    (hop : ∃ t ∈ tr, t.op = op ∧ t.reply = reply) (hreply : ∀ lease, reply ≠ .lease lease) :
    Held borrowed tr s' := by
  induction h with
  | refl => exact hheld
  | tail hmoves hmove ih =>
    exact hmove.held (Moves.sound hmoves hs) ih hop fun _ _ _ _ lease _ hlease _ _ _ =>
      absurd hlease (hreply lease)

/-! ## An Attempt is offered once -/

/-- The Attempt was taken from the queue. -/
def Started (s : ExternalRunnerCoordinator) (attemptId : String) : Prop :=
  ∃ attempt, s.attempts.get? attemptId = some attempt ∧ attempt.state ≠ .queued

theorem Edits.started {stored stored' : StoredJob} {attempt attempt' : RunnerAttempt} {id : String}
    (hedits : s.Edits stored stored' attempt attempt' s') (h : s.Started id)
    (hstate : stored'.job.state ≠ .queued) : s'.Started id := by
  unfold Started
  rw [hedits.writes.attempts]
  split
  · exact ⟨attempt', rfl, hedits.state ▸ hstate⟩
  · exact h

/-- **One move** never puts an Attempt back into the queue. -/
theorem Move.started {id : String} (hmove : Move op reply s s') (h : s.Started id) : s'.Started id := by
  cases hmove with
  | quiet _ hattempts =>
    unfold Started
    rw [hattempts]
    exact h
  | @queued _ new _ _ hfresh _ _ _ _ _ hwrites =>
    obtain ⟨attempt, hattempt, hstate⟩ := h
    have hne : id ≠ new.id := by
      rintro rfl
      rw [hfresh] at hattempt
      cases hattempt
    refine ⟨attempt, ?_, hstate⟩
    rw [hwrites.attempts, if_neg hne, hattempt]
  | offered _ _ _ _ _ _ hedits hstate => exact hedits.started h (hstate ▸ by decide)
  | granted _ _ _ _ _ hedits hstate => exact hedits.started h (hstate ▸ by decide)
  | kept hheld hedits hstate =>
    refine hedits.started h fun hqueued => ?_
    rcases hstate with hsame | hcancelled
    · rw [← hsame, hqueued] at hheld
      exact absurd hheld (by decide)
    · rw [hcancelled] at hqueued
      cases hqueued
  | closed hedits hterminal =>
    refine hedits.started h fun hqueued => ?_
    rw [hqueued] at hterminal
    exact absurd hterminal (by decide)

theorem Moves.started {id : String} (hmoves : Moves op reply s s') (h : s.Started id) :
    s'.Started id := by
  induction hmoves with
  | refl => exact h
  | tail _ hmove ih => exact hmove.started ih

theorem offerTo_attempt (services : RunnerServices) (s : ExternalRunnerCoordinator)
    (runner : RunnerProfile) (stored : StoredJob) (attempt : RunnerAttempt) (challenge : String)
    (clock : Clock) :
    ∃ written, (s.offerTo services runner stored attempt challenge clock).2.attempts.get? attempt.id =
      some written ∧ written.state = .offered :=
  ⟨_, (OrderedMap.get?_set ..).trans (if_pos rfl), rfl⟩

/-- The Attempt of an offer was queued, and is not afterwards. -/
theorem started_of_offer (hs : s.Sound) {offer : RunnerJobOffer}
    (h : (step services op s).1 = .offer (some offer)) :
    ¬ s.Started offer.attempt.id ∧ (step services op s).2.Started offer.attempt.id := by
  obtain ⟨runnerId, challenge, clock, -, hpull⟩ := pull_of_offer h
  obtain ⟨runner, stored, attempt, -, hmem, hqueued, -, hattempt, hoffer⟩ := pull_eq_offer hpull
  obtain ⟨id, hjob⟩ := OrderedMap.mem_values_iff.mp hmem
  obtain ⟨found, hfound, -, hstate⟩ := hs.current id stored hjob
  rw [hattempt] at hfound
  cases hfound
  have hid : attempt.id = stored.job.currentAttemptId := hs.attemptsKeyed _ _ hattempt
  have hoffered : offer.attempt.id = attempt.id :=
    congrArg (fun offered => offered.1.attempt.id) hoffer.symm
  rw [hoffered]
  constructor
  · rintro ⟨other, hother, hstarted⟩
    rw [hid, hattempt] at hother
    cases hother
    exact hstarted (hstate.trans hqueued)
  · obtain ⟨written, hwritten, hstate⟩ :=
      offerTo_attempt services s runner stored attempt challenge clock
    rw [hoffer] at hwritten
    exact ⟨written, hwritten, hstate ▸ by decide⟩

/-! ## Along a run -/

/-- What the offers of a trace say about the state it led to. -/
structure Offers (services : RunnerServices) (tr : List RunnerTransition)
    (s : ExternalRunnerCoordinator) : Prop where
  held : Held (∃ t ∈ tr, ¬ t.pre.ClaimedByHolder services t.op) tr s
  started : ∀ attemptId runnerId, OfferedTo tr attemptId runnerId → s.Started attemptId
  once : ∀ attemptId r r', OfferedTo tr attemptId r → OfferedTo tr attemptId r' → r = r'

variable {realmId projectId : String}

/-- An offer of a longer trace is one of the trace, or its last operation is the pull. -/
theorem offeredTo_snoc {t : RunnerTransition} {attemptId runnerId : String}
    (h : OfferedTo (tr ++ [t]) attemptId runnerId) :
    OfferedTo tr attemptId runnerId ∨ ∃ challenge clock offer, t.op = .pull runnerId challenge clock ∧
      t.reply = .offer (some offer) ∧ offer.attempt.id = attemptId := by
  obtain ⟨t', ht', hoffer⟩ := h
  rcases List.mem_append.mp ht' with ht' | ht'
  · exact .inl ⟨t', ht', hoffer⟩
  · cases List.mem_singleton.mp ht'
    exact .inr hoffer

/-- **One operation** keeps the Jobs held by the Runners they were offered to. -/
theorem step_held (hs : s.Sound) (hmoves : Moves op (step services op s).1 s (step services op s).2)
    (hheld : Held (∃ t ∈ tr, ¬ t.pre.ClaimedByHolder services t.op) tr s) :
    Held (∃ t ∈ tr ++ [.of (step services) s op], ¬ t.pre.ClaimedByHolder services t.op)
      (tr ++ [.of (step services) s op]) (step services op s).2 := by
  have hlonger : Held (∃ t ∈ tr ++ [.of (step services) s op], ¬ t.pre.ClaimedByHolder services t.op)
      (tr ++ [.of (step services) s op]) s := by
    intro id stored hjob hstate
    refine (hheld id stored hjob hstate).imp (fun hby => hby.mono (List.subset_append_left _ _)) ?_
    exact And.imp_left fun ⟨t, ht, hborrowed⟩ => ⟨t, List.mem_append_left _ ht, hborrowed⟩
  have hlast : ∃ t ∈ tr ++ [Transition.of (step services) s op],
      t.op = op ∧ t.reply = (step services op s).1 :=
    ⟨_, List.mem_append_right _ (List.mem_singleton.mpr rfl), rfl, rfl⟩
  by_cases hlease : ∃ lease, (step services op s).1 = .lease lease
  · -- the claim is one move from the state whose records it checked
    obtain ⟨lease, hlease⟩ := hlease
    obtain ⟨input, token, credentialUuid, clock, rfl, hclaim⟩ := claim_of_lease hlease
    obtain ⟨runner, stored, attempt, hclaimable, hexpired, hproved, hgrant⟩ := claim_eq_lease hclaim
    have hmove : Move (.claim input token credentialUuid clock) (.lease lease) s
        (s.grantTo services runner stored attempt token credentialUuid fun k => clock (k + 1)).2 :=
      grantTo_move hs services clock _ hclaimable
    rw [hgrant] at hmove
    refine hmove.held hs hlonger (hlease ▸ hlast) ?_
    intro input' token' credentialUuid' clock' lease' hop _ stored' hjob' _
    cases hop
    have hjob : s.jobs.get? input.jobId = some stored := (claimable_eq_ok.mp hclaimable).2.1
    rw [hjob] at hjob'
    cases hjob'
    by_cases hholder : s.ClaimedByHolder services (.claim input token credentialUuid clock)
    · refine .inl (hholder (input, clock) rfl (runner, stored, attempt) ?_ hexpired hproved)
      rw [hclaimable]
      rfl
    · exact .inr ⟨_, List.mem_append_right _ (List.mem_singleton.mpr rfl), hholder⟩
  · exact hmoves.held hs hlonger hlast fun lease hreply => hlease ⟨lease, hreply⟩

theorem offers_of_run (hrun : RunFrom services realmId projectId Fresh tr s) :
    Offers services tr s := by
  refine (sound_invariant (Offers services) (fun _ _ h => h) ⟨?_, ?_, ?_⟩ ?_ hrun).2
  · intro id stored hjob
    simp [initial] at hjob
  · rintro attemptId runnerId ⟨t, ht, -⟩
    cases ht
  · rintro attemptId r r' ⟨t, ht, -⟩
    cases ht
  · intro tr s op hs _ hoffers hmoves
    refine ⟨step_held hs hmoves hoffers.held, fun attemptId runnerId hoffer => ?_,
      fun attemptId r r' hoffer hoffer' => ?_⟩
    · rcases offeredTo_snoc hoffer with hbefore | ⟨-, -, offer, -, hreply, rfl⟩
      · exact hmoves.started (hoffers.started attemptId runnerId hbefore)
      · exact (started_of_offer hs hreply).2
    · rcases offeredTo_snoc hoffer with hbefore | ⟨challenge, clock, offer, hop, hreply, rfl⟩ <;>
        rcases offeredTo_snoc hoffer' with hbefore' | ⟨challenge', clock', offer', hop', hreply', hsame⟩
      · exact hoffers.once attemptId r r' hbefore hbefore'
      · -- an Attempt that was offered before is not in the queue
        subst hsame
        exact absurd (hoffers.started _ r hbefore) (started_of_offer hs hreply').1
      · exact absurd (hoffers.started _ r' hbefore') (started_of_offer hs hreply).1
      · exact (RunnerOperation.pull.inj (hop.symm.trans hop')).1

/-- Every claim that got a lease is by the Runner its Attempt was offered to, which is
active and satisfies the Job. -/
def OnlyEligibleClaims (tr : List RunnerTransition) : Prop :=
  ∀ tr₁ t tr₂, tr = tr₁ ++ t :: tr₂ → ∀ input token credentialUuid clock lease,
    t.op = .claim input token credentialUuid clock → t.reply = .lease lease →
    OfferedTo tr₁ input.attemptId input.runnerId ∧
      ∃ runner stored, t.pre.runners.get? input.runnerId = some runner ∧
        t.pre.jobs.get? input.jobId = some stored ∧ runner.status = .active ∧
        Satisfies runner.toRunnerEnrollment stored.job.toRunnerJobManifest

/-- Every running Job is recorded for an enrolled Runner that satisfies it. -/
def RunsOnEligible (s : ExternalRunnerCoordinator) : Prop :=
  ∀ id stored, s.jobs.get? id = some stored → stored.job.state = .running →
    ∃ runner, s.runners.get? runner.id = some runner ∧
      stored.job.currentRunnerId = some runner.id ∧
      Satisfies runner.toRunnerEnrollment stored.job.toRunnerJobManifest

/-- The Job a claim is about is held by the Runner its current Attempt was offered to. -/
theorem claimable_heldBy (hs : s.Sound) (hoffers : Offers services tr s) {input : RunnerClaim}
    {runner : RunnerProfile} {stored : StoredJob} {attempt : RunnerAttempt}
    (h : s.claimable input = .ok (runner, stored, attempt)) :
    HeldBy tr s stored ∧ stored.job.currentAttemptId = input.attemptId := by
  obtain ⟨-, hjob, hattempt, -, ⟨-, hcurrent⟩, hoffered, -⟩ := claimable_eq_ok.mp h
  have hid : attempt.id = input.attemptId := hs.attemptsKeyed _ _ hattempt
  rcases hoffers.held _ stored hjob (hoffered ▸ by decide) with hby | ⟨-, hother⟩
  · exact ⟨hby, hcurrent.trans hid⟩
  · exact absurd hoffered hother

/-- A claim that passes the checks gets its lease. -/
theorem lease_of_claimable {input : RunnerClaim} (token credentialUuid : String) {clock : Clock}
    {runner : RunnerProfile} {stored : StoredJob} {attempt : RunnerAttempt}
    (hclaimable : s.claimable input = .ok (runner, stored, attempt))
    (hexpired : services.notAfter attempt.leaseExpiresAt (clock 0) = false)
    (hproved : s.provesClaim services runner attempt input = true) :
    ∃ lease, (step services (.claim input token credentialUuid clock) s).1 = .lease lease := by
  simp only [step, claim, hclaimable, hexpired, hproved]
  exact ⟨_, rfl⟩

/-- **Only eligible Runners claim and run Jobs** in a run with fresh identifiers, exactly
when every claim that passes the checks is by the Runner recorded for the offered Job. -/
theorem eligible_of_run (hrun : RunFrom services realmId projectId Fresh tr s) :
    OnlyEligibleClaims tr ∧ RunsOnEligible s ↔ ∀ t ∈ tr, t.pre.ClaimedByHolder services t.op := by
  constructor
  · rintro ⟨honly, -⟩ t ht
    obtain ⟨tr₁, tr₂, rfl⟩ := List.append_of_mem ht
    obtain ⟨hbefore, heq, -, -⟩ := hrun.split
    rintro ⟨input, clock⟩ hclaimed ⟨runner, stored, attempt⟩ hfound hexpired hproved
    obtain ⟨token, credentialUuid, hop⟩ := mem_claimed_iff.mp hclaimed
    replace hfound := mem_toOption_iff.mp hfound
    have hoffers := offers_of_run hbefore
    have hs : t.pre.Sound := sound_of_run (fun _ _ h => h) hbefore
    -- the claim gets a lease, so its Runner is one the Attempt was offered to
    obtain ⟨lease, hlease⟩ := lease_of_claimable token credentialUuid hfound hexpired hproved
    have hreply : t.reply = .lease lease := by
      rw [heq, hop]
      exact hlease
    obtain ⟨hoffered, -⟩ := honly tr₁ t tr₂ rfl input token credentialUuid clock lease hop hreply
    -- and the recorded Runner is the only such one
    obtain ⟨⟨holder, -, hrecorded, hholder, -⟩, hcurrent⟩ := claimable_heldBy hs hoffers hfound
    have hid : holder.id = input.runnerId := hoffers.once _ _ _ (hcurrent ▸ hholder) hoffered
    rw [hrecorded, hid]
  · intro hclaimed
    refine ⟨fun tr₁ t tr₂ htr input token credentialUuid clock lease hop hreply => ?_,
      fun id stored hjob hrunning => ?_⟩
    · subst htr
      obtain ⟨hbefore, heq, -, -⟩ := hrun.split
      have hoffers := offers_of_run hbefore
      have hs : t.pre.Sound := sound_of_run (fun _ _ h => h) hbefore
      rw [heq] at hreply
      obtain ⟨_, _, _, _, hop', hclaim⟩ := claim_of_lease hreply
      cases hop.symm.trans hop'
      obtain ⟨runner, stored, attempt, hfound, hexpired, hproved, -⟩ := claim_eq_lease hclaim
      have hsame := hclaimed t (List.mem_append_right _ List.mem_cons_self) (input, clock)
        (mem_claimed_iff.mpr ⟨token, credentialUuid, hop⟩) (runner, stored, attempt)
        (mem_toOption_iff.mpr hfound) hexpired hproved
      obtain ⟨⟨holder, hfoundHolder, hrecorded, hoffered, hsatisfies⟩, hcurrent⟩ :=
        claimable_heldBy hs hoffers hfound
      have hid : holder.id = input.runnerId := Option.some.inj (hrecorded.symm.trans hsame)
      obtain ⟨hrunner, hjob, -, hactive, -⟩ := claimable_eq_ok.mp hfound
      rw [hid] at hoffered hfoundHolder
      cases hfoundHolder.symm.trans hrunner
      exact ⟨hcurrent ▸ hoffered, runner, stored, hrunner, hjob, hactive, hsatisfies⟩
    · rcases (offers_of_run hrun).held id stored hjob (hrunning ▸ by decide) with hby | ⟨hborrowed, -⟩
      · obtain ⟨runner, hfound, hrecorded, -, hsatisfies⟩ := hby
        exact ⟨runner, hfound, hrecorded, hsatisfies⟩
      · obtain ⟨t, ht, hnot⟩ := hborrowed
        exact absurd (hclaimed t ht) hnot

end ExternalRunnerCoordinator

open ExternalRunnerCoordinator

namespace Sample

/-- Two Runners, of which only the first one has a GPU; the first one pulls a Job, and
one of them presents the challenge, with its own signature. -/
def offeredAndClaimed (runnerId : String) : List RunnerOperation :=
  [enrollRunner "r1" ["gpu"], activateRunner "r1", enrollRunner "r2" [], activateRunner "r2",
   enqueueJob "1", .pull "r1" "challenge" early, claimJob runnerId "1" "challenge"]

end Sample

/-- The Runner that pulled the Job claims it. -/
theorem eligible_of_run_sample :
    OnlyEligibleClaims (Sample.runnersRan (Sample.offeredAndClaimed "r1")).1 ∧
      RunsOnEligible (Sample.runnersRan (Sample.offeredAndClaimed "r1")).2 := by
  have hrun : RunFrom Sample.runnerServices "realm" "project" Fresh
      (Sample.runnersRan (Sample.offeredAndClaimed "r1")).1
      (Sample.runnersRan (Sample.offeredAndClaimed "r1")).2 := run_exec (by decide +kernel)
  exact (eligible_of_run hrun).mpr (by decide +kernel)

/-- The other Runner claims it, and runs a Job that needs a GPU without one. -/
theorem other_runner_claims :
    Admits (step Sample.runnerServices) Fresh (.initial "realm" "project")
        (Sample.offeredAndClaimed "r2") ∧
      ¬ OnlyEligibleClaims (Sample.runnersRan (Sample.offeredAndClaimed "r2")).1 ∧
      ¬ RunsOnEligible (Sample.runnersRan (Sample.offeredAndClaimed "r2")).2 := by
  refine ⟨by decide +kernel, fun honly => ?_, fun hruns => ?_⟩
  · obtain ⟨t, ht, lease, hlease, claim, hclaim, runner', hrunner', stored', hjob', hgpu, hnone⟩ :
        ∃ t ∈ (Sample.runnersRan (Sample.offeredAndClaimed "r2")).1, ∃ lease ∈ t.reply.granted,
          ∃ claim ∈ t.op.claimed, ∃ runner ∈ t.pre.runners.get? claim.1.runnerId,
          ∃ stored ∈ t.pre.jobs.get? claim.1.jobId,
            "gpu" ∈ stored.job.runnerRequirements ∧ "gpu" ∉ runner.capabilities := by
      decide +kernel
    obtain ⟨token, credentialUuid, hop⟩ := mem_claimed_iff.mp hclaim
    obtain ⟨tr₁, tr₂, htr⟩ := List.append_of_mem ht
    obtain ⟨-, runner, stored, hrunner, hjob, -, hsatisfies⟩ :=
      honly tr₁ t tr₂ htr _ _ _ _ lease hop (mem_granted_iff.mp hlease)
    cases hrunner.symm.trans hrunner'
    cases hjob.symm.trans hjob'
    exact hnone (hsatisfies.capabilities _ hgpu)
  · obtain ⟨stored, hjob, hrunning, hrecorded, runner', hrunner', hgpu, hnone⟩ :
        ∃ stored ∈ (Sample.runnersRan (Sample.offeredAndClaimed "r2")).2.jobs.get? "runner-job:1",
          stored.job.state = .running ∧ stored.job.currentRunnerId = some "r2" ∧
          ∃ runner ∈ (Sample.runnersRan (Sample.offeredAndClaimed "r2")).2.runners.get? "r2",
            "gpu" ∈ stored.job.runnerRequirements ∧ "gpu" ∉ runner.capabilities := by
      decide +kernel
    obtain ⟨runner, hrunner, hholder, hsatisfies⟩ := hruns _ stored hjob hrunning
    rw [← Option.some.inj (hrecorded.symm.trans hholder)] at hrunner
    cases hrunner.symm.trans hrunner'
    exact hnone (hsatisfies.capabilities _ hgpu)

end Anyam.Execution
