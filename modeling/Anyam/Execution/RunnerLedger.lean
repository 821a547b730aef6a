import Anyam.Execution.RunnerSystem

/-!
# The ledger along a run

What a reader of the Run ledger may rely on, in every state of every run and for any
order of the operations.

- `KeepsFinished`: a finished Attempt is never written again (**`Move.keepsFinished`** for
  one move).
- **`ledger_of_run`**: Job, Run and current Attempt agree, all other Attempts are
  finished for good, and an active credential is the only one of its Job, for an
  Attempt that is worked on.
-/

namespace Anyam.Execution

open Anyam.Lib Anyam.Kernel

namespace ExternalRunnerCoordinator

variable {s s' : ExternalRunnerCoordinator} {services : RunnerServices} {op : RunnerOperation}
  {reply : RunnerReply}

/-- The finished Attempts of `s` are unchanged in `s'`. -/
def KeepsFinished (s s' : ExternalRunnerCoordinator) : Prop :=
  ∀ id attempt, s.attempts.get? id = some attempt → attempt.state ∈ terminalStates →
    s'.attempts.get? id = some attempt

theorem KeepsFinished.refl (s : ExternalRunnerCoordinator) : s.KeepsFinished s :=
  fun _ _ hattempt _ => hattempt

theorem KeepsFinished.trans {s₁ s₂ s₃ : ExternalRunnerCoordinator} (h : s₁.KeepsFinished s₂)
    (h' : s₂.KeepsFinished s₃) : s₁.KeepsFinished s₃ :=
  fun id attempt hattempt hfinished => h' id attempt (h id attempt hattempt hfinished) hfinished

/-- The Attempt of an edit is not finished. -/
theorem Edits.keepsFinished {stored stored' : StoredJob} {attempt attempt' : RunnerAttempt}
    (h : s.Edits stored stored' attempt attempt' s') (hs : s.Sound) : s.KeepsFinished s' := by
  intro id other hother hfinished
  have hne : id ≠ attempt'.id := by
    rintro rfl
    rw [h.attempt_id hs, h.current] at hother
    cases hother
    rw [(h.attempt_job hs).2] at hfinished
    exact h.unfinished hfinished
  rw [h.writes.attempts, if_neg hne, hother]

/-- **One move** leaves the finished Attempts alone. -/
theorem Move.keepsFinished (h : Move op reply s s') (hs : s.Sound) : s.KeepsFinished s' := by
  cases h with
  | quiet _ hattempts =>
    intro id attempt hattempt _
    rw [hattempts, hattempt]
  | @queued _ attempt _ _ hfresh _ _ _ _ _ hwrites =>
    intro id other hother _
    have hne : id ≠ attempt.id := by
      rintro rfl
      rw [hfresh] at hother
      cases hother
    rw [hwrites.attempts, if_neg hne, hother]
  | offered _ _ _ _ _ _ hedits => exact hedits.keepsFinished hs
  | granted _ _ _ _ _ hedits => exact hedits.keepsFinished hs
  | kept _ hedits => exact hedits.keepsFinished hs
  | closed hedits => exact hedits.keepsFinished hs

theorem Moves.keepsFinished (h : Moves op reply s s') (hs : s.Sound) : s.KeepsFinished s' := by
  induction h with
  | refl => exact .refl s
  | tail hmoves hmove ih => exact ih.trans (hmove.keepsFinished (Moves.sound hmoves hs))

/-! ## Along a run -/

/-- The ledger of a state that a trace led to. -/
structure Ledger (tr : List RunnerTransition) (s : ExternalRunnerCoordinator) : Prop where
  /-- A Job and its current Attempt are in one state, and its Run names that Attempt. -/
  current : ∀ id stored, s.jobs.get? id = some stored →
    ∃ attempt, s.attempts.get? stored.job.currentAttemptId = some attempt ∧
      attempt.jobId = id ∧ stored.job.state = attempt.state ∧
      stored.run.attemptId = some stored.job.currentAttemptId
  /-- The Attempts of a Job are the ones it lists. -/
  listed : ∀ id stored, s.jobs.get? id = some stored → ∀ attemptId,
    attemptId ∈ stored.job.attemptIds ↔
      ∃ attempt, s.attempts.get? attemptId = some attempt ∧ attempt.jobId = id
  /-- Every other Attempt of a Job is finished. -/
  others : ∀ id stored, s.jobs.get? id = some stored → ∀ attemptId attempt,
    s.attempts.get? attemptId = some attempt → attempt.jobId = id →
    attemptId ≠ stored.job.currentAttemptId → attempt.state ∈ terminalStates
  /-- An Attempt that was finished in an earlier state is as it was. -/
  finished : ∀ t ∈ tr, t.pre.KeepsFinished s
  /-- An active credential is for the current Attempt of its Job, which is worked on. -/
  credential : ∀ id c, s.credentials.get? id = some c → c.status = .active →
    ∃ stored attempt, s.jobs.get? c.jobId = some stored ∧
      stored.job.currentAttemptId = c.attemptId ∧ s.attempts.get? c.attemptId = some attempt ∧
      (attempt.state = .running ∨ attempt.state = .cancelRequested)
  /-- A Job has at most one active credential. -/
  exclusive : ∀ id id' c c', s.credentials.get? id = some c → s.credentials.get? id' = some c' →
    c.status = .active → c'.status = .active → c.jobId = c'.jobId → id = id'

variable {realmId projectId : String} {tr : List RunnerTransition}

theorem keepsFinished_of_run (hrun : RunFrom services realmId projectId Fresh tr s) :
    ∀ t ∈ tr, t.pre.KeepsFinished s := by
  refine (sound_invariant (fun tr s => ∀ t ∈ tr, t.pre.KeepsFinished s) (fun _ _ h => h) ?_ ?_ hrun).2
  · intro t ht
    cases ht
  · intro tr s op hs _ hkept hmoves t ht
    rcases List.mem_append.mp ht with ht | ht
    · exact (hkept t ht).trans (hmoves.keepsFinished hs)
    · cases List.mem_singleton.mp ht
      exact hmoves.keepsFinished hs

/-- **The ledger of every run** of operations whose drawn identifiers are not in use. -/
theorem ledger_of_run (hrun : RunFrom services realmId projectId Fresh tr s) : Ledger tr s := by
  have hs : s.Sound := sound_of_run (fun _ _ h => h) hrun
  refine ⟨fun id stored hjob => ?_, hs.listed,
    fun id stored hjob attemptId attempt hattempt hjobId hne => ?_,
    keepsFinished_of_run hrun, fun id c hc hactive => ?_,
    fun id id' c c' hc hc' hactive hactive' hsame => ?_⟩
  · obtain ⟨attempt, hattempt, hjobId, hstate⟩ := hs.current id stored hjob
    exact ⟨attempt, hattempt, hjobId, hstate.symm, hs.run id stored hjob⟩
  · obtain ⟨found, hfound, hfinished⟩ := hs.owned attemptId attempt hattempt
    rw [hjobId, hjob] at hfound
    cases hfound
    exact hfinished hne.symm
  · obtain ⟨stored, hjob, hcurrent, hworked⟩ := hs.credential id c hc hactive
    obtain ⟨attempt, hattempt, -, hstate⟩ := hs.current _ stored hjob
    exact ⟨stored, attempt, hjob, hcurrent, hcurrent ▸ hattempt, hstate ▸ hworked⟩
  · -- both are for the current Attempt of the one Job
    obtain ⟨stored, hjob, hcurrent, -⟩ := hs.credential id c hc hactive
    obtain ⟨stored', hjob', hcurrent', -⟩ := hs.credential id' c' hc' hactive'
    rw [← hsame, hjob] at hjob'
    cases hjob'
    exact hs.exclusive id id' c c' hc hc' hactive hactive' (hcurrent.symm.trans hcurrent')

end ExternalRunnerCoordinator

open ExternalRunnerCoordinator

namespace Sample

/-- A Job is claimed, lost with its Runner and retried; its second Attempt is cancelled
while it is offered. -/
def lostAndRetried : List RunnerOperation :=
  [enrollRunner "r1" ["gpu"], activateRunner "r1", enqueueJob "1", .pull "r1" "challenge" early,
   claimJob "r1" "1" "challenge", .markRunnerUnavailable "r1" runnerActor "lost" early,
   .retry ⟨opaqueId "runner-job" "1", "again", "lease", runnerActor⟩ "2" early,
   activateRunner "r1", .pull "r1" "challenge" early,
   .requestCancellation (opaqueId "runner-job" "1") runnerActor "cancelled" early]

end Sample

theorem ledger_of_run_sample :
    Ledger (Sample.runnersRan Sample.lostAndRetried).1 (Sample.runnersRan Sample.lostAndRetried).2 :=
  ledger_of_run (run_exec (by decide +kernel))

/-- The lost Attempt stays as it was lost, beside the one that took its place. -/
example : (Sample.runnersRan Sample.lostAndRetried).2.attempts.values.map RunnerAttempt.state =
    [.indeterminate, .cancelRequested] := by
  decide +kernel

end Anyam.Execution
