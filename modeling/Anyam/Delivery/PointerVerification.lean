import Anyam.Delivery.PromotionSystem

/-!
# The current Release was deployed and verified

The adapter may lie, fail and throw, and its answers arrive in any order. Still the
pointer of the Target moves only to a registered Release that one Promotion deployed
exactly and then saw healthy on this Target.

- `Deployed`, `VerifiedIn`: the two answers, as transitions of a trace.
- **`Effect.checks_deployed`**: an execution waits for the health of a Release only
  after the answer that deployed it.
- **`verified_of_run`**: every run moves the pointer by verified transitions only,
  and its history only by appending.
-/

namespace Anyam.Delivery

open Anyam.Lib Anyam.Kernel

namespace WorkerPromotionCoordinator

variable {s s' : WorkerPromotionCoordinator} {planDigest : MigrationPlanBody → String}
  {op : PromotionOperation} {tr : List PromotionTransition}

/-- The deployment call of a Promotion, `apply` or `rollback`, is answered with
exactly this sealed Release. -/
def Deployed (s : WorkerPromotionCoordinator) (op : PromotionOperation) (id : String)
    (release : ImmutableRelease) : Prop :=
  ∃ answer value, op = .answer id answer ∧
    s.executions.get? id = some (.waiting release .deployment) ∧ answer.Deploys release value

/-- The Promotion deployed the registered Release earlier in the trace, and its health
check is now answered with a healthy observation of the Release on this Target. -/
structure VerifiedIn (tr : List PromotionTransition) (targetId : String)
    (t : PromotionTransition) (release : ImmutableRelease) : Prop where
  registered : t.pre.releases.get? release.release.id = some release
  answers : ∃ id answer value, t.op = .answer id answer ∧
    t.pre.executions.get? id = some (.waiting release (.health value)) ∧
    answer.Verifies targetId release.release.id ∧ ∃ d ∈ tr, Deployed d.pre d.op id release

/-- The transition moved the pointer to the Release, and appended it to the history. -/
def MovesTo (t : PromotionTransition) (release : ImmutableRelease) : Prop :=
  t.post.target.currentReleaseId = some release.release.id ∧
    t.post.target.releaseHistory =
      appendUnlessLast t.pre.target.releaseHistory release.release.id

/-- The transition left the pointer and its history alone. -/
def KeepsPointer (t : PromotionTransition) : Prop :=
  t.post.target.currentReleaseId = t.pre.target.currentReleaseId ∧
    t.post.target.releaseHistory = t.pre.target.releaseHistory

/-- The pointer is the constructor's, or names a registered Release that was deployed
and verified in the trace. -/
def CurrentVerified (target : WorkerTarget) (tr : List PromotionTransition)
    (s : WorkerPromotionCoordinator) : Prop :=
  s.target.currentReleaseId = target.currentReleaseId ∨
    ∃ tr₁ t tr₂ release, tr = tr₁ ++ t :: tr₂ ∧ VerifiedIn tr₁ target.id t release ∧
      s.releases.get? release.release.id = some release ∧
      s.target.currentReleaseId = some release.release.id

/-- No transition but a verified one moves the pointer or the history. -/
def MovesVerified (target : WorkerTarget) (tr : List PromotionTransition) : Prop :=
  ∀ tr₁ t tr₂, tr = tr₁ ++ t :: tr₂ →
    KeepsPointer t ∨ ∃ release, VerifiedIn tr₁ target.id t release ∧ MovesTo t release

/-! ## One operation -/

/-- A started execution waits for its preview first. -/
theorem Started.not_health {p p' : PromotionRecord} {e : Execution} (h : s.Started p p' e)
    {release : ImmutableRelease} {value : WorkerDeployment} :
    e ≠ .waiting release (.health value) := by
  cases h <;> simp

/-- Starting an execution makes none wait for a health check. -/
theorem Starts.not_health {p : PromotionRecord} (h : s.Starts p s') {id : String}
    {release : ImmutableRelease} {value : WorkerDeployment}
    (he : s'.executions.get? id = some (.waiting release (.health value))) :
    s.executions.get? id = some (.waiting release (.health value)) := by
  obtain ⟨-, -, -, -, hstarted, hfiles⟩ := h
  rw [hfiles.executions] at he
  split at he
  · exact absurd (Option.some.inj he) hstarted.not_health
  · exact he

/-- **A health check follows its deployment**: an execution that waits for one did so
before, or the operation deployed its Release. -/
theorem Effect.checks_deployed (h : Effect planDigest s op s') (hs : s.Sound) {id : String}
    {release : ImmutableRelease} {value : WorkerDeployment}
    (he : s'.executions.get? id = some (.waiting release (.health value))) :
    s.executions.get? id = some (.waiting release (.health value)) ∨ Deployed s op id release := by
  cases h with
  | unchanged => exact .inl he
  | registered => exact .inl he
  | requested hrequest => exact .inl (hrequest.leaves.executions ▸ he)
  | promoted _ hrequest hstart => exact .inl (hrequest.leaves.executions ▸ hstart.not_health he)
  | taken _ hstart => exact .inl (hstart.not_health he)
  | retried hretry hstart => exact .inl (hretry.leaves.executions ▸ hstart.not_health he)
  | retriedInFlight hretry => exact .inl (hretry.leaves.executions ▸ he)
  | @answered id' answer p release' stage p' e target s' hp hwaiting hsame hanswered hfiles =>
    rw [hfiles.executions] at he
    split at he
    · rename_i hid
      have hid' : p'.id = id' := hsame.id.trans (hs.filed hp)
      subst hid
      cases Option.some.inj he
      cases hanswered with
      | deployed _ hdeploys => exact .inr ⟨answer, value, hid' ▸ rfl, hid' ▸ hwaiting, hdeploys⟩
    · exact .inl he
  | finished _ _ hfiles =>
    rw [hfiles.executions] at he
    split at he
    · exact Execution.noConfusion (Option.some.inj he)
    · exact .inl he
  | @cleaned id' outcome hsettled =>
    refine .inl ?_
    rw [OrderedMap.get?_delete] at he
    split at he
    · cases he
    · exact he

/-- A registered Release stays registered. -/
theorem Effect.releases_kept (h : Effect planDigest s op s') {id : String}
    {release : ImmutableRelease} (hrelease : s.releases.get? id = some release) :
    s'.releases.get? id = some release := by
  have hstarts : ∀ {s s' : WorkerPromotionCoordinator} {p}, s.Starts p s' →
      s'.releases = s.releases := by
    rintro s s' p ⟨-, -, -, -, -, hfiles⟩
    exact hfiles.releases
  cases h with
  | unchanged => exact hrelease
  | @registered release' hnew =>
    rw [OrderedMap.get?_set_ne, hrelease]
    rintro rfl
    rw [hnew] at hrelease
    cases hrelease
  | requested hrequest => rw [hrequest.leaves.releases, hrelease]
  | promoted _ hrequest hstart => rw [hstarts hstart, hrequest.leaves.releases, hrelease]
  | taken _ hstart => rw [hstarts hstart, hrelease]
  | retried hretry hstart => rw [hstarts hstart, hretry.leaves.releases, hrelease]
  | retriedInFlight hretry => rw [hretry.leaves.releases, hrelease]
  | answered _ _ _ _ hfiles => rw [hfiles.releases, hrelease]
  | finished _ _ hfiles => rw [hfiles.releases, hrelease]
  | cleaned => exact hrelease

/-! ## Along a run -/

/-- What a run keeps: its Target's identity, the deployments its health checks follow,
and what its pointer and its history rest on. -/
structure VerifyingInv (target : WorkerTarget) (tr : List PromotionTransition)
    (s : WorkerPromotionCoordinator) : Prop where
  targetId : s.target.id = target.id
  deployed : ∀ id release value,
    s.executions.get? id = some (.waiting release (.health value)) →
      ∃ d ∈ tr, Deployed d.pre d.op id release
  current : CurrentVerified target tr s
  history : ∃ added, s.target.releaseHistory = target.releaseHistory ++ added

theorem verifyingInv_initial (projectId : String) (target : WorkerTarget) :
    VerifyingInv target [] (initial projectId target) where
  targetId := rfl
  deployed := by simp [initial]
  current := .inl rfl
  history := ⟨[], (List.append_nil _).symm⟩

variable {target : WorkerTarget}

/-- A Release whose health check is verified was deployed earlier in the trace. -/
theorem VerifyingInv.verified (h : VerifyingInv target tr s) (hs : s.Sound) {id : String}
    {answer : Answer} {release : ImmutableRelease} {value : WorkerDeployment}
    (hop : op = .answer id answer)
    (hwaiting : s.executions.get? id = some (.waiting release (.health value)))
    (hverifies : answer.Verifies s.target.id release.release.id) :
    VerifiedIn tr target.id (.of (step planDigest) s op) release := by
  obtain ⟨p, hp⟩ := hs.promotionOf id _ hwaiting
  obtain ⟨hrelease, -⟩ := hs.waiting id p release _ hp hwaiting
  have hid : release.release.id = p.releaseId := hs.releasesKeyed _ _ hrelease
  refine ⟨hid ▸ hrelease, id, answer, value, hop, hwaiting, h.targetId ▸ hverifies, ?_⟩
  exact h.deployed id release value hwaiting

/-- **One operation** keeps the pointer and the history, or moves them to a Release
that was deployed and is now verified. -/
theorem VerifyingInv.keeps_or_moves (h : VerifyingInv target tr s) (hs : s.Sound)
    (heffect : Effect planDigest s op (step planDigest op s).2) :
    KeepsPointer (.of (step planDigest) s op) ∨
      ∃ release, VerifiedIn tr target.id (.of (step planDigest) s op) release ∧
        MovesTo (.of (step planDigest) s op) release := by
  rcases heffect.keeps_or_completes hs with
    hkept | ⟨id, answer, release, value, hop, hwaiting, hverifies, htarget⟩
  · exact .inl hkept
  · refine .inr ⟨release, h.verified hs hop hwaiting hverifies, ?_, ?_⟩
    · exact congrArg WorkerTarget.currentReleaseId htarget
    · exact congrArg WorkerTarget.releaseHistory htarget

theorem VerifyingInv.step (h : VerifyingInv target tr s) (hs : s.Sound)
    (heffect : Effect planDigest s op (step planDigest op s).2) :
    VerifyingInv target (tr ++ [.of (WorkerPromotionCoordinator.step planDigest) s op])
      (step planDigest op s).2 where
  targetId := by
    rw [heffect.target_eq]
    exact h.targetId
  deployed id release value he := by
    rcases heffect.checks_deployed hs he with hbefore | hnow
    · obtain ⟨d, hd, hdeployed⟩ := h.deployed id release value hbefore
      exact ⟨d, List.mem_append_left _ hd, hdeployed⟩
    · exact ⟨_, List.mem_append_right _ (List.mem_singleton.mpr rfl), hnow⟩
  current := by
    rcases h.keeps_or_moves hs heffect with ⟨hcurrent, -⟩ | ⟨release, hverified, hcurrent, -⟩
    · rcases h.current with hsame | ⟨tr₁, t, tr₂, release, rfl, hverified, hrelease, hmoved⟩
      · exact .inl (hcurrent.trans hsame)
      · refine .inr ⟨tr₁, t, tr₂ ++ [_], release, List.append_assoc .., hverified, ?_, ?_⟩
        · exact heffect.releases_kept hrelease
        · exact hcurrent.trans hmoved
    · refine .inr ⟨tr, _, [], release, rfl, hverified, ?_, hcurrent⟩
      exact heffect.releases_kept hverified.registered
  history := by
    obtain ⟨added, hadded⟩ := h.history
    rcases h.keeps_or_moves hs heffect with ⟨-, hhistory⟩ | ⟨release, -, -, hhistory⟩
    · exact ⟨added, hhistory.trans hadded⟩
    · obtain ⟨last, hlast⟩ := appendUnlessLast_eq_append s.target.releaseHistory release.release.id
      refine ⟨added ++ last, hhistory.trans ?_⟩
      show appendUnlessLast s.target.releaseHistory _ = _
      rw [hlast, hadded, List.append_assoc]

theorem verifyingInv_of_run {projectId : String}
    (hrun : RunFrom planDigest projectId target Fresh tr s) :
    s.Sound ∧ VerifyingInv target tr s :=
  sound_invariant (VerifyingInv target) (fun _ _ hfresh => hfresh)
    (verifyingInv_initial projectId target) (fun _ _ _ hs _ h heffect => h.step hs heffect) hrun

/-- **Only verified Releases become current**, whatever the adapter answers and in
whatever order: in every run with fresh identifiers. -/
theorem verified_of_run {projectId : String}
    (hrun : RunFrom planDigest projectId target Fresh tr s) :
    CurrentVerified target tr s ∧ MovesVerified target tr ∧
      ∃ added, s.target.releaseHistory = target.releaseHistory ++ added := by
  obtain ⟨-, hinv⟩ := verifyingInv_of_run hrun
  refine ⟨hinv.current, ?_, hinv.history⟩
  rintro tr₁ t tr₂ rfl
  obtain ⟨hbefore, heq, hfresh, -⟩ := hrun.split
  obtain ⟨hs, hinv₁⟩ := verifyingInv_of_run hbefore
  rw [heq]
  exact hinv₁.keeps_or_moves hs (step_effect hs t.op hfresh)

end WorkerPromotionCoordinator

open WorkerPromotionCoordinator

namespace Sample

/-- A promotion of `b` after `a` whose adapter lies about its deployment. -/
def promotedWithLies : List PromotionOperation :=
  [register "a", register "b"] ++ promoted "a" "1" ++
    [promote "b" "2", previewed "2" "b", deployed "2" "a", cleanup "2"]

end Sample

theorem verified_of_run_sample :
    CurrentVerified Sample.target (Sample.ran Sample.promotedWithLies).1
        (Sample.ran Sample.promotedWithLies).2 ∧
      MovesVerified Sample.target (Sample.ran Sample.promotedWithLies).1 ∧
      ∃ added, (Sample.ran Sample.promotedWithLies).2.target.releaseHistory = [] ++ added :=
  verified_of_run (run_exec (by decide +kernel))

end Anyam.Delivery
