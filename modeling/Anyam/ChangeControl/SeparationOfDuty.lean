import Anyam.ChangeControl.CollaborationSystem

/-!
# Separation of duty

An approval keeps the author and the verifiers of its member as they were when it was
given, and `evaluateLanding` compares the reviewer with that record. `approve` already
refuses what the comparison looks for (**`duty_never_invalid`**), so the comparison
never blocks anything; and a cohort filed again under its id keeps its approvals while
it declares other verifiers.

What `evaluateLanding` needs for its decision is an invariant of the runs in which no
cohort declares an Actor who approved it already (**`dutySeparated_of_run`**). A
requirement is known by a hash, so the runs are those without a collision.
-/

namespace Anyam.ChangeControl

open Anyam.Lib Anyam.Kernel CollaborationCoordinator

/-- The Actor is neither the recorded author nor a declared verifier of the member. -/
def Independent (member : IntegrationCohortMember) (actor : ActorRef) : Prop :=
  (∀ author ∈ member.author, author.actorId ≠ actor.actorId) ∧
    member.authorActorId ≠ some actor.actorId ∧ actor.actorId ∉ member.verifierActorIds

instance (member : IntegrationCohortMember) (actor : ActorRef) :
    Decidable (Independent member actor) :=
  inferInstanceAs (Decidable (_ ∧ _ ∧ _))

/-- An approval of a member's requirement, for its exact Change Revision, under the
active policy, by an independent Actor. -/
structure Approves (c : CollaborationCoordinator) (cohort : IntegrationCohort)
    (member : IntegrationCohortMember) (requirement : ReviewRequirement)
    (approval : ReviewApproval) : Prop where
  requirement : approval.requirementId = requirement.id
  cohort : approval.cohortId = cohort.id
  change : approval.changeId = member.changeId
  revision : approval.changeRevisionId = member.changeRevisionId
  policy : approval.policyVersion = c.policy.version
  independent : Independent member approval.reviewer

instance (c : CollaborationCoordinator) (cohort : IntegrationCohort)
    (member : IntegrationCohortMember) (requirement : ReviewRequirement)
    (approval : ReviewApproval) : Decidable (Approves c cohort member requirement approval) :=
  decidable_of_iff (approval.requirementId = requirement.id ∧ approval.cohortId = cohort.id ∧
      approval.changeId = member.changeId ∧ approval.changeRevisionId = member.changeRevisionId ∧
      approval.policyVersion = c.policy.version ∧ Independent member approval.reviewer)
    ⟨fun ⟨h₁, h₂, h₃, h₄, h₅, h₆⟩ => ⟨h₁, h₂, h₃, h₄, h₅, h₆⟩,
      fun ⟨h₁, h₂, h₃, h₄, h₅, h₆⟩ => ⟨h₁, h₂, h₃, h₄, h₅, h₆⟩⟩

/-- Whenever an evaluation allows a cohort, every requirement of its members is approved
by an independent Actor. -/
def DutySeparated (sha256 : StableValue → String) (c : CollaborationCoordinator) : Prop :=
  ∀ input now explanation c', c.evaluateLanding sha256 input now = .ok (explanation, c') →
    explanation.decision = .allow →
      ∃ cohort ∈ c.cohorts.get? input.cohortId,
        ∀ member ∈ cohort.members, ∀ requirement ∈ c.requirementsOf sha256 cohort.id member,
          ∃ approval ∈ c.approvals.values, Approves c cohort member requirement approval

/-- Every stored approval of the cohort's requirements is by an Actor independent of
the member as the cohort records it. -/
def IndependentlyApproved (sha256 : StableValue → String) (c : CollaborationCoordinator)
    (cohort : IntegrationCohort) : Prop :=
  ∀ member ∈ cohort.members, ∀ rule ∈ c.ownershipRules, governs rule member →
    ∀ approval ∈ c.approvals.values,
      approval.requirementId = requirementId sha256 (requirementKey cohort.id member rule) →
        approval.changeRevisionId = member.changeRevisionId → Independent member approval.reviewer

instance (sha256 : StableValue → String) (c : CollaborationCoordinator)
    (cohort : IntegrationCohort) : Decidable (IndependentlyApproved sha256 c cohort) :=
  inferInstanceAs (Decidable (∀ member ∈ cohort.members, ∀ rule ∈ c.ownershipRules, _ →
    ∀ approval ∈ c.approvals.values, _ → _ → _))

/-- Approvals and rules that stay review a cohort the same. -/
theorem IndependentlyApproved.of_same {sha256 : StableValue → String}
    {c c' : CollaborationCoordinator} {cohort : IntegrationCohort} (h : IndependentlyApproved sha256 c cohort)
    (happrovals : c'.approvals = c.approvals) (hrules : c'.ownershipRules = c.ownershipRules) :
    IndependentlyApproved sha256 c' cohort := by
  intro member hmember rule hrule hgoverns approval happroval
  rw [hrules] at hrule
  rw [happrovals] at happroval
  exact h member hmember rule hrule hgoverns approval happroval

/-- The reviewer has an empty Actor id, and so has the author of the member the
requirement is stated for; `approve` takes that for no author. -/
def NamelessAuthor (sha256 : StableValue → String) (c : CollaborationCoordinator)
    (input : ApproveInput) : Prop :=
  input.reviewer.actorId = "" ∧ ∃ cohort ∈ c.cohorts.get? input.cohortId,
    ∃ member ∈ cohort.members, (∃ author ∈ member.author, author.actorId = "") ∧
      ∃ rule ∈ c.ownershipRules,
        requirementId sha256 (requirementKey cohort.id member rule) = input.requirementId

instance (sha256 : StableValue → String) (c : CollaborationCoordinator) (input : ApproveInput) :
    Decidable (NamelessAuthor sha256 c input) :=
  inferInstanceAs (Decidable (_ ∧ ∃ cohort ∈ c.cohorts.get? input.cohortId,
    ∃ member ∈ cohort.members, (∃ author ∈ member.author, _) ∧ ∃ rule ∈ c.ownershipRules, _))

/-- The cohort a `createCohort` call filed. -/
def filedBy : CollaborationReply → Option IntegrationCohort
  | .cohort cohort => some cohort
  | _ => none

/-- The input of an `approve` call that returned an approval. -/
def approvedBy : CollaborationOperation → CollaborationReply → Option ApproveInput
  | .approve input _ _, .approval _ => some input
  | _, _ => none

/-- A filed cohort declares no Actor who approved one of its requirements already, and
no nameless author approves. -/
def SparesApprovers (sha256 : StableValue → String) (s : CollaborationSystem)
    (op : CollaborationOperation) : Prop :=
  let reply := (CollaborationSystem.step sha256 op s).1
  (∀ cohort ∈ filedBy reply, IndependentlyApproved sha256 s.control cohort) ∧
    ∀ input ∈ approvedBy op reply, ¬ NamelessAuthor sha256 s.control input

instance (sha256 : StableValue → String) (s : CollaborationSystem) (op : CollaborationOperation) :
    Decidable (SparesApprovers sha256 s op) :=
  inferInstanceAs (Decidable (_ ∧ _))

/-- The keys that name the requirements of the known cohorts. -/
def reviewKeys (c : CollaborationCoordinator) : List RequirementKey :=
  c.cohorts.values.flatMap fun cohort => cohort.members.flatMap fun member =>
    c.ownershipRules.map (requirementKey cohort.id member)

/-- The keys of all requirements of a run. -/
def keysOf (tr : List (Transition CollaborationSystem CollaborationOperation CollaborationReply)) :
    List RequirementKey :=
  tr.flatMap fun t => reviewKeys t.post.control

theorem keysOf_snoc
    (tr : List (Transition CollaborationSystem CollaborationOperation CollaborationReply))
    (t : Transition CollaborationSystem CollaborationOperation CollaborationReply) :
    keysOf (tr ++ [t]) = keysOf tr ++ reviewKeys t.post.control := by
  simp [keysOf]

/-- No two requirements of the run are hashed to one id. -/
def NoCollision (sha256 : StableValue → String)
    (tr : List (Transition CollaborationSystem CollaborationOperation CollaborationReply)) : Prop :=
  Distinguishes (requirementId sha256) (keysOf tr)

namespace CollaborationSystem

variable {s s' : CollaborationSystem} {op : CollaborationOperation} {reply : CollaborationReply}
  {sha256 : StableValue → String}

/-! ## Composed cohorts -/

/-- Cohorts are filed under their ids, and the members of all cohorts, stored or in a
suspended call, were composed. -/
structure Composed (s : CollaborationSystem) : Prop where
  keyed : OrderedMap.SelfKeyed IntegrationCohort.id s.control.cohorts
  cohorts : ∀ cohort ∈ s.control.cohorts.values, ComposedMembers cohort.members
  composing : ∀ call ∈ s.composing, ComposedMembers call.members
  landing : ∀ call ∈ s.landing, ComposedMembers call.cohort.members

theorem composed_initial (input : CollaborationCoordinatorInput) :
    Composed (initial input) where
  keyed := OrderedMap.selfKeyed_empty _
  cohorts := fun _ h => nomatch h
  composing := fun _ h => nomatch h
  landing := fun _ h => nomatch h

theorem Composed.checked (h : Composed s) {members : List IntegrationCohortMember}
    (hmembers : s.Checked members) : ComposedMembers members := by
  rcases hmembers with hnew | ⟨call, hcall, rfl⟩
  · exact hnew
  · exact h.composing call hcall

theorem Composed.step (h : Composed s) (heff : ReviewEffect sha256 s op reply s') :
    Composed s' := by
  cases heff with
  | kept hsame hcomposing hlanding =>
    refine ⟨?_, ?_, fun call hcall => h.checked (hcomposing call hcall), fun call hcall => ?_⟩
    · rw [hsame.cohorts]
      exact h.keyed
    · rw [hsame.cohorts]
      exact h.cohorts
    · rcases hlanding call hcall with hold | hread
      · exact h.landing call hold
      · exact h.cohorts _ hread
  | filed hmembers hcohorts _ _ hcomposing hlanding =>
    refine ⟨?_, ?_, fun call hcall => h.composing call (hcomposing call hcall), ?_⟩
    · rw [hcohorts]
      exact h.keyed.set rfl
    · rw [hcohorts]
      exact OrderedMap.forall_values_set h.cohorts (h.checked hmembers)
    · rw [hlanding]
      exact h.landing
  | approved => exact ⟨h.keyed, h.cohorts, h.composing, h.landing⟩
  | landed hcall hmembers _ hcohorts _ _ hcomposing hlanding =>
    refine ⟨?_, ?_, ?_, fun call hmem => h.landing call (hlanding call hmem)⟩
    · rw [hcohorts]
      exact h.keyed.set rfl
    · rw [hcohorts]
      exact OrderedMap.forall_values_set h.cohorts (hmembers ▸ h.landing _ hcall)
    · rw [hcomposing]
      exact h.composing

/-- The cohort of a value of the map is the one under its id. -/
theorem Composed.eq_of_id (h : Composed s) {cohort cohort' : IntegrationCohort}
    (hc : cohort ∈ s.control.cohorts.values) (hc' : cohort' ∈ s.control.cohorts.values)
    (hid : cohort.id = cohort'.id) : cohort = cohort' := by
  obtain ⟨k, hk⟩ := OrderedMap.mem_values_iff.mp hc
  obtain ⟨k', hk'⟩ := OrderedMap.mem_values_iff.mp hc'
  have hkeys : k = k' := by rw [← h.keyed _ _ hk, ← h.keyed _ _ hk', hid]
  subst hkeys
  exact Option.some.inj (hk.symm.trans hk')

/-! ## Reviewed cohorts -/

/-- The approval is of the requirement the key names. -/
structure OfKey (sha256 : StableValue → String) (approval : ReviewApproval)
    (key : RequirementKey) : Prop where
  requirement : approval.requirementId = requirementId sha256 key
  cohort : approval.cohortId = key.cohortId
  change : approval.changeId = key.changeId
  revision : approval.changeRevisionId = key.changeRevisionId

/-- Approvals are of known requirements, and those of a cohort that has not landed are
by independent Actors. -/
structure Reviewed (sha256 : StableValue → String) (keys : List RequirementKey)
    (s : CollaborationSystem) : Prop where
  ofKey : ∀ approval ∈ s.control.approvals.values, ∃ key ∈ keys, OfKey sha256 approval key
  independent : ∀ cohort ∈ s.control.cohorts.values, cohort.state ≠ .landed →
    IndependentlyApproved sha256 s.control cohort

theorem Reviewed.mono {keys keys' : List RequirementKey} (h : Reviewed sha256 keys s)
    (hsub : keys ⊆ keys') : Reviewed sha256 keys' s :=
  ⟨fun approval happroval => (h.ofKey approval happroval).imp fun _ hkey =>
    ⟨hsub hkey.1, hkey.2⟩, h.independent⟩

theorem mem_reviewKeys {c : CollaborationCoordinator} {cohort : IntegrationCohort}
    {member : IntegrationCohortMember} {rule : ReviewOwnershipRule}
    (hcohort : cohort ∈ c.cohorts.values) (hmember : member ∈ cohort.members)
    (hrule : rule ∈ c.ownershipRules) : requirementKey cohort.id member rule ∈ reviewKeys c :=
  List.mem_flatMap.mpr ⟨cohort, hcohort, List.mem_flatMap.mpr
    ⟨member, hmember, List.mem_map.mpr ⟨rule, hrule, rfl⟩⟩⟩

/-- A checked reviewer is independent of the member, unless they are its nameless
author. -/
theorem independent_of_checks {members : List IntegrationCohortMember}
    (hmembers : ComposedMembers members) {member : IntegrationCohortMember}
    (hmember : member ∈ members) {reviewer : ActorRef}
    (hauthor : some reviewer.actorId ≠ member.authorActorId)
    (hverifier : reviewer.actorId ∉ member.verifierActorIds)
    (hnamed : reviewer.actorId = "" → ∀ author ∈ member.author, author.actorId ≠ "") :
    Independent member reviewer := by
  refine ⟨fun author hrecorded heq => ?_, hauthor.symm, hverifier⟩
  by_cases hempty : reviewer.actorId = ""
  · exact hnamed hempty author hrecorded (heq.trans hempty)
  · -- a named author is recorded by id as well
    refine hauthor ?_
    rw [hmembers.authors member hmember, Option.mem_def.mp hrecorded, Option.map_some, heq]
    exact (truthy_eq_some.mpr ⟨rfl, hempty⟩).symm

/-- What a new approval adds: it is of a known requirement, and independent of every
member it counts for. -/
theorem Reviewed.approve {keys : List RequirementKey} (h : Reviewed sha256 keys s)
    (hcomposed : Composed s) (hkeys : Distinguishes (requirementId sha256) keys)
    (hknown : reviewKeys s.control ⊆ keys) {input : ApproveInput} {uuid now : String}
    {cohort : IntegrationCohort} {requirement : ReviewRequirement}
    {member : IntegrationCohortMember}
    (hchecks : s.control.approveChecks sha256 input = .ok (cohort, requirement, member))
    (hnamed : ¬ NamelessAuthor sha256 s.control input) :
    Reviewed sha256 keys (s.withControl (s.control.fileApproval input requirement
      (s.control.newApproval input uuid now cohort requirement member) now)) := by
  obtain ⟨hcohort, hstated, hid, hmember, hchange, hauthor, hverifier⟩ :=
    approveChecks_ok hchecks
  obtain ⟨stated, hstatedMem, rule, hrule, -, rfl⟩ := mem_requirementsFor.mp hstated
  have hcohortMem := OrderedMap.mem_values_of_get? hcohort
  -- the member looked up is the one the requirement was stated for
  obtain rfl : stated = member :=
    (hcomposed.cohorts cohort hcohortMem).eq_of_changeId hstatedMem hmember hchange.symm
  have hkey : requirementKey cohort.id stated rule ∈ keys :=
    hknown (mem_reviewKeys hcohortMem hmember hrule)
  have hindependent : Independent stated input.reviewer :=
    independent_of_checks (hcomposed.cohorts cohort hcohortMem) hmember hauthor hverifier
      fun hempty author hrecorded hnameless =>
        hnamed ⟨hempty, cohort, hcohort, stated, hmember, ⟨author, hrecorded, hnameless⟩,
          rule, hrule, hid⟩
  refine ⟨?_, fun other hother hstate member' hmember' rule' hrule' hgoverns' => ?_⟩
  · exact OrderedMap.forall_values_set h.ofKey ⟨_, hkey, rfl, rfl, rfl, rfl⟩
  · refine OrderedMap.forall_values_set
      (h.independent other hother hstate member' hmember' rule' hrule' hgoverns') ?_
    intro hid _
    -- without a collision it counts for its own cohort and member only
    have hsame := hkeys _ hkey _ (hknown (mem_reviewKeys hother hmember' hrule')) hid
    obtain rfl := hcomposed.eq_of_id hcohortMem hother (congrArg RequirementKey.cohortId hsame)
    obtain rfl := (hcomposed.cohorts cohort hcohortMem).eq_of_changeId hmember hmember'
      (congrArg RequirementKey.changeId hsame)
    exact hindependent

theorem Reviewed.step {keys : List RequirementKey} (h : Reviewed sha256 keys s)
    (hcomposed : Composed s) (hkeys : Distinguishes (requirementId sha256) keys)
    (hknown : reviewKeys (step sha256 op s).2.control ⊆ keys)
    (hok : SparesApprovers sha256 s op) : Reviewed sha256 keys (step sha256 op s).2 := by
  have heff := step_reviewEffect sha256 op s
  obtain ⟨hfiled, happroved⟩ := hok
  generalize (CollaborationSystem.step sha256 op s).1 = reply at heff hfiled happroved
  generalize (CollaborationSystem.step sha256 op s).2 = s' at heff hknown
  cases heff with
  | kept hsame =>
    refine ⟨?_, fun cohort hcohort hstate => ?_⟩
    · rw [hsame.approvals]
      exact h.ofKey
    · rw [hsame.cohorts] at hcohort
      exact (h.independent cohort hcohort hstate).of_same hsame.approvals hsame.ownershipRules
  | filed _ hcohorts happrovals hrules =>
    refine ⟨?_, fun cohort hcohort hstate => ?_⟩
    · rw [happrovals]
      exact h.ofKey
    · rw [hcohorts] at hcohort
      rcases OrderedMap.mem_values_set hcohort with rfl | hold
      · exact (hfiled _ rfl).of_same happrovals hrules
      · exact (h.independent cohort hold hstate).of_same happrovals hrules
  | approved hchecks => exact h.approve hcomposed hkeys hknown hchecks (happroved _ rfl)
  | landed _ _ hlanded hcohorts happrovals hrules =>
    refine ⟨?_, fun cohort hcohort hstate => ?_⟩
    · rw [happrovals]
      exact h.ofKey
    · rw [hcohorts] at hcohort
      rcases OrderedMap.mem_values_set hcohort with rfl | hold
      · exact absurd hlanded hstate
      · exact (h.independent cohort hold hstate).of_same happrovals hrules

end CollaborationSystem

open CollaborationSystem

/-! ## Runs -/

section Run

variable {input : CollaborationCoordinatorInput} {sha256 : StableValue → String}
  {tr : List (Transition CollaborationSystem CollaborationOperation CollaborationReply)}
  {s : CollaborationSystem}

/-- The cohorts of the last state are cohorts of the run. -/
theorem reviewKeys_subset {ok : CollaborationSystem → CollaborationOperation → Prop}
    (hrun : Run (step sha256) ok (initial input) tr s) : reviewKeys s.control ⊆ keysOf tr := by
  cases hrun with
  | nil => exact fun _ h => nomatch h
  | snoc op =>
    rw [keysOf_snoc]
    exact List.subset_append_right ..

theorem reviewed_of_run (hrun : Run (step sha256) (SparesApprovers sha256) (initial input) tr s)
    (hcollision : NoCollision sha256 tr) : Reviewed sha256 (keysOf tr) s := by
  have hinv := hrun.traceInvariant (fun tr s => Composed s ∧
    (NoCollision sha256 tr → Reviewed sha256 (keysOf tr) s))
    ⟨composed_initial input, fun _ => ⟨fun _ h => (nomatch h), fun _ h => nomatch h⟩⟩ (by
      rintro tr s op ⟨hcomposed, hreviewed⟩ hok
      refine ⟨hcomposed.step (step_reviewEffect sha256 op s), fun hcollision => ?_⟩
      rw [NoCollision, keysOf_snoc] at hcollision
      rw [keysOf_snoc]
      have hold : keysOf tr ⊆ keysOf tr ++ reviewKeys (step sha256 op s).2.control :=
        List.subset_append_left ..
      have hbefore := (hreviewed fun a ha b hb => hcollision a (hold ha) b (hold hb)).mono hold
      exact hbefore.step hcomposed hcollision (List.subset_append_right ..) hok)
  exact hinv.2 hcollision

/-- A requirement that does not block has a current approval. -/
theorem exists_of_reviewBlocker_eq_none {c : CollaborationCoordinator}
    {requirement : ReviewRequirement} (h : c.reviewBlocker requirement = none) :
    ∃ approval ∈ c.approvals.values, approval.requirementId = requirement.id ∧
      approval.changeRevisionId = requirement.changeRevisionId ∧
      approval.policyVersion = c.policy.version := by
  have hcurrent : c.currentApprovals requirement ≠ [] := by
    intro hnil
    simp only [reviewBlocker, hnil, List.not_mem_nil, false_and, exists_false, if_false,
      if_true] at h
    split at h <;> cases h
  obtain ⟨approval, hmem⟩ := List.exists_mem_of_ne_nil _ hcurrent
  obtain ⟨hvalue, hmatch⟩ := List.mem_filter.mp hmem
  exact ⟨approval, hvalue, of_decide_eq_true hmatch⟩

/-- **Separation of duty** holds at every evaluation of the runs in which no cohort
declares an Actor who approved it already. -/
theorem dutySeparated_of_run
    (hrun : Run (step sha256) (SparesApprovers sha256) (initial input) tr s)
    (hcollision : NoCollision sha256 tr) : DutySeparated sha256 s.control := by
  intro evaluation now explanation c' heval hallow
  obtain ⟨cohort, hcohort, hblockers⟩ := evaluateLanding_allow heval hallow
  refine ⟨cohort, hcohort, fun member hmember requirement hrequirement => ?_⟩
  have hreviewed := reviewed_of_run hrun hcollision
  have hmem := OrderedMap.mem_values_of_get? hcohort
  -- no check blocks: the cohort has not landed, and the requirement is approved
  simp only [landingBlockers, List.append_eq_nil_iff] at hblockers
  obtain ⟨⟨⟨⟨⟨hstate, -⟩, -⟩, -⟩, hreviews⟩, -⟩ := hblockers
  have hstate : cohort.state ≠ .landed := by
    intro hlanded
    simp [stateBlockers, hlanded] at hstate
  have hstated : requirement ∈ s.control.requirementsFor sha256 cohort :=
    List.mem_flatMap.mpr ⟨member, hmember, hrequirement⟩
  obtain ⟨approval, happroval, hid, hrevision, hpolicy⟩ :=
    exists_of_reviewBlocker_eq_none (List.filterMap_eq_nil_iff.mp hreviews _ hstated)
  simp only [requirementsOf, List.mem_map, List.mem_filter, decide_eq_true_eq] at hrequirement
  obtain ⟨rule, ⟨hrule, hgoverns⟩, rfl⟩ := hrequirement
  -- without a collision it is an approval of this requirement
  obtain ⟨key, hkey, hof⟩ := hreviewed.ofKey approval happroval
  obtain rfl := hcollision key hkey _ (reviewKeys_subset hrun (mem_reviewKeys hmem hmember hrule))
    (hof.requirement.symm.trans hid)
  exact ⟨approval, happroval, hid, hof.cohort, hof.change, hrevision, hpolicy,
    hreviewed.independent cohort hmem hstate member hmember rule hrule hgoverns approval
      happroval hid hrevision⟩

/-- **The duty check never blocks**: in every run, each stored approval passes the
comparison with its own record. -/
theorem duty_never_invalid {ok : CollaborationSystem → CollaborationOperation → Prop}
    (hrun : Run (step sha256) ok (initial input) tr s) :
    ∀ approval ∈ s.control.approvals.values, ¬ InvalidDuty approval := by
  have hstart : ∀ approval ∈ (CollaborationSystem.initial input).control.approvals.values, ¬ InvalidDuty approval :=
    fun _ h => nomatch h
  refine hrun.invariant (fun s => ∀ approval ∈ s.control.approvals.values, ¬ InvalidDuty approval)
    hstart fun s op h _ => ?_
  have heff := step_reviewEffect sha256 op s
  generalize (step sha256 op s).1 = reply at heff
  generalize (step sha256 op s).2 = s' at heff ⊢
  cases heff with
  | kept hsame =>
    rw [hsame.approvals]
    exact h
  | filed _ _ happrovals =>
    rw [happrovals]
    exact h
  | approved hchecks =>
    obtain ⟨-, -, -, -, -, hauthor, hverifier⟩ := approveChecks_ok hchecks
    refine OrderedMap.forall_values_set h ?_
    intro hinvalid
    rcases hinvalid with hsame | hlisted
    · exact hauthor (truthy_eq_some.mp hsame.symm).1.symm
    · exact hverifier hlisted
  | landed _ _ _ _ happrovals =>
    rw [happrovals]
    exact h

end Run

namespace CohortSample

/-- The Change's module has an owner, who approves the cohort. -/
def approval : CollaborationOperation :=
  .approve ⟨"cohort", requirementId sha256 key, actor "reviewer", none, none⟩ "approval" "now"

/-- The cohort is composed, then approved. -/
def approved : List CollaborationOperation :=
  [.beginCohort (declaring ["verifier"]) "uuid" "now", approval]

/-- The cohort is filed again under its id, and declares the reviewer a verifier. -/
def redeclared : List CollaborationOperation :=
  approved ++ [.beginCohort (declaring ["reviewer"]) "uuid" "now"]

def owned : CollaborationCoordinatorInput := configured ⟨"v1", [], none⟩ [rule]

def evaluation : CollaborationEvaluationInput := { cohortId := "cohort", evidence := [] }

end CohortSample

open CohortSample in
theorem dutySeparated_of_run_sample :
    DutySeparated sha256 (ran owned approved).2.control ∧
      ∃ explanation c', (ran owned approved).2.control.evaluateLanding sha256 evaluation "now" =
          .ok (explanation, c') ∧ explanation.decision = .allow := by
  refine ⟨dutySeparated_of_run (run_exec (by decide +kernel)) ?_, _, _, rfl, by decide +kernel⟩
  unfold NoCollision
  decide +kernel

open CohortSample in
theorem duty_never_invalid_sample : (ran owned redeclared).2.control.approvals.values ≠ [] ∧
    ∀ approval ∈ (ran owned redeclared).2.control.approvals.values, ¬ InvalidDuty approval := by
  have hrun : Run (step sha256) (fun _ _ => True) (initial owned) (ran owned redeclared).1
      (ran owned redeclared).2 := run_exec (.of_forall (fun _ _ => trivial) ..)
  exact ⟨by decide +kernel, duty_never_invalid hrun⟩

open CohortSample in
/-- A cohort lands on the approval of one of its verifiers. -/
theorem verifier_approval_lands : ¬ DutySeparated sha256 (ran owned redeclared).2.control := by
  intro hseparated
  have happroved := hseparated evaluation "now" _ _ rfl (by decide +kernel)
  revert happroved
  decide +kernel

end Anyam.ChangeControl
