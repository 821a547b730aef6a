import Anyam.ChangeControl.CollaborationSpec
import Anyam.Lib.Run

/-!
# The collaboration coordinator as a system

`CollaborationSystem` is the coordinator with its suspended calls: the `createCohort`
calls that wait for an analyzer and the `land` calls that wait for the Landing
authority. A run is any sequence of operations, so analyzers and the authority may
answer anything, in any order, and an id may be used for several cohorts.

`ReviewEffect` is what one operation does to the cohorts and their approvals
(`step_reviewEffect`); the proofs about runs are case analyses on it.
-/

namespace Anyam.ChangeControl

open Anyam.Lib Anyam.Kernel CollaborationCoordinator

structure CollaborationSystem where
  control : CollaborationCoordinator
  composing : List CohortCall
  landing : List LandCall
deriving DecidableEq, Repr

/-- One call into the coordinator, or one answer it waited for, with the clock reading
and the identifier drawn. -/
inductive CollaborationOperation
  | setCanonicalProjectRevision (revision : ProjectRevision)
  | activatePolicy (policy : CollaborationPolicy)
  | beginCohort (input : CreateCohortInput) (uuid now : String)
  | analyzerAnswered (index : Nat) (candidates : Option (List IntegrationConflictCandidate))
      (now : String)
  | submitFinding (input : SubmitFindingInput) (uuid now : String)
  | resolveFinding (input : ResolveFindingInput) (now : String)
  | approve (input : ApproveInput) (uuid now : String)
  | resolveConflict (input : ResolveIntegrationConflictInput) (now : String)
  | evaluateLanding (input : CollaborationEvaluationInput) (now : String)
  | beginLand (input : CollaborationEvaluationInput) (actor : ActorRef) (now : String)
  | authorityAnswered (index : Nat) (landing : Option Landing) (now : String)
  | recordPromotionAuthority (input : RecordPromotionInput) (now : String)
deriving DecidableEq, Repr

inductive CollaborationReply
  | done
  | cohort (cohort : IntegrationCohort)
  | finding (finding : ReviewFinding)
  | approval (approval : ReviewApproval)
  | conflict (conflict : IntegrationConflict)
  | explanation (explanation : CollaborationPolicyExplanation)
  | landed (landing : Landing) (explanation : CollaborationPolicyExplanation)
  | suspended
  | failed (failure : CollaborationFailure)
  | idle
deriving DecidableEq, Repr

namespace CollaborationSystem

/-- A fresh coordinator with nothing in flight. -/
def initial (input : CollaborationCoordinatorInput) : CollaborationSystem :=
  ⟨.initial input, [], []⟩

/-- The state with another coordinator state and the same calls in flight. -/
abbrev withControl (s : CollaborationSystem) (control : CollaborationCoordinator) :
    CollaborationSystem :=
  { s with control }

/-- The reply and next state of an atomic method. -/
def atomically {ε α : Type} (s : CollaborationSystem) (fault : ε → CollaborationFailure)
    (reply : α → CollaborationReply) :
    Except ε (α × CollaborationCoordinator) → CollaborationReply × CollaborationSystem
  | .ok (a, control) => (reply a, s.withControl control)
  | .error e => (.failed (fault e), s)

/-- The same for a method that returns nothing. -/
def updating (s : CollaborationSystem) :
    Except CollaborationError CollaborationCoordinator → CollaborationReply × CollaborationSystem
  | .ok control => (.done, s.withControl control)
  | .error e => (.failed (.rejected e), s)

/-- A `createCohort` call goes on: it waits for its next analyzer, or files its
cohort. -/
def advance (s : CollaborationSystem) (call : CohortCall) (now : String) :
    CollaborationReply × CollaborationSystem :=
  if call.pending = [] then
    let (cohort, control) := s.control.finishCohort call now
    (.cohort cohort, s.withControl control)
  else (.suspended, { s with composing := s.composing ++ [call] })

def compose (s : CollaborationSystem) (input : CreateCohortInput) (uuid now : String) :
    CollaborationReply × CollaborationSystem :=
  match s.control.beginCohort input uuid with
  | .ok call => s.advance call now
  | .error e => (.failed (.rejected e), s)

def answerAnalyzer (sha256 : StableValue → String) (s : CollaborationSystem) (index : Nat)
    (candidates : Option (List IntegrationConflictCandidate)) (now : String) :
    CollaborationReply × CollaborationSystem :=
  match s.composing[index]? with
  | none => (.idle, s)
  | some call =>
    let (outcome, control) := s.control.analyzerAnswered sha256 call candidates now
    let next : CollaborationSystem :=
      { s with control, composing := s.composing.eraseIdx index }
    match outcome with
    | .ok call => next.advance call now
    | .error failure => (.failed failure, next)

def startLanding (sha256 : StableValue → String) (s : CollaborationSystem)
    (input : CollaborationEvaluationInput) (actor : ActorRef) (now : String) :
    CollaborationReply × CollaborationSystem :=
  let (outcome, control) := s.control.beginLand sha256 input actor now
  match outcome with
  | .ok call => (.suspended, { s with control, landing := s.landing ++ [call] })
  | .error e => (.failed (.rejected e), s.withControl control)

def answerAuthority (s : CollaborationSystem) (index : Nat) (landing : Option Landing)
    (now : String) : CollaborationReply × CollaborationSystem :=
  match s.landing[index]? with
  | none => (.idle, s)
  | some call =>
    let next := { s with landing := s.landing.eraseIdx index }
    match s.control.finishLand call landing now with
    | .ok ((landing, explanation), control) =>
      (.landed landing explanation, next.withControl control)
    | .error failure => (.failed failure, next)

/-- Apply one operation. -/
def step (sha256 : StableValue → String) :
    CollaborationOperation → CollaborationSystem → CollaborationReply × CollaborationSystem
  | .setCanonicalProjectRevision revision, s =>
    s.updating (s.control.setCanonicalProjectRevision revision)
  | .activatePolicy policy, s => s.updating (s.control.activatePolicy policy)
  | .beginCohort input uuid now, s => s.compose input uuid now
  | .analyzerAnswered index candidates now, s => s.answerAnalyzer sha256 index candidates now
  | .submitFinding input uuid now, s =>
    s.atomically .rejected .finding (s.control.submitFinding input uuid now)
  | .resolveFinding input now, s =>
    s.atomically .rejected .finding (s.control.resolveFinding input now)
  | .approve input uuid now, s =>
    s.atomically .rejected .approval (s.control.approve sha256 input uuid now)
  | .resolveConflict input now, s =>
    s.atomically .rejected .conflict (s.control.resolveConflict input now)
  | .evaluateLanding input now, s =>
    s.atomically .rejected .explanation (s.control.evaluateLanding sha256 input now)
  | .beginLand input actor now, s => s.startLanding sha256 input actor now
  | .authorityAnswered index landing now, s => s.answerAuthority index landing now
  | .recordPromotionAuthority input now, s =>
    s.updating (s.control.recordPromotionAuthority input now)

/-! ## What one step does to the reviews -/

/-- The members were checked by a `createCohort` call, now or before it suspended. -/
def Checked (s : CollaborationSystem) (members : List IntegrationCohortMember) : Prop :=
  ComposedMembers members ∨ ∃ call ∈ s.composing, members = call.members

/-- Everything one operation can do to the cohorts and their approvals. -/
inductive ReviewEffect (sha256 : StableValue → String) (s : CollaborationSystem) :
    CollaborationOperation → CollaborationReply → CollaborationSystem → Prop
  /-- Cohorts and approvals stay; calls may be suspended or end. -/
  | kept {op reply s'} (hsame : SameReviews s.control s'.control)
      (hcomposing : ∀ call ∈ s'.composing, s.Checked call.members)
      (hlanding : ∀ call ∈ s'.landing,
        call ∈ s.landing ∨ call.cohort ∈ s.control.cohorts.values) :
      ReviewEffect sha256 s op reply s'
  /-- A cohort is filed under its id, over whatever was there. -/
  | filed {op cohort s'} (hmembers : s.Checked cohort.members)
      (hcohorts : s'.control.cohorts = s.control.cohorts.set cohort.id cohort)
      (happrovals : s'.control.approvals = s.control.approvals)
      (hrules : s'.control.ownershipRules = s.control.ownershipRules)
      (hcomposing : ∀ call ∈ s'.composing, call ∈ s.composing)
      (hlanding : s'.landing = s.landing) :
      ReviewEffect sha256 s op (.cohort cohort) s'
  | approved {input uuid now cohort requirement member}
      (hchecks : s.control.approveChecks sha256 input = .ok (cohort, requirement, member)) :
      ReviewEffect sha256 s (.approve input uuid now)
        (.approval (s.control.newApproval input uuid now cohort requirement member))
        (s.withControl (s.control.fileApproval input requirement
          (s.control.newApproval input uuid now cohort requirement member) now))
  /-- A Landing files the cohort it read, whatever is there now. -/
  | landed {op reply s' call} {landed : IntegrationCohort} (hcall : call ∈ s.landing)
      (hmembers : landed.members = call.cohort.members) (hstate : landed.state = .landed)
      (hcohorts : s'.control.cohorts = s.control.cohorts.set landed.id landed)
      (happrovals : s'.control.approvals = s.control.approvals)
      (hrules : s'.control.ownershipRules = s.control.ownershipRules)
      (hcomposing : s'.composing = s.composing)
      (hlanding : ∀ call ∈ s'.landing, call ∈ s.landing) :
      ReviewEffect sha256 s op reply s'

variable {s : CollaborationSystem} {sha256 : StableValue → String}

/-- Reviews are kept by a step that changes neither them nor the calls in flight. -/
theorem ReviewEffect.quiet {op : CollaborationOperation} {reply : CollaborationReply}
    {control : CollaborationCoordinator} (hsame : SameReviews s.control control) :
    ReviewEffect sha256 s op reply (s.withControl control) :=
  .kept hsame (fun call hcall => .inr ⟨call, hcall, rfl⟩) fun _ hcall => .inl hcall

theorem updating_effect {op : CollaborationOperation}
    {x : Except CollaborationError CollaborationCoordinator}
    (hok : ∀ control, x = .ok control → SameReviews s.control control) :
    ReviewEffect sha256 s op (s.updating x).1 (s.updating x).2 := by
  obtain e | control := x
  · exact .quiet (.refl _)
  · exact .quiet (hok control rfl)

theorem atomically_effect {ε α : Type} {op : CollaborationOperation}
    (fault : ε → CollaborationFailure) (reply : α → CollaborationReply)
    {x : Except ε (α × CollaborationCoordinator)}
    (hok : ∀ a control, x = .ok (a, control) →
      ReviewEffect sha256 s op (reply a) (s.withControl control)) :
    ReviewEffect sha256 s op (s.atomically fault reply x).1 (s.atomically fault reply x).2 := by
  obtain e | ⟨a, control⟩ := x
  · exact .quiet (.refl _)
  · exact hok a control rfl

/-- Going on with a call whose members were checked, after a step that kept the
reviews. -/
theorem advance_effect {s₀ : CollaborationSystem} {op : CollaborationOperation} {call : CohortCall}
    (now : String) (hsame : SameReviews s₀.control s.control) (hmembers : s₀.Checked call.members)
    (hcomposing : ∀ call ∈ s.composing, call ∈ s₀.composing) (hlanding : s.landing = s₀.landing) :
    ReviewEffect sha256 s₀ op (s.advance call now).1 (s.advance call now).2 := by
  unfold advance
  split
  · obtain ⟨hfiled, hcohorts, happrovals, hrules⟩ :=
      finishCohort_ok (c := s.control) call now
    refine .filed (hfiled ▸ hmembers) ?_ ?_ ?_ hcomposing hlanding
    · rw [← hsame.cohorts]
      exact hcohorts
    · exact happrovals.trans hsame.approvals
    · exact hrules.trans hsame.ownershipRules
  · refine .kept hsame (fun other hother => ?_) fun other hother => .inl (hlanding ▸ hother)
    rcases List.mem_append.mp hother with hold | hnew
    · exact .inr ⟨other, hcomposing other hold, rfl⟩
    · rw [List.mem_singleton] at hnew
      exact hnew ▸ hmembers

theorem compose_effect (input : CreateCohortInput) (uuid now : String) :
    ReviewEffect sha256 s (.beginCohort input uuid now) (s.compose input uuid now).1
      (s.compose input uuid now).2 := by
  unfold compose
  cases h : s.control.beginCohort input uuid with
  | error e => exact .quiet (.refl _)
  | ok call =>
    exact advance_effect now (.refl _) (.inl (beginCohort_ok h))
      (fun _ hcall => hcall) rfl

theorem answerAnalyzer_effect (index : Nat)
    (candidates : Option (List IntegrationConflictCandidate)) (now : String) :
    ReviewEffect sha256 s (.analyzerAnswered index candidates now)
      (s.answerAnalyzer sha256 index candidates now).1
      (s.answerAnalyzer sha256 index candidates now).2 := by
  unfold answerAnalyzer
  cases hcall : s.composing[index]? with
  | none => exact .quiet (.refl _)
  | some call =>
    have hmem : call ∈ s.composing := List.mem_of_getElem? hcall
    obtain ⟨hsame, hmembers⟩ := analyzerAnswered_sameReviews s.control sha256 call candidates now
    simp only
    split
    · rename_i next heq
      refine advance_effect now hsame (.inr ⟨call, hmem, hmembers next heq⟩) ?_ rfl
      exact fun other hother => List.mem_of_mem_eraseIdx hother
    · refine .kept hsame (fun other hother => ?_) fun _ hother => .inl hother
      exact .inr ⟨other, List.mem_of_mem_eraseIdx hother, rfl⟩

theorem startLanding_effect (input : CollaborationEvaluationInput) (actor : ActorRef)
    (now : String) :
    ReviewEffect sha256 s (.beginLand input actor now) (s.startLanding sha256 input actor now).1
      (s.startLanding sha256 input actor now).2 := by
  unfold startLanding
  obtain ⟨hsame, hread⟩ := beginLand_ok s.control sha256 input actor now
  simp only
  split
  · rename_i call heq
    refine .kept hsame (fun other hother => .inr ⟨other, hother, rfl⟩) fun other hother => ?_
    rcases List.mem_append.mp hother with hold | hnew
    · exact .inl hold
    · rw [List.mem_singleton] at hnew
      exact .inr (hnew ▸ hread call heq)
  · exact .quiet hsame

theorem answerAuthority_effect (index : Nat) (landing : Option Landing) (now : String) :
    ReviewEffect sha256 s (.authorityAnswered index landing now)
      (s.answerAuthority index landing now).1 (s.answerAuthority index landing now).2 := by
  unfold answerAuthority
  cases hcall : s.landing[index]? with
  | none => exact .quiet (.refl _)
  | some call =>
    have hmem : call ∈ s.landing := List.mem_of_getElem? hcall
    simp only
    split
    · rename_i heq
      obtain ⟨landed, -, hmembers, hstate, hcohorts, happrovals, hrules⟩ :=
        finishLand_ok heq
      exact .landed hmem hmembers hstate hcohorts happrovals hrules rfl
        fun other hother => List.mem_of_mem_eraseIdx hother
    · refine .kept (.refl _) (fun other hother => .inr ⟨other, hother, rfl⟩) fun other hother => ?_
      exact .inl (List.mem_of_mem_eraseIdx hother)

/-- **What one step does to the reviews.** -/
theorem step_reviewEffect (sha256 : StableValue → String) (op : CollaborationOperation)
    (s : CollaborationSystem) :
    ReviewEffect sha256 s op (step sha256 op s).1 (step sha256 op s).2 := by
  cases op with
  | setCanonicalProjectRevision revision =>
    exact updating_effect fun _ h =>
      setCanonicalProjectRevision_sameReviews h
  | activatePolicy policy =>
    exact updating_effect fun _ h => activatePolicy_sameReviews h
  | beginCohort input uuid now => exact compose_effect input uuid now
  | analyzerAnswered index candidates now => exact answerAnalyzer_effect index candidates now
  | submitFinding input uuid now =>
    exact atomically_effect _ _ fun _ _ h =>
      .quiet (submitFinding_sameReviews h)
  | resolveFinding input now =>
    exact atomically_effect _ _ fun _ _ h =>
      .quiet (resolveFinding_sameReviews h)
  | approve input uuid now =>
    refine atomically_effect _ _ fun approval control h => ?_
    rcases approve_ok h with
      rfl | ⟨cohort, requirement, member, hchecks, rfl, rfl⟩
    · exact .quiet (.refl _)
    · exact .approved hchecks
  | resolveConflict input now =>
    exact atomically_effect _ _ fun _ _ h =>
      .quiet (resolveConflict_sameReviews h)
  | evaluateLanding input now =>
    refine atomically_effect _ _ fun explanation control h => ?_
    obtain ⟨cohort, -, -, rfl⟩ := evaluateLanding_ok h
    exact .quiet (auditVerifiers_sameReviews ..)
  | beginLand input actor now => exact startLanding_effect input actor now
  | authorityAnswered index landing now => exact answerAuthority_effect index landing now
  | recordPromotionAuthority input now =>
    exact updating_effect fun _ h =>
      recordPromotionAuthority_sameReviews h

end CollaborationSystem

/-! ## Concrete runs

One Change of one author, in a cohort with the id `cohort`, for the runs the theorems
of the later modules are instantiated at. -/

namespace CohortSample

def actor (name : String) : ActorRef := ⟨name, name, "session", "client"⟩

def canonicalRevision : ProjectRevision where
  id := "r0"
  projectId := "project"
  sourceSpaceSnapshots := OrderedMap.empty
  parentProjectRevisionId := none
  landedChangeRevisionId := none
  landedChangeRevisionIds := none
  landingCohortId := none

def change : Change where
  id := "change:A"
  projectId := "project"
  intentId := "intent"
  baseProjectRevisionId := "r0"
  status := .submitted
  latestRevisionId := some "change-revision:a"
  workspaceId := none
  revertsChangeRevisionId := none
  author := none
  origin := none

def revision : ChangeRevision where
  id := "change-revision:a"
  changeId := "change:A"
  projectRevisionId := "r0"
  projectViewId := "view"
  sequence := 1
  parentRevisionId := none
  declaredEffects := []
  baseProjectRevisionId := none
  workspaceId := none
  sourceSpaceSnapshots := none
  affectedSourceSpaceIds := none
  affectedModuleIds := some ["module"]
  affectedTargetIds := none
  author := some (actor "author")
  conflictIds := none
  kind := none

/-- A `createCohort` call for `cohort` that declares verifiers of the Change. -/
def declaring (verifiers : List String) : CreateCohortInput where
  members := [⟨change, revision, some (verifiers.map actor)⟩]
  actor := actor "author"
  id := some "cohort"

/-- A coordinator without analyzers, under a policy and a list of rules. -/
def configured (policy : CollaborationPolicy) (rules : List ReviewOwnershipRule) :
    CollaborationCoordinatorInput where
  projectId := "project"
  canonicalRevision := canonicalRevision
  policy := policy
  ownershipRules := rules
  reviewerDirectory := [⟨"reviewer", [], none⟩]
  analyzers := []
  landingAuthority := true

/-- `reviewer` owns the module the Change affects. -/
def rule : ReviewOwnershipRule where
  id := "rule"
  scopeKind := .«module»
  scopeId := "module"
  requiredReviewerPrincipalIds := ["reviewer"]
  requiredReviewerTeamIds := []
  disclosure := .project

def key : RequirementKey := ⟨"cohort", "rule", "change:A", "change-revision:a"⟩

/-- The digest of the one value these runs hash. -/
def sha256 (value : StableValue) : String :=
  if value = .reviewRequirement key then
    "f3c4115f6750db910be39b231b75872e582110f1cdb8609031107e0997d2cbdd"
  else ""

/-- The trace and final state of a list of calls on a coordinator. -/
def ran (input : CollaborationCoordinatorInput) (ops : List CollaborationOperation) :
    List (Transition CollaborationSystem CollaborationOperation CollaborationReply) ×
      CollaborationSystem :=
  exec (CollaborationSystem.step sha256) (.initial input) ops

end CohortSample

end Anyam.ChangeControl
