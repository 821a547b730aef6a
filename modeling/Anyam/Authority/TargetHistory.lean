import Anyam.Authority.PromotionMoves

/-!
# The pointer and the history of a Target

The current Release of a Target is one of its history, and the history lists the Releases that were
healthy there. An execution is refused on a Target where this is broken, and nothing but an
execution writes a Target: once broken, it stays so.

The checks of an answer leave two ways to break it. An answer that did not succeed may move the
pointer when its Promotion is degraded, and an answer that succeeded may be of a Promotion that was
rolled back.

- `SettlesTarget`: what an answer must keep to.
- **`targets_of_run`**: when every accepted answer does, all Targets of the run are consistent, grow
  by healthy Releases alone, and have a context for every Promotion that expects their pointer.
- **`inconsistent_forever`**: a Target that is inconsistent stays as it is.
- **`pointer_outside_history`**: a degraded answer that leaves one so.
-/

namespace Anyam.Authority

open Anyam.Lib Anyam.Kernel Anyam.Delivery

/-! ## Answers -/

/-- The answer a call records, with the context it was given: what the executor of the handoff
returns, when it passes the checks. -/
def acceptedAnswer (services : AuthorityServices) (s : AuthorityPlaneSnapshot)
    (call : AuthorityCall) : Option (PromotionExecutionContext × PromotionExecutionResult) := do
  let input ← call.operation.handoff s
  let context ← (createPromotionExecutionContext services s input.promotionId
    input.executionIdempotencyKey input.session).toOption
  let answer ← (input.executor context).toOption
  guard ((validatePromotionExecutionResult services context answer).isOk = true)
  return (context, answer)

/-- An answer that did not succeed leaves the pointer where it is; one that did is healthy, or of a
Release that is in the history. -/
def SettlesTarget (context : PromotionExecutionContext) (answer : PromotionExecutionResult) :
    Prop :=
  (answer.status ≠ .succeeded →
    answer.target.currentReleaseId = context.target.currentReleaseId) ∧
  (answer.status = .succeeded → answer.promotion.state = .healthy ∨
    context.promotion.releaseId ∈ context.target.releaseHistory.getD [])

instance SettlesTarget.decidable (context : PromotionExecutionContext)
    (answer : PromotionExecutionResult) : Decidable (SettlesTarget context answer) :=
  inferInstanceAs (Decidable (_ ∧ _))

/-- Every answer that is recorded settles its Target. -/
def AnswersSettle (services : AuthorityServices) (s : AuthorityPlaneSnapshot)
    (call : AuthorityCall) : Prop :=
  ∀ pair ∈ acceptedAnswer services s call, SettlesTarget pair.1 pair.2

instance AnswersSettle.decidable (services : AuthorityServices) (s : AuthorityPlaneSnapshot)
    (call : AuthorityCall) : Decidable (AnswersSettle services s call) :=
  inferInstanceAs (Decidable (∀ pair ∈ acceptedAnswer services s call, _))

/-- What is recorded of a Target: it is kept, it points to a Release of its history, or a Release
that is healthy there is appended. -/
inductive TargetOutcome (context : PromotionExecutionContext) (r : PromotionExecutionResult) : Prop
  | kept (hpointer : r.target.currentReleaseId = context.target.currentReleaseId)
      (hhistory : r.target.releaseHistory = context.target.releaseHistory.getD [])
  | moved (hstatus : r.status = .succeeded)
      (hpointer : r.target.currentReleaseId = some context.promotion.releaseId)
      (hmem : context.promotion.releaseId ∈ context.target.releaseHistory.getD [])
      (hhistory : r.target.releaseHistory = context.target.releaseHistory.getD [])
  | appended (hstatus : r.status = .succeeded) (hstate : r.promotion.state = .healthy)
      (hpointer : r.target.currentReleaseId = some context.promotion.releaseId)
      (hmem : context.promotion.releaseId ∉ context.target.releaseHistory.getD [])
      (hhistory : r.target.releaseHistory =
        context.target.releaseHistory.getD [] ++ [context.promotion.releaseId])

section

variable {services : AuthorityServices} {s s' : AuthorityPlaneSnapshot} {call : AuthorityCall}
  {input : PromotionHandoff} {context : PromotionExecutionContext}
  {r answer : PromotionExecutionResult} {result : AuthorityCommandResult}

theorem acceptedAnswer_eq_some (hcall : call.operation.handoff s = some input)
    (hcontext : ContextOf services s input.promotionId input.executionIdempotencyKey
      input.session context)
    (hanswer : input.executor context = .ok answer)
    (hvalid : validatePromotionExecutionResult services context answer = .ok ()) :
    acceptedAnswer services s call = some (context, answer) := by
  have hcreate := createPromotionExecutionContext_eq_ok.mpr hcontext
  simp only [acceptedAnswer, hcall, hcreate, hanswer, hvalid, Option.bind_eq_bind, Except.toOption,
    Option.bind_some, Except.isOk, Except.toBool, guard_true]
  rfl

/-- What a handoff records of its Target, when the answer settles it. -/
theorem Recorded.targetOutcome (h : Recorded services input.executor context r)
    (hcall : call.operation.handoff s = some input)
    (hcontext : ContextOf services s input.promotionId input.executionIdempotencyKey
      input.session context)
    (hexact : context.Exact) (hsettles : AnswersSettle services s call) :
    TargetOutcome context r := by
  cases h with
  | unknown h => exact .kept h.pointer h.history
  | @answered answer hanswer hvalid =>
    obtain ⟨hunsettled, hsettled⟩ :=
      hsettles _ (acceptedAnswer_eq_some hcall hcontext hanswer hvalid)
    obtain ⟨⟨-, -, -, hrelease, -⟩, hchecked⟩ := validatePromotionExecutionResult_ok hvalid
    have hreleaseId : answer.promotion.releaseId = context.promotion.releaseId :=
      hrelease.trans hexact.release
    have hhistory := hchecked.history
    by_cases hstatus : answer.status = .succeeded
    · have hpointer := hchecked.pointer hstatus
      rw [hreleaseId] at hpointer hhistory
      by_cases hmem : context.promotion.releaseId ∈ context.target.releaseHistory.getD []
      · rw [if_neg (fun hnew => hnew.2 hmem)] at hhistory
        exact .moved hstatus hpointer hmem hhistory
      · rw [if_pos ⟨hstatus, hmem⟩] at hhistory
        exact .appended hstatus ((hsettled hstatus).resolve_right hmem) hpointer hmem hhistory
    · rw [if_neg (fun hnew => hstatus hnew.1)] at hhistory
      exact .kept (hunsettled hstatus) hhistory

/-- An outcome leaves a consistent Target consistent. -/
theorem TargetOutcome.consistent (h : TargetOutcome context r)
    (hconsistent : context.target.Consistent) :
    (targetAfterPromotion context.target r).Consistent := by
  have hgoal : (∀ id ∈ r.target.currentReleaseId, id ∈ r.target.releaseHistory) ∧
      r.target.releaseHistory.Nodup := by
    cases h with
    | kept hpointer hhistory =>
      rw [hpointer, hhistory]
      exact ⟨hconsistent.pointer, hconsistent.history⟩
    | moved _ hpointer hmem hhistory =>
      rw [hpointer, hhistory]
      exact ⟨fun id hid => Option.some.inj hid ▸ hmem, hconsistent.history⟩
    | appended _ _ hpointer hmem hhistory =>
      rw [hpointer, hhistory]
      refine ⟨fun id hid => Option.some.inj hid ▸ by simp, ?_⟩
      rw [List.nodup_append]
      refine ⟨hconsistent.history, List.nodup_singleton _, fun a ha b hb heq => hmem ?_⟩
      rw [List.mem_singleton.mp hb] at heq
      exact heq ▸ ha
  exact ⟨hgoal.1, hgoal.2⟩

end

/-! ## One call -/

/-- How a call may change a Target: it appends the Release of its Promotion, which it records as
healthy, and moves the pointer when its result succeeded. -/
structure TargetGrows (t : AuthorityTransition) (target target' : Target) : Prop where
  history : target'.releaseHistory.getD [] = target.releaseHistory.getD [] ∨
    ∃ promotion, t.op.operation.promotionId = some promotion.id ∧
      t.post.promotions.get? promotion.id = some promotion ∧
      promotion.targetId = target.id ∧ promotion.state = .healthy ∧
      target'.releaseHistory.getD [] =
        target.releaseHistory.getD [] ++ [promotion.releaseId]
  pointer : target'.currentReleaseId = target.currentReleaseId ∨
    ∃ result, t.reply = .ok (some result) ∧ result.status = .succeeded

theorem TargetGrows.refl (t : AuthorityTransition) (target : Target) :
    TargetGrows t target target :=
  ⟨.inl rfl, .inl rfl⟩

/-- Every Target of the snapshot is consistent. -/
def TargetsConsistent (s : AuthorityPlaneSnapshot) : Prop :=
  ∀ id target, s.targets.get? id = some target → target.Consistent

/-- A call keeps every Target, up to growth. -/
def TargetsGrow (t : AuthorityTransition) : Prop :=
  ∀ id target, t.pre.targets.get? id = some target →
    ∃ target', t.post.targets.get? id = some target' ∧ TargetGrows t target target'

section

variable {services : AuthorityServices} {s s' : AuthorityPlaneSnapshot} {call : AuthorityCall}
  {reply : AuthorityReply} {id : String}

/-- A Target that is there is written by a handoff of its own, or kept. -/
theorem Moves.target {target : Target} (h : Moves services s call reply s') (hfiled : Filed s)
    (hget : s.targets.get? id = some target) :
    s'.targets.get? id = some target ∨ ∃ input context recorded result,
      call.operation.handoff s = some input ∧
      Handed services s input context recorded s' result ∧ reply = .ok (some result) ∧
      context.target = target ∧
      s'.targets.get? id = some { targetAfterPromotion target recorded with
        lastPromotionId := some context.promotion.id } := by
  cases h with
  | alone _ htargets | requested _ _ htargets =>
    left
    rw [htargets]
    exact hget
  | @configured _ _ created hnew _ htargets =>
    left
    have hne : id ≠ created.id := by
      rintro rfl
      rw [hnew.unused] at hget
      cases hget
    rw [htargets, OrderedMap.get?_set_ne _ _ hne]
    exact hget
  | @handed input context recorded result _ hcall h =>
    by_cases hid : id = context.target.id
    · have htarget := h.from_records.target_at hfiled
      rw [← hid, hget] at htarget
      obtain rfl := Option.some.inj htarget
      refine .inr ⟨input, context, recorded, result, hcall, h, rfl, rfl, ?_⟩
      rw [h.targets, hid, OrderedMap.get?_set_self]
    · left
      rw [h.targets, OrderedMap.get?_set_ne _ _ hid]
      exact hget

/-- A Target after a call is there before it, or is configured by it. -/
theorem Moves.target_before {target' : Target} (h : Moves services s call reply s')
    (hfiled : Filed s) (hget : s'.targets.get? id = some target') :
    (∃ target, s.targets.get? id = some target) ∨ target'.New s := by
  cases h with
  | alone _ htargets | requested _ _ htargets =>
    rw [htargets] at hget
    exact .inl ⟨_, hget⟩
  | @configured _ _ created hnew _ htargets =>
    rw [htargets, OrderedMap.get?_set] at hget
    split at hget
    · exact .inr (Option.some.inj hget ▸ hnew)
    · exact .inl ⟨_, hget⟩
  | @handed input context _ _ _ _ h =>
    left
    rw [h.targets, OrderedMap.get?_set] at hget
    split at hget
    · rename_i hid
      exact ⟨_, hid ▸ h.from_records.target_at hfiled⟩
    · exact ⟨_, hget⟩

theorem Handed.targetOutcome {input : PromotionHandoff} {context : PromotionExecutionContext}
    {recorded : PromotionExecutionResult} {result : AuthorityCommandResult}
    (h : Handed services s input context recorded s' result)
    (hcall : call.operation.handoff s = some input) (hfiled : Filed s)
    (hsettles : AnswersSettle services s call) : TargetOutcome context recorded :=
  h.answer.targetOutcome hcall h.from_records (h.from_records.exact hfiled) hsettles

/-- The Promotion of a handoff, as it is recorded. -/
theorem Handed.promotion {input : PromotionHandoff} {context : PromotionExecutionContext}
    {recorded : PromotionExecutionResult} {result : AuthorityCommandResult}
    (h : Handed services s input context recorded s' result) (hfiled : Filed s) :
    ∃ promotion, s'.promotions.get? context.promotion.id = some promotion ∧
      SameBinding context.promotion promotion ∧ promotion.state = recorded.promotion.state ∧
      promotion.releaseDigest = recorded.promotion.releaseDigest ∧
      promotion.executionIdempotencyKey = some input.executionIdempotencyKey := by
  obtain ⟨checkpoint, -, hpromotions⟩ := h.promotions
  have hbinding := h.answer.binding (h.from_records.exact hfiled)
  rw [hpromotions, OrderedMap.get?_set_self]
  refine ⟨_, rfl, ⟨hbinding.id, hbinding.projectId, hbinding.targetId, hbinding.releaseId,
    hbinding.previousReleaseId, hbinding.expectedCurrentReleaseId, hbinding.kind,
    hbinding.idempotencyKey⟩, rfl, rfl, ?_⟩
  rw [← h.from_records.key]
  exact h.answer.identity.2

/-- **Step**: a call whose answer settles its Target keeps all Targets consistent, and lets them
grow. -/
theorem step_targets (services : AuthorityServices) (call : AuthorityCall) (hfiled : Filed s)
    (hsettles : AnswersSettle services s call) (hconsistent : TargetsConsistent s) :
    TargetsConsistent (step services call s).2 ∧
      TargetsGrow (.of (step services) s call) := by
  have hmoves := step_moves services call s
  constructor
  · intro id target' hget'
    rcases hmoves.target_before hfiled hget' with ⟨target, hget⟩ | hnew
    · rcases hmoves.target hfiled hget with hkept | ⟨_, context, r, _, hcall, h, -, rfl, hset⟩
      · obtain rfl := Option.some.inj (hkept.symm.trans hget')
        exact hconsistent _ _ hget
      · obtain rfl := Option.some.inj (hset.symm.trans hget')
        obtain ⟨hpointer, hhistory⟩ := (h.targetOutcome hcall hfiled hsettles).consistent
          (hconsistent _ _ hget)
        exact ⟨hpointer, hhistory⟩
    · constructor
      · rw [hnew.pointer]
        exact fun id hid => absurd hid (by simp)
      · rw [hnew.history]
        exact List.nodup_nil
  · intro id target hget
    rcases hmoves.target hfiled hget with
      hkept | ⟨_, context, r, result, hcall, h, hreply, rfl, hset⟩
    · exact ⟨target, hkept, .refl _ _⟩
    · refine ⟨_, hset, ?_⟩
      obtain ⟨promotion, hpromotion, hbinding, hstate, -⟩ := h.promotion hfiled
      cases h.targetOutcome hcall hfiled hsettles with
      | kept hpointer hhistory => exact ⟨.inl hhistory, .inl hpointer⟩
      | moved hstatus _ _ hhistory =>
        exact ⟨.inl hhistory, .inr ⟨result, hreply, h.status.trans hstatus⟩⟩
      | appended hstatus hhealthy _ _ hhistory =>
        refine ⟨.inr ⟨promotion, ?_, ?_, ?_, hstate.trans hhealthy, ?_⟩,
          .inr ⟨result, hreply, h.status.trans hstatus⟩⟩
        · rw [hbinding.id, h.from_records.promotion_at hfiled]
          exact AuthorityOperation.handoff_promotionId hcall
        · rw [hbinding.id]
          exact hpromotion
        · rw [hbinding.targetId]
          exact (hfiled.targets _ _ h.from_records.target).symm
        · rw [hbinding.releaseId]
          exact hhistory

/-- A call that lets its Targets grow has an answer that settles its Target. -/
theorem answersSettle_of_grow (hfiled : Filed s)
    (hgrow : TargetsGrow (.of (step services) s call)) : AnswersSettle services s call := by
  rintro ⟨context, answer⟩ hpair
  simp only [acceptedAnswer, Option.bind_eq_bind, Option.bind_eq_some_iff, Option.guard_eq_some',
    exists_unit, Option.pure_def, Option.mem_def, Option.some.injEq, Prod.mk.injEq,
    toOption_eq_some, createPromotionExecutionContext_eq_ok, isOk_iff] at hpair
  obtain ⟨input, hcall, _, hcontext, _, hanswer, hvalid, rfl, rfl⟩ := hpair
  rename_i context answer
  obtain ⟨result, hreply, h⟩ := step_answered hcall hcontext hanswer hvalid
  have hget := hcontext.target_at hfiled
  obtain ⟨target', hget', hgrows⟩ := hgrow _ _ hget
  have hset : (step services call s).2.targets.get? context.target.id = some target' := hget'
  rw [h.targets, OrderedMap.get?_set_self] at hset
  obtain rfl := Option.some.inj hset
  obtain ⟨⟨-, -, -, hrelease, -⟩, hchecked⟩ := validatePromotionExecutionResult_ok hvalid
  have hreleaseId : answer.promotion.releaseId = context.promotion.releaseId :=
    hrelease.trans (hcontext.exact hfiled).release
  constructor
  · intro hstatus
    rcases hgrows.pointer with hsame | ⟨other, hother, hsucceeded⟩
    · exact hsame
    · have heq : Except.ok (some result) = (Except.ok (some other) : AuthorityReply) :=
        hreply.symm.trans hother
      cases heq
      exact absurd (h.status.symm.trans hsucceeded) hstatus
  · intro hstatus
    rcases hgrows.history with hsame | ⟨promotion, hid, hpromotion, -, hhealthy, -⟩
    · -- the history is as it was, and ends with the Release when that is new
      right
      by_contra hnew
      have hhistory : answer.target.releaseHistory = context.target.releaseHistory.getD [] := hsame
      have happended := hchecked.history
      rw [hreleaseId, if_pos ⟨hstatus, hnew⟩, hhistory] at happended
      simp at happended
    · left
      have hnamed := AuthorityOperation.handoff_promotionId hcall
      have hpromotionId : promotion.id = context.promotion.id := by
        rw [hcontext.promotion_at hfiled]
        exact Option.some.inj (hid.symm.trans hnamed)
      obtain ⟨recorded, hrecorded, -, hstate, -⟩ := h.promotion hfiled
      rw [hpromotionId] at hpromotion
      obtain rfl := Option.some.inj (hrecorded.symm.trans hpromotion)
      exact hstate.symm.trans hhealthy

/-- A call leaves a Target that is not consistent as it is. -/
theorem step_inconsistent (services : AuthorityServices) (call : AuthorityCall) (hfiled : Filed s)
    {target : Target} (hget : s.targets.get? id = some target) (hbroken : ¬ target.Consistent) :
    (step services call s).2.targets.get? id = some target := by
  rcases (step_moves services call s).target hfiled hget with
    hkept | ⟨_, context, _, _, -, h, -, rfl, -⟩
  · exact hkept
  · exact absurd h.from_records.consistent hbroken

end

/-! ## Promotions that can be executed -/

/-- A Release of a Project, with every Artifact and every Evidence it lists. -/
def ReleaseOf (s : AuthorityPlaneSnapshot) (projectId releaseId : String) : Prop :=
  ∃ release project, s.releases.get? releaseId = some release ∧
    projectForRelease s release = some project ∧ project.id = projectId ∧
    (releaseBundle s release).isSome = true

/-- What a Promotion names is there: its Release, the one to go back to, and its Target. -/
structure Linked (s : AuthorityPlaneSnapshot) (promotion : PromotionRecord) : Prop where
  release : ReleaseOf s promotion.projectId promotion.releaseId
  previous : ∀ id ∈ promotion.previousReleaseId, ReleaseOf s promotion.projectId id
  target : ∃ target, s.targets.get? promotion.targetId = some target ∧
    target.projectId = promotion.projectId

/-- A Target has a Deployment Profile, and its history is made of Releases of its Project. -/
structure Deployable (s : AuthorityPlaneSnapshot) (target : Target) : Prop where
  profile : target.deploymentProfile.isSome = true
  history : ∀ id ∈ target.releaseHistory.getD [], ReleaseOf s target.projectId id

/-- The lineage of all Promotions is complete. -/
structure LineageComplete (s : AuthorityPlaneSnapshot) : Prop where
  releases : ∀ id release, s.releases.get? id = some release →
    (releaseBundle s release).isSome = true
  promotions : ∀ id promotion, s.promotions.get? id = some promotion → Linked s promotion
  targets : ∀ id target, s.targets.get? id = some target → Deployable s target

/-- A Project Revision that a call creates gets an id of its own: `project.create` does not look
whether the id it is given is taken. -/
def NamesNewRevision (s : AuthorityPlaneSnapshot) (call : AuthorityCall) : Prop :=
  match call.operation with
  | .execute command _ =>
    command.command = .projectCreate ∨ command.command = .landingApply →
      s.projectRevisions.get? ((optionalString (command.payload.get? "projectRevisionId")).getD
        (call.drawn.opaqueId "project-revision")) = none
  | _ => True

section

variable {services : AuthorityServices} {s s' next : AuthorityPlaneSnapshot} {call : AuthorityCall}
  {reply : AuthorityReply} {release : Release} {projectId releaseId : String}

theorem releaseBundle_eq_some {bundle : PromotionExecutionReleaseBundle} :
    releaseBundle s release = some bundle ↔ bundle.release = release ∧
      release.artifactIds.mapM s.artifacts.get? = some bundle.artifacts ∧
      release.evidenceIds.mapM s.evidence.get? = some bundle.evidence := by
  simp only [releaseBundle, Option.bind_eq_bind, Option.bind_eq_some_iff, Option.pure_def,
    Option.some.injEq]
  constructor
  · rintro ⟨artifacts, hartifacts, evidence, hevidence, rfl⟩
    exact ⟨rfl, hartifacts, hevidence⟩
  · rintro ⟨rfl, hartifacts, hevidence⟩
    exact ⟨_, hartifacts, _, hevidence, rfl⟩

/-- A Release keeps its Artifacts and its Evidence. -/
theorem KeepsInputs.bundle (h : KeepsInputs s s') {bundle : PromotionExecutionReleaseBundle}
    (hbundle : releaseBundle s release = some bundle) :
    releaseBundle s' release = some bundle := by
  obtain ⟨hrelease, hartifacts, hevidence⟩ := releaseBundle_eq_some.mp hbundle
  exact releaseBundle_eq_some.mpr ⟨hrelease, h.artifacts.mapM hartifacts, h.evidence.mapM hevidence⟩

theorem KeepsInputs.bundle_isSome (h : KeepsInputs s s')
    (hbundle : (releaseBundle s release).isSome = true) :
    (releaseBundle s' release).isSome = true := by
  obtain ⟨bundle, hbundle⟩ := Option.isSome_iff_exists.mp hbundle
  exact Option.isSome_iff_exists.mpr ⟨bundle, h.bundle hbundle⟩

/-- A Release that is created has its bundle. -/
theorem Release.New.bundle_isSome (h : release.New s) :
    (releaseBundle s release).isSome = true := by
  obtain ⟨artifacts, hartifacts⟩ :=
    Option.isSome_iff_exists.mp (OrderedMap.mapM_get?_isSome h.artifacts)
  obtain ⟨evidence, hevidence⟩ :=
    Option.isSome_iff_exists.mp (OrderedMap.mapM_get?_isSome h.evidence)
  exact Option.isSome_iff_exists.mpr ⟨⟨release, artifacts, evidence⟩,
    releaseBundle_eq_some.mpr ⟨rfl, hartifacts, hevidence⟩⟩

theorem projectForRelease_eq_some {project : Project} :
    projectForRelease s release = some project ↔ ∃ revision,
      s.projectRevisions.get? release.projectRevisionId = some revision ∧
        revision.projectId ≠ "" ∧ s.projects.get? revision.projectId = some project := by
  simp only [projectForRelease, Option.bind_eq_some_iff, truthy_eq_some, Option.map_eq_some_iff]
  constructor
  · rintro ⟨_, ⟨⟨revision, hrevision, rfl⟩, hne⟩, hproject⟩
    exact ⟨revision, hrevision, hne, hproject⟩
  · rintro ⟨revision, hrevision, hne, hproject⟩
    exact ⟨_, ⟨⟨revision, hrevision, rfl⟩, hne⟩, hproject⟩

/-- A Release stays one of its Project while the Project Revisions are kept. -/
theorem ReleaseOf.kept (h : ReleaseOf s projectId releaseId) (hinputs : KeepsInputs s s')
    (hrevisions : OrderedMap.Kept s.projectRevisions s'.projectRevisions) :
    ReleaseOf s' projectId releaseId := by
  obtain ⟨release, project, hrelease, hproject, hid, hbundle⟩ := h
  obtain ⟨revision, hrevision, hne, hget⟩ := projectForRelease_eq_some.mp hproject
  exact ⟨release, project, hinputs.releases _ _ hrelease,
    projectForRelease_eq_some.mpr ⟨revision, hrevisions _ _ hrevision, hne,
      hinputs.projects _ _ hget⟩, hid, hinputs.bundle_isSome hbundle⟩

theorem projectCreate_projectRevisions {payload : Payload} {drawn : Drawn}
    {result : AuthorityCommandResult} (h : projectCreate s payload drawn = .ok (next, result)) :
    ∃ revision, next.projectRevisions = s.projectRevisions.set
      ((optionalString (payload.get? "projectRevisionId")).getD (drawn.opaqueId "project-revision"))
      revision := by
  obtain ⟨declared, id, _, _, revision, -, hdeclared, -, rfl, -, -, -, -, rfl⟩ := projectCreate_ok h
  have hsame : declared.projectRevisions = s.projectRevisions :=
    hdeclared.records .projectRevisions (by decide)
  refine ⟨revision, ?_⟩
  rw [← hsame]
  rfl

theorem landingApply_projectRevisions {payload : Payload} {drawn : Drawn}
    {result : AuthorityCommandResult} (h : landingApply s payload drawn = .ok (next, result)) :
    ∃ revision, next.projectRevisions = s.projectRevisions.set
      ((optionalString (payload.get? "projectRevisionId")).getD (drawn.opaqueId "project-revision"))
      revision := by
  obtain ⟨_, _, _, _, change, _, landed, _, -, -, -, -, -, -, -, -, -, rfl, -, -, -, -, -, rfl⟩ :=
    landingApply_ok h
  exact ⟨landed, (closeWorkspace_writes change.workspaceId).records .projectRevisions (by decide)⟩

theorem step_projectRevisions_kept (services : AuthorityServices) (call : AuthorityCall)
    (hnames : NamesNewRevision s call) :
    OrderedMap.Kept s.projectRevisions (step services call s).2.projectRevisions := by
  show OrderedMap.Kept s.projectRevisions ((step services call s).2.records .projectRevisions)
  rcases step_records services call s with heq | ⟨next, hwrites, heq⟩
  · rw [heq]
    exact .refl _
  rw [heq]
  obtain ⟨operation, drawn⟩ := call
  have hframe := hwrites.writesOnly
  cases hwrites with
  | @command command session _ _ _ _ h =>
    by_cases hname : command.command = .projectCreate
    · have hnew := hnames (.inl hname)
      unfold apply at h
      simp only [hname] at h
      obtain ⟨revision, hset⟩ := projectCreate_projectRevisions h
      exact (OrderedMap.Kept.set hnew).trans (.of_eq hset)
    by_cases hlanding : command.command = .landingApply
    · have hnew := hnames (.inr hlanding)
      unfold apply at h
      simp only [hlanding] at h
      obtain ⟨revision, hset⟩ := landingApply_projectRevisions h
      exact (OrderedMap.Kept.set hnew).trans (.of_eq hset)
    · refine .of_eq (hframe.records .projectRevisions ?_)
      show Collection.projectRevisions ∉ command.command.writes
      cases hcommand : command.command <;>
        first | exact absurd hcommand hname | exact absurd hcommand hlanding | decide
  | enrollment _ => exact .refl _
  | completion _ =>
    refine .of_eq (hframe.records .projectRevisions ?_)
    show Collection.projectRevisions ∉ AuthorityCommandName.runnerComplete.writes
    decide
  | promotion hname _ _ => exact .of_eq (hframe.records .projectRevisions (by rw [hname]; decide))

theorem Linked.of_binding {promotion recorded : PromotionRecord} (h : Linked s promotion)
    (hbinding : SameBinding promotion recorded) : Linked s recorded := by
  obtain ⟨hrelease, hprevious, htarget⟩ := h
  refine ⟨?_, ?_, ?_⟩
  · rw [hbinding.projectId, hbinding.releaseId]
    exact hrelease
  · rw [hbinding.projectId, hbinding.previousReleaseId]
    exact hprevious
  · rw [hbinding.projectId, hbinding.targetId]
    exact htarget

/-- A Promotion that is requested is linked. -/
theorem PromotionRecord.New.linked {promotion : PromotionRecord} (h : promotion.New s)
    (hfiled : Filed s) (hconsistent : TargetsConsistent s) (hlineage : LineageComplete s) :
    Linked s promotion := by
  obtain ⟨release, hrelease, hbelongs⟩ := h.release
  obtain ⟨target, htarget, hproject, hexpected⟩ := h.target
  refine ⟨?_, fun id hid => ?_, target, htarget, hproject⟩
  · obtain ⟨revision, hrevision, hrevisionProject⟩ := Option.map_eq_some_iff.mp hbelongs
    obtain ⟨project, hget⟩ := Option.isSome_iff_exists.mp h.project
    refine ⟨release, project, hrelease, projectForRelease_eq_some.mpr ⟨revision, hrevision, ?_, ?_⟩,
      hfiled.projects _ _ hget, hlineage.releases _ _ hrelease⟩
    · rw [hrevisionProject]
      exact h.named
    · rw [hrevisionProject]
      exact hget
  · -- the Release to go back to is the one the Target points to
    rw [h.previous, hexpected] at hid
    rw [← hproject]
    exact (hlineage.targets _ _ htarget).history id ((hconsistent _ _ htarget).pointer id hid)

/-- A Target keeps its Project. -/
theorem Moves.target_project {id : String} {target : Target} (h : Moves services s call reply s')
    (hfiled : Filed s) (hget : s.targets.get? id = some target) :
    ∃ target', s'.targets.get? id = some target' ∧ target'.projectId = target.projectId := by
  rcases h.target hfiled hget with hkept | ⟨_, _, _, _, -, -, -, -, hset⟩
  · exact ⟨target, hkept, rfl⟩
  · exact ⟨_, hset, rfl⟩

/-- **Step**: the lineage of all Promotions stays complete. -/
theorem step_lineage (services : AuthorityServices) (call : AuthorityCall) (hfiled : Filed s)
    (hconsistent : TargetsConsistent s) (hsettles : AnswersSettle services s call)
    (hnames : NamesNewRevision s call) (h : LineageComplete s) :
    LineageComplete (step services call s).2 := by
  have hmoves := step_moves services call s
  have hinputs := step_keeps services call s
  have hrelease {projectId releaseId : String} (hof : ReleaseOf s projectId releaseId) :
      ReleaseOf (step services call s).2 projectId releaseId :=
    hof.kept hinputs (step_projectRevisions_kept services call hnames)
  have hlinked {promotion : PromotionRecord} (hof : Linked s promotion) :
      Linked (step services call s).2 promotion := by
    obtain ⟨target, htarget, hproject⟩ := hof.target
    obtain ⟨target', htarget', hsame⟩ := hmoves.target_project hfiled htarget
    exact ⟨hrelease hof.release, fun id hid => hrelease (hof.previous id hid), target', htarget',
      hsame.trans hproject⟩
  have hdeployable {target : Target} (hof : Deployable s target) :
      Deployable (step services call s).2 target :=
    ⟨hof.profile, fun id hid => hrelease (hof.history id hid)⟩
  refine ⟨fun id release hget => ?_, fun id promotion hget => ?_, fun id target hget => ?_⟩
  · rcases step_releases services call s with hsame | ⟨created, hnew, hset⟩
    · rw [hsame] at hget
      exact hinputs.bundle_isSome (h.releases _ _ hget)
    · rw [hset, OrderedMap.get?_set] at hget
      split at hget
      · exact hinputs.bundle_isSome (Option.some.inj hget ▸ hnew.bundle_isSome)
      · exact hinputs.bundle_isSome (h.releases _ _ hget)
  · generalize (step services call s).1 = answer, (step services call s).2 = post
      at hmoves hget hlinked
    cases hmoves with
    | alone hsame _ | configured _ hsame _ =>
      rw [hsame] at hget
      exact hlinked (h.promotions _ _ hget)
    | requested hnew hset _ =>
      rw [hset, OrderedMap.get?_set] at hget
      split at hget
      · exact hlinked (Option.some.inj hget ▸ hnew.linked hfiled hconsistent h)
      · exact hlinked (h.promotions _ _ hget)
    | @handed input context _ _ _ hcall hhanded =>
      obtain ⟨recorded, hrecorded, hbinding, -⟩ := hhanded.promotion hfiled
      obtain ⟨checkpoint, -, hset⟩ := hhanded.promotions
      by_cases hid : id = context.promotion.id
      · rw [hid] at hget
        obtain rfl := Option.some.inj (hrecorded.symm.trans hget)
        exact hlinked ((h.promotions _ _ hhanded.from_records.promotion).of_binding hbinding)
      · rw [hset, OrderedMap.get?_set_ne _ _ hid] at hget
        exact hlinked (h.promotions _ _ hget)
  · rcases hmoves.target_before hfiled hget with ⟨before, hbefore⟩ | hnew
    · have hof := h.targets _ _ hbefore
      rcases hmoves.target hfiled hbefore with
        hkept | ⟨_, context, r, _, hcall, hhanded, -, rfl, hset⟩
      · obtain rfl := Option.some.inj (hkept.symm.trans hget)
        exact hdeployable hof
      · obtain rfl := Option.some.inj (hset.symm.trans hget)
        refine hdeployable ⟨hof.profile, fun id hid => ?_⟩
        have hmem : id ∈ r.target.releaseHistory := hid
        cases hhanded.targetOutcome hcall hfiled hsettles with
        | kept _ hhistory | moved _ _ _ hhistory =>
          rw [hhistory] at hmem
          exact hof.history id hmem
        | appended _ _ _ _ hhistory =>
          rw [hhistory, List.mem_append, List.mem_singleton] at hmem
          rcases hmem with hold | rfl
          · exact hof.history id hold
          · have hrecords := hhanded.from_records
            show ReleaseOf s context.target.projectId _
            rw [hrecords.targetProject]
            exact (h.promotions _ _ hrecords.promotion).release
    · refine ⟨hnew.profile, fun id hid => ?_⟩
      rw [hnew.history] at hid
      cases hid

/-- **A linked Promotion has a context**, on a consistent Target that is where the Promotion
expects it. -/
theorem Linked.exists_context {id key : String} {promotion : PromotionRecord} {target : Target}
    {session : AuthoritySession} (h : Linked s promotion)
    (hget : s.promotions.get? id = some promotion)
    (htarget : s.targets.get? promotion.targetId = some target) (hof : Deployable s target)
    (hconsistent : target.Consistent)
    (hexpected : promotion.expectedCurrentReleaseId = target.currentReleaseId)
    (hsession : session.realmId = s.realmId) :
    ∃ context, createPromotionExecutionContext services s id key session = .ok context := by
  obtain ⟨release, project, hrelease, hproject, hid, hbundle⟩ := h.release
  obtain ⟨bundle, hbundle⟩ := Option.isSome_iff_exists.mp hbundle
  obtain ⟨found, hfound, htargetProject⟩ := h.target
  obtain rfl := Option.some.inj (hfound.symm.trans htarget)
  obtain ⟨profile, hprofile⟩ := Option.isSome_iff_exists.mp hof.profile
  have hprevious : ∃ previous, previousBundle s id promotion project = .ok previous := by
    unfold previousBundle
    cases hnamed : truthy promotion.previousReleaseId with
    | none => exact ⟨none, rfl⟩
    | some previousId =>
      obtain ⟨before, owner, hbefore, howner, hownerId, hcomplete⟩ :=
        h.previous previousId (truthy_eq_some.mp hnamed).1
      obtain ⟨restored, hrestored⟩ := Option.isSome_iff_exists.mp hcomplete
      refine ⟨some restored, ?_⟩
      simp only [hbefore, map_eq_ok, orThrow_eq_ok]
      refine ⟨restored, ?_, rfl⟩
      rw [Option.filter_some, if_pos, Option.bind_some, hrestored]
      simp only [howner, Option.map_some, hownerId, hid, decide_true]
  obtain ⟨previous, hprevious⟩ := hprevious
  have hprofile' : targetDeploymentProfile services.profile found.toTarget = .ok profile := by
    unfold targetDeploymentProfile
    rw [hprofile]
  simp only [createPromotionExecutionContext, bind_eq_ok, require_eq_ok, orThrow_eq_ok,
    mapError_eq_ok, exists_unit, pure_eq_ok, baseTargetState_eq_ok]
  exact ⟨_, promotion, hget, release, hrelease, project, hproject, found, htarget,
    ⟨hid, htargetProject⟩, bundle, hbundle, previous, hprevious, _, ⟨hconsistent, rfl⟩, hexpected,
    hsession, profile, hprofile', rfl⟩

end

/-! ## Runs -/

/-- The Targets of a run are sound: they grow by healthy Releases alone, are consistent, and have a
context for every Promotion that expects their pointer, unless a Project was created over a
Project Revision. -/
structure TargetsSound (services : AuthorityServices) (tr : List AuthorityTransition)
    (s : AuthorityPlaneSnapshot) : Prop where
  grow : ∀ t ∈ tr, TargetsGrow t
  consistent : ∀ id target, s.targets.get? id = some target →
    target.Consistent ∧ ∃ pair, baseTargetState target = .ok pair
  executable : (∀ t ∈ tr, NamesNewRevision t.pre t.op) →
    ∀ id promotion target session key, s.promotions.get? id = some promotion →
      s.targets.get? promotion.targetId = some target →
      promotion.expectedCurrentReleaseId = target.currentReleaseId →
      session.realmId = s.realmId →
      ∃ context, createPromotionExecutionContext services s id key session = .ok context

section

variable {services : AuthorityServices} {s s₀ : AuthorityPlaneSnapshot}
  {ok : AuthorityPlaneSnapshot → AuthorityCall → Prop} {realmId : String}
  {tr : List AuthorityTransition}

/-- **Run**: while the answers settle their Targets, all Targets stay consistent, and grow; with the
Project Revisions, the lineage of all Promotions is kept. -/
theorem targetsGrow_of_run (h : AuthorityRun services ok realmId tr s)
    (hsettle : ∀ t ∈ tr, AnswersSettle services t.pre t.op) :
    TargetsConsistent s ∧ (∀ t ∈ tr, TargetsGrow t) ∧
      ((∀ t ∈ tr, NamesNewRevision t.pre t.op) → LineageComplete s) := by
  have hrun : Filed s ∧ ((∀ t ∈ tr, AnswersSettle services t.pre t.op) →
      TargetsConsistent s ∧ (∀ t ∈ tr, TargetsGrow t) ∧
        ((∀ t ∈ tr, NamesNewRevision t.pre t.op) → LineageComplete s)) := by
    refine h.traceInvariant (fun tr s => Filed s ∧
      ((∀ t ∈ tr, AnswersSettle services t.pre t.op) →
        TargetsConsistent s ∧ (∀ t ∈ tr, TargetsGrow t) ∧
          ((∀ t ∈ tr, NamesNewRevision t.pre t.op) → LineageComplete s)))
      ⟨filed_of_run (.nil : AuthorityRun services ok realmId [] _), fun _ => ?_⟩
      fun tr s call ⟨hfiled, ih⟩ _ => ⟨step_filed services call hfiled, fun hsettle => ?_⟩
    · have hnone {α : Type} {record : α} (hget : (none : Option α) = some record) : False := by
        cases hget
      exact ⟨fun _ _ hget => (hnone hget).elim, fun _ hmem => absurd hmem List.not_mem_nil,
        fun _ => ⟨fun _ _ hget => (hnone hget).elim, fun _ _ hget => (hnone hget).elim,
          fun _ _ hget => (hnone hget).elim⟩⟩
    · rw [List.forall_mem_append, List.forall_mem_singleton] at hsettle
      obtain ⟨hconsistent, hgrow, hlineage⟩ := ih hsettle.1
      obtain ⟨hconsistent', hgrow'⟩ := step_targets services call hfiled hsettle.2 hconsistent
      refine ⟨hconsistent', ?_, fun hnames => ?_⟩
      · rw [List.forall_mem_append, List.forall_mem_singleton]
        exact ⟨hgrow, hgrow'⟩
      · rw [List.forall_mem_append, List.forall_mem_singleton] at hnames
        exact step_lineage services call hfiled hconsistent hsettle.2 hnames.2 (hlineage hnames.1)
  exact hrun.2 hsettle

/-- **Targets are sound exactly when the answers settle them**: an answer that is accepted keeps the
pointer unless it succeeded, and is healthy when it adds a Release to the history. -/
theorem targetsSound_iff_of_run (h : AuthorityRun services ok realmId tr s) :
    TargetsSound services tr s ↔ ∀ t ∈ tr, AnswersSettle services t.pre t.op := by
  constructor
  · intro hsound t ht
    obtain ⟨tr₁, tr₂, rfl⟩ := List.append_of_mem ht
    obtain ⟨hbefore, hof, -, -⟩ := h.split
    refine answersSettle_of_grow (filed_of_run hbefore) ?_
    rw [← hof]
    exact hsound.grow t ht
  · intro hsettle
    obtain ⟨hconsistent, hgrow, hlineage⟩ := targetsGrow_of_run h hsettle
    refine ⟨hgrow, fun id target hget => ?_, fun hnames id promotion target session key hget htarget
      hexpected hsession => ?_⟩
    · exact ⟨hconsistent id target hget, _,
        baseTargetState_eq_ok.mpr ⟨hconsistent id target hget, rfl⟩⟩
    · have hcomplete := hlineage hnames
      exact (hcomplete.promotions _ _ hget).exists_context hget htarget
        (hcomplete.targets _ _ htarget) (hconsistent _ _ htarget) hexpected hsession

/-- **Once a Target is inconsistent, it stays as it is**: along every run from there, and no
Promotion to it ever has a context. -/
theorem inconsistent_forever {tr' : List AuthorityTransition}
    (h : AuthorityRun services ok realmId tr s₀) (h' : Run (step services) ok s₀ tr' s)
    {id : String} {target : Target} (hget : s₀.targets.get? id = some target)
    (hbroken : ¬ target.Consistent) :
    s.targets.get? id = some target ∧
      ∀ promotionId promotion key session context, s.promotions.get? promotionId = some promotion →
        promotion.targetId = id →
        createPromotionExecutionContext services s promotionId key session ≠ .ok context := by
  have hkept : Filed s ∧ s.targets.get? id = some target :=
    h'.invariant (fun s => Filed s ∧ s.targets.get? id = some target) ⟨filed_of_run h, hget⟩
      fun s call ⟨hfiled, hget⟩ _ =>
        ⟨step_filed services call hfiled, step_inconsistent services call hfiled hget hbroken⟩
  refine ⟨hkept.2, fun promotionId promotion key session context hpromotion hid hcreate => ?_⟩
  have hcontext := createPromotionExecutionContext_eq_ok.mp hcreate
  obtain rfl := Option.some.inj (hcontext.promotion.symm.trans hpromotion)
  obtain rfl := Option.some.inj (hcontext.target.symm.trans (hid ▸ hkept.2))
  exact hbroken hcontext.consistent

end

namespace Sample

def recordRun (key project revision view : String) : AuthorityCall :=
  call key .runRecord [
    ("projectId", .string project),
    ("projectRevisionId", .string revision),
    ("projectViewId", .string view),
    ("runId", .string "run:1"),
    ("actionId", .string "action:1"),
    ("runnerId", .string "runner:1"),
    ("outputDigest", .string "sha256:output")]

def recordEvidence (key run : String) : AuthorityCall :=
  call key .evidenceRecord [
    ("runId", .string run),
    ("evidenceId", .string "evidence:1"),
    ("actionId", .string "action:1"),
    ("outputDigest", .string "sha256:output"),
    ("key", .string "build"),
    ("criterion", .string "criterion:1"),
    ("validityKey", .string "validity:1"),
    ("verifierId", .string "verifier:1"),
    ("toolchainDigest", .string "sha256:toolchain"),
    ("dependencyDigest", .string "sha256:dependency"),
    ("environmentDigest", .string "sha256:environment"),
    ("inputDigests", .array []),
    ("effectDigests", .array []),
    ("policyVersion", .string "policy:1"),
    ("capabilityGrantId", .string "grant:1"),
    ("disclosure", .object [
      ("projectionId", .string "projection:1"), ("classification", .string "project")]),
    ("receipt", .string "evidence=recorded"),
    ("invalidators", .array []),
    ("owner", .string "principal:1")]

def recordArtifact (key revision : String) : AuthorityCall :=
  call key .artifactRecord [
    ("projectRevisionId", .string revision),
    ("artifactId", .string "artifact:1"),
    ("type", .string "worker"),
    ("digest", .string "sha256:artifact")]

def createRelease (key project revision release : String) : AuthorityCall :=
  call key .releaseCreate [
    ("projectId", .string project),
    ("projectRevisionId", .string revision),
    ("releaseId", .string release),
    ("artifactIds", .array [.string "artifact:1"]),
    ("evidenceIds", .array [.string "evidence:1"]),
    ("configurationDigests", .array [.string "sha256:configuration"]),
    ("policyVersion", .string "policy:1")]

def configureTarget (key project target : String) : AuthorityCall :=
  call key .targetConfigure [
    ("projectId", .string project),
    ("targetId", .string target),
    ("name", .string "Target"),
    ("adapterId", .string "adapter:1"),
    ("acceptedArtifactTypes", .array [.string "worker"]),
    ("deploymentProfile", .object [
      ("environment", .string "production"),
      ("audience", .string "everyone"),
      ("runtimeIdentity", .string "worker:1"),
      ("configurationDigests", .array [.string "sha256:configuration"]),
      ("dataClass", .string "production")])]

def requestPromotion (key project release target promotion : String) : AuthorityCall :=
  call key .promotionRequest [
    ("projectId", .string project),
    ("releaseId", .string release),
    ("targetId", .string target),
    ("promotionId", .string promotion)]

/-- A Release, a Target, and a Promotion of the one to the other. -/
def promotionRequested : List AuthorityCall := [
  createProject "1" "project:1" "revision:1" "space:1",
  createWorkspace "2" "project:1" "revision:1" "workspace:1",
  recordRun "3" "project:1" "revision:1" "project-view:2",
  recordEvidence "4" "run:1",
  recordArtifact "5" "revision:1",
  createRelease "6" "project:1" "revision:1" "release:1",
  configureTarget "7" "project:1" "target:1",
  requestPromotion "8" "project:1" "release:1" "target:1" "promotion:1"]

/-- An answer that is bound to its context. -/
def answer (context : PromotionExecutionContext) (status : AuthorityStatus)
    (promotion : PromotionState) (target : TargetState) (pointer : Option String)
    (history : List String) : PromotionExecutionResult where
  protocol := promotionExecutionProtocol
  status
  adapterId := context.target.adapterId
  executionDigest := context.executionDigest
  promotion := { context.promotion with state := promotion }
  target := {
    id := context.target.id
    projectId := context.target.projectId
    state := target
    currentReleaseId := pointer
    releaseHistory := history }
  receipt := "execution=reported"

/-- The Release is healthy at the Target. -/
def healthyExecutor : TrustedPromotionExecutor := fun context =>
  .ok (answer context .succeeded .healthy .healthy (some context.promotion.releaseId)
    (context.target.releaseHistory.getD [] ++ [context.promotion.releaseId]))

/-- The outcome is not known, and the Target points to a Release that was never promoted. -/
def driftedExecutor : TrustedPromotionExecutor := fun context =>
  .ok (answer context .indeterminate .degraded .degraded (some "release:2")
    (context.target.releaseHistory.getD []))

def handOff (key promotion execution : String) (executor : TrustedPromotionExecutor) :
    AuthorityCall where
  operation := .executePromotion {
    promotionId := promotion
    executionIdempotencyKey := execution
    executor
    session }
  drawn := drawn key

end Sample

/-- A healthy Release is appended, and the Targets are sound. -/
theorem targetsSound_iff_of_run_sample :
    ∃ tr s target,
      AuthorityRun Sample.services (fun _ _ => True) "realm:1" tr s ∧
      s.targets.get? "target:1" = some target ∧
      target.currentReleaseId = some "release:1" ∧ target.releaseHistory = some ["release:1"] ∧
      TargetsSound Sample.services tr s := by
  let calls := Sample.promotionRequested ++
    [Sample.handOff "9" "promotion:1" "execution:1" Sample.healthyExecutor]
  have hrun : AuthorityRun Sample.services (fun _ _ => True) "realm:1"
      (Sample.after calls).1 (Sample.after calls).2 :=
    Sample.run_after (.of_forall (fun _ _ => trivial) ..)
  obtain ⟨hsettle, hstate⟩ :
      (∀ t ∈ (Sample.after calls).1, AnswersSettle Sample.services t.pre t.op) ∧
      ((Sample.after calls).2.targets.get? "target:1").map
        (fun target => (target.currentReleaseId, target.releaseHistory)) =
          some (some "release:1", some ["release:1"]) := by decide +kernel
  obtain ⟨target, hget, htarget⟩ := Option.map_eq_some_iff.mp hstate
  obtain ⟨hpointer, hhistory⟩ := Prod.mk.inj htarget
  exact ⟨_, _, target, hrun, hget, hpointer, hhistory, (targetsSound_iff_of_run hrun).mpr hsettle⟩

/-- A Target that an answer left inconsistent, when its Promotion is handed off again. -/
theorem inconsistent_forever_sample :
    let drifted := Sample.after (Sample.promotionRequested ++
      [Sample.handOff "9" "promotion:1" "execution:1" Sample.driftedExecutor])
    let again := exec (step Sample.services) drifted.2
      [Sample.handOff "10" "promotion:1" "execution:2" Sample.healthyExecutor]
    ∃ target, ¬ target.Consistent ∧ again.2.targets.get? "target:1" = some target := by
  intro drifted again
  have hstate : (drifted.2.targets.get? "target:1").map
      (fun target => (target.currentReleaseId, target.releaseHistory)) =
        some (some "release:2", some []) := by decide +kernel
  obtain ⟨target, hget, htarget⟩ := Option.map_eq_some_iff.mp hstate
  obtain ⟨hpointer, hhistory⟩ := Prod.mk.inj htarget
  have hbroken : ¬ target.Consistent := by
    intro hconsistent
    have hmem := hconsistent.pointer "release:2" hpointer
    rw [hhistory] at hmem
    cases hmem
  have hrun : AuthorityRun Sample.services (fun _ _ => True) "realm:1" drifted.1 drifted.2 :=
    Sample.run_after (.of_forall (fun _ _ => trivial) ..)
  have hagain : Run (step Sample.services) (fun _ _ => True) drifted.2 again.1 again.2 :=
    run_exec (.of_forall (fun _ _ => trivial) ..)
  exact ⟨target, hbroken, (inconsistent_forever hrun hagain hget hbroken).1⟩

/-- **A degraded answer moves the pointer out of the history**: the execution did not succeed, the
Target points to a Release that was never promoted, and no context is ever made for it again. -/
theorem pointer_outside_history :
    ∃ tr s target result,
      AuthorityRun Sample.services (fun _ _ => True) "realm:1" tr s ∧
      tr.getLast?.map Transition.reply = some (.ok (some result)) ∧
      result.status = .indeterminate ∧
      s.targets.get? "target:1" = some target ∧
      target.currentReleaseId = some "release:2" ∧ target.releaseHistory = some [] ∧
      ¬ TargetsSound Sample.services tr s := by
  let calls := Sample.promotionRequested ++
    [Sample.handOff "9" "promotion:1" "execution:1" Sample.driftedExecutor]
  have hrun : AuthorityRun Sample.services (fun _ _ => True) "realm:1"
      (Sample.after calls).1 (Sample.after calls).2 :=
    Sample.run_after (.of_forall (fun _ _ => trivial) ..)
  obtain ⟨hstate, hreply⟩ :
      ((Sample.after calls).2.targets.get? "target:1").map
        (fun target => (target.currentReleaseId, target.releaseHistory)) =
          some (some "release:2", some []) ∧
      ((Sample.after calls).1.getLast?.map Transition.reply).bind
        (fun reply => reply.toOption.join.map AuthorityCommandResult.status) =
          some .indeterminate := by decide +kernel
  obtain ⟨target, hget, htarget⟩ := Option.map_eq_some_iff.mp hstate
  obtain ⟨hpointer, hhistory⟩ := Prod.mk.inj htarget
  obtain ⟨reply, hlast, hresult⟩ := Option.bind_eq_some_iff.mp hreply
  obtain ⟨result, hjoin, hstatus⟩ := Option.map_eq_some_iff.mp hresult
  have hok : reply = .ok (some result) := by
    cases reply with
    | error _ => cases hjoin
    | ok found =>
      cases found with
      | none => cases hjoin
      | some found => rw [Option.some.inj hjoin]
  refine ⟨_, _, target, result, hrun, hlast.trans (congrArg some hok), hstatus, hget, hpointer,
    hhistory, fun hsound => ?_⟩
  have hmem := (hsound.consistent _ _ hget).1.pointer "release:2" hpointer
  rw [hhistory] at hmem
  cases hmem

end Anyam.Authority
