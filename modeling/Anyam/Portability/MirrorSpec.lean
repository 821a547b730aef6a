import Anyam.Portability.Mirror

/-!
# What one stretch of a sync does

One lemma for each stretch, with every way it can end and the conditions it ends so
under. A sync that ends is a `fail` or a `succeed`; both keep the configuration of the
Mirror and the Changes of its proposals.

- `sync_exit`: up to the inspection.
- **`reconcile_exit`**: the ways on from an inspection (`inspected_exit`).
- **`proposeUpdates_exit`**: the updates of an inbound sync, up to the first that needs a
  Change (`created_exit`).
- `pushed_exit`: after a push.
-/

namespace Anyam.Portability

open Anyam.Lib Anyam.Kernel

/-- A Mirror that needs a reconciliation choice. -/
def NeedsChoice (state : MirrorState) : Prop := state = .forcePushed ∨ state = .divergent

instance (state : MirrorState) : Decidable (NeedsChoice state) :=
  inferInstanceAs (Decidable (_ ∨ _))

/-- What a canonical state was checked for before it is mirrored. -/
structure Mirrored (mirror : MirrorConfiguration) (canonical : MirrorCanonicalState) : Prop where
  verified : canonical.verified = true
  disclosed : disclosureAllows mirror.disclosure canonical.disclosure

/-- What a sync in flight carries from its start. -/
structure SyncFrame.Sound (services : MirrorServices)
    (mirror : MirrorConfiguration) (frame : SyncFrame) : Prop where
  projected : frame.projectedCanonical =
    projectCanonicalRefs services frame.input.canonical mirror.refMappings
  mirrored : Mirrored mirror frame.input.canonical
  kind : frame.operation.kind = frame.input.operationKind

namespace MirrorCoordinator

variable {services : MirrorServices} {s s' : MirrorCoordinator}

/-- The coordinator knows of the same Mirror and results. -/
structure Keeps (s s' : MirrorCoordinator) : Prop where
  mirror : s'.mirror = s.mirror
  sourceSpaceClassification : s'.sourceSpaceClassification = s.sourceSpaceClassification
  idempotency : s'.idempotency = s.idempotency
  inboundChangeIds : s'.inboundChangeIds = s.inboundChangeIds

theorem Keeps.rfl : s.Keeps s := ⟨Eq.refl _, Eq.refl _, Eq.refl _, Eq.refl _⟩

theorem keeps_record (frame : SyncFrame) : s.Keeps (s.record frame) :=
  ⟨Eq.refl _, Eq.refl _, Eq.refl _, Eq.refl _⟩

theorem keeps_checkpoint (checkpoint : MirrorCheckpoint) :
    s.Keeps { s with checkpoints := s.checkpoints.set checkpoint.id checkpoint } :=
  ⟨Eq.refl _, Eq.refl _, Eq.refl _, Eq.refl _⟩

/-! ## Failures and successes -/

section Ends

variable (frame : SyncFrame) (failure : MirrorProviderFailure) (state : MirrorState)
  (generation : Option String) (explicitState : Option MirrorState) (next : MirrorBoundary)
  (changes : List Change) (kind : MirrorOperationKind) (completedAt : String)

theorem fail_outcome : ∃ failed, (s.fail frame failure state generation explicitState completedAt).1 =
    .finished frame.input (.failed failed) := ⟨_, rfl⟩

@[simp] theorem fail_state :
    (s.fail frame failure state generation explicitState completedAt).2.mirror.state =
      explicitState.getD state := rfl

@[simp] theorem fail_configuration :
    (s.fail frame failure state generation explicitState completedAt).2.mirror.toMirrorConfiguration =
      s.mirror.toMirrorConfiguration := rfl

@[simp] theorem fail_canonicalRefs :
    (s.fail frame failure state generation explicitState completedAt).2.mirror.canonicalRefs =
      s.mirror.canonicalRefs := rfl

@[simp] theorem fail_remoteRefs :
    (s.fail frame failure state generation explicitState completedAt).2.mirror.remoteRefs =
      s.mirror.remoteRefs := rfl

@[simp] theorem fail_pending :
    (s.fail frame failure state generation explicitState completedAt).2.mirror.pendingInboundChangeIds =
      s.mirror.pendingInboundChangeIds := rfl

@[simp] theorem fail_inboundChangeIds :
    (s.fail frame failure state generation explicitState completedAt).2.inboundChangeIds =
      s.inboundChangeIds := rfl

@[simp] theorem fail_awaited :
    (s.fail frame failure state generation explicitState completedAt).1.awaited = none := rfl

theorem succeed_outcome : ∃ value, (s.succeed frame next changes kind completedAt).1 =
      .finished frame.input (.succeeded value) ∧ value.operation.kind = kind :=
  ⟨_, rfl, rfl⟩

@[simp] theorem succeed_state :
    (s.succeed frame next changes kind completedAt).2.mirror.state = next.state := rfl

@[simp] theorem succeed_configuration :
    (s.succeed frame next changes kind completedAt).2.mirror.toMirrorConfiguration =
      s.mirror.toMirrorConfiguration := rfl

@[simp] theorem succeed_canonicalRefs :
    (s.succeed frame next changes kind completedAt).2.mirror.canonicalRefs = next.canonicalRefs := rfl

@[simp] theorem succeed_remoteRefs :
    (s.succeed frame next changes kind completedAt).2.mirror.remoteRefs = next.remoteRefs := rfl

@[simp] theorem succeed_pending :
    (s.succeed frame next changes kind completedAt).2.mirror.pendingInboundChangeIds =
      next.pendingInboundChangeIds := rfl

@[simp] theorem succeed_inboundChangeIds :
    (s.succeed frame next changes kind completedAt).2.inboundChangeIds = s.inboundChangeIds := rfl

@[simp] theorem succeed_awaited :
    (s.succeed frame next changes kind completedAt).1.awaited = none := rfl

end Ends

/-! ## The start of a sync -/

theorem mirrored_of_valid {canonical : MirrorCanonicalState}
    (h : s.validateCanonical canonical = .ok none) :
    Mirrored s.mirror.toMirrorConfiguration canonical := by
  simp only [validateCanonical, bind_eq_ok, exists_unit, pure_eq_ok] at h
  obtain ⟨-, -, -, h⟩ := h
  split at h
  · cases h
  · split at h
    · cases h
    · split at h
      · cases h
      · split at h
        · cases h
        · rename_i hverified
          split at h
          · cases h
          · rename_i hdisclosed
            exact ⟨Bool.eq_false_iff.not_left.mp hverified, not_not.mp hdisclosed⟩

/-- How `sync` ends its first stretch. -/
inductive SyncExit (services : MirrorServices) (s : MirrorCoordinator) (input : MirrorSyncInput) :
    SyncOutcome × MirrorCoordinator → Prop
  | threw {error s'} (hkeeps : s.Keeps s') : SyncExit services s input (.threw error, s')
  | replayed {previous} (hrecorded : s.idempotency.get? input.idempotencyKey = some previous) :
      SyncExit services s input (.replayed previous, s)
  | invalid {s' frame failure completedAt} (hkeeps : s.Keeps s') (hinput : frame.input = input)
      (hkey : trim input.idempotencyKey ≠ "") (hnew : s.idempotency.get? input.idempotencyKey = none)
      (hinvalid : s.validateCanonical input.canonical = .ok (some failure)) :
      SyncExit services s input (s'.fail frame failure .blocked none none completedAt)
  | inspects {s' frame request} (hkeeps : s.Keeps s') (hinput : frame.input = input)
      (hnew : s.idempotency.get? input.idempotencyKey = none)
      (hsound : frame.Sound services s.mirror.toMirrorConfiguration) :
      SyncExit services s input (.awaits (.inspect frame request), s')

theorem sync_exit (input : MirrorSyncInput) (clock : Clock) :
    SyncExit services s input (s.sync services input clock) := by
  unfold sync
  cases hkey : nonEmpty input.idempotencyKey "mirror.idempotencyKey" with
  | error error => exact .threw .rfl
  | ok _ =>
    replace hkey := require_eq_ok.mp hkey
    simp only []
    cases hrecorded : s.idempotency.get? input.idempotencyKey with
    | some previous => exact .replayed hrecorded
    | none =>
      have hkeeps := keeps_record (s := s) (s.startSync services input (clock 0))
      have hvalidate : (s.record (s.startSync services input (clock 0))).validateCanonical
          input.canonical = s.validateCanonical input.canonical := rfl
      simp only [hvalidate]
      cases hvalid : s.validateCanonical input.canonical with
      | error error => exact .threw hkeeps
      | ok found =>
        cases found with
        | some failure => exact .invalid hkeeps rfl hkey hrecorded hvalid
        | none => exact .inspects hkeeps rfl hrecorded ⟨rfl, mirrored_of_valid hvalid, rfl⟩

/-- A resumed sync is a sync, unless its checkpoint is not known. -/
theorem resume_exit (input : MirrorSyncInput) (checkpointId : String) (clock : Clock) :
    ∃ resumed : MirrorSyncInput,
      resumed = { input with resumeCheckpointId := resumed.resumeCheckpointId } ∧
      SyncExit services s resumed (s.resume services input checkpointId clock) := by
  unfold resume
  split
  · exact ⟨input, rfl, .threw .rfl⟩
  · exact ⟨_, rfl, sync_exit _ clock⟩

/-! ## Inbound Changes -/

/-- The commit that an update is attributed to, as a proposal has to find it. -/
def commitFor (remoteState : MirrorRemoteState) (update : MirrorRefUpdate) :
    Option MirrorRemoteCommit :=
  remoteState.commits.find? fun commit =>
    commit.ref = update.remoteRef ∧ some commit.oid = update.currentOid

theorem commitFor_eq_some {remoteState : MirrorRemoteState} {update : MirrorRefUpdate}
    {commit : MirrorRemoteCommit} (h : commitFor remoteState update = some commit) :
    commit.ref = update.remoteRef ∧ update.currentOid = some commit.oid := by
  have hfound := List.find?_some h
  rw [decide_eq_true_iff] at hfound
  exact ⟨hfound.1, hfound.2.symm⟩

/-- The update is for no mapped ref, or its commit is of an allowed disclosure and has a
Change already. -/
def Settled (s : MirrorCoordinator) (remoteState : MirrorRemoteState) (update : MirrorRefUpdate) :
    Prop :=
  mappingForRemote update.remoteRef s.mirror.refMappings = none ∨
    ∃ commit ∈ commitFor remoteState update,
      disclosureAllows s.mirror.disclosure commit.disclosure ∧
      (truthy (s.inboundChangeIds.get? (s.proposalKey commit.ref commit.oid))).isSome = true

instance (s : MirrorCoordinator) (remoteState : MirrorRemoteState) (update : MirrorRefUpdate) :
    Decidable (s.Settled remoteState update) :=
  inferInstanceAs (Decidable (_ ∨ ∃ commit ∈ commitFor remoteState update, _ ∧ _))

/-- The frame after updates whose Changes are known: more Changes may be completed, and one
is when a mapped update was passed. -/
structure Advanced (s : MirrorCoordinator) (passed : List MirrorRefUpdate)
    (inbound inbound' : InboundFrame) : Prop where
  frame : inbound'.toSyncFrame = inbound.toSyncFrame
  remoteState : inbound'.remoteState = inbound.remoteState
  remoteRefs : inbound'.remoteRefs = inbound.remoteRefs
  settled : ∀ update ∈ passed, s.Settled inbound.remoteState update
  completed : inbound.completed ≠ [] ∨ (∃ update ∈ passed,
    mappingForRemote update.remoteRef s.mirror.refMappings ≠ none) → inbound'.completed ≠ []

theorem Advanced.refl (inbound : InboundFrame) : s.Advanced [] inbound inbound :=
  ⟨Eq.refl _, Eq.refl _, Eq.refl _, nofun, fun h => h.elim id nofun⟩

theorem distinct_append_ne_nil (ids : List String) (id : String) :
    distinct (ids ++ [id]) ≠ [] :=
  List.ne_nil_of_mem (mem_distinct.mpr (List.mem_append_right _ (List.mem_singleton_self id)))

/-- The update is for a mapped ref and has no commit of an allowed disclosure. -/
def RefusedUpdate (s : MirrorCoordinator) (remoteState : MirrorRemoteState)
    (update : MirrorRefUpdate) : Prop :=
  mappingForRemote update.remoteRef s.mirror.refMappings ≠ none ∧
    ∀ commit ∈ commitFor remoteState update,
      ¬ disclosureAllows s.mirror.disclosure commit.disclosure

instance (s : MirrorCoordinator) (remoteState : MirrorRemoteState) (update : MirrorRefUpdate) :
    Decidable (s.RefusedUpdate remoteState update) :=
  inferInstanceAs (Decidable (_ ∧ ∀ commit ∈ commitFor remoteState update, _))

/-- A Change for a mapped update is asked for. -/
structure Proposes (s : MirrorCoordinator) (remoteState : MirrorRemoteState)
    (update : MirrorRefUpdate) (key : String) (proposal : MirrorInboundChangeInput) : Prop where
  mapped : mappingForRemote update.remoteRef s.mirror.refMappings ≠ none
  found : commitFor remoteState update = some proposal.remoteCommit
  keyed : key = s.proposalKey proposal.remoteCommit.ref proposal.remoteCommit.oid
  unknown : truthy (s.inboundChangeIds.get? key) = none
  origin : proposal.origin.kind = .mirror ∧
    proposal.origin.remoteRef = some proposal.remoteCommit.ref ∧
    proposal.origin.remoteCommit = some proposal.remoteCommit.oid
  disclosed : disclosureAllows s.mirror.disclosure proposal.remoteCommit.disclosure

/-- The first update that is not settled. -/
def nextUpdate (s : MirrorCoordinator) (remoteState : MirrorRemoteState)
    (updates : List MirrorRefUpdate) : Option MirrorRefUpdate :=
  updates.find? fun update => ¬ s.Settled remoteState update

theorem nextUpdate_of_passed {remoteState : MirrorRemoteState} {passed rest : List MirrorRefUpdate}
    {update : MirrorRefUpdate} (hpassed : ∀ update ∈ passed, s.Settled remoteState update)
    (hupdate : ¬ s.Settled remoteState update) :
    s.nextUpdate remoteState (passed ++ update :: rest) = some update := by
  have hskipped : passed.find? (fun update => ¬ s.Settled remoteState update) = none :=
    List.find?_eq_none.mpr fun passedUpdate hmem hunsettled =>
      of_decide_eq_true hunsettled (hpassed passedUpdate hmem)
  rw [nextUpdate, List.find?_append, hskipped, Option.none_or]
  exact List.find?_cons_of_pos (decide_eq_true hupdate)

theorem RefusedUpdate.not_settled {remoteState : MirrorRemoteState} {update : MirrorRefUpdate}
    (h : s.RefusedUpdate remoteState update) : ¬ s.Settled remoteState update := by
  rintro (hunmapped | ⟨commit, hcommit, hdisclosed, -⟩)
  · exact h.1 hunmapped
  · exact h.2 commit hcommit hdisclosed

/-- How `proposeUpdates` ends. -/
inductive ProposalExit (s : MirrorCoordinator) (inbound : InboundFrame)
    (updates : List MirrorRefUpdate) (completedAt : String) : SyncOutcome × MirrorCoordinator → Prop
  | refused {inbound' passed update rest failure} (hupdates : updates = passed ++ update :: rest)
      (hadvanced : s.Advanced passed inbound inbound')
      (hrefused : s.RefusedUpdate inbound.remoteState update) :
      ProposalExit s inbound updates completedAt
        (s.fail inbound'.blocked failure .blocked inbound.remoteState.generation none completedAt)
  | asks {inbound' passed update rest key proposal} (hupdates : updates = passed ++ update :: rest)
      (hadvanced : s.Advanced passed inbound inbound')
      (hproposes : s.Proposes inbound.remoteState update key proposal) :
      ProposalExit s inbound updates completedAt
        (.awaits (.createChange inbound' key proposal rest), s)
  | exhausted {inbound'} (hadvanced : s.Advanced updates inbound inbound') :
      ProposalExit s inbound updates completedAt (s.inboundExhausted inbound' completedAt)

/-- An update whose Change is known is passed. -/
theorem ProposalExit.cons {inbound inbound' : InboundFrame} {update : MirrorRefUpdate}
    {updates : List MirrorRefUpdate} {completedAt : String}
    {ended : SyncOutcome × MirrorCoordinator} (hfirst : s.Advanced [update] inbound inbound')
    (h : ProposalExit s inbound' updates completedAt ended) :
    ProposalExit s inbound (update :: updates) completedAt ended := by
  have hthen : ∀ {passed inbound''}, s.Advanced passed inbound' inbound'' →
      s.Advanced (update :: passed) inbound inbound'' := by
    intro passed inbound'' hrest
    refine ⟨hrest.frame.trans hfirst.frame, hrest.remoteState.trans hfirst.remoteState,
      hrest.remoteRefs.trans hfirst.remoteRefs, ?_, ?_⟩
    · rintro passedUpdate hmem
      rcases List.mem_cons.mp hmem with rfl | hmem
      · exact hfirst.settled _ (List.mem_singleton_self _)
      · exact hfirst.remoteState ▸ hrest.settled _ hmem
    · rintro (hcompleted | ⟨passedUpdate, hmem, hmapped⟩)
      · exact hrest.completed (.inl (hfirst.completed (.inl hcompleted)))
      · rcases List.mem_cons.mp hmem with rfl | hmem
        · exact hrest.completed
            (.inl (hfirst.completed (.inr ⟨_, List.mem_singleton_self _, hmapped⟩)))
        · exact hrest.completed (.inr ⟨_, hmem, hmapped⟩)
  cases h with
  | refused hupdates hadvanced hrefused =>
    subst hupdates
    rw [hfirst.remoteState] at hrefused ⊢
    exact .refused rfl (hthen hadvanced) hrefused
  | asks hupdates hadvanced hproposes =>
    subst hupdates
    rw [hfirst.remoteState] at hproposes
    exact .asks rfl (hthen hadvanced) hproposes
  | exhausted hadvanced => exact .exhausted (hthen hadvanced)

theorem proposeUpdates_exit (completedAt : String) :
    ∀ (updates : List MirrorRefUpdate) (inbound : InboundFrame),
      ProposalExit s inbound updates completedAt
        (s.proposeUpdates services inbound completedAt updates)
  | [], inbound => .exhausted (.refl inbound)
  | update :: rest, inbound => by
    unfold proposeUpdates
    split
    · -- the ref is not mapped
      rename_i hunmapped
      refine .cons ⟨rfl, rfl, rfl, ?_, ?_⟩ (proposeUpdates_exit completedAt rest inbound)
      · rintro _ hmem
        exact List.mem_singleton.mp hmem ▸ .inl hunmapped
      · rintro (hcompleted | ⟨_, hmem, hmapped⟩)
        · exact hcompleted
        · exact absurd hunmapped (List.mem_singleton.mp hmem ▸ hmapped)
    · rename_i mapping hmapping
      have hmapped : mappingForRemote update.remoteRef s.mirror.refMappings ≠ none := by
        rw [hmapping]
        exact nofun
      split
      · rename_i hnone
        refine .refused (List.nil_append _).symm (.refl inbound) ⟨hmapped, ?_⟩
        intro commit hcommit
        exact absurd (hcommit : commitFor inbound.remoteState update = some commit)
          (by rw [show commitFor inbound.remoteState update = none from hnone]; exact nofun)
      · rename_i commit hcommit
        replace hcommit : commitFor inbound.remoteState update = some commit := hcommit
        split
        · rename_i hdisclosed
          refine .refused (List.nil_append _).symm (.refl inbound) ⟨hmapped, ?_⟩
          intro found hfound
          cases hcommit.symm.trans hfound
          exact hdisclosed
        · rename_i hdisclosed
          simp only []
          split
          · rename_i known hknown
            have hpassed : s.Advanced [update] inbound
                { inbound with completed := distinct (inbound.completed ++ [known]) } := by
              refine ⟨rfl, rfl, rfl, ?_, fun _ => distinct_append_ne_nil _ _⟩
              rintro _ hmem
              cases List.mem_singleton.mp hmem
              refine .inr ⟨commit, hcommit, not_not.mp hdisclosed, ?_⟩
              rw [hknown]
              rfl
            exact .cons hpassed (proposeUpdates_exit completedAt rest _)
          · rename_i hunknown
            exact .asks (List.nil_append _).symm (.refl inbound)
              ⟨hmapped, hcommit, rfl, hunknown, ⟨rfl, rfl, rfl⟩, not_not.mp hdisclosed⟩

/-- How `processInbound` ends its first stretch: there is no update to propose, or the
updates are proposed from an empty frame. -/
theorem processInbound_exit (frame : SyncFrame) (observed : Observation) (completedAt : String) :
    (relevantUpdates observed.updates = [] ∧ ∃ failure,
      s.processInbound services frame observed completedAt =
        s.fail frame failure .blocked observed.remoteState.generation none completedAt) ∨
    (relevantUpdates observed.updates ≠ [] ∧ ∃ inbound : InboundFrame,
      inbound.toSyncFrame = frame ∧ inbound.remoteState = observed.remoteState ∧
      inbound.remoteRefs = observed.remoteRefs ∧
      ProposalExit s inbound (relevantUpdates observed.updates) completedAt
        (s.processInbound services frame observed completedAt)) := by
  unfold processInbound
  split
  · rename_i hnone
    exact .inl ⟨hnone, _, rfl⟩
  · rename_i hsome
    exact .inr ⟨hsome, _, rfl, rfl, rfl, proposeUpdates_exit completedAt _ _⟩

/-- A Change with the provenance its proposal asked for. -/
def Provenance (s : MirrorCoordinator) (inbound : InboundFrame) (proposal : MirrorInboundChangeInput)
    (change : Change) : Prop :=
  change.projectId = s.mirror.projectId ∧
    change.baseProjectRevisionId = inbound.input.canonical.projectRevisionId ∧
    originMatches change.origin proposal.origin

instance (inbound : InboundFrame) (proposal : MirrorInboundChangeInput) (change : Change) :
    Decidable (s.Provenance inbound proposal change) :=
  inferInstanceAs (Decidable (_ ∧ _ ∧ _))

/-- How a sync goes on from a `createChange`. -/
inductive CreatedExit (s : MirrorCoordinator) (inbound : InboundFrame) (key : String)
    (proposal : MirrorInboundChangeInput) (rest : List MirrorRefUpdate)
    (answer : MirrorAnswer Change) (completedAt : String) : SyncOutcome × MirrorCoordinator → Prop
  | failed {failure}
      (hfailed : answer.caught (s.createException proposal.remoteCommit) = .failed failure) :
      CreatedExit s inbound key proposal rest answer completedAt
        (s.fail inbound.blocked failure (classifyProviderState failure false)
          inbound.remoteState.generation none completedAt)
  | mismatched {change failure} (hanswer : answer = .returned (.succeeded change))
      (hmismatch : ¬ s.Provenance inbound proposal change) :
      CreatedExit s inbound key proposal rest answer completedAt
        (s.fail inbound.blocked failure .blocked inbound.remoteState.generation none completedAt)
  | accepted {change s' ended} (hanswer : answer = .returned (.succeeded change))
      (hmatches : s.Provenance inbound proposal change) (hmirror : s'.mirror = s.mirror)
      (hidempotency : s'.idempotency = s.idempotency)
      (hrecorded : s'.inboundChangeIds = s.inboundChangeIds.set key change.id)
      (hrest : ProposalExit s' (inbound.completedBy change proposal.remoteCommit.oid) rest
        completedAt ended) :
      CreatedExit s inbound key proposal rest answer completedAt ended

theorem caught_eq_succeeded {α : Type} {answer : MirrorAnswer α}
    {exception : Option String → MirrorProviderFailure} {value : α}
    (h : answer.caught exception = .succeeded value) : answer = .returned (.succeeded value) := by
  cases answer with
  | returned result => exact congrArg MirrorAnswer.returned h
  | threw errorName => cases h

theorem created_exit (inbound : InboundFrame) (key : String) (proposal : MirrorInboundChangeInput)
    (rest : List MirrorRefUpdate) (answer : MirrorAnswer Change) (clock : Clock) :
    CreatedExit s inbound key proposal rest answer (clock 0)
      (s.created services inbound key proposal rest answer clock) := by
  unfold created
  split
  · rename_i failure hfailed
    exact .failed hfailed
  · rename_i change hchange
    have hanswer := caught_eq_succeeded hchange
    split
    · rename_i hmismatch
      refine .mismatched hanswer fun hmatches => ?_
      obtain ⟨hproject, hbase, horigin⟩ := hmatches
      exact hmismatch.elim (absurd hproject) fun h => h.elim (absurd hbase) (absurd horigin)
    · rename_i hmatches
      rw [not_or, not_or, not_not, not_not, not_not] at hmatches
      simp only []
      refine .accepted hanswer hmatches ?_ ?_ ?_ (proposeUpdates_exit (clock 0) rest _)
      · rfl
      · rfl
      · rfl

/-! ## Pushes -/

/-- How a sync ends after a push. -/
inductive PushedExit (services : MirrorServices) (s : MirrorCoordinator) (frame : SyncFrame)
    (remoteState : MirrorRemoteState) (answer : MirrorAnswer MirrorRemoteState)
    (completedAt : String) : SyncOutcome × MirrorCoordinator → Prop
  | failed {generation refs failure}
      (hfailed : answer.caught (s.pushException frame) = .failed failure) :
      PushedExit services s frame remoteState answer completedAt
        (s.fail (frame.outboundApplied generation refs) failure
          (classifyProviderState failure (failure.remoteMayHaveChanged.getD false))
          remoteState.generation none completedAt)
  | mismatched {generation refs value failure} (hanswer : answer = .returned (.succeeded value)) (hdiffers : ¬ refsEqual
        (allowedRemoteRefs services value.refs s.mirror.refMappings) frame.projectedCanonical) :
      PushedExit services s frame remoteState answer completedAt
        (s.fail (frame.outboundApplied generation refs) failure .divergent value.generation none
          completedAt)
  | synchronized {generation refs value next} (hanswer : answer = .returned (.succeeded value)) (hequal : refsEqual
        (allowedRemoteRefs services value.refs s.mirror.refMappings) frame.projectedCanonical)
      (hstate : next.state = .healthy) (hcanonical : next.canonicalRefs = frame.projectedCanonical)
      (hgeneration : next.remoteGeneration = value.generation)
      (hremote : next.remoteRefs = allowedRemoteRefs services value.refs s.mirror.refMappings)
      (hpending : next.pendingInboundChangeIds = []) :
      PushedExit services s frame remoteState answer completedAt
        (s.succeed (frame.outboundApplied generation refs) next [] .outbound completedAt)

theorem pushed_exit (frame : SyncFrame) (remoteState : MirrorRemoteState) (request : MirrorPush)
    (answer : MirrorAnswer MirrorRemoteState) (clock : Clock) :
    PushedExit services s frame remoteState answer (clock 0)
      (s.pushed services frame remoteState request answer clock) := by
  unfold pushed
  split
  · rename_i failure hfailed
    exact .failed hfailed
  · rename_i value hvalue
    have hanswer := caught_eq_succeeded hvalue
    simp only []
    split
    · rename_i hdiffers
      exact .mismatched hanswer hdiffers
    · rename_i hequal
      exact .synchronized hanswer (not_not.mp hequal) rfl rfl rfl rfl rfl

/-! ## Inspections -/

/-- How a sync goes on from its comparison of an observation. -/
inductive ReconcileExit (services : MirrorServices) (s : MirrorCoordinator) (frame : SyncFrame)
    (observed : Observation) (completedAt : String) : SyncOutcome × MirrorCoordinator → Prop
  | required {failure} (hneeds : NeedsChoice s.mirror.state) (hnone : frame.input.reconciliation = none) :
      ReconcileExit services s frame observed completedAt
        (s.fail frame failure .blocked observed.remoteState.generation none completedAt)
  | forcePushed {failure} (hneeds : ¬ NeedsChoice s.mirror.state) (hforced : observed.forceUpdates ≠ [])
      (hnone : frame.input.reconciliation = none) :
      ReconcileExit services s frame observed completedAt
        (s.fail frame failure .blocked observed.remoteState.generation (some .forcePushed) completedAt)
  | synchronized {next} (hchoice : NeedsChoice s.mirror.state → frame.input.reconciliation ≠ none)
      (hequal : refsEqual frame.projectedCanonical observed.remoteRefs)
      (hstate : next.state = .healthy) (hcanonical : next.canonicalRefs = frame.projectedCanonical)
      (hgeneration : next.remoteGeneration = observed.remoteState.generation)
      (hremote : next.remoteRefs = observed.remoteRefs) (hpending : next.pendingInboundChangeIds = []) :
      ReconcileExit services s frame observed completedAt
        (s.succeed frame next [] frame.operation.kind completedAt)
  | pending {failure} (hchoice : NeedsChoice s.mirror.state → frame.input.reconciliation ≠ none)
      (hpending : s.mirror.pendingInboundChangeIds ≠ []) (hchanged : observed.canonicalChanged = true)
      (hdiffers : ¬ refsEqual frame.projectedCanonical observed.remoteRefs)
      (hwins : frame.input.reconciliation ≠ some .canonicalWins) :
      ReconcileExit services s frame observed completedAt
        (s.fail frame failure .blocked observed.remoteState.generation none completedAt)
  | diverged {failure} (hneeds : ¬ NeedsChoice s.mirror.state) (hnone : frame.input.reconciliation = none)
      (hremote : observed.remoteChanged = true) (hchanged : observed.canonicalChanged = true) :
      ReconcileExit services s frame observed completedAt
        (s.fail frame failure .blocked observed.remoteState.generation (some .divergent) completedAt)
  | inbound (hchoice : NeedsChoice s.mirror.state → frame.input.reconciliation ≠ none)
      (hunequal : ¬ (refsEqual frame.projectedCanonical observed.remoteRefs ∧
        (observed.remoteChanged ∨ observed.canonicalChanged ∨ s.mirror.pendingInboundChangeIds ≠ [])))
      (hwins : frame.input.reconciliation ≠ some .canonicalWins)
      (hproposes : (observed.remoteChanged = true ∧
        ¬ refsEqual frame.projectedCanonical observed.remoteRefs) ∨
        frame.input.reconciliation = some .remoteAsProposal) :
      ReconcileExit services s frame observed completedAt
        (s.processInbound services frame observed completedAt)
  | outbound (hchoice : NeedsChoice s.mirror.state → frame.input.reconciliation ≠ none)
      (hundecided : frame.input.reconciliation ≠ some .canonicalWins →
        s.mirror.pendingInboundChangeIds = [] ∧ observed.remoteChanged = false ∧
          observed.canonicalChanged = true ∧
          ¬ refsEqual frame.projectedCanonical observed.remoteRefs) :
      ReconcileExit services s frame observed completedAt (s.processOutbound frame observed)
  | settled {next} (hneeds : ¬ NeedsChoice s.mirror.state) (hforced : observed.forceUpdates = [])
      (hnone : frame.input.reconciliation = none)
      (hequal : refsEqual frame.projectedCanonical observed.remoteRefs →
        s.mirror.pendingInboundChangeIds = [])
      (hdiffers : ¬ refsEqual frame.projectedCanonical observed.remoteRefs →
        observed.remoteChanged = false ∧ observed.canonicalChanged = false)
      (hstate : next.state = .healthy) (hcanonical : next.canonicalRefs = frame.projectedCanonical)
      (hgeneration : next.remoteGeneration = observed.remoteState.generation)
      (hremote : next.remoteRefs = observed.remoteRefs)
      (hpending : next.pendingInboundChangeIds = s.mirror.pendingInboundChangeIds) :
      ReconcileExit services s frame observed completedAt
        (s.succeed frame next [] frame.operation.kind completedAt)

theorem reconcile_exit (frame : SyncFrame) (observed : Observation) (completedAt : String) :
    ReconcileExit services s frame observed completedAt
      (s.reconcile services frame observed completedAt) := by
  unfold reconcile
  simp only []
  split
  · rename_i hrequired
    exact .required hrequired.1 hrequired.2
  · rename_i hrequired
    have hchoice : NeedsChoice s.mirror.state → frame.input.reconciliation ≠ none :=
      fun hneeds hnone => hrequired ⟨hneeds, hnone⟩
    have hneeds : frame.input.reconciliation = none → ¬ NeedsChoice s.mirror.state :=
      fun hnone hneeds => hchoice hneeds hnone
    -- a choice is one of the two
    have hundecided : frame.input.reconciliation ≠ some .remoteAsProposal →
        frame.input.reconciliation ≠ some .canonicalWins → frame.input.reconciliation = none := by
      intro hproposal hwins
      cases hreconciliation : frame.input.reconciliation with
      | none => rfl
      | some choice => cases choice <;> simp_all
    split
    · rename_i hforced
      have hnone := hundecided hforced.2.1 hforced.2.2
      exact .forcePushed (hneeds hnone) hforced.1 hnone
    · rename_i hforced
      split
      · rename_i hsynchronized
        exact .synchronized hchoice hsynchronized.1 rfl rfl rfl rfl rfl
      · rename_i hsynchronized
        split
        · rename_i hpending
          obtain ⟨hsome, hchanged, hdiffers, hwins⟩ := hpending
          exact .pending hchoice hsome hchanged hdiffers hwins
        · rename_i hpending
          split
          · rename_i hdiverged
            obtain ⟨hremote, hchanged, -, hnone⟩ := hdiverged
            exact .diverged (hneeds hnone) hnone hremote hchanged
          · rename_i hdiverged
            split
            · rename_i hproposes
              exact .inbound hchoice hsynchronized hproposes.2 hproposes.1
            · rename_i hproposes
              split
              · rename_i hpushes
                refine .outbound hchoice fun hwins => ?_
                obtain ⟨hchanged, hdiffers⟩ := hpushes.resolve_right hwins
                refine ⟨?_, ?_, hchanged, hdiffers⟩
                · by_contra hsome
                  exact hpending ⟨hsome, hchanged, hdiffers, hwins⟩
                · by_contra hremote
                  rw [Bool.not_eq_false] at hremote
                  exact hproposes ⟨.inl ⟨hremote, hdiffers⟩, hwins⟩
              · rename_i hpushes
                have hwins : frame.input.reconciliation ≠ some .canonicalWins :=
                  fun h => hpushes (.inr h)
                have hproposal : frame.input.reconciliation ≠ some .remoteAsProposal :=
                  fun h => hproposes ⟨.inr h, hwins⟩
                have hnone := hundecided hproposal hwins
                refine .settled (hneeds hnone) ?_ hnone ?_ ?_ rfl rfl rfl rfl rfl
                · by_contra hsome
                  exact hforced ⟨hsome, hproposal, hwins⟩
                · intro hequal
                  by_contra hsome
                  exact hsynchronized ⟨hequal, .inr (.inr hsome)⟩
                · intro hdiffers
                  refine ⟨?_, ?_⟩
                  · by_contra hremote
                    rw [Bool.not_eq_false] at hremote
                    exact hproposes ⟨.inl ⟨hremote, hdiffers⟩, hwins⟩
                  · by_contra hchanged
                    rw [Bool.not_eq_false] at hchanged
                    exact hpushes (.inl ⟨hchanged, hdiffers⟩)

/-- How a sync goes on from its inspection. -/
inductive InspectedExit (services : MirrorServices) (s : MirrorCoordinator) (frame : SyncFrame)
    (answer : MirrorAnswer MirrorRemoteState) (completedAt : String) :
    SyncOutcome × MirrorCoordinator → Prop
  | failed {failure} (hfailed : answer.caught (s.inspectException frame) = .failed failure) :
      InspectedExit services s frame answer completedAt
        (s.fail frame failure (classifyProviderState failure false) none none completedAt)
  | incomplete {remoteState failure} (hanswer : answer = .returned (.succeeded remoteState))
      (hmissing : ReceiptMissing remoteState) :
      InspectedExit services s frame answer completedAt
        (s.fail frame failure .blocked none none completedAt)
  | compared {remoteState s' ended} (hanswer : answer = .returned (.succeeded remoteState))
      (hcomplete : ¬ ReceiptMissing remoteState) (hkeeps : s.Keeps s')
      (hexit : ReconcileExit services s'
        (remoteInspected frame (s.observe services frame remoteState))
        (s.observe services frame remoteState) completedAt ended) :
      InspectedExit services s frame answer completedAt ended

theorem inspected_exit (frame : SyncFrame) (answer : MirrorAnswer MirrorRemoteState) (clock : Clock) :
    InspectedExit services s frame answer (clock 0) (s.inspected services frame answer clock) := by
  unfold inspected
  split
  · rename_i failure hfailed
    exact .failed hfailed
  · rename_i remoteState hremote
    have hanswer := caught_eq_succeeded hremote
    split
    · rename_i hmissing
      exact .incomplete hanswer hmissing
    · rename_i hcomplete
      exact .compared hanswer hcomplete (keeps_checkpoint _) (reconcile_exit _ _ _)

/-! ## Pushes that are issued -/

/-- An inbound sync issues no push. -/
theorem proposal_awaits {inbound : InboundFrame} {updates : List MirrorRefUpdate}
    {completedAt : String} {ended : SyncOutcome × MirrorCoordinator} {frame : SyncFrame}
    {remoteState : MirrorRemoteState} {request : MirrorPush}
    (hexit : ProposalExit s inbound updates completedAt ended) :
    ended.1.awaited ≠ some (.push frame remoteState request) := by
  cases hexit with
  | refused =>
    rw [fail_awaited]
    exact (Option.some_ne_none _).symm
  | asks => exact fun h => MirrorCall.noConfusion (Option.some.inj h)
  | exhausted =>
    rw [inboundExhausted, succeed_awaited]
    exact (Option.some_ne_none _).symm

/-- A push is issued from an inspection, with the guards of its exit. -/
theorem reconcile_push {frame pushing : SyncFrame} {observed : Observation} {completedAt : String}
    {ended : SyncOutcome × MirrorCoordinator} {remoteState : MirrorRemoteState} {request : MirrorPush}
    (hexit : ReconcileExit services s frame observed completedAt ended)
    (hpush : ended.1.awaited = some (.push pushing remoteState request)) :
    pushing = frame ∧ request.idempotencyKey = frame.input.idempotencyKey ∧
      request.expectedRefs = observed.remoteRefs ∧ request.desiredRefs = frame.projectedCanonical ∧
      (frame.input.reconciliation ≠ some .canonicalWins →
        s.mirror.pendingInboundChangeIds = [] ∧ observed.remoteChanged = false ∧
          observed.canonicalChanged = true ∧
          ¬ refsEqual frame.projectedCanonical observed.remoteRefs) := by
  cases hexit with
  | outbound _ hundecided =>
    cases Option.some.inj hpush
    exact ⟨rfl, rfl, rfl, rfl, hundecided⟩
  | inbound =>
    rcases processInbound_exit frame observed completedAt with
      ⟨-, failure, heq⟩ | ⟨-, inbound, -, -, -, hproposal⟩
    · rw [heq, fail_awaited] at hpush
      cases hpush
    · exact absurd hpush (proposal_awaits hproposal)
  | synchronized | settled =>
    rw [succeed_awaited] at hpush
    cases hpush
  | _ =>
    rw [fail_awaited] at hpush
    cases hpush

end MirrorCoordinator

end Anyam.Portability
