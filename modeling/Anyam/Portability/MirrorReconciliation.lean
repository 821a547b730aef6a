import Anyam.Portability.MirrorSystem

/-!
# The choice a rewritten or divergent Mirror needs

A Mirror that is force-pushed or divergent refuses a sync without a choice. Every failure
writes the state it is classified as over the recorded one, and the refusal itself writes
`blocked`, after which the next sync is not refused.

- `KeepsChoice`: what an event has to be like, in a state that needs a choice, for the
  need to survive it.
- **`step_keepsChoice`**: such an event keeps the need, or a sync with a choice succeeds.
- **`reconciliationDurable_of_run`**: in a run of such events the need is durable.
-/

namespace Anyam.Portability

open Anyam.Lib Anyam.Kernel MirrorCoordinator

namespace MirrorCoordinator

/-! ## Events that keep the need -/

/-- A sync is not failed for its canonical state: it throws, is replayed, or goes on. -/
def StartKeepsChoice (c : MirrorCoordinator) (input : MirrorSyncInput) : Prop :=
  trim input.idempotencyKey = "" ∨ c.idempotency.get? input.idempotencyKey ≠ none ∨
    ∀ found ∈ (c.validateCanonical input.canonical).toOption, found = none

instance (c : MirrorCoordinator) (input : MirrorSyncInput) : Decidable (c.StartKeepsChoice input) :=
  inferInstanceAs (Decidable (_ ∨ _ ∨ ∀ found ∈ (c.validateCanonical input.canonical).toOption, _))

/-- A failure that is classified as divergent. -/
def StaysDivergent {α : Type} (result : MirrorProviderResult α)
    (remoteMayHaveChanged : MirrorProviderFailure → Bool) : Prop :=
  ∀ failure ∈ result.failure, classifyProviderState failure (remoteMayHaveChanged failure) = .divergent

instance {α : Type} (result : MirrorProviderResult α)
    (remoteMayHaveChanged : MirrorProviderFailure → Bool) :
    Decidable (StaysDivergent result remoteMayHaveChanged) :=
  inferInstanceAs (Decidable (∀ failure ∈ result.failure, _))

/-- The first update that is not settled, if there is one, can be proposed. -/
def NextProposable (c : MirrorCoordinator) (remoteState : MirrorRemoteState)
    (updates : List MirrorRefUpdate) : Prop :=
  ∀ update ∈ c.nextUpdate remoteState updates, ¬ c.RefusedUpdate remoteState update

instance (c : MirrorCoordinator) (remoteState : MirrorRemoteState) (updates : List MirrorRefUpdate) :
    Decidable (c.NextProposable remoteState updates) :=
  inferInstanceAs (Decidable (∀ update ∈ c.nextUpdate remoteState updates, _))

/-- `remote-as-proposal` finds the remote at the projection, or can propose it. -/
def ProposalKeepsChoice (services : MirrorServices) (c : MirrorCoordinator) (frame : SyncFrame)
    (remoteState : MirrorRemoteState) : Prop :=
  let observed := c.observe services frame remoteState
  (refsEqual frame.projectedCanonical observed.remoteRefs ∧
      (observed.remoteChanged ∨ observed.canonicalChanged ∨ c.mirror.pendingInboundChangeIds ≠ [])) ∨
    (¬ (c.mirror.pendingInboundChangeIds ≠ [] ∧ observed.canonicalChanged ∧
        ¬ refsEqual frame.projectedCanonical observed.remoteRefs) ∧
      relevantUpdates observed.updates ≠ [] ∧
      c.NextProposable remoteState (relevantUpdates observed.updates))

instance (services : MirrorServices) (c : MirrorCoordinator) (frame : SyncFrame)
    (remoteState : MirrorRemoteState) :
    Decidable (c.ProposalKeepsChoice services frame remoteState) :=
  inferInstanceAs (Decidable (_ ∨ _))

/-- An inspection fails as divergent, or is for a sync with a choice that can go on. -/
def InspectionKeepsChoice (services : MirrorServices) (c : MirrorCoordinator) (frame : SyncFrame)
    (answer : MirrorAnswer MirrorRemoteState) : Prop :=
  StaysDivergent (answer.caught (c.inspectException frame)) (fun _ => false) ∧
    ∀ remoteState ∈ (answer.caught (c.inspectException frame)).value,
      frame.input.reconciliation ≠ none ∧ ¬ ReceiptMissing remoteState ∧
      (frame.input.reconciliation = some .remoteAsProposal →
        c.ProposalKeepsChoice services frame remoteState)

instance (services : MirrorServices) (c : MirrorCoordinator) (frame : SyncFrame)
    (answer : MirrorAnswer MirrorRemoteState) :
    Decidable (c.InspectionKeepsChoice services frame answer) :=
  inferInstanceAs (Decidable (_ ∧
    ∀ remoteState ∈ (answer.caught (c.inspectException frame)).value, _))

/-- A `createChange` fails as divergent, or its Change is accepted and the updates after it
can be proposed; the last one for a sync with a choice. -/
def CreationKeepsChoice (c : MirrorCoordinator) (awaited : AwaitedChange)
    (answer : MirrorAnswer Change) : Prop :=
  let inbound := awaited.inbound
  StaysDivergent (answer.caught (c.createException awaited.proposal.remoteCommit)) (fun _ => false) ∧
    ∀ change ∈ (answer.caught (c.createException awaited.proposal.remoteCommit)).value,
      let known := { c with inboundChangeIds := c.inboundChangeIds.set awaited.key change.id }
      c.Provenance inbound awaited.proposal change ∧
      known.NextProposable inbound.remoteState awaited.rest ∧
      (known.nextUpdate inbound.remoteState awaited.rest = none →
        inbound.input.reconciliation ≠ none)

instance (c : MirrorCoordinator) (awaited : AwaitedChange) (answer : MirrorAnswer Change) :
    Decidable (c.CreationKeepsChoice awaited answer) :=
  inferInstanceAs (Decidable (_ ∧ ∀ change ∈
    (answer.caught (c.createException awaited.proposal.remoteCommit)).value, _ ∧ _ ∧ _))

/-- A push fails as divergent, or returns other refs, or is for a sync with a choice. -/
def PushKeepsChoice (services : MirrorServices) (c : MirrorCoordinator) (frame : SyncFrame)
    (answer : MirrorAnswer MirrorRemoteState) : Prop :=
  StaysDivergent (answer.caught (c.pushException frame))
      (fun failure => failure.remoteMayHaveChanged.getD false) ∧
    ∀ value ∈ (answer.caught (c.pushException frame)).value,
      refsEqual (allowedRemoteRefs services value.refs c.mirror.refMappings)
        frame.projectedCanonical → frame.input.reconciliation ≠ none

instance (services : MirrorServices) (c : MirrorCoordinator) (frame : SyncFrame)
    (answer : MirrorAnswer MirrorRemoteState) : Decidable (c.PushKeepsChoice services frame answer) :=
  inferInstanceAs (Decidable (_ ∧ ∀ value ∈ (answer.caught (c.pushException frame)).value, _))

end MirrorCoordinator

namespace MirrorSystem

/-- In a state that needs a choice, the event keeps the need or lets a choice go on. -/
def KeepsChoice (services : MirrorServices) (s : MirrorSystem) (event : MirrorEvent) : Prop :=
  NeedsChoice s.coordinator.mirror.state →
    match event with
    | .sync input _ | .resume input _ _ => s.coordinator.StartKeepsChoice input
    | .inspected task answer _ => ∀ frame ∈ s.inspecting task,
        s.coordinator.InspectionKeepsChoice services frame answer
    | .created task answer _ => ∀ awaited ∈ s.creating task,
        s.coordinator.CreationKeepsChoice awaited answer
    | .pushed task answer _ => ∀ frame ∈ s.pushing task,
        s.coordinator.PushKeepsChoice services frame answer

instance (services : MirrorServices) (s : MirrorSystem) (event : MirrorEvent) :
    Decidable (s.KeepsChoice services event) :=
  match event with
  | .sync input _ => inferInstanceAs (Decidable (_ → s.coordinator.StartKeepsChoice input))
  | .resume input _ _ => inferInstanceAs (Decidable (_ → s.coordinator.StartKeepsChoice input))
  | .inspected task answer _ => inferInstanceAs (Decidable (_ → ∀ frame ∈ s.inspecting task,
      s.coordinator.InspectionKeepsChoice services frame answer))
  | .created task answer _ => inferInstanceAs (Decidable (_ → ∀ awaited ∈ s.creating task,
      s.coordinator.CreationKeepsChoice awaited answer))
  | .pushed task answer _ => inferInstanceAs (Decidable (_ → ∀ frame ∈ s.pushing task,
      s.coordinator.PushKeepsChoice services frame answer))

variable {services : MirrorServices} {s : MirrorSystem} {c c' : MirrorCoordinator}
  {event : MirrorEvent} {frame : SyncFrame} {remoteState : MirrorRemoteState}
  {ended : SyncOutcome × MirrorCoordinator} {completedAt : String}

/-! ## One stretch -/

/-- A stretch after which the Mirror still needs a choice and no sync succeeded, or in
which a sync with a choice succeeded. -/
def KeptChoice (ended : SyncOutcome × MirrorCoordinator) : Prop :=
  (NeedsChoice ended.2.mirror.state ∧ ∀ input value, ended.1 ≠ .finished input (.succeeded value)) ∨
    ∃ input value, ended.1 = .finished input (.succeeded value) ∧ input.reconciliation ≠ none

theorem keptChoice_fail {failure : MirrorProviderFailure} {state : MirrorState}
    {generation : Option String} {explicitState : Option MirrorState}
    (hneeds : NeedsChoice (explicitState.getD state)) :
    KeptChoice (c.fail frame failure state generation explicitState completedAt) := by
  refine .inl ⟨by rw [fail_state]; exact hneeds, fun input value heq => ?_⟩
  obtain ⟨failed, hfailed⟩ := @fail_outcome c frame failure state generation explicitState completedAt
  rw [hfailed] at heq
  cases (SyncOutcome.finished.inj heq).2

theorem keptChoice_succeed {next : MirrorBoundary} {changes : List Change}
    {kind : MirrorOperationKind} (hchoice : frame.input.reconciliation ≠ none) :
    KeptChoice (c.succeed frame next changes kind completedAt) := by
  obtain ⟨value, hvalue, -⟩ := @succeed_outcome c frame next changes kind completedAt
  exact .inr ⟨frame.input, value, hvalue, hchoice⟩

theorem keptChoice_awaits {call : MirrorCall} (hneeds : NeedsChoice c.mirror.state) :
    KeptChoice (.awaits call, c) := .inl ⟨hneeds, fun _ _ h => SyncOutcome.noConfusion h⟩

theorem keptChoice_proposal {inbound : InboundFrame} {updates : List MirrorRefUpdate}
    (hneeds : NeedsChoice c.mirror.state) (hnext : c.NextProposable inbound.remoteState updates)
    (hchoice : c.nextUpdate inbound.remoteState updates = none → inbound.input.reconciliation ≠ none)
    (hexit : ProposalExit c inbound updates completedAt ended) : KeptChoice ended := by
  cases hexit with
  | refused hupdates hadvanced hrefused =>
    subst hupdates
    exact absurd hrefused
      (hnext _ (nextUpdate_of_passed hadvanced.settled hrefused.not_settled))
  | asks => exact keptChoice_awaits hneeds
  | @exhausted inbound' hadvanced =>
    have hnone : c.nextUpdate inbound.remoteState updates = none :=
      List.find?_eq_none.mpr fun update hmem hunsettled =>
        of_decide_eq_true hunsettled (hadvanced.settled update hmem)
    refine keptChoice_succeed ?_
    rw [hadvanced.frame]
    exact hchoice hnone

theorem keptChoice_sync {input : MirrorSyncInput} (hneeds : NeedsChoice c.mirror.state)
    (hok : c.StartKeepsChoice input) (hexit : SyncExit services c input ended) :
    KeptChoice ended := by
  cases hexit with
  | threw hkeeps =>
    exact .inl ⟨hkeeps.mirror ▸ hneeds, fun _ _ h => SyncOutcome.noConfusion h⟩
  | replayed => exact .inl ⟨hneeds, fun _ _ h => SyncOutcome.noConfusion h⟩
  | inspects hkeeps => exact keptChoice_awaits (hkeeps.mirror ▸ hneeds)
  | invalid _ _ hkey hnew hinvalid =>
    rcases hok with hblank | hrecorded | hvalid
    · exact absurd hblank hkey
    · exact absurd hnew hrecorded
    · have hfound := hvalid (some _) (by rw [hinvalid]; rfl)
      cases hfound

theorem keptChoice_reconcile (hneeds : NeedsChoice c.mirror.state) (hmirror : c'.mirror = c.mirror)
    (hids : c'.inboundChangeIds = c.inboundChangeIds) (hsome : frame.input.reconciliation ≠ none)
    (hok : frame.input.reconciliation = some .remoteAsProposal →
      c.ProposalKeepsChoice services frame remoteState)
    (hexit : ReconcileExit services c' (remoteInspected frame (c.observe services frame remoteState))
      (c.observe services frame remoteState) completedAt ended) : KeptChoice ended := by
  have hneeds' : NeedsChoice c'.mirror.state := hmirror ▸ hneeds
  have hproposal : frame.input.reconciliation ≠ some .canonicalWins →
      c.ProposalKeepsChoice services frame remoteState := by
    intro hwins
    refine hok ?_
    cases hreconciliation : frame.input.reconciliation with
    | none => exact absurd hreconciliation hsome
    | some choice =>
      cases choice with
      | remoteAsProposal => rfl
      | canonicalWins => exact absurd hreconciliation hwins
  cases hexit with
  | required _ hnone => exact absurd hnone hsome
  | forcePushed _ _ hnone => exact absurd hnone hsome
  | diverged _ hnone => exact absurd hnone hsome
  | settled _ _ hnone => exact absurd hnone hsome
  | synchronized => exact keptChoice_succeed hsome
  | outbound => exact keptChoice_awaits hneeds'
  | pending _ hpending hchanged hdiffers hwins =>
    rw [hmirror] at hpending
    rcases hproposal hwins with ⟨hequal, -⟩ | ⟨hfree, -⟩
    · exact absurd hequal hdiffers
    · exact absurd ⟨hpending, hchanged, hdiffers⟩ hfree
  | inbound _ hunequal hwins =>
    rw [hmirror] at hunequal
    rcases hproposal hwins with hequal | ⟨-, hupdates, hnext⟩
    · exact absurd hequal hunequal
    · rcases processInbound_exit _ (c.observe services frame remoteState) completedAt with
        ⟨hnone, -⟩ | ⟨-, inbound, hinbound, hremote, -, hexit⟩
      · exact absurd hnone hupdates
      · have hknown : c'.NextProposable inbound.remoteState
            (relevantUpdates (c.observe services frame remoteState).updates) := by
          rw [hremote]
          simp only [NextProposable, nextUpdate, Settled, RefusedUpdate, proposalKey, hmirror, hids]
          exact hnext
        refine keptChoice_proposal hneeds' hknown (fun _ => ?_) hexit
        rw [hinbound]
        exact hsome

/-- **One stretch** of an event that keeps the need keeps it, or a sync with a choice
succeeds in it. -/
theorem stretch_keepsChoice {task : Nat} (hneeds : NeedsChoice s.coordinator.mirror.state)
    (hok : s.KeepsChoice services event) (h : Stretch services s event task ended) :
    KeptChoice ended := by
  replace hok := hok hneeds
  cases h with
  | began hexit => exact keptChoice_sync hneeds hok hexit
  | @resumed input resumed _ _ _ hinput hexit =>
    have hresumed : s.coordinator.StartKeepsChoice resumed := by
      rw [hinput]
      exact hok
    exact keptChoice_sync hneeds hresumed hexit
  | inspected hcall hexit =>
    obtain ⟨hfailure, hvalue⟩ := hok _ (inspecting_eq_some.mpr ⟨_, hcall⟩)
    cases hexit with
    | @failed failure hfailed =>
      rw [hfailed] at hfailure
      have hdivergent : classifyProviderState failure false = .divergent := hfailure failure rfl
      refine keptChoice_fail ?_
      rw [Option.getD_none]
      exact .inr hdivergent
    | incomplete hanswer hmissing =>
      subst hanswer
      exact absurd hmissing (hvalue _ rfl).2.1
    | compared hanswer _ hkeeps hreconcile =>
      subst hanswer
      obtain ⟨hsome, -, hproposal⟩ := hvalue _ rfl
      exact keptChoice_reconcile hneeds hkeeps.mirror hkeeps.inboundChangeIds hsome hproposal hreconcile
  | created hcall hexit =>
    obtain ⟨hfailure, hvalue⟩ := hok ⟨_, _, _, _⟩ (creating_eq_some.mpr hcall)
    cases hexit with
    | @failed failure hfailed =>
      rw [hfailed] at hfailure
      have hdivergent : classifyProviderState failure false = .divergent := hfailure failure rfl
      refine keptChoice_fail ?_
      rw [Option.getD_none]
      exact .inr hdivergent
    | mismatched hanswer hmismatch =>
      subst hanswer
      exact absurd (hvalue _ rfl).1 hmismatch
    | accepted hanswer _ hmirror _ hrecorded hrest =>
      subst hanswer
      obtain ⟨-, hnext, hchoice⟩ := hvalue _ rfl
      refine keptChoice_proposal (hmirror ▸ hneeds) ?_ ?_ hrest
      · simp only [NextProposable, nextUpdate, Settled, RefusedUpdate, proposalKey, hmirror, hrecorded]
        exact hnext
      · simp only [nextUpdate, Settled, proposalKey, hmirror, hrecorded]
        exact hchoice
  | pushed hcall hexit =>
    obtain ⟨hfailure, hvalue⟩ := hok _ (pushing_eq_some.mpr ⟨_, _, hcall⟩)
    cases hexit with
    | @failed _ _ failure hfailed =>
      rw [hfailed] at hfailure
      have hdivergent : classifyProviderState failure (failure.remoteMayHaveChanged.getD false) =
          .divergent := hfailure failure rfl
      refine keptChoice_fail ?_
      rw [Option.getD_none]
      exact .inr hdivergent
    | mismatched => exact keptChoice_fail (.inr rfl)
    | synchronized hanswer hequal =>
      subst hanswer
      exact keptChoice_succeed (hvalue _ rfl hequal)

/-- **One event** that keeps the need keeps it and no sync succeeds, or one with a choice
does. -/
theorem step_keepsChoice (hneeds : NeedsChoice s.coordinator.mirror.state)
    (hok : s.KeepsChoice services event) :
    (NeedsChoice (step services event s).2.coordinator.mirror.state ∧
      (step services event s).1.succeeded = none) ∨
    ∃ done ∈ (step services event s).1.succeeded, done.1.reconciliation ≠ none := by
  rcases step_stretch services s event with hidle | ⟨calls, task, ended, -, -, hstretch, heq⟩
  · rw [hidle]
    exact .inl ⟨hneeds, rfl⟩
  · rw [heq]
    rcases stretch_keepsChoice hneeds hok hstretch with ⟨hkept, hnone⟩ | ⟨input, value, hdone, hchoice⟩
    · refine .inl ⟨hkept, ?_⟩
      cases hsucceeded : (s.settle calls task ended).1.succeeded with
      | none => rfl
      | some done =>
        obtain ⟨_, hended⟩ := succeeded_eq_some.mp hsucceeded
        exact absurd (MirrorReply.ended.inj hended).2 (hnone _ _)
    · have hsucceeded : (s.settle calls task ended).1.succeeded = some (input, value) :=
        succeeded_eq_some.mpr ⟨task, by rw [← hdone]; rfl⟩
      exact .inr ⟨(input, value), hsucceeded, hchoice⟩

/-! ## Runs -/

/-- A sync finished and recorded a Mirror that needs a choice. -/
def RecordsNeed (t : MirrorTransition) : Prop :=
  t.reply.finished.isSome ∧ NeedsChoice t.post.coordinator.mirror.state

instance (t : MirrorTransition) : Decidable (RecordsNeed t) := inferInstanceAs (Decidable (_ ∧ _))

/-- A sync with a choice succeeded. -/
def Reconciles (t : MirrorTransition) : Prop :=
  ∃ done ∈ t.reply.succeeded, done.1.reconciliation ≠ none

instance (t : MirrorTransition) : Decidable (Reconciles t) :=
  inferInstanceAs (Decidable (∃ done ∈ t.reply.succeeded, _))

/-- After a sync recorded the need of a choice, and until a sync with one succeeds, every
sync without one fails and leaves the need recorded. -/
def ReconciliationDurable (tr : List MirrorTransition) : Prop :=
  ∀ (i : Nat) (t : MirrorTransition), tr[i]? = some t → RecordsNeed t →
    ∀ (j : Nat) (t' : MirrorTransition), tr[j]? = some t' → i < j →
    (∀ (k : Nat) (between : MirrorTransition), tr[k]? = some between → i < k → k < j →
      ¬ Reconciles between) →
    ∀ done ∈ t'.reply.finished, done.1.reconciliation = none →
      (∃ failure, done.2 = .failed failure) ∧ NeedsChoice t'.post.coordinator.mirror.state

variable {tr : List MirrorTransition}

/-- The need survives a run of events that keep it, in which no choice succeeds. -/
theorem needsChoice_of_run {s₀ : MirrorSystem} (hneeds : NeedsChoice s₀.coordinator.mirror.state)
    (hrun : Run (step services) (KeepsChoice services) s₀ tr s)
    (hnone : ∀ t ∈ tr, ¬ Reconciles t) : NeedsChoice s.coordinator.mirror.state := by
  refine hrun.traceInvariant
    (fun tr s => (∀ t ∈ tr, ¬ Reconciles t) → NeedsChoice s.coordinator.mirror.state)
    (fun _ => hneeds) ?_ hnone
  intro tr s event hbefore hok hnone
  have hs : NeedsChoice s.coordinator.mirror.state :=
    hbefore fun t ht => hnone t (List.mem_append_left _ ht)
  rcases step_keepsChoice hs hok with ⟨hkept, -⟩ | hreconciles
  · exact hkept
  · exact absurd hreconciles (hnone _ (List.mem_append_right _ (List.mem_singleton_self _)))

/-- **The need of a choice is durable** in every run, however the syncs overlap, whose
events in a state with the need keep it. -/
theorem reconciliationDurable_of_run (hrun : RunFrom services c (KeepsChoice services) tr s) :
    ReconciliationDurable tr := by
  intro i t hi hneed j t' hj hij hbetween done hdone hnone
  obtain ⟨mid, hmid, hpositions, hof, hok⟩ := hrun.between hi hj hij
  have hs : NeedsChoice t'.pre.coordinator.mirror.state := by
    refine needsChoice_of_run hneed.2 hmid fun m hm => ?_
    obtain ⟨k, hk, hik, hkj⟩ := hpositions m hm
    exact hbetween k m hk hik hkj
  have hpost : t'.post = (step services t'.op t'.pre).2 := congrArg Transition.post hof
  have hreply : t'.reply = (step services t'.op t'.pre).1 := congrArg Transition.reply hof
  obtain ⟨task, hended⟩ := finished_eq_some.mp hdone
  rcases step_keepsChoice hs hok with ⟨hkept, hfailed⟩ | ⟨succeeded, hsucceeded, hchoice⟩
  · rw [← hpost] at hkept
    rw [← hreply, hended] at hfailed
    obtain ⟨input, value | failure⟩ := done
    · cases hfailed
    · exact ⟨⟨failure, rfl⟩, hkept⟩
  · -- the sync that finished is the one that succeeded
    rw [← hreply] at hsucceeded
    obtain ⟨_, hother⟩ := succeeded_eq_some.mp hsucceeded
    obtain ⟨hinput, -⟩ := SyncOutcome.finished.inj (MirrorReply.ended.inj (hended.symm.trans hother)).2
    rw [hinput] at hnone
    exact absurd hnone hchoice

end MirrorSystem

open MirrorSystem

namespace Sample

/-- The adapter answers an inspection with a rewrite of `main`. -/
def forcePushedAs (task : Nat) (generation : String) : MirrorEvent :=
  .inspected task (.returned (.succeeded
    (remoteStateOf generation [("main", "x")] [("main", "x")] .forcePush))) early

/-- A rewritten remote, and a choice for it. -/
def rewrittenThenChosen : List MirrorEvent :=
  firstPush ++ [syncOf "k2" "r1" [("main", "a")] none, forcePushedAs 1 "g2",
    syncOf "k3" "r1" [("main", "a")] (some .canonicalWins), inspectedAs 2 "g2" [("main", "x")] [],
    pushedAs 2 "g3" [("main", "a")]]

/-- A rewritten remote, a refused sync, and one more sync without a choice. -/
def rewrittenThenSynced : List MirrorEvent :=
  firstPush ++ [syncOf "k2" "r1" [("main", "a")] none, forcePushedAs 1 "g2",
    syncOf "k3" "r1" [("main", "a")] none, inspectedAs 2 "g2" [("main", "x")] [],
    syncOf "k4" "r2" [("main", "x")] none, inspectedAs 3 "g2" [("main", "x")] []]

end Sample

theorem reconciliationDurable_of_run_sample :
    ReconciliationDurable (Sample.mirrorRan Sample.rewrittenThenChosen).1 := by
  have hrun : RunFrom Sample.mirrorServices (.initial Sample.publicMirror .public)
      (KeepsChoice Sample.mirrorServices) (Sample.mirrorRan Sample.rewrittenThenChosen).1
      (Sample.mirrorRan Sample.rewrittenThenChosen).2 := run_exec (by decide +kernel)
  exact reconciliationDurable_of_run hrun

/-- The refusal of a sync without a choice records `blocked`, and the next sync without
one succeeds. -/
theorem refused_sync_lifts_the_need :
    Admits (step Sample.mirrorServices) Sequential (.start (.initial Sample.publicMirror .public))
        Sample.rewrittenThenSynced ∧
      ¬ ReconciliationDurable (Sample.mirrorRan Sample.rewrittenThenSynced).1 := by
  refine ⟨by decide +kernel, fun hdurable => ?_⟩
  obtain ⟨t, ht, hneed, t', ht', done, hdone, hnone, hsucceeded⟩ :
      ∃ t ∈ (Sample.mirrorRan Sample.rewrittenThenSynced).1[4]?, RecordsNeed t ∧
        ∃ t' ∈ (Sample.mirrorRan Sample.rewrittenThenSynced).1[8]?, ∃ done ∈ t'.reply.finished,
          done.1.reconciliation = none ∧ t'.reply.succeeded ≠ none := by
    decide +kernel
  have hbetween : ∀ k < 8, 4 < k → ∀ between ∈ (Sample.mirrorRan Sample.rewrittenThenSynced).1[k]?,
      ¬ Reconciles between := by
    decide +kernel
  obtain ⟨⟨failure, hfailed⟩, -⟩ := hdurable 4 t ht hneed 8 t' ht' (by decide)
    (fun k between hk h4 h8 => hbetween k h8 h4 between hk) done hdone hnone
  obtain ⟨task, hended⟩ := finished_eq_some.mp hdone
  rw [hended, hfailed] at hsucceeded
  exact hsucceeded rfl

end Anyam.Portability
