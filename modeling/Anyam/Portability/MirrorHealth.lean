import Anyam.Portability.MirrorSystem

/-!
# When healthy means synchronized

Three exits of a sync record a healthy Mirror. The first records a projection that the
remote already shows. The last records whatever the remote shows, with the Changes still
pending, when nothing changed since the boundary. A push records refs that have the
length of the projection and only its refs, each possibly more than once.

- `LeftApart`: nothing changed since the boundary, where the two sides already differed.
- **`stretch_synchronized_iff`**: a stretch that records a healthy Mirror records a
  synchronized one, exactly when it neither finds the sides left apart nor a pushed ref
  listed twice.
- **`healthyMeansSynchronized_iff_of_run`**: so does a run.
-/

namespace Anyam.Portability

open Anyam.Lib Anyam.Kernel MirrorCoordinator

/-- The recorded mapped remote refs are the projection, and no inbound Change is pending. -/
def Synchronized (services : MirrorServices) (mirror : RepositoryMirror)
    (canonical : MirrorCanonicalState) : Prop :=
  (allowedRemoteRefs services mirror.remoteRefs mirror.refMappings).Perm
      (projectCanonicalRefs services canonical mirror.refMappings) ∧
    mirror.pendingInboundChangeIds = []

instance (services : MirrorServices) (mirror : RepositoryMirror) (canonical : MirrorCanonicalState) :
    Decidable (Synchronized services mirror canonical) :=
  inferInstanceAs (Decidable (_ ∧ _))

/-- A sync that succeeds and leaves the Mirror healthy leaves it synchronized. -/
def HealthyIsSynchronized (services : MirrorServices) (outcome : SyncOutcome)
    (mirror : RepositoryMirror) : Prop :=
  ∀ input value, outcome = .finished input (.succeeded value) → mirror.state = .healthy →
    Synchronized services mirror input.canonical

namespace MirrorCoordinator

/-- An inspection without a choice and without force updates finds that nothing changed
since the boundary, and that the remote does not show the projection. -/
def LeftApart (services : MirrorServices) (c : MirrorCoordinator) (frame : SyncFrame)
    (remoteState : MirrorRemoteState) : Prop :=
  ¬ ReceiptMissing remoteState ∧ ¬ NeedsChoice c.mirror.state ∧ frame.input.reconciliation = none ∧
    (c.observe services frame remoteState).forceUpdates = [] ∧
    (c.observe services frame remoteState).remoteChanged = false ∧
    (c.observe services frame remoteState).canonicalChanged = false ∧
    ¬ refsEqual frame.projectedCanonical (c.observe services frame remoteState).remoteRefs

instance (services : MirrorServices) (c : MirrorCoordinator) (frame : SyncFrame)
    (remoteState : MirrorRemoteState) : Decidable (c.LeftApart services frame remoteState) :=
  inferInstanceAs (Decidable (_ ∧ _ ∧ _ ∧ _ ∧ _ ∧ _ ∧ _))

/-- A push answer that passes the check of its refs, and lists a mapped ref twice. -/
def PushedTwice (services : MirrorServices) (c : MirrorCoordinator) (frame : SyncFrame)
    (remoteState : MirrorRemoteState) : Prop :=
  refsEqual (allowedRemoteRefs services remoteState.refs c.mirror.refMappings)
      frame.projectedCanonical ∧
    ¬ NamesDistinct (allowedRemoteRefs services remoteState.refs c.mirror.refMappings)

instance (services : MirrorServices) (c : MirrorCoordinator) (frame : SyncFrame)
    (remoteState : MirrorRemoteState) : Decidable (c.PushedTwice services frame remoteState) :=
  inferInstanceAs (Decidable (_ ∧ _))

end MirrorCoordinator

namespace MirrorSystem

/-- An event does not find the sides left apart, nor a pushed ref listed twice. -/
def SettlesSynchronized (services : MirrorServices) (s : MirrorSystem) (event : MirrorEvent) : Prop :=
  (∀ seen ∈ s.inspectedBy event, ¬ s.coordinator.LeftApart services seen.1 seen.2) ∧
    ∀ seen ∈ s.pushedBy event, ¬ s.coordinator.PushedTwice services seen.1 seen.2

instance (services : MirrorServices) (s : MirrorSystem) (event : MirrorEvent) :
    Decidable (s.SettlesSynchronized services event) :=
  inferInstanceAs (Decidable ((∀ seen ∈ s.inspectedBy event, _) ∧ ∀ seen ∈ s.pushedBy event, _))

variable {services : MirrorServices} {configuration : MirrorConfiguration} {s : MirrorSystem}
  {c c' : MirrorCoordinator} {event : MirrorEvent} {frame : SyncFrame} {remoteState : MirrorRemoteState}
  {ended : SyncOutcome × MirrorCoordinator} {completedAt : String}

/-! ## One stretch -/

theorem healthy_of_awaits {call : MirrorCall} {mirror : RepositoryMirror} :
    HealthyIsSynchronized services (.awaits call) mirror := fun _ _ h => SyncOutcome.noConfusion h

theorem healthy_fail {failure : MirrorProviderFailure} {state : MirrorState}
    {generation : Option String} {explicitState : Option MirrorState} {mirror : RepositoryMirror} :
    HealthyIsSynchronized services
      (c.fail frame failure state generation explicitState completedAt).1 mirror := by
  obtain ⟨failed, heq⟩ := @fail_outcome c frame failure state generation explicitState completedAt
  intro input value hsucceeded
  rw [heq] at hsucceeded
  cases (SyncOutcome.finished.inj hsucceeded).2

/-- A healthy success is synchronized when its remote refs are the projection. -/
theorem healthy_succeed_iff {next : MirrorBoundary} {changes : List Change}
    {kind : MirrorOperationKind} {refs : List GitRef}
    (hframe : frame.projectedCanonical =
      projectCanonicalRefs services frame.input.canonical c.mirror.refMappings)
    (hstate : next.state = .healthy)
    (hremote : next.remoteRefs = allowedRemoteRefs services refs c.mirror.refMappings) :
    HealthyIsSynchronized services (c.succeed frame next changes kind completedAt).1
        (c.succeed frame next changes kind completedAt).2.mirror ↔
      next.remoteRefs.Perm frame.projectedCanonical ∧ next.pendingInboundChangeIds = [] := by
  have hmappings : (c.succeed frame next changes kind completedAt).2.mirror.refMappings =
      c.mirror.refMappings := congrArg MirrorConfiguration.refMappings (succeed_configuration ..)
  -- restricting restricted refs again changes nothing
  have hrestricted : (allowedRemoteRefs services next.remoteRefs c.mirror.refMappings).Perm
      next.remoteRefs := by
    have hall : next.remoteRefs.filter
        (fun ref => ref.name ∈ c.mirror.refMappings.map MirrorRefMapping.remoteRef) =
          next.remoteRefs := by
      refine List.filter_eq_self.mpr fun ref href => decide_eq_true ?_
      rw [hremote] at href
      exact (mem_allowedRemoteRefs.mp href).2
    exact sortedByName_perm.trans (.of_eq hall)
  have hsynchronized : Synchronized services (c.succeed frame next changes kind completedAt).2.mirror
      frame.input.canonical ↔
        next.remoteRefs.Perm frame.projectedCanonical ∧ next.pendingInboundChangeIds = [] := by
    rw [Synchronized, hmappings, succeed_remoteRefs, succeed_pending, ← hframe]
    exact and_congr_left fun _ => ⟨hrestricted.symm.trans, hrestricted.trans⟩
  obtain ⟨value, houtcome, -⟩ := @succeed_outcome c frame next changes kind completedAt
  rw [← hsynchronized]
  constructor
  · intro h
    exact h _ _ houtcome (by rw [succeed_state, hstate])
  · intro h input value' heq _
    rw [houtcome] at heq
    cases (SyncOutcome.finished.inj heq).1
    exact h

/-- An inbound sync does not leave the Mirror healthy. -/
theorem healthy_proposal {inbound : InboundFrame} {updates : List MirrorRefUpdate}
    (hexit : ProposalExit c inbound updates completedAt ended) :
    HealthyIsSynchronized services ended.1 ended.2.mirror := by
  cases hexit with
  | refused => exact healthy_fail
  | asks => exact healthy_of_awaits
  | exhausted =>
    intro _ _ _ hhealthy
    rw [inboundExhausted, succeed_state] at hhealthy
    cases hhealthy

/-- An inspection with a receipt leaves a healthy Mirror synchronized, unless it finds the
sides left apart. -/
theorem healthy_reconcile_iff (hmappings : RemoteRefsDistinct c.mirror.refMappings)
    (hframe : frame.Sound services c.mirror.toMirrorConfiguration)
    (hcomplete : ¬ ReceiptMissing remoteState) (hmirror : c'.mirror = c.mirror)
    (hexit : ReconcileExit services c' (remoteInspected frame (c.observe services frame remoteState))
      (c.observe services frame remoteState) completedAt ended) :
    HealthyIsSynchronized services ended.1 ended.2.mirror ↔
      ¬ c.LeftApart services frame remoteState := by
  have hprojected : NamesDistinct frame.projectedCanonical :=
    hframe.projected ▸ projectCanonicalRefs_namesDistinct _ hmappings
  have hframe' : (remoteInspected frame (c.observe services frame remoteState)).projectedCanonical =
      projectCanonicalRefs services frame.input.canonical c'.mirror.refMappings := by
    rw [hmirror]
    exact hframe.projected
  have hrefs : (c.observe services frame remoteState).remoteRefs =
      allowedRemoteRefs services remoteState.refs c'.mirror.refMappings := by
    rw [hmirror]
    rfl
  cases hexit with
  | settled hneeds hforced hnone hequal hdiffers hstate _ _ hremote hpending =>
    rw [healthy_succeed_iff hframe' hstate (hremote.trans hrefs), hremote, hpending]
    rw [hmirror] at hneeds hequal ⊢
    constructor
    · rintro ⟨hperm, -⟩ hapart
      exact hapart.2.2.2.2.2.2 ((refsEqual_iff_perm hprojected).mpr hperm.symm)
    · intro hkept
      have heq : refsEqual frame.projectedCanonical
          (c.observe services frame remoteState).remoteRefs := by
        by_contra hdiffer
        obtain ⟨hremoteStays, hcanonicalStays⟩ := hdiffers hdiffer
        exact hkept ⟨hcomplete, hneeds, hnone, hforced, hremoteStays, hcanonicalStays, hdiffer⟩
      exact ⟨((refsEqual_iff_perm hprojected).mp heq).symm, hequal heq⟩
  | synchronized _ hequal hstate _ _ hremote hpending =>
    rw [healthy_succeed_iff hframe' hstate (hremote.trans hrefs), hremote, hpending]
    refine iff_of_true ⟨((refsEqual_iff_perm hprojected).mp hequal).symm, rfl⟩ ?_
    exact fun hapart => hapart.2.2.2.2.2.2 hequal
  | required hneeds =>
    exact iff_of_true healthy_fail fun hapart => hapart.2.1 (hmirror ▸ hneeds)
  | forcePushed _ hforced =>
    exact iff_of_true healthy_fail fun hapart => hforced hapart.2.2.2.1
  | pending _ _ hchanged =>
    refine iff_of_true healthy_fail fun hapart => ?_
    rw [hapart.2.2.2.2.2.1] at hchanged
    cases hchanged
  | diverged _ _ hremote =>
    refine iff_of_true healthy_fail fun hapart => ?_
    rw [hapart.2.2.2.2.1] at hremote
    cases hremote
  | inbound _ _ _ hproposes =>
    refine iff_of_true ?_ fun hapart => ?_
    · rcases processInbound_exit _ (c.observe services frame remoteState) completedAt with
        ⟨-, failure, heq⟩ | ⟨-, inbound, -, -, -, hproposal⟩
      · rw [heq]
        exact healthy_fail
      · exact healthy_proposal hproposal
    · -- a proposal needs a change of the remote, or a choice
      rcases hproposes with ⟨hremote, -⟩ | hchoice
      · rw [hapart.2.2.2.2.1] at hremote
        cases hremote
      · exact Option.some_ne_none _ (hchoice.symm.trans hapart.2.2.1)
  | outbound _ hundecided =>
    refine iff_of_true healthy_of_awaits fun hapart => ?_
    obtain ⟨-, -, hchanged, -⟩ := hundecided fun hwins =>
      Option.some_ne_none _ (hwins.symm.trans hapart.2.2.1)
    rw [hapart.2.2.2.2.2.1] at hchanged
    cases hchanged

/-- **One stretch** that leaves the Mirror healthy leaves it synchronized, exactly when the
event settles it so. -/
theorem stretch_synchronized_iff {task : Nat} (hs : s.Sound services configuration)
    (hmappings : RemoteRefsDistinct configuration.refMappings)
    (h : Stretch services s event task ended) :
    HealthyIsSynchronized services ended.1 ended.2.mirror ↔ s.SettlesSynchronized services event := by
  have hmapped : RemoteRefsDistinct s.coordinator.mirror.refMappings := hs.configured ▸ hmappings
  have hsync : ∀ {input}, SyncExit services s.coordinator input ended →
      HealthyIsSynchronized services ended.1 ended.2.mirror := by
    intro input hexit
    cases hexit with
    | threw | replayed => exact fun _ _ h => SyncOutcome.noConfusion h
    | invalid => exact healthy_fail
    | inspects => exact healthy_of_awaits
  -- an event that reports neither an inspection nor a push
  have hother : s.inspectedBy event = none → s.pushedBy event = none →
      s.SettlesSynchronized services event := by
    intro hinspected hpushed
    rw [SettlesSynchronized, hinspected, hpushed]
    exact ⟨fun _ h => absurd h (Option.not_mem_none _), fun _ h => absurd h (Option.not_mem_none _)⟩
  cases h with
  | began hexit => exact iff_of_true (hsync hexit) (hother rfl rfl)
  | resumed _ hexit => exact iff_of_true (hsync hexit) (hother rfl rfl)
  | created hcall hexit =>
    refine iff_of_true ?_ (hother rfl rfl)
    cases hexit with
    | failed => exact healthy_fail
    | mismatched => exact healthy_fail
    | accepted _ _ _ _ _ hrest => exact healthy_proposal hrest
  | @inspected _ frame _ answer _ _ hcall hexit =>
    have hframe : frame.Sound services configuration := (hs.inFlight _ _ hcall).2
    rw [← hs.configured] at hframe
    cases hexit with
    | failed hfailed =>
      refine iff_of_true healthy_fail (hother ?_ rfl)
      -- an answer that failed reports no remote state
      obtain ⟨_ | _⟩ | _ := answer
      · cases hfailed
      · rfl
      · rfl
    | incomplete hanswer hmissing =>
      subst hanswer
      refine iff_of_true healthy_fail ⟨?_, fun _ h => absurd h (Option.not_mem_none _)⟩
      rw [inspectedBy_of_call hcall]
      rintro seen hseen hapart
      cases Option.some.inj hseen
      exact hapart.1 hmissing
    | compared hanswer hcomplete hkeeps hreconcile =>
      subst hanswer
      rw [healthy_reconcile_iff hmapped hframe hcomplete hkeeps.mirror hreconcile]
      rw [SettlesSynchronized, inspectedBy_of_call hcall]
      constructor
      · intro hkept
        refine ⟨fun seen hseen => ?_, fun _ h => absurd h (Option.not_mem_none _)⟩
        cases Option.some.inj hseen
        exact hkept
      · exact fun hkept => hkept.1 (frame, _) (Option.mem_some_self _)
  | @pushed _ frame _ _ answer _ _ hcall hexit =>
    have hframe : frame.Sound services configuration := (hs.inFlight _ _ hcall).2.1
    rw [← hs.configured] at hframe
    cases hexit with
    | failed hfailed =>
      refine iff_of_true healthy_fail (hother rfl ?_)
      obtain ⟨_ | _⟩ | _ := answer
      · cases hfailed
      · rfl
      · rfl
    | mismatched hanswer hdiffers =>
      subst hanswer
      refine iff_of_true healthy_fail ⟨fun _ h => absurd h (Option.not_mem_none _), ?_⟩
      rw [pushedBy_of_call hcall]
      rintro seen hseen htwice
      cases Option.some.inj hseen
      exact hdiffers htwice.1
    | @synchronized generation refs value next hanswer hequal hstate hcanonical _ hremote hpending =>
      subst hanswer
      have hprojected : NamesDistinct frame.projectedCanonical :=
        hframe.projected ▸ projectCanonicalRefs_namesDistinct _ hmapped
      have happlied : (frame.outboundApplied generation refs).projectedCanonical =
          projectCanonicalRefs services (frame.outboundApplied generation refs).input.canonical
            s.coordinator.mirror.refMappings := hframe.projected
      rw [healthy_succeed_iff happlied hstate hremote, hremote, hpending]
      rw [SettlesSynchronized, pushedBy_of_call hcall]
      constructor
      · rintro ⟨hperm, -⟩
        refine ⟨fun _ h => absurd h (Option.not_mem_none _), fun seen hseen htwice => ?_⟩
        cases Option.some.inj hseen
        exact htwice.2 (hprojected.perm hperm.symm)
      · rintro ⟨-, honce⟩
        have hdistinct : NamesDistinct
            (allowedRemoteRefs services value.refs s.coordinator.mirror.refMappings) := by
          by_contra hrepeats
          exact honce (frame, value) rfl ⟨hequal, hrepeats⟩
        exact ⟨(refsEqual_iff_perm hdistinct).mp hequal, rfl⟩

/-! ## Runs -/

/-- Every sync of a run that succeeds and leaves the Mirror healthy leaves it
synchronized. -/
def HealthyMeansSynchronized (services : MirrorServices) (tr : List MirrorTransition) : Prop :=
  ∀ t ∈ tr, ∀ done ∈ t.reply.succeeded, t.post.coordinator.mirror.state = .healthy →
    Synchronized services t.post.coordinator.mirror done.1.canonical

instance (services : MirrorServices) (tr : List MirrorTransition) :
    Decidable (HealthyMeansSynchronized services tr) :=
  inferInstanceAs (Decidable (∀ t ∈ tr, ∀ done ∈ t.reply.succeeded,
    t.post.coordinator.mirror.state = .healthy →
      Synchronized services t.post.coordinator.mirror done.1.canonical))

theorem succeeded_ended {task : Nat} {outcome : SyncOutcome} {mirror : RepositoryMirror} :
    (∀ done ∈ (MirrorReply.ended task outcome).succeeded, mirror.state = .healthy →
      Synchronized services mirror done.1.canonical) ↔
      HealthyIsSynchronized services outcome mirror := by
  constructor
  · rintro h input value rfl
    exact h (input, value) rfl
  · rintro h ⟨input, value⟩ hdone
    refine h input value ?_
    unfold MirrorReply.succeeded at hdone
    split at hdone
    · rename_i heq
      cases Option.some.inj hdone
      exact (MirrorReply.ended.inj heq).2
    · cases hdone

/-- An event that answers no call reports nothing. -/
theorem settlesSynchronized_of_idle (hidle : step services event s = (.idle, s)) :
    s.SettlesSynchronized services event := by
  refine ⟨fun seen hseen => ?_, fun seen hseen => ?_⟩
  · obtain ⟨task, request, clock, rfl, hcall⟩ := inspectedBy_eq_some hseen
    simp only [step, hcall] at hidle
    cases congrArg Prod.fst hidle
  · obtain ⟨task, expected, request, clock, rfl, hcall⟩ := pushedBy_eq_some hseen
    simp only [step, hcall] at hidle
    cases congrArg Prod.fst hidle

variable {mirror : RepositoryMirror} {sourceSpaceClassification : SourceSpaceClassification}
  {tr : List MirrorTransition} {ok : MirrorSystem → MirrorEvent → Prop}

/-- **Healthy means synchronized** in a run exactly when each of its events settles so: no
inspection finds the sides left apart, and no push lists a mapped ref twice. -/
theorem healthyMeansSynchronized_iff_of_run
    (hnew : MirrorCoordinator.create mirror sourceSpaceClassification = .ok c)
    (hrun : RunFrom services c ok tr s) :
    HealthyMeansSynchronized services tr ↔ ∀ t ∈ tr, t.pre.SettlesSynchronized services t.op := by
  obtain ⟨rfl, hmappings⟩ := create_eq_ok hnew
  refine forall₂_congr fun t ht => ?_
  obtain ⟨hs, ⟨hidle, hreply⟩ | ⟨task, ended, hstretch, hreply, hpost⟩⟩ := sound_transition hrun ht
  · refine iff_of_true (fun done hdone => ?_) (settlesSynchronized_of_idle hidle)
    rw [hreply] at hdone
    cases hdone
  · rw [hreply, hpost]
    exact succeeded_ended.trans (stretch_synchronized_iff hs hmappings hstretch)

end MirrorSystem

open MirrorSystem

namespace Sample

/-- After the first push a remote commit becomes a Change, and a third sync finds nothing
new. -/
def proposedThenSynced : List MirrorEvent :=
  firstPush ++ [syncOf "k2" "r1" [("main", "a")] none,
    inspectedAs 1 "g2" [("main", "b")] [("main", "b")], createdAs 1 "change" "r1" "main" "b",
    syncOf "k3" "r1" [("main", "a")] none, inspectedAs 2 "g2" [("main", "b")] []]

end Sample

theorem healthyMeansSynchronized_iff_of_run_sample :
    HealthyMeansSynchronized Sample.mirrorServices (Sample.mirrorRan Sample.firstPush).1 := by
  have hrun : RunFrom Sample.mirrorServices (.initial Sample.publicMirror .public) Sequential
      (Sample.mirrorRan Sample.firstPush).1 (Sample.mirrorRan Sample.firstPush).2 :=
    run_exec (by decide +kernel)
  exact (healthyMeansSynchronized_iff_of_run Sample.publicMirror_created hrun).mpr (by decide +kernel)

/-- A sync that finds nothing new declares a Mirror healthy whose remote shows a commit
that canonical does not have, with its Change still pending. -/
theorem lagging_mirror_declared_healthy :
    Admits (step Sample.mirrorServices) Sequential (.start (.initial Sample.publicMirror .public))
        Sample.proposedThenSynced ∧
      ¬ HealthyMeansSynchronized Sample.mirrorServices
        (Sample.mirrorRan Sample.proposedThenSynced).1 := by
  decide +kernel

end Anyam.Portability
