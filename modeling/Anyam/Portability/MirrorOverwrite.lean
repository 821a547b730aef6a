import Anyam.Portability.MirrorSystem

/-!
# What a push replaces

A push that was not chosen by `canonical-wins` is issued only when the remote refs are
the recorded ones, and the recorded ones are accepted canonical refs whenever no inbound
Change is pending.

- `AcceptedRefs`: the invariant (**`stretch_acceptedRefs`**).
- **`pushes_accepted_of_run`**: every push replaces only refs that were accepted, and
  carries a verified canonical state of allowed disclosure.
-/

namespace Anyam.Portability

open Anyam.Lib Anyam.Kernel MirrorCoordinator

namespace MirrorSystem

variable {services : MirrorServices} {configuration : MirrorConfiguration} {s : MirrorSystem}
  {c : MirrorCoordinator} {event : MirrorEvent} {frame : SyncFrame} {remoteState : MirrorRemoteState}
  {ended : SyncOutcome × MirrorCoordinator} {completedAt : String}

/-! ## What an inspection compares -/

/-- Nothing changed at the remote, and it is not the projection: then the remote refs are
the recorded ones. -/
theorem observed_perm_recorded (hdistinct : NamesDistinct remoteState.refs)
    (hunchanged : (observe services c frame remoteState).remoteChanged = false)
    (hdiffers : ¬ refsEqual frame.projectedCanonical
      (observe services c frame remoteState).remoteRefs) :
    (observe services c frame remoteState).remoteRefs.Perm c.mirror.remoteRefs := by
  have hobserved : NamesDistinct (observe services c frame remoteState).remoteRefs :=
    hdistinct.allowedRemoteRefs
  have hstays := of_decide_eq_false hunchanged
  by_contra hmoved
  refine hstays ⟨?_, .inl fun hequal => hmoved ((refsEqual_iff_perm hobserved).mp hequal)⟩
  -- a reflected push shows the projection
  rintro ⟨-, -, hreflected⟩
  have hperm := (refsEqual_iff_perm hobserved).mp hreflected
  exact hdiffers ((refsEqual_iff_perm (hobserved.perm hperm)).mpr hperm.symm)

/-- The canonical refs did not change: then the projection is the accepted one. -/
theorem projected_perm_accepted (hdistinct : NamesDistinct frame.projectedCanonical)
    (hunchanged : (observe services c frame remoteState).canonicalChanged = false) :
    frame.projectedCanonical.Perm c.mirror.canonicalRefs := by
  have hstays := not_or.mp (of_decide_eq_false hunchanged)
  exact (refsEqual_iff_perm hdistinct).mp (not_not.mp hstays.2)

/-! ## The invariant -/

/-- With no inbound Change pending, the recorded remote refs are the accepted ones. -/
def AcceptedRefs (mirror : RepositoryMirror) : Prop :=
  mirror.pendingInboundChangeIds = [] → NamesDistinct mirror.remoteRefs →
    mirror.remoteRefs.Perm mirror.canonicalRefs

theorem acceptedRefs_fail {failure : MirrorProviderFailure} {state : MirrorState}
    {generation : Option String} {explicitState : Option MirrorState}
    (hc : AcceptedRefs c.mirror) :
    AcceptedRefs (c.fail frame failure state generation explicitState completedAt).2.mirror := by
  intro hpending hdistinct
  rw [fail_pending] at hpending
  rw [fail_remoteRefs] at hdistinct ⊢
  rw [fail_canonicalRefs]
  exact hc hpending hdistinct

theorem acceptedRefs_succeed {next : MirrorBoundary} {changes : List Change}
    {kind : MirrorOperationKind}
    (hnext : next.pendingInboundChangeIds = [] → NamesDistinct next.remoteRefs →
      next.remoteRefs.Perm next.canonicalRefs) :
    AcceptedRefs (c.succeed frame next changes kind completedAt).2.mirror := by
  intro hpending hdistinct
  rw [succeed_pending] at hpending
  rw [succeed_remoteRefs] at hdistinct ⊢
  rw [succeed_canonicalRefs]
  exact hnext hpending hdistinct

/-- An inbound sync ends with a Change pending. -/
theorem acceptedRefs_proposal {inbound : InboundFrame} {updates : List MirrorRefUpdate}
    (hc : AcceptedRefs c.mirror)
    (hproposes : inbound.completed ≠ [] ∨ ∃ update ∈ updates,
      mappingForRemote update.remoteRef c.mirror.refMappings ≠ none)
    (hexit : ProposalExit c inbound updates completedAt ended) :
    AcceptedRefs ended.2.mirror := by
  cases hexit with
  | refused => exact acceptedRefs_fail hc
  | asks => exact hc
  | @exhausted inbound' hadvanced =>
    refine acceptedRefs_succeed fun hpending => ?_
    have hcompleted : inbound'.completed ≠ [] := hadvanced.completed hproposes
    obtain ⟨id, hid⟩ := List.exists_mem_of_ne_nil _ hcompleted
    have hmem : id ∈ distinct (c.mirror.pendingInboundChangeIds ++ inbound'.completed) :=
      mem_distinct.mpr (List.mem_append_right _ hid)
    rw [show distinct (c.mirror.pendingInboundChangeIds ++ inbound'.completed) = [] from hpending] at hmem
    exact absurd hmem List.not_mem_nil

/-- The updates of an observation are for mapped refs. -/
theorem mapped_of_observed {update : MirrorRefUpdate}
    (h : update ∈ relevantUpdates (observe services c frame remoteState).updates) :
    mappingForRemote update.remoteRef c.mirror.refMappings ≠ none := by
  have hobserved := (List.mem_filter.mp h).1
  exact of_decide_eq_true (List.mem_filter.mp hobserved).2

theorem acceptedRefs_reconcile {s' : MirrorCoordinator}
    (hmappings : RemoteRefsDistinct c.mirror.refMappings) (hmirror : s'.mirror = c.mirror)
    (hc : AcceptedRefs c.mirror) (hframe : frame.Sound services c.mirror.toMirrorConfiguration)
    (hdistinct : NamesDistinct remoteState.refs)
    (hexit : ReconcileExit services s' (remoteInspected frame (observe services c frame remoteState))
      (observe services c frame remoteState) completedAt ended) :
    AcceptedRefs ended.2.mirror := by
  have hs' : AcceptedRefs s'.mirror := hmirror ▸ hc
  have hprojected : NamesDistinct frame.projectedCanonical :=
    hframe.projected ▸ projectCanonicalRefs_namesDistinct _ hmappings
  cases hexit with
  | synchronized _ hequal _ hcanonical _ hremote _ =>
    refine acceptedRefs_succeed fun _ _ => ?_
    rw [hcanonical, hremote]
    exact ((refsEqual_iff_perm hprojected).mp hequal).symm
  | settled _ _ _ _ hdiffers _ hcanonical _ hremote hpending =>
    refine acceptedRefs_succeed fun hnone hnames => ?_
    rw [hcanonical, hremote]
    rw [hremote] at hnames
    by_cases hequal : refsEqual frame.projectedCanonical
        (observe services c frame remoteState).remoteRefs
    · exact ((refsEqual_iff_perm hprojected).mp hequal).symm
    · -- neither side changed since the boundary, where they agreed
      obtain ⟨hremoteStays, hcanonicalStays⟩ := hdiffers hequal
      have hobserved := observed_perm_recorded hdistinct hremoteStays hequal
      have hboundary : c.mirror.remoteRefs.Perm c.mirror.canonicalRefs :=
        hc (by rw [← hmirror, ← hpending, hnone]) (NamesDistinct.perm hnames hobserved)
      exact (hobserved.trans hboundary).trans (projected_perm_accepted hprojected hcanonicalStays).symm
  | inbound =>
    rcases processInbound_exit _ (observe services c frame remoteState) completedAt with
      ⟨-, failure, heq⟩ | ⟨hsome, inbound, -, -, -, hproposal⟩
    · rw [heq]
      exact acceptedRefs_fail hs'
    · obtain ⟨update, hupdate⟩ := List.exists_mem_of_ne_nil _ hsome
      exact acceptedRefs_proposal hs'
        (.inr ⟨update, hupdate, hmirror ▸ mapped_of_observed hupdate⟩) hproposal
  | outbound => exact hs'
  | _ => exact acceptedRefs_fail hs'

/-- **One stretch** keeps the recorded refs accepted, when the adapter lists no ref twice. -/
theorem stretch_acceptedRefs {task : Nat} (hs : s.Sound services configuration)
    (hmappings : RemoteRefsDistinct configuration.refMappings)
    (honce : event.ListsRefsOnce) (hc : AcceptedRefs s.coordinator.mirror)
    (h : Stretch services s event task ended) : AcceptedRefs ended.2.mirror := by
  have hmapped : RemoteRefsDistinct s.coordinator.mirror.refMappings := hs.configured ▸ hmappings
  have hsync : ∀ {input}, SyncExit services s.coordinator input ended → AcceptedRefs ended.2.mirror := by
    intro input hexit
    cases hexit with
    | threw hkeeps => exact hkeeps.mirror ▸ hc
    | replayed => exact hc
    | invalid hkeeps => exact acceptedRefs_fail (hkeeps.mirror ▸ hc)
    | inspects hkeeps => exact hkeeps.mirror ▸ hc
  cases h with
  | began hexit => exact hsync hexit
  | resumed _ hexit => exact hsync hexit
  | @inspected _ frame _ _ _ _ hcall hexit =>
    have hframe : frame.Sound services configuration := (hs.inFlight _ _ hcall).2
    cases hexit with
    | failed => exact acceptedRefs_fail hc
    | incomplete => exact acceptedRefs_fail hc
    | compared hanswer _ hkeeps hreconcile =>
      subst hanswer
      exact acceptedRefs_reconcile hmapped hkeeps.mirror hc (hs.configured ▸ hframe)
        (honce _ rfl) hreconcile
  | created hcall hexit =>
    cases hexit with
    | failed => exact acceptedRefs_fail hc
    | mismatched => exact acceptedRefs_fail hc
    | accepted _ _ hmirror _ _ hrest =>
      exact acceptedRefs_proposal (hmirror ▸ hc) (.inl (distinct_append_ne_nil _ _)) hrest
  | @pushed _ frame _ _ _ _ _ hcall hexit =>
    cases hexit with
    | failed => exact acceptedRefs_fail hc
    | mismatched => exact acceptedRefs_fail hc
    | synchronized hanswer hequal _ hcanonical _ hremote _ =>
      subst hanswer
      refine acceptedRefs_succeed fun _ hnames => ?_
      rw [hcanonical, hremote]
      rw [hremote] at hnames
      exact (refsEqual_iff_perm hnames).mp hequal

/-! ## Pushes -/

/-- The push of a sync, against the state it is issued in and the event that led to it. -/
structure AcceptedPush (services : MirrorServices) (mirror : RepositoryMirror) (event : MirrorEvent)
    (frame : SyncFrame) (request : MirrorPush) : Prop where
  /-- It expects the mapped refs of the inspection. -/
  inspected : ∃ state ∈ event.remoteState,
    request.expectedRefs = allowedRemoteRefs services state.refs mirror.refMappings
  /-- It carries the projection of a verified canonical state of allowed disclosure. -/
  desired : request.desiredRefs =
    projectCanonicalRefs services frame.input.canonical mirror.refMappings
  verified : frame.input.canonical.verified = true
  disclosed : disclosureAllows mirror.disclosure frame.input.canonical.disclosure
  /-- Unless it was chosen, no Change is pending and the refs it replaces were accepted. -/
  accepted : frame.input.reconciliation ≠ some .canonicalWins →
    mirror.pendingInboundChangeIds = [] ∧ request.expectedRefs.Perm mirror.canonicalRefs

/-- **A push is accepted** when the recorded refs are. -/
theorem stretch_acceptedPush {task : Nat} {request : MirrorPush}
    (hs : s.Sound services configuration) (honce : event.ListsRefsOnce)
    (hc : AcceptedRefs s.coordinator.mirror) (h : Stretch services s event task ended)
    (hpush : ended.1.awaited = some (.push frame remoteState request)) :
    AcceptedPush services s.coordinator.mirror event frame request := by
  obtain ⟨started, _, state, clock, c', rfl, hcall, hkeeps, hreconcile⟩ := h.inspected_of_push hpush
  have hframe : started.Sound services configuration := (hs.inFlight _ _ hcall).2
  rw [← hs.configured] at hframe
  obtain ⟨rfl, -, hexpected, hdesired, hundecided⟩ := reconcile_push hreconcile hpush
  refine ⟨⟨state, rfl, hexpected⟩, hdesired.trans hframe.projected, hframe.mirrored.verified,
    hframe.mirrored.disclosed, fun hwins => ?_⟩
  obtain ⟨hpending, hstays, -, hdiffers⟩ := hundecided hwins
  rw [hkeeps.mirror] at hpending
  have hobserved := observed_perm_recorded (honce state rfl) hstays hdiffers
  have hrecorded : NamesDistinct s.coordinator.mirror.remoteRefs :=
    ((honce state rfl).allowedRemoteRefs).perm hobserved
  exact ⟨hpending, hexpected ▸ hobserved.trans (hc hpending hrecorded)⟩

/-! ## Runs -/

variable {mirror : RepositoryMirror} {sourceSpaceClassification : SourceSpaceClassification}
  {tr : List MirrorTransition} {ok : MirrorSystem → MirrorEvent → Prop}

/-- Every push of a run is accepted. -/
def PushesAccepted (services : MirrorServices) (tr : List MirrorTransition) : Prop :=
  ∀ t ∈ tr, ∀ push ∈ t.reply.push,
    AcceptedPush services t.pre.coordinator.mirror t.op push.1 push.2

/-- **No push silently overwrites remote work**: in every run of a Mirror that starts with
its remote refs equal to the canonical ones, and whose adapter lists no ref twice, every
push is accepted. -/
theorem pushes_accepted_of_run
    (hnew : MirrorCoordinator.create mirror sourceSpaceClassification = .ok c)
    (hrefs : mirror.remoteRefs.Perm mirror.canonicalRefs)
    (honce : ∀ s event, ok s event → event.ListsRefsOnce)
    (hrun : RunFrom services c ok tr s) : PushesAccepted services tr := by
  obtain ⟨rfl, hmappings⟩ := create_eq_ok hnew
  have hstart : AcceptedRefs (start (.initial mirror sourceSpaceClassification)).coordinator.mirror :=
    fun _ _ => hrefs
  have hall : AcceptedRefs s.coordinator.mirror ∧ PushesAccepted services tr := by
    refine (sound_invariant
      (fun tr s => AcceptedRefs s.coordinator.mirror ∧ PushesAccepted services tr)
      ⟨hstart, fun _ h => absurd h List.not_mem_nil⟩ ?_ ?_ hrun).2
    · -- an event that answers no call issues no push
      rintro tr s event - hidle ⟨hc, hbefore⟩
      refine ⟨hc, fun t ht push hpush => ?_⟩
      rcases List.mem_append.mp ht with ht | ht
      · exact hbefore t ht push hpush
      · cases List.mem_singleton.mp ht
        simp only [Transition.of, hidle] at hpush
        cases hpush
    · rintro tr s event calls task ended hs hok ⟨hc, hbefore⟩ hstretch heq
      refine ⟨stretch_acceptedRefs hs hmappings (honce s event hok) hc hstretch,
        fun t ht push hpush => ?_⟩
      rcases List.mem_append.mp ht with ht | ht
      · exact hbefore t ht push hpush
      · cases List.mem_singleton.mp ht
        obtain ⟨frame, request⟩ := push
        simp only [Transition.of, heq] at hpush
        obtain ⟨_, remoteState, hreply⟩ := push_eq_some hpush
        obtain ⟨-, houtcome⟩ := MirrorReply.ended.inj hreply
        exact stretch_acceptedPush hs (honce s event hok) hc hstretch (congrArg SyncOutcome.awaited houtcome)
  exact hall.2

end MirrorSystem

open MirrorSystem

theorem pushes_accepted_of_run_sample :
    PushesAccepted Sample.mirrorServices (Sample.mirrorRan Sample.firstPush).1 := by
  have hrun : RunFrom Sample.mirrorServices (.initial Sample.publicMirror .public)
      (fun s event => s.Sequential event ∧ event.ListsRefsOnce)
      (Sample.mirrorRan Sample.firstPush).1 (Sample.mirrorRan Sample.firstPush).2 :=
    run_exec (by decide +kernel)
  exact pushes_accepted_of_run Sample.publicMirror_created (.refl _) (fun _ _ h => h.2) hrun

/-- The run does issue a push. -/
example : ((Sample.mirrorRan Sample.firstPush).1.filter fun t => t.reply.push.isSome).length = 1 := by
  decide +kernel

end Anyam.Portability
