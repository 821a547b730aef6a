import Anyam.Authority.Approvals
import Anyam.Authority.ChangeLifecycle

/-!
# Merged Pull Requests

`pullRequest.merge` asks for a landed Change and a current approval. The ingestion of a proposal
that its provider has merged projects this merge, and asks that the Change of the proposal is
landed; it asks for no approval. Either way a merged Pull Request is final.

- **`PullRequestPut.unmerged`**: no call writes a merged Pull Request.
- **`mirrorSync_merged`**: what an ingestion has checked when it merges one.
- **`merged_history`**: how every merged Pull Request of a run was merged, and that it was not
  changed since.
-/

namespace Anyam.Authority

open Anyam.Lib Anyam.Kernel Anyam.Delivery Anyam.Execution

/-! ## Merges by a provider -/

theorem projectedStatus_eq_merged {change : Change} {status : PullRequestStatus} :
    projectedStatus change status = .merged ↔ status = .merged ∧ change.status = .landed := by
  unfold projectedStatus
  split
  · rename_i hblocked
    exact ⟨nofun, fun hmerged => absurd hmerged.2 hblocked.2⟩
  · rename_i hnot
    exact ⟨fun hmerged => ⟨hmerged, Classical.byContradiction fun h => hnot ⟨hmerged, h⟩⟩,
      fun hmerged => hmerged.1⟩

theorem mirrored_status (existing : PullRequest) (proposal : PermittedProposal)
    (update : ProposalUpdate) (change : Change) (revision : Option ChangeRevision) (now : String)
    (h : existing.status ≠ .merged) :
    (existing.mirrored proposal update change revision now).status =
      projectedStatus change update.status := by
  simp only [PullRequest.mirrored, if_neg h]
  split <;> rfl

/-- A Pull Request is of the proposal its provider reports. -/
def IsProjection (pullRequest : PullRequest) (proposal : ProposalEnvelope) : Prop :=
  pullRequest.provider = proposal.provider ∧
    pullRequest.externalKey = some proposal.proposalKey ∧
    pullRequest.remoteRepository = some proposal.remoteRepository

theorem mirrored_isProjection (existing : PullRequest) (proposal : PermittedProposal)
    (update : ProposalUpdate) (change : Change) (revision : Option ChangeRevision) (now : String)
    (h : IsProjection existing proposal.toProposalEnvelope) :
    IsProjection (existing.mirrored proposal update change revision now)
      proposal.toProposalEnvelope := by
  simp only [PullRequest.mirrored]
  split
  · exact h
  · split <;> exact h

section

variable {services : AuthorityServices} {s m m' next : AuthorityPlaneSnapshot}
  {call : AuthorityCall} {request : MirrorRequest} {delivery : Option MirrorDelivery}
  {session : AuthoritySession} {value : Payload} {drawn : Drawn} {ingested : Ingested}
  {id : String} {pullRequest : PullRequest}

/-- A Pull Request that is merged after its proposal was observed was merged already, or the
provider has merged it and the Change of the proposal is landed. -/
theorem mirrorPullRequest_merged {proposal : PermittedProposal} {update : ProposalUpdate}
    {change : Change} {revision : Option ChangeRevision}
    (h : mirrorPullRequest s request proposal update change revision drawn = some pullRequest)
    (hmerged : pullRequest.status = .merged) :
    pullRequest ∈ s.pullRequests.values ∨ (update.status = .merged ∧ change.status = .landed ∧
      IsProjection pullRequest proposal.toProposalEnvelope) := by
  unfold mirrorPullRequest at h
  split at h
  · split at h
    · rename_i existing hfound
      cases h
      have hmem : existing ∈ s.pullRequests.values := List.mem_of_find?_eq_some hfound
      by_cases hexisting : existing.status = .merged
      · have hsame : existing.mirrored proposal update change revision drawn.now = existing := by
          simp only [PullRequest.mirrored, if_pos hexisting]
        exact .inl (hsame.symm ▸ hmem)
      · rw [mirrored_status _ _ _ _ _ _ hexisting, projectedStatus_eq_merged] at hmerged
        have hmatch := List.find?_some hfound
        simp only [Bool.and_eq_true, decide_eq_true_eq] at hmatch
        refine .inr ⟨hmerged.1, hmerged.2, mirrored_isProjection _ _ _ _ _ _ ?_⟩
        exact ⟨hmatch.1.1, hmatch.1.2, hmatch.2⟩
    · cases h
      obtain ⟨hupdate, hchange⟩ := projectedStatus_eq_merged.mp hmerged
      exact .inr ⟨hupdate, hchange, rfl, rfl, rfl⟩
  · cases h

/-- The Change an ingestion found landed is the one its ledger record names, and stays it. -/
theorem ingestProposal_landed
    (h : ingestProposal services s request delivery session value drawn = .ok (m', ingested))
    (hlanded : ingested.change.status = .landed) :
    m'.changes.get? ingested.proposal.changeId = some ingested.change := by
  obtain ⟨proposal, changed, published, update, -, hchange, hrevision, -, hledger, -, rfl⟩ :=
    ingestProposal_ok h
  have hpublished : published.changes.get? ingested.proposal.changeId = some ingested.change := by
    rcases proposalChange_ok hchange with ⟨existing, hexisting, -, hget, rfl⟩ |
      ⟨-, origin, result, hcreate, hvalue⟩
    · have hid : ingested.proposal.changeId = existing.changeId := by
        rw [hledger, hexisting]
        rfl
      rw [hid]
      rcases proposalRevision_ok hrevision with ⟨-, rfl, -⟩ | ⟨-, changeId, found, _, -, -, hfound,
        hopen, -, -, -, -, -, rfl⟩
      · exact hget
      · -- a Revision is published for a Change that is not landed
        have hne : existing.changeId ≠ changeId := by
          rintro rfl
          cases hget.symm.trans hfound
          exact hopen hlanded
        rw [AuthorityPlaneSnapshot.changes, AuthorityPlaneSnapshot.put_same,
          OrderedMap.get?_set_ne _ _ hne]
        exact hget
    · obtain ⟨_, _, -, hactive, -⟩ := proposalChange_created hcreate hvalue
      rw [hactive] at hlanded
      cases hlanded
  cases ingested.pullRequest with
  | none => exact hpublished
  | some pullRequest => exact hpublished

/-- A provider has merged the proposal of a Pull Request, and the Change of the proposal is
landed. -/
def MergedByProvider (m : AuthorityPlaneSnapshot) (pullRequest : PullRequest) : Prop :=
  ∃ (proposal : ProposalEnvelope) (ledger : ExternalProposal) (change : Change),
    IsProjection pullRequest proposal ∧
    m.externalProposals.get? proposal.ledgerKey = some ledger ∧ ledger.status = .merged ∧
    m.changes.get? ledger.changeId = some change ∧ change.status = .landed

theorem ingestProposal_merged
    (h : ingestProposal services s request delivery session value drawn = .ok (m', ingested))
    (hpull : ingested.pullRequest = some pullRequest) (hmerged : pullRequest.status = .merged) :
    pullRequest ∈ s.pullRequests.values ∨ MergedByProvider m' pullRequest := by
  obtain ⟨proposal, changed, published, update, -, hchange, hrevision, -, hledger, hprojected,
    hm'⟩ := ingestProposal_ok h
  have hframe : s.WritesOnly [.intents, .changes, .changeRevisions] published :=
    ((proposalChange_writes hchange).mono (by decide)).trans
      ((proposalRevision_writes hrevision).mono (by decide))
  rcases mirrorPullRequest_merged (hprojected.symm.trans hpull) hmerged with hmem |
    ⟨hupdate, hlanded, hprojection⟩
  · rw [AuthorityPlaneSnapshot.pullRequests, hframe.records .pullRequests (by decide)] at hmem
    exact .inl hmem
  · refine .inr ⟨proposal.toProposalEnvelope, ingested.proposal, ingested.change, hprojection, ?_,
      ?_, ingestProposal_landed h hlanded, hlanded⟩
    · rw [hm', hpull]
      exact OrderedMap.get?_set_self _ _ _
    · rw [hledger]
      cases s.externalProposals.get? proposal.ledgerKey <;> exact hupdate

/-- The Pull Requests after an ingestion are those before it, but for the one it projects. -/
theorem ingestProposal_pullRequests
    (h : ingestProposal services s request delivery session value drawn = .ok (m', ingested))
    (hget : m'.pullRequests.get? id = some pullRequest) :
    s.pullRequests.get? id = some pullRequest ∨
      (ingested.pullRequest = some pullRequest ∧ pullRequest.id = id) := by
  obtain ⟨proposal, changed, published, update, -, hchange, hrevision, -, -, -, rfl⟩ :=
    ingestProposal_ok h
  have hframe : s.WritesOnly [.intents, .changes, .changeRevisions] published :=
    ((proposalChange_writes hchange).mono (by decide)).trans
      ((proposalRevision_writes hrevision).mono (by decide))
  have hpulls : published.pullRequests = s.pullRequests :=
    hframe.records .pullRequests (by decide)
  cases hprojected : ingested.pullRequest with
  | none =>
    rw [hprojected] at hget
    exact .inl (hpulls ▸ hget)
  | some projected =>
    rw [hprojected] at hget
    have hset : (published.pullRequests.set projected.id projected).get? id = some pullRequest :=
      hget
    by_cases hid : id = projected.id
    · rw [hid, OrderedMap.get?_set_self] at hset
      cases hset
      exact .inr ⟨rfl, hid.symm⟩
    · rw [OrderedMap.get?_set_ne _ _ hid, hpulls] at hset
      exact .inl hset

/-- An operation that merges a Pull Request found its provider's merge and a landed Change. -/
theorem recordMirrorOperation_merged {payload : Payload} {result : AuthorityCommandResult}
    (h : recordMirrorOperation services s request payload delivery session drawn =
      .ok (next, result))
    (hkeyed : OrderedMap.SelfKeyed PullRequest.id s.pullRequests)
    (hbefore : ∀ before ∈ s.pullRequests.get? id, before.status ≠ .merged)
    (hget : next.pullRequests.get? id = some pullRequest) (hmerged : pullRequest.status = .merged) :
    MergedByProvider next pullRequest := by
  obtain ⟨m, found, hingested, hrest⟩ := recordMirrorOperation_ingested h
  rw [AuthorityPlaneSnapshot.pullRequests, hrest.records .pullRequests (by decide)] at hget
  unfold ingestWhenSucceeded at hingested
  split at hingested
  · simp only [bind_eq_ok, pure_eq_ok, Prod.mk.injEq] at hingested
    obtain ⟨⟨_, ingested⟩, hingested, rfl, -⟩ := hingested
    rcases ingestProposal_pullRequests hingested hget with hold | ⟨hprojected, hid⟩
    · exact absurd hmerged (hbefore pullRequest hold)
    · rcases ingestProposal_merged hingested hprojected hmerged with hmem | hprovider
      · -- a Pull Request that was merged before is the one under this key
        obtain ⟨key, hold⟩ := OrderedMap.mem_values_iff.mp hmem
        have hkey : key = id := (hkeyed _ _ hold).symm.trans hid
        exact absurd hmerged (hbefore pullRequest (hkey ▸ hold))
      · rw [MergedByProvider, AuthorityPlaneSnapshot.externalProposals,
          AuthorityPlaneSnapshot.changes, hrest.records .externalProposals (by decide),
          hrest.records .changes (by decide)]
        exact hprovider
  · obtain ⟨rfl, -⟩ := Prod.mk.inj (Except.ok.inj hingested)
    exact absurd hmerged (hbefore pullRequest hget)

theorem mirrorSync_merged {name : AuthorityCommandName} {payload : Payload}
    {result : AuthorityCommandResult}
    (h : mirrorSync services name s payload session drawn = .ok (next, result))
    (hkeyed : OrderedMap.SelfKeyed PullRequest.id s.pullRequests)
    (hbefore : ∀ before ∈ s.pullRequests.get? id, before.status ≠ .merged)
    (hget : next.pullRequests.get? id = some pullRequest) (hmerged : pullRequest.status = .merged) :
    MergedByProvider next pullRequest := by
  obtain ⟨request, -, ⟨-, hrecord⟩ | ⟨given, envelope, -, -, ⟨_, -, -, rfl, -⟩ | ⟨-, hrecord⟩⟩⟩ :=
    mirrorSync_ok h
  · exact recordMirrorOperation_merged hrecord hkeyed hbefore hget hmerged
  · exact absurd hmerged (hbefore pullRequest hget)
  · exact recordMirrorOperation_merged hrecord hkeyed hbefore hget hmerged

/-! ## A merged Pull Request is final -/

/-- **No call writes a merged Pull Request**, but one that leaves it as it is. -/
theorem PullRequestPut.merged_kept {written : PullRequest} {key : String}
    (h : PullRequestPut services s call key written) (hfresh : call.drawn.Fresh s)
    (hkeyed : OrderedMap.SelfKeyed PullRequest.id s.pullRequests)
    (hget : s.pullRequests.get? id = some pullRequest) (hmerged : pullRequest.status = .merged) :
    (s.pullRequests.set key written).get? id = some pullRequest := by
  by_cases hid : id = key
  · subst hid
    cases h with
    | opened hnew _ _ _ =>
      rw [hnew] at hget
      cases hget
    | updated _ hold hopen | reviewed _ _ _ _ hold hopen | moved _ hold hopen _ =>
      cases hget.symm.trans hold
      exact absurd hmerged hopen
    | mirrored proposal update change revision _ hmem =>
      -- an ingestion writes a merged Pull Request as it is
      obtain ⟨key, hold⟩ := OrderedMap.mem_values_iff.mp hmem
      cases hkeyed _ _ hold
      cases hget.symm.trans hold
      rw [OrderedMap.get?_set_self]
      simp only [PullRequest.mirrored, if_pos hmerged]
    | projected =>
      rw [hfresh.get? .pullRequests (by decide)] at hget
      cases hget
  · rw [OrderedMap.get?_set_ne _ _ hid]
    exact hget

theorem step_merged_kept (hfresh : call.drawn.Fresh s)
    (hkeyed : OrderedMap.SelfKeyed PullRequest.id s.pullRequests)
    (hget : s.pullRequests.get? id = some pullRequest) (hmerged : pullRequest.status = .merged) :
    (step services call s).2.pullRequests.get? id = some pullRequest := by
  rcases step_pullRequests services call s with heq | ⟨key, written, hput, heq⟩
  · rw [heq]
    exact hget
  · rw [heq]
    exact hput.merged_kept hfresh hkeyed hget hmerged

/-! ## How a Pull Request was merged -/

/-- A transition that merged a Pull Request, and the Change it was merged for: its own, by the
command, with a current approval of the context it is merged in, or the one its provider's proposal
is mapped to. -/
inductive MergedFor (services : AuthorityServices) (t : AuthorityTransition) (id : String)
    (pullRequest : PullRequest) : String → Prop
  | command {before : PullRequest} (hbefore : t.pre.pullRequests.get? id = some before)
      (happroval : pullRequestApprovalIsCurrent services before = true)
      (hmoved : pullRequest = before.moved .merged t.op.drawn.now) :
      MergedFor services t id pullRequest pullRequest.changeId
  | provider {proposal : ProposalEnvelope} {ledger : ExternalProposal}
      (hcall : t.op.Synchronizes) (hprojection : IsProjection pullRequest proposal)
      (hledger : t.post.externalProposals.get? proposal.ledgerKey = some ledger)
      (hstatus : ledger.status = .merged) :
      MergedFor services t id pullRequest ledger.changeId

/-- A Pull Request became merged for a Change that was landed, and is. -/
def MergedOnce (services : AuthorityServices) (tr : List AuthorityTransition)
    (s : AuthorityPlaneSnapshot) (id : String) (pullRequest : PullRequest) : Prop :=
  ∃ (earlier : List AuthorityTransition) (t : AuthorityTransition)
    (later : List AuthorityTransition) (changeId : String) (change : Change),
    tr = earlier ++ t :: later ∧
    (∀ before ∈ t.pre.pullRequests.get? id, before.status ≠ .merged) ∧
    t.post.pullRequests.get? id = some pullRequest ∧
    MergedFor services t id pullRequest changeId ∧
    t.post.changes.get? changeId = some change ∧ change.status = .landed ∧
    s.changes.get? changeId = some change

/-- A synchronization that merges a Pull Request. -/
theorem Writes.merged (h : Writes services s call.drawn call.operation next)
    (hcall : call.Synchronizes) (hkeyed : OrderedMap.SelfKeyed PullRequest.id s.pullRequests)
    (hbefore : ∀ before ∈ s.pullRequests.get? id, before.status ≠ .merged)
    (hget : next.pullRequests.get? id = some pullRequest) (hmerged : pullRequest.status = .merged) :
    MergedByProvider next pullRequest := by
  obtain ⟨command, session, hoperation, hname⟩ := hcall
  obtain ⟨operation, drawn⟩ := call
  cases hoperation
  cases h with
  | command _ _ happly =>
    unfold apply at happly
    rcases hname with hname | hname <;> simp only [hname] at happly
    · exact mirrorSync_merged happly hkeyed hbefore hget hmerged
    · exact mirrorSync_merged happly hkeyed hbefore hget hmerged
  | promotion hwrites _ _ =>
    -- no execution of a command writes as a Promotion does
    exfalso
    rcases hname with hname | hname <;>
      · simp only [AuthorityOperation.name, hname] at hwrites
        exact absurd hwrites (by decide)

theorem step_merges (hkeyed : OrderedMap.SelfKeyed PullRequest.id s.pullRequests)
    (hchanges : OrderedMap.SelfKeyed Change.id s.changes)
    (hbefore : ∀ before ∈ s.pullRequests.get? id, before.status ≠ .merged)
    (hget : (step services call s).2.pullRequests.get? id = some pullRequest)
    (hmerged : pullRequest.status = .merged) :
    ∃ changeId change, MergedFor services (.of (step services) s call) id pullRequest changeId ∧
      (step services call s).2.changes.get? changeId = some change ∧ change.status = .landed := by
  have hprovider (hcall : call.Synchronizes) : ∃ changeId change,
      MergedFor services (.of (step services) s call) id pullRequest changeId ∧
        (step services call s).2.changes.get? changeId = some change ∧
          change.status = .landed := by
    rcases step_records services call s with heq | ⟨next, hwrites, heq⟩
    · rw [AuthorityPlaneSnapshot.pullRequests, heq] at hget
      exact absurd hmerged (hbefore pullRequest hget)
    · rw [AuthorityPlaneSnapshot.pullRequests, heq] at hget
      obtain ⟨proposal, ledger, change, hprojection, hledger, hstatus, hchange, hlanded⟩ :=
        hwrites.merged hcall hkeyed hbefore hget hmerged
      refine ⟨ledger.changeId, change, .provider hcall hprojection ?_ hstatus, ?_, hlanded⟩
      · show (step services call s).2.externalProposals.get? _ = _
        rw [AuthorityPlaneSnapshot.externalProposals, heq]
        exact hledger
      · rw [AuthorityPlaneSnapshot.changes, heq]
        exact hchange
  rcases step_pullRequests services call s with heq | ⟨key, written, hput, heq⟩
  · rw [heq] at hget
    exact absurd hmerged (hbefore pullRequest hget)
  by_cases hid : id = key
  · subst hid
    rw [heq, OrderedMap.get?_set_self] at hget
    cases hget
    cases hput with
    | opened _ _ hstatus _ =>
      rw [hstatus] at hmerged
      cases hmerged
    | @updated _ existing update hold hopen =>
      have hstatus : (update.applied existing call.drawn.now).status = existing.status := by
        simp only [PullRequestUpdate.applied]
        split <;> rfl
      exact absurd (hstatus ▸ hmerged) hopen
    | reviewed _ _ _ _ hold hopen => exact absurd hmerged hopen
    | @moved _ existing desired hold hopen hmerge =>
      have hdesired : desired = .merged := by
        cases desired <;> first | rfl | cases hmerged
      subst hdesired
      obtain ⟨hlanded, happroval⟩ := hmerge rfl
      obtain ⟨change, hchange, hstatus⟩ := Option.map_eq_some_iff.mp hlanded
      exact ⟨_, change, .command hold happroval rfl,
        step_landed_kept hchanges hchange hstatus, hstatus⟩
    | mirrored _ _ _ _ hcall _ => exact hprovider hcall
    | projected _ _ _ _ _ hcall => exact hprovider hcall
  · rw [heq, OrderedMap.get?_set_ne _ _ hid] at hget
    exact absurd hmerged (hbefore pullRequest hget)

/-- A step keeps what is known of the merges so far. -/
theorem MergedOnce.extend {tr : List AuthorityTransition}
    (h : MergedOnce services tr s id pullRequest)
    (hchanges : OrderedMap.SelfKeyed Change.id s.changes) :
    MergedOnce services (tr ++ [.of (step services) s call]) (step services call s).2 id
      pullRequest := by
  obtain ⟨earlier, t, later, changeId, change, rfl, hbefore, hpost, hmerged, hchange, hlanded,
    hnow⟩ := h
  refine ⟨earlier, t, later ++ [.of (step services) s call], changeId, change, ?_, hbefore, hpost,
    hmerged, hchange, hlanded, step_landed_kept hchanges hnow hlanded⟩
  rw [List.append_assoc, List.cons_append]

/-- In a run from a snapshot a merged Pull Request stays as it is. -/
theorem merged_kept {tr : List AuthorityTransition} {s' : AuthorityPlaneSnapshot}
    (h : Lib.Run (step services) (fun s call => call.drawn.Fresh s) s tr s')
    (hkeyed : OrderedMap.SelfKeyed PullRequest.id s.pullRequests)
    (hget : s.pullRequests.get? id = some pullRequest) (hmerged : pullRequest.status = .merged) :
    s'.pullRequests.get? id = some pullRequest := by
  refine (h.invariant (fun s => OrderedMap.SelfKeyed PullRequest.id s.pullRequests ∧
    s.pullRequests.get? id = some pullRequest) ⟨hkeyed, hget⟩ ?_).2
  rintro s call ⟨hkeyed, hget⟩ hfresh
  exact ⟨step_pullRequests_keyed hkeyed, step_merged_kept hfresh hkeyed hget hmerged⟩

theorem pullRequests_keyed {ok : AuthorityPlaneSnapshot → AuthorityCall → Prop}
    {realmId : String} {tr : List AuthorityTransition} (h : AuthorityRun services ok realmId tr s) :
    OrderedMap.SelfKeyed PullRequest.id s.pullRequests :=
  h.invariant (fun s => OrderedMap.SelfKeyed PullRequest.id s.pullRequests)
    (OrderedMap.selfKeyed_empty _) fun _ _ hkeyed _ => step_pullRequests_keyed hkeyed

/-- **Merges**: every merged Pull Request of a run became merged for a Change that was landed then
and is now, with a current approval when the command merged it, and its record never changed
since. -/
theorem merged_history {realmId : String} {tr : List AuthorityTransition}
    (h : AuthorityRun services (fun s call => call.drawn.Fresh s) realmId tr s) :
    (∀ id pullRequest, s.pullRequests.get? id = some pullRequest → pullRequest.status = .merged →
      MergedOnce services tr s id pullRequest) ∧
    ∀ earlier t later, tr = earlier ++ t :: later → ∀ id pullRequest,
      t.post.pullRequests.get? id = some pullRequest → pullRequest.status = .merged →
      s.pullRequests.get? id = some pullRequest := by
  constructor
  · refine (h.traceInvariant (fun tr s => (OrderedMap.SelfKeyed PullRequest.id s.pullRequests ∧
      OrderedMap.SelfKeyed Change.id s.changes) ∧ ∀ id pullRequest,
        s.pullRequests.get? id = some pullRequest → pullRequest.status = .merged →
        MergedOnce services tr s id pullRequest)
      ⟨⟨OrderedMap.selfKeyed_empty _, OrderedMap.selfKeyed_empty _⟩, fun id pullRequest hget _ => by
        cases (show none = some pullRequest from hget)⟩ ?_).2
    rintro tr s call ⟨⟨hkeyed, hchanges⟩, hmerges⟩ hfresh
    refine ⟨⟨step_pullRequests_keyed hkeyed, step_changes_keyed hchanges⟩, ?_⟩
    intro id pullRequest hget hmerged
    by_cases hbefore : ∃ before ∈ s.pullRequests.get? id, before.status = .merged
    · -- it was merged before this step, as it is
      obtain ⟨before, hold, hstatus⟩ := hbefore
      have hkept : (step services call s).2.pullRequests.get? id = some before :=
        step_merged_kept hfresh hkeyed hold hstatus
      cases hkept.symm.trans hget
      exact (hmerges id _ hold hstatus).extend hchanges
    · have hunmerged : ∀ before ∈ s.pullRequests.get? id, before.status ≠ .merged :=
        fun before hold hstatus => hbefore ⟨before, hold, hstatus⟩
      obtain ⟨changeId, change, hfor, hchange, hlanded⟩ :=
        step_merges hkeyed hchanges hunmerged hget hmerged
      exact ⟨tr, .of (step services) s call, [], changeId, change, rfl, hunmerged, hget, hfor,
        hchange, hlanded, hchange⟩
  · rintro earlier t later rfl id pullRequest hget hmerged
    obtain ⟨hearlier, hof, hfresh, hlater⟩ := h.split
    have hpost : OrderedMap.SelfKeyed PullRequest.id t.post.pullRequests := by
      rw [hof]
      exact step_pullRequests_keyed (pullRequests_keyed hearlier)
    exact merged_kept hlater hpost hget hmerged

end

/-! ## A merge without an approval -/

namespace Sample

/-- A proposal is ingested, its Change is landed, and its provider reports it merged. -/
def providerMerge : List AuthorityCall := [
  createProject "1" "project:1" "revision:1" "space:1",
  createWorkspace "2" "project:1" "revision:1" "workspace:1",
  configureMirror "3" "project:1" "space:1",
  synchronize "4" "revision:1" "generation:1"
    [("externalProposal", proposal "revision:1" "project-view:2" "commit:1" [])],
  applyLanding "5" "change-revision:4" "revision:1" "revision:2",
  createWorkspace "6" "project:1" "revision:2" "workspace:2",
  synchronize "7" "revision:2" "generation:1"
    [("externalProposal",
      proposal "revision:2" "project-view:6" "commit:1" [("status", .string "merged")])]]

-- the run is evaluated once, for all that is read off it
theorem providerMerge_evaluated :
    Admits (step services) (fun s call => call.drawn.Fresh s)
      (emptyAuthorityPlaneSnapshot "realm:1") providerMerge ∧
    ((after providerMerge).2.pullRequests.get? "pull-request:4").map
      (fun found => (found.status, found.reviews)) = some (.merged, some []) ∧
    ∀ t ∈ (after providerMerge).1, ∀ before ∈ t.pre.pullRequests.get? "pull-request:4",
      pullRequestApprovalIsCurrent services before = false := by
  decide +kernel

theorem providerMerge_run : AuthorityRun services (fun s call => call.drawn.Fresh s) "realm:1"
    (after providerMerge).1 (after providerMerge).2 :=
  run_after providerMerge_evaluated.1

end Sample

/-- The merge of the provider is recorded once, for the landed Change. -/
theorem merged_history_provider :
    (∀ id pullRequest, (Sample.after Sample.providerMerge).2.pullRequests.get? id =
        some pullRequest → pullRequest.status = .merged →
      MergedOnce Sample.services (Sample.after Sample.providerMerge).1
        (Sample.after Sample.providerMerge).2 id pullRequest) ∧
    ∀ earlier t later, (Sample.after Sample.providerMerge).1 = earlier ++ t :: later →
      ∀ id pullRequest, t.post.pullRequests.get? id = some pullRequest →
        pullRequest.status = .merged →
        (Sample.after Sample.providerMerge).2.pullRequests.get? id = some pullRequest :=
  merged_history Sample.providerMerge_run

/-- A merged Pull Request that no review was ever recorded for. -/
theorem provider_merges_unapproved :
    ∃ tr s pullRequest,
      AuthorityRun Sample.services (fun s call => call.drawn.Fresh s) "realm:1" tr s ∧
      s.pullRequests.get? "pull-request:4" = some pullRequest ∧ pullRequest.status = .merged ∧
      pullRequest.reviews = some [] ∧
      ∀ t ∈ tr, ∀ before ∈ t.pre.pullRequests.get? "pull-request:4",
        pullRequestApprovalIsCurrent Sample.services before = false := by
  obtain ⟨-, hmerged, hunapproved⟩ := Sample.providerMerge_evaluated
  obtain ⟨pullRequest, hget, hfields⟩ := Option.map_eq_some_iff.mp hmerged
  obtain ⟨hstatus, hreviews⟩ := Prod.mk.inj hfields
  exact ⟨_, _, pullRequest, Sample.providerMerge_run, hget, hstatus, hreviews, hunapproved⟩

end Anyam.Authority
