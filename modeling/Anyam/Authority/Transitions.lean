import Anyam.Authority.System
import Mathlib.Logic.Relation

/-!
# A transition, write by write

Most commands make one write; an operation of a Mirror makes several, one after the other, some of
them by the commands of their own. `Wrote` is one write, by the function that makes it.

- **`Wrote.writesOnly`**: a write leaves every other collection alone.
- **`Writes.wrote`**: a transition is a sequence of writes.
-/

namespace Anyam.Authority

open Anyam.Lib Anyam.Kernel Anyam.Delivery Anyam.Execution

/-- A call executes a command. -/
def AuthorityCall.Executes (call : AuthorityCall) (name : AuthorityCommandName)
    (payload : Payload) (session : AuthoritySession) : Prop :=
  ∃ command, call.operation = .execute command session ∧ command.command = name ∧
    command.payload = payload

/-- A call is an operation of a Mirror. -/
def AuthorityCall.Synchronizes (call : AuthorityCall) : Prop :=
  ∃ command session, call.operation = .execute command session ∧
    (command.command = .mirrorSync ∨ command.command = .mirrorReconcile)

/-- The collections whose records are filed under new ids and are looked at no further here. -/
def filedCollections : List Collection :=
  [.intentComments, .runs, .runnerProfiles, .releases, .promotions, .mirrors, .mirrorOperations,
    .mirrorCheckpoints]

/-- One write of a call that was made on the snapshot `s`. -/
inductive Wrote (services : AuthorityServices) (s : AuthorityPlaneSnapshot) (call : AuthorityCall) :
    List Collection → AuthorityPlaneSnapshot → AuthorityPlaneSnapshot → Prop
  | projectCreate {payload session m' result} (hcall : call.Executes .projectCreate payload session)
      (h : projectCreate s payload call.drawn = .ok (m', result)) :
      Wrote services s call [.sourceSpaces, .projects, .projectRevisions, .canonicalByProject] s m'
  | workspaceCreate {payload session m' result}
      (h : workspaceCreate services s payload session call.drawn = .ok (m', result)) :
      Wrote services s call [.projectViews, .workspaces] s m'
  | changeCreate {payload session m m' result}
      (h : changeCreate services m payload session call.drawn = .ok (m', result)) :
      Wrote services s call [.intents, .changes, .workspaces] m m'
  | revisionPublish {payload session m m' result}
      (h : revisionPublish m payload session call.drawn = .ok (m', result)) :
      Wrote services s call [.changeRevisions, .changes] m m'
  | landingApply {payload session m' result} (hcall : call.Executes .landingApply payload session)
      (h : landingApply s payload call.drawn = .ok (m', result)) :
      Wrote services s call
        [.projectRevisions, .canonicalByProject, .landings, .changes, .workspaces] s m'
  | intents {m m'} (h : m.WritesOnly [.intents] m') : Wrote services s call [.intents] m m'
  | pullRequestOpen {payload m' result}
      (h : pullRequestOpen s payload call.drawn = .ok (m', result)) :
      Wrote services s call [.pullRequests] s m'
  | pullRequestUpdate {payload m' result}
      (h : pullRequestUpdate s payload call.drawn = .ok (m', result)) :
      Wrote services s call [.pullRequests] s m'
  | pullRequestReview {payload session m' result}
      (hcall : call.Executes .pullRequestReview payload session)
      (h : pullRequestReview services s payload session call.drawn = .ok (m', result)) :
      Wrote services s call [.pullRequests] s m'
  | pullRequestStatus {desired name payload m' result}
      (h : pullRequestStatus desired name services s payload call.drawn = .ok (m', result)) :
      Wrote services s call [.pullRequests] s m'
  | mirrored {m request proposal update change revision} (hcall : call.Synchronizes)
      (hm : m.pullRequests = s.pullRequests) :
      Wrote services s call [.pullRequests] m (putPullRequest m
        (mirrorPullRequest s request proposal update change revision call.drawn))
  | evidenceRecord {payload session m' result}
      (hcall : call.Executes .evidenceRecord payload session)
      (h : evidenceRecord s payload session call.drawn = .ok (m', result)) :
      Wrote services s call [.evidence] s m'
  | artifactRecord {payload session m' result}
      (hcall : call.Executes .artifactRecord payload session)
      (h : artifactRecord s payload call.drawn = .ok (m', result)) :
      Wrote services s call [.artifacts] s m'
  | targetConfigure {payload m' result}
      (h : targetConfigure services s payload call.drawn = .ok (m', result)) :
      Wrote services s call [.targets] s m'
  | promotion {m'} (h : s.WritesOnly [.promotions, .targets] m') (hprofiles : KeepsProfiles s m') :
      Wrote services s call [.promotions, .targets] s m'
  | completion {command session custody m' result}
      (hcall : call.operation = .completeRunner command session custody)
      (h : applyRunnerCompletion services s command custody call.drawn = .ok (m', result)) :
      Wrote services s call [.runs, .evidence, .artifacts, .runnerAttempts, .runDetails] s m'
  | proposal {m key} {ledger : ExternalProposal}
      (h : (∃ existing proposal update revision delivery,
          s.externalProposals.get? key = some existing ∧ ledger =
            ExternalProposal.observed existing proposal update revision delivery call.drawn.now) ∨
        ∃ request proposal update change revision delivery, key = proposal.ledgerKey ∧
          ledger = newProposal request proposal update change revision delivery call.drawn)
      (hm : m.externalProposals = s.externalProposals) :
      Wrote services s call [.externalProposals] m (m.put .externalProposals key ledger)
  | delivery {m request envelope given}
      (hnew : m.mirrorDeliveries.get? envelope.deliveryKey = none) :
      Wrote services s call [.mirrorDeliveries] m (m.put .mirrorDeliveries envelope.deliveryKey
        (newDelivery request envelope given call.drawn))
  | mirror {m mirror} : Wrote services s call [.mirrors] m (m.put .mirrors mirror.id mirror)
  | filed {m} (c : Collection) (hc : c ∈ filedCollections) (id : String) (record : c.Record)
      (hnew : (m.records c).get? id = none) : Wrote services s call [c] m (m.put c id record)

section

variable {services : AuthorityServices} {s : AuthorityPlaneSnapshot} {call : AuthorityCall}
  {cs : List Collection} {m m' : AuthorityPlaneSnapshot}

/-- **Frame**: a write leaves every other collection alone. -/
theorem Wrote.writesOnly (h : Wrote services s call cs m m') : m.WritesOnly cs m' := by
  cases h with
  | projectCreate _ h =>
    obtain ⟨_, _, _, _, _, -, hspaces, -, -, -, -, -, -, rfl⟩ := projectCreate_ok h
    exact .put (.put (.put (hspaces.mono (by decide)) (by decide) ..) (by decide) ..) (by decide) ..
  | workspaceCreate h =>
    obtain ⟨_, _, _, _, _, _, _, _, -, -, -, -, -, -, rfl⟩ := workspaceCreate_ok h
    exact .put (.put (.refl ..) (by decide) ..) (by decide) ..
  | changeCreate h =>
    obtain ⟨_, _, _, _, -, -, -, -, -, -, -, -, -, -, rfl, -⟩ := changeCreate_ok h
    exact (AuthorityPlaneSnapshot.WritesOnly.put ((materializedIntent_writes ..).mono (by decide))
      (by decide) _ _).trans ((claimWorkspace_writes ..).mono (by decide))
  | revisionPublish h =>
    obtain ⟨_, _, _, _, _, -, -, -, -, -, -, -, -, -, -, -, rfl, -⟩ := revisionPublish_ok h
    exact .put (.put (.refl ..) (by decide) ..) (by decide) ..
  | landingApply _ h =>
    obtain ⟨_, _, _, _, _, _, _, _, -, -, -, -, -, -, -, -, -, -, -, -, -, -, -, rfl⟩ :=
      landingApply_ok h
    exact (AuthorityPlaneSnapshot.WritesOnly.put (.put (.put (.put (.refl ..) (by decide) ..)
      (by decide) ..) (by decide) ..) (by decide) _ _).trans
        ((closeWorkspace_writes _).mono (by decide))
  | intents h => exact h
  | pullRequestOpen h =>
    obtain ⟨_, _, -, -, -, -, -, rfl⟩ := pullRequestOpen_ok h
    exact .put (.refl ..) (by decide) ..
  | pullRequestUpdate h =>
    obtain ⟨_, _, _, -, -, rfl⟩ := pullRequestUpdate_ok h
    exact .put (.refl ..) (by decide) ..
  | pullRequestReview _ h =>
    obtain ⟨_, _, _, _, _, -, -, rfl⟩ := pullRequestReview_ok h
    exact .put (.refl ..) (by decide) ..
  | pullRequestStatus h =>
    rcases pullRequestStatus_ok h with rfl | ⟨_, _, -, -, -, rfl⟩
    · exact .refl ..
    · exact .put (.refl ..) (by decide) ..
  | mirrored _ _ =>
    unfold putPullRequest
    split
    · exact .put (.refl ..) (by decide) ..
    · exact .refl ..
  | evidenceRecord _ h =>
    obtain ⟨_, _, _, _, -, -, -, -, -, -, -, rfl⟩ := evidenceRecord_ok h
    exact .put (.refl ..) (by decide) ..
  | artifactRecord _ h =>
    obtain ⟨_, _, -, -, -, -, -, rfl⟩ := artifactRecord_ok h
    exact .put (.refl ..) (by decide) ..
  | targetConfigure h =>
    obtain ⟨_, -, rfl⟩ := targetConfigure_ok h
    exact .put (.refl ..) (by decide) ..
  | promotion h _ => exact h
  | completion _ h =>
    obtain ⟨done, receipt, -, -, -, rfl⟩ := applyRunnerCompletion_ok h
    exact done.file_writes ..
  | proposal _ _ | delivery _ | mirror | filed =>
    exact .put (.refl ..) (List.mem_singleton_self _) ..

/-! ## The writes of a transition -/

/-- Some writes of a call, one after the other. -/
abbrev Wrotes (services : AuthorityServices) (s : AuthorityPlaneSnapshot) (call : AuthorityCall) :
    AuthorityPlaneSnapshot → AuthorityPlaneSnapshot → Prop :=
  Relation.ReflTransGen fun m m' => ∃ cs, Wrote services s call cs m m'

theorem Wrote.wrotes (h : Wrote services s call cs m m') : Wrotes services s call m m' :=
  .single ⟨cs, h⟩

/-- What every write preserves, a sequence of them does. -/
theorem Wrotes.invariant (I : AuthorityPlaneSnapshot → Prop)
    (hstep : ∀ cs m m', Wrote services s call cs m m' → I m → I m')
    (h : Wrotes services s call m m') (hm : I m) : I m' := by
  induction h with
  | refl => exact hm
  | tail _ hwrote ih =>
    obtain ⟨cs, hwrote⟩ := hwrote
    exact hstep cs _ _ hwrote ih

/-- An ingestion makes its Change and its Revision by the commands of their own, then its record
and its Pull Request. -/
theorem ingestProposal_wrote {request : MirrorRequest} {delivery : Option MirrorDelivery}
    {session : AuthoritySession} {value : Payload} {ingested : Ingested}
    (hcall : call.Synchronizes)
    (h : ingestProposal services s request delivery session value call.drawn =
      .ok (m', ingested)) : Wrotes services s call s m' := by
  obtain ⟨proposal, changed, published, update, -, hchange, hrevision, -, hledger, hpull, rfl⟩ :=
    ingestProposal_ok h
  have hchanged : Wrotes services s call s changed := by
    rcases proposalChange_ok hchange with ⟨_, -, -, -, rfl⟩ | ⟨-, origin, result, hcreate, -⟩
    · exact .refl
    · exact (Wrote.changeCreate hcreate).wrotes
  have hpublished : Wrotes services s call changed published := by
    unfold proposalRevision at hrevision
    split at hrevision
    · obtain ⟨rfl, -⟩ := Prod.mk.inj (Except.ok.inj hrevision)
      exact .refl
    · simp only [bind_eq_ok, pure_eq_ok, Prod.mk.injEq] at hrevision
      obtain ⟨snapshots, -, ⟨_, answer⟩, hpublish, _, -, rfl, -⟩ := hrevision
      exact (Wrote.revisionPublish hpublish).wrotes
  have hframe : s.WritesOnly [.intents, .changes, .changeRevisions] published :=
    ((proposalChange_writes hchange).mono (by decide)).trans
      ((proposalRevision_writes hrevision).mono (by decide))
  have hpulls : published.pullRequests = s.pullRequests :=
    hframe.records .pullRequests (by decide)
  have hrecorded : Wrotes services s call published
      (published.put .externalProposals proposal.ledgerKey ingested.proposal) := by
    refine (Wrote.proposal ?_ (hframe.records .externalProposals (by decide))).wrotes
    rw [hledger]
    cases hexisting : s.externalProposals.get? proposal.ledgerKey with
    | some existing => exact .inl ⟨existing, proposal, update, _, delivery, rfl, rfl⟩
    | none => exact .inr ⟨request, proposal, update, _, _, delivery, rfl, rfl⟩
  refine (hchanged.trans hpublished).trans (hrecorded.trans ?_)
  have hprojected : ingested.pullRequest = mirrorPullRequest s request proposal update
      ingested.change ingested.revision call.drawn := by
    rw [hpull]
    simp only [mirrorPullRequest, proposalPullRequest, hpulls]
  rw [hprojected]
  refine (Wrote.mirrored hcall ?_).wrotes
  exact hpulls

theorem ingestWhenSucceeded_wrote {request : MirrorRequest} {delivery : Option MirrorDelivery}
    {session : AuthoritySession} {found : Option Ingested} (hcall : call.Synchronizes)
    (h : ingestWhenSucceeded services s request delivery session call.drawn = .ok (m', found)) :
    Wrotes services s call s m' := by
  unfold ingestWhenSucceeded at h
  split at h
  · simp only [bind_eq_ok, pure_eq_ok, Prod.mk.injEq] at h
    obtain ⟨⟨_, ingested⟩, hingested, rfl, -⟩ := h
    exact ingestProposal_wrote hcall hingested
  · obtain ⟨rfl, -⟩ := Prod.mk.inj (Except.ok.inj h)
    exact .refl

/-- The record of a delivery is new, as an ingestion writes none. -/
theorem recordMirrorOperation_wrote {name : AuthorityCommandName} {request : MirrorRequest}
    {payload : Payload} {delivery : Option MirrorDelivery} {session : AuthoritySession}
    {result : AuthorityCommandResult} (hcall : call.Synchronizes)
    (hrequest : readMirrorRequest s name payload call.drawn = .ok request)
    (hdelivery : ∀ record ∈ delivery, s.mirrorDeliveries.get? record.deliveryKey = none ∧
      ∃ envelope given, record = newDelivery request envelope given call.drawn)
    (h : recordMirrorOperation services s request payload delivery session call.drawn =
      .ok (m', result)) : Wrotes services s call s m' := by
  obtain ⟨ingested, found, operation, checkpoint, mirror, hingested, -, -, -, rfl, -⟩ :=
    recordMirrorOperation_ok h
  obtain ⟨-, -, -, hoperation, hcheckpoint, -, -⟩ := readMirrorRequest_ok hrequest
  have hframe := ingestWhenSucceeded_writes hingested
  have hdelivered : Wrotes services s call ingested (putDelivery ingested delivery) := by
    cases delivery with
    | none => exact .refl
    | some record =>
      obtain ⟨hnew, envelope, given, rfl⟩ := hdelivery record rfl
      refine (Wrote.delivery ?_).wrotes
      rw [AuthorityPlaneSnapshot.mirrorDeliveries,
        hframe.records .mirrorDeliveries (by decide)]
      exact hnew
  have hrest : s.WritesOnly (ingestionWrites ++ [.mirrorDeliveries])
      (putDelivery ingested delivery) :=
    (hframe.mono (by decide)).trans ((putDelivery_writes ..).mono (by decide))
  have hnew := hrest.records .mirrorOperations (by decide)
  have hnew' := hrest.records .mirrorCheckpoints (by decide)
  refine (ingestWhenSucceeded_wrote hcall hingested).trans (hdelivered.trans ?_)
  refine .tail (.tail (.tail .refl ⟨_, .filed .mirrorOperations (by decide) _ operation ?_⟩)
    ⟨_, .filed .mirrorCheckpoints (by decide) _ checkpoint ?_⟩) ⟨_, .mirror⟩
  · rw [hnew]
    exact hoperation
  · rw [AuthorityPlaneSnapshot.put_other _ _ _ (by decide), hnew']
    exact hcheckpoint

theorem mirrorSync_wrote {name : AuthorityCommandName} {payload : Payload}
    {session : AuthoritySession} {result : AuthorityCommandResult} (hcall : call.Synchronizes)
    (h : mirrorSync services name s payload session call.drawn = .ok (m', result)) :
    Wrotes services s call s m' := by
  obtain ⟨request, hrequest, ⟨-, hrecord⟩ | ⟨given, envelope, -, -, ⟨_, -, -, rfl, -⟩ |
    ⟨hnew, hrecord⟩⟩⟩ := mirrorSync_ok h
  · exact recordMirrorOperation_wrote hcall hrequest (by simp) hrecord
  · exact .refl
  · refine recordMirrorOperation_wrote hcall hrequest ?_ hrecord
    rintro record hrecorded
    cases hrecorded
    exact ⟨hnew, envelope, given, rfl⟩

theorem apply_wrote {command : AuthorityCommand} {session : AuthoritySession}
    {result : AuthorityCommandResult} (hcall : call.operation = .execute command session)
    (h : apply services s command session call.drawn = .ok (m', result)) :
    Wrotes services s call s m' := by
  unfold apply at h
  cases hname : command.command <;> simp only [hname] at h
  case projectCreate => exact (Wrote.projectCreate ⟨command, hcall, hname, rfl⟩ h).wrotes
  case workspaceCreate => exact (Wrote.workspaceCreate h).wrotes
  case changeCreate => exact (Wrote.changeCreate h).wrotes
  case revisionPublish => exact (Wrote.revisionPublish h).wrotes
  case landingApply => exact (Wrote.landingApply ⟨command, hcall, hname, rfl⟩ h).wrotes
  case intentCreate =>
    obtain ⟨_, _, rfl⟩ := intentCreate_ok h
    exact (Wrote.intents (.put (.refl ..) (by decide) ..)).wrotes
  case intentAssign =>
    obtain ⟨_, _, rfl⟩ := intentAssign_ok h
    exact (Wrote.intents (.put (.refl ..) (by decide) ..)).wrotes
  case intentComment =>
    obtain ⟨id, comment, _, _, hnew, rfl⟩ := intentComment_ok h
    exact (Wrote.filed .intentComments (by decide) id comment hnew).wrotes.trans
      (Wrote.intents (.put (.refl ..) (by decide) ..)).wrotes
  case intentClose | intentReopen =>
    rcases intentStatus_ok h with rfl | ⟨_, _, rfl⟩
    · exact .refl
    · exact (Wrote.intents (.put (.refl ..) (by decide) ..)).wrotes
  case pullRequestOpen => exact (Wrote.pullRequestOpen h).wrotes
  case pullRequestUpdate => exact (Wrote.pullRequestUpdate h).wrotes
  case pullRequestReview => exact (Wrote.pullRequestReview ⟨command, hcall, hname, rfl⟩ h).wrotes
  case pullRequestClose | pullRequestReopen | pullRequestBlock | pullRequestMerge =>
    exact (Wrote.pullRequestStatus h).wrotes
  case runRequest =>
    obtain ⟨id, run, hnew, -, -, rfl⟩ := runRequest_ok h
    exact (Wrote.filed .runs (by decide) id run hnew).wrotes
  case runRecord =>
    obtain ⟨id, run, hnew, -, rfl⟩ := runRecord_ok h
    exact (Wrote.filed .runs (by decide) id run hnew).wrotes
  case evidenceRecord => exact (Wrote.evidenceRecord ⟨command, hcall, hname, rfl⟩ h).wrotes
  case artifactRecord => exact (Wrote.artifactRecord ⟨command, hcall, hname, rfl⟩ h).wrotes
  case releaseCreate =>
    obtain ⟨_, _, _, id, release, -, -, -, -, -, -, hnew, -, -, rfl, -⟩ := releaseCreate_ok h
    exact (Wrote.filed .releases (by decide) id release hnew).wrotes
  case targetConfigure => exact (Wrote.targetConfigure h).wrotes
  case promotionRequest =>
    obtain ⟨promotion, hnew, rfl⟩ := promotionRequest_ok h
    exact (Wrote.filed .promotions (by decide) promotion.id promotion hnew.unused).wrotes
  case mirrorConfigure =>
    obtain ⟨id, mirror, hnew, -, rfl⟩ := mirrorConfigure_ok h
    exact (Wrote.filed .mirrors (by decide) id mirror hnew).wrotes
  case mirrorSync => exact mirrorSync_wrote ⟨command, session, hcall, .inl hname⟩ h
  case mirrorReconcile => exact mirrorSync_wrote ⟨command, session, hcall, .inr hname⟩ h
  all_goals exact absurd h nofun

/-- **A transition is a sequence of writes.** -/
theorem Writes.wrote (h : Writes services s call.drawn call.operation m') :
    Wrotes services s call s m' := by
  obtain ⟨operation, drawn⟩ := call
  cases h with
  | command _ _ h => exact apply_wrote rfl h
  | enrollment h => exact (Wrote.filed .runnerProfiles (by decide) _ _ h).wrotes
  | completion h => exact (Wrote.completion rfl h).wrotes
  | promotion _ h hprofiles => exact (Wrote.promotion h hprofiles).wrotes

end

end Anyam.Authority
