import Anyam.Authority.Transitions

/-!
# Approvals of Pull Requests

Two paths change what a review was made for, `pullRequest.update` and the ingestion of a proposal,
each with a detector of its own; a review binds an approval to the context as it is.

- `PullRequestPut`: the one Pull Request a transition may write. **`step_pullRequests`**: a call
  writes no other.
- **`PullRequestPut.review`**: the one it writes is pending, keeps its context and its approval, or
  was reviewed just now.
- **`approved_current`**: an approved Pull Request has a current approval, which is the one of its
  last review, and nothing of its context changed since.
-/

namespace Anyam.Authority

open Anyam.Lib Anyam.Kernel Anyam.Delivery Anyam.Execution

/-! ## Records -/

namespace PullRequest

variable (existing : PullRequest)

@[simp] theorem mirrored_id (proposal : PermittedProposal) (update : ProposalUpdate)
    (change : Change) (revision : Option ChangeRevision) (now : String) :
    (existing.mirrored proposal update change revision now).id = existing.id := by
  simp only [mirrored]
  split
  · rfl
  · split <;> rfl

@[simp] theorem applied_id (update : PullRequestUpdate) (now : String) :
    (update.applied existing now).id = existing.id := by
  simp only [PullRequestUpdate.applied]
  split <;> rfl

@[simp] theorem moved_id (desired : PullRequestStatus) (now : String) :
    (existing.moved desired now).id = existing.id := by
  cases desired <;> rfl

end PullRequest

/-! ## The Pull Request a transition writes -/

/-- The record of a Pull Request that a call on the snapshot `s` writes, and its key. -/
inductive PullRequestPut (services : AuthorityServices) (s : AuthorityPlaneSnapshot)
    (call : AuthorityCall) : String → PullRequest → Prop
  | opened {id : String} {pullRequest : PullRequest} (hnew : s.pullRequests.get? id = none)
      (hid : pullRequest.id = id) (hstatus : pullRequest.status = .open)
      (hreview : pullRequest.reviewState = .pending) :
      PullRequestPut services s call id pullRequest
  | updated {id : String} {existing : PullRequest} (update : PullRequestUpdate)
      (hget : s.pullRequests.get? id = some existing) (hopen : existing.status ≠ .merged) :
      PullRequestPut services s call id (update.applied existing call.drawn.now)
  | reviewed {id : String} {existing : PullRequest} {payload : Payload}
      {session : AuthoritySession} (state : PullRequestReviewState)
      (reviewDigest reviewId : String)
      (hcall : call.Executes .pullRequestReview payload session)
      (hget : s.pullRequests.get? id = some existing) (hopen : existing.status ≠ .merged) :
      PullRequestPut services s call id (existing.reviewed (recordedReview services existing state
        reviewDigest reviewId (actorRef session) call.drawn.now))
  | moved {id : String} {existing : PullRequest} (desired : PullRequestStatus)
      (hget : s.pullRequests.get? id = some existing) (hopen : existing.status ≠ .merged)
      (hmerge : desired = .merged →
        (s.changes.get? existing.changeId).map Change.status = some .landed ∧
          pullRequestApprovalIsCurrent services existing = true) :
      PullRequestPut services s call id (existing.moved desired call.drawn.now)
  | mirrored {existing : PullRequest} (proposal : PermittedProposal) (update : ProposalUpdate)
      (change : Change) (revision : Option ChangeRevision) (hcall : call.Synchronizes)
      (hmem : existing ∈ s.pullRequests.values) :
      PullRequestPut services s call existing.id
        (existing.mirrored proposal update change revision call.drawn.now)
  | projected (request : MirrorRequest) (proposal : PermittedProposal) (update : ProposalUpdate)
      (change : Change) (revision : Option ChangeRevision) (hcall : call.Synchronizes) :
      PullRequestPut services s call (call.drawn.opaqueId "pull-request")
        (newMirrorPullRequest request proposal update change revision call.drawn)

section

variable {services : AuthorityServices} {s : AuthorityPlaneSnapshot} {call : AuthorityCall}
  {cs : List Collection} {m m' : AuthorityPlaneSnapshot}

/-- At most one Pull Request of the snapshot a call was made on is written. -/
def PutsPullRequest (services : AuthorityServices) (s : AuthorityPlaneSnapshot)
    (call : AuthorityCall) (m : AuthorityPlaneSnapshot) : Prop :=
  m.pullRequests = s.pullRequests ∨ ∃ id pullRequest,
    PullRequestPut services s call id pullRequest ∧
      m.pullRequests = s.pullRequests.set id pullRequest

theorem mirrored_put {request : MirrorRequest} {proposal : PermittedProposal}
    {update : ProposalUpdate} {change : Change} {revision : Option ChangeRevision}
    (hcall : call.Synchronizes) (hm : m.pullRequests = s.pullRequests) :
    PutsPullRequest services s call (putPullRequest m
      (mirrorPullRequest s request proposal update change revision call.drawn)) := by
  unfold mirrorPullRequest
  by_cases hkind : proposal.proposalKind = .pullRequest
  · rw [if_pos hkind]
    cases hfound : proposalPullRequest s proposal with
    | some existing =>
      have hmem : existing ∈ s.pullRequests.values := List.mem_of_find?_eq_some hfound
      refine .inr ⟨existing.id, _, .mirrored proposal update change revision hcall hmem, ?_⟩
      rw [← hm, ← existing.mirrored_id proposal update change revision call.drawn.now]
      rfl
    | none =>
      refine .inr ⟨_, _, .projected request proposal update change revision hcall, ?_⟩
      rw [← hm]
      rfl
  · rw [if_neg hkind]
    exact .inl hm

/-- The write of a Pull Request is made on the Pull Requests of the snapshot. -/
theorem Wrote.putsPullRequest (h : Wrote services s call cs m m')
    (hm : PutsPullRequest services s call m) : PutsPullRequest services s call m' := by
  have hframe := h.writesOnly
  cases h with
  | pullRequestOpen h =>
    obtain ⟨id, pullRequest, hnew, hid, hstatus, hreview, -, rfl⟩ := pullRequestOpen_ok h
    exact .inr ⟨id, pullRequest, .opened hnew hid hstatus hreview, rfl⟩
  | pullRequestUpdate h =>
    obtain ⟨id, existing, update, hget, hopen, rfl⟩ := pullRequestUpdate_ok h
    exact .inr ⟨id, _, .updated update hget hopen, rfl⟩
  | pullRequestReview hcall h =>
    obtain ⟨id, existing, state, digest, reviewId, hget, hopen, rfl⟩ := pullRequestReview_ok h
    exact .inr ⟨id, _, .reviewed state digest reviewId hcall hget hopen, rfl⟩
  | pullRequestStatus h =>
    rcases pullRequestStatus_ok h with rfl | ⟨id, existing, hget, hopen, hmerge, rfl⟩
    · exact hm
    · exact .inr ⟨id, _, .moved _ hget hopen hmerge, rfl⟩
  | mirrored hcall hpulls => exact mirrored_put hcall hpulls
  | filed c hc id record _ =>
    have hne : Collection.pullRequests ∉ [c] := by
      rintro hmem
      cases List.mem_singleton.mp hmem
      exact absurd hc (by decide)
    rw [PutsPullRequest, AuthorityPlaneSnapshot.pullRequests, hframe.records .pullRequests hne]
    exact hm
  | _ =>
    rw [PutsPullRequest, AuthorityPlaneSnapshot.pullRequests,
      hframe.records .pullRequests (by decide)]
    exact hm

theorem Writes.putsPullRequest (h : Writes services s call.drawn call.operation m') :
    PutsPullRequest services s call m' :=
  h.wrote.invariant (PutsPullRequest services s call) (fun _ _ _ h hm => h.putsPullRequest hm)
    (.inl rfl)

/-- **A call writes at most one Pull Request.** -/
theorem step_pullRequests (services : AuthorityServices) (call : AuthorityCall)
    (s : AuthorityPlaneSnapshot) :
    PutsPullRequest services s call (step services call s).2 := by
  rcases step_records services call s with heq | ⟨next, hwrites, heq⟩
  · exact .inl (by rw [AuthorityPlaneSnapshot.pullRequests, heq])
  · rw [PutsPullRequest, AuthorityPlaneSnapshot.pullRequests, heq]
    exact hwrites.putsPullRequest

/-! ## Keys -/

theorem PullRequestPut.id_eq {id : String} {pullRequest : PullRequest}
    (h : PullRequestPut services s call id pullRequest)
    (hkeyed : OrderedMap.SelfKeyed PullRequest.id s.pullRequests) : pullRequest.id = id := by
  cases h with
  | opened _ hid _ _ => exact hid
  | updated update hget _ =>
    rw [PullRequest.applied_id]
    exact hkeyed _ _ hget
  | @reviewed _ existing _ _ _ _ _ _ hget _ =>
    show existing.id = id
    exact hkeyed _ _ hget
  | moved desired hget _ _ =>
    rw [PullRequest.moved_id]
    exact hkeyed _ _ hget
  | mirrored => exact PullRequest.mirrored_id ..
  | projected => rfl

theorem step_pullRequests_keyed (hkeyed : OrderedMap.SelfKeyed PullRequest.id s.pullRequests) :
    OrderedMap.SelfKeyed PullRequest.id (step services call s).2.pullRequests := by
  rcases step_pullRequests services call s with heq | ⟨id, pullRequest, hput, heq⟩
  · rw [heq]
    exact hkeyed
  · rw [heq]
    exact hkeyed.set (hput.id_eq hkeyed)

/-! ## Reviews -/

/-- What a reviewer looks at. -/
structure ReviewContext where
  headRef : String
  baseRef : String
  headCommit : String
  baseCommit : String
  revisionIds : List String
deriving DecidableEq, Repr

end

def PullRequest.context (pullRequest : PullRequest) : ReviewContext :=
  ⟨pullRequest.headRef, pullRequest.baseRef, pullRequest.headCommit, pullRequest.baseCommit,
    pullRequest.revisionIds⟩

def PullRequest.lastReview (pullRequest : PullRequest) : Option PullRequestReview :=
  (pullRequest.reviews.getD []).getLast?

/-- A Pull Request after a write that changes neither its context nor its review. -/
structure KeepsReview (before after : PullRequest) : Prop where
  context : after.context = before.context
  reviewState : after.reviewState = before.reviewState
  reviewDigest : after.reviewDigest = before.reviewDigest
  reviewHeadCommit : after.reviewHeadCommit = before.reviewHeadCommit
  reviewBaseCommit : after.reviewBaseCommit = before.reviewBaseCommit
  reviewRevisionSetDigest : after.reviewRevisionSetDigest = before.reviewRevisionSetDigest
  reviews : after.reviews = before.reviews

theorem KeepsReview.refl (pullRequest : PullRequest) : KeepsReview pullRequest pullRequest :=
  ⟨rfl, rfl, rfl, rfl, rfl, rfl, rfl⟩

theorem KeepsReview.lastReview {before after : PullRequest} (h : KeepsReview before after) :
    after.lastReview = before.lastReview := by
  rw [PullRequest.lastReview, h.reviews]
  rfl

theorem moved_keepsReview (existing : PullRequest) (desired : PullRequestStatus) (now : String) :
    KeepsReview existing (existing.moved desired now) := by
  cases desired <;> exact ⟨rfl, rfl, rfl, rfl, rfl, rfl, rfl⟩

/-- The update of a Pull Request takes the approval back, or keeps the review. -/
theorem applied_review (update : PullRequestUpdate) (existing : PullRequest) (now : String) :
    (update.applied existing now).reviewState = .pending ∨
      KeepsReview existing (update.applied existing now) := by
  simp only [PullRequestUpdate.applied]
  split
  · exact .inl rfl
  · rename_i hsame
    simp only [not_or, not_not, sameStrings, decide_eq_true_eq] at hsame
    obtain ⟨hheadRef, hbaseRef, hhead, hbase, hrevisions⟩ := hsame
    refine .inr ⟨?_, rfl, rfl, rfl, rfl, rfl, rfl⟩
    simp only [PullRequest.context, hheadRef, hbaseRef, hhead, hbase, hrevisions]

/-- The ingestion of a proposal takes the approval back, or keeps the review. -/
theorem mirrored_review (existing : PullRequest) (proposal : PermittedProposal)
    (update : ProposalUpdate) (change : Change) (revision : Option ChangeRevision) (now : String) :
    (existing.mirrored proposal update change revision now).reviewState = .pending ∨
      KeepsReview existing (existing.mirrored proposal update change revision now) := by
  simp only [PullRequest.mirrored]
  split
  · exact .inr (.refl _)
  · split
    · exact .inl rfl
    · rename_i hsame
      simp only [not_or, not_not, not_exists, not_and, sameStrings, decide_eq_true_eq] at hsame
      obtain ⟨hhead, hheadRef, hbase, hbaseRef, hrevisions⟩ := hsame
      refine .inr ⟨?_, rfl, rfl, rfl, rfl, rfl, rfl⟩
      -- a field that is given is the one that is there
      have hgiven : ∀ (given : Option String) (there : String),
          (∀ value ∈ given, there = value) → given.getD there = there := by
        intro given there h
        cases given with
        | none => rfl
        | some value => exact (h value rfl).symm
      simp only [PullRequest.context, hgiven _ _ hheadRef, hgiven _ _ hbase, hgiven _ _ hbaseRef,
        ← hhead, ← hrevisions]

/-- A review of a Pull Request as it was. -/
def IsReview (services : AuthorityServices) (before : PullRequest) (review : PullRequestReview) :
    Prop :=
  review.headCommit = before.headCommit ∧ review.baseCommit = before.baseCommit ∧
    review.revisionSetDigest = pullRequestRevisionSetDigest services before.revisionIds

section

variable {services : AuthorityServices} {s : AuthorityPlaneSnapshot} {call : AuthorityCall}
  {id : String} {pullRequest : PullRequest}

/-- **The Pull Request a call writes** is pending, keeps its context and its review, or was reviewed
just now. -/
theorem PullRequestPut.review (h : PullRequestPut services s call id pullRequest)
    (hkeyed : OrderedMap.SelfKeyed PullRequest.id s.pullRequests) :
    pullRequest.reviewState = .pending ∨
      (∃ existing, s.pullRequests.get? id = some existing ∧ KeepsReview existing pullRequest) ∨
      ∃ payload session existing review, call.Executes .pullRequestReview payload session ∧
        s.pullRequests.get? id = some existing ∧ IsReview services existing review ∧
        pullRequest = existing.reviewed review := by
  cases h with
  | opened _ _ _ hreview => exact .inl hreview
  | @updated _ existing update hget _ =>
    rcases applied_review update existing call.drawn.now with hpending | hkeeps
    · exact .inl hpending
    · exact .inr (.inl ⟨existing, hget, hkeeps⟩)
  | @reviewed _ existing payload session state digest reviewId hcall hget _ =>
    exact .inr (.inr ⟨payload, session, existing, _, hcall, hget, ⟨rfl, rfl, rfl⟩, rfl⟩)
  | @moved _ existing desired hget _ _ =>
    exact .inr (.inl ⟨existing, hget, moved_keepsReview existing desired call.drawn.now⟩)
  | @mirrored existing proposal update change revision _ hmem =>
    rcases mirrored_review existing proposal update change revision call.drawn.now with
      hpending | hkeeps
    · exact .inl hpending
    · obtain ⟨key, hget⟩ := OrderedMap.mem_values_iff.mp hmem
      cases hkeyed _ _ hget
      exact .inr (.inl ⟨existing, hget, hkeeps⟩)
  | projected => exact .inl rfl

/-! ## Current approvals -/

/-- A Pull Request carries an approval of itself as it is now, which its last review gave. -/
structure CurrentApproval (services : AuthorityServices) (pullRequest : PullRequest) : Prop where
  reviewHeadCommit : pullRequest.reviewHeadCommit = some pullRequest.headCommit
  reviewBaseCommit : pullRequest.reviewBaseCommit = some pullRequest.baseCommit
  reviewRevisionSetDigest : pullRequest.reviewRevisionSetDigest =
    some (pullRequestRevisionSetDigest services pullRequest.revisionIds)
  lastReview : ∃ review ∈ pullRequest.lastReview, review.state = .approved ∧
    pullRequest.reviewDigest = some review.reviewDigest ∧ IsReview services pullRequest review

theorem CurrentApproval.keeps {after : PullRequest} (h : CurrentApproval services pullRequest)
    (hkeeps : KeepsReview pullRequest after) : CurrentApproval services after := by
  obtain ⟨-, -, hhead, hbase, hrevisions⟩ := (ReviewContext.mk.injEq ..).mp hkeeps.context
  obtain ⟨review, hlast, hstate, hdigest, hreview⟩ := h.lastReview
  refine ⟨?_, ?_, ?_, review, hkeeps.lastReview ▸ hlast, hstate, ?_, ?_⟩
  · rw [hkeeps.reviewHeadCommit, h.reviewHeadCommit, hhead]
  · rw [hkeeps.reviewBaseCommit, h.reviewBaseCommit, hbase]
  · rw [hkeeps.reviewRevisionSetDigest, h.reviewRevisionSetDigest, hrevisions]
  · rw [hkeeps.reviewDigest, hdigest]
  · rw [IsReview, hhead, hbase, hrevisions]
    exact hreview

theorem lastReview_reviewed (existing : PullRequest) (review : PullRequestReview) :
    (existing.reviewed review).lastReview = some review := by
  simp [PullRequest.lastReview, PullRequest.reviewed]

/-- An approving review is current at once. -/
theorem CurrentApproval.of_review {existing : PullRequest} {review : PullRequestReview}
    (hreview : IsReview services existing review) (hstate : review.state = .approved) :
    CurrentApproval services (existing.reviewed review) :=
  ⟨rfl, rfl, congrArg some hreview.2.2, review, lastReview_reviewed existing review, hstate, rfl,
    hreview⟩

/-! ## Since the review -/

/-- A review of the Pull Request was executed in its context, and every later state has it in this
context with this review as its last. -/
def ReviewedSince (services : AuthorityServices) (tr : List AuthorityTransition) (id : String)
    (pullRequest : PullRequest) : Prop :=
  ∃ (earlier : List AuthorityTransition) (t : AuthorityTransition)
    (later : List AuthorityTransition) (payload : Payload) (session : AuthoritySession)
    (before : PullRequest) (review : PullRequestReview),
    tr = earlier ++ t :: later ∧ t.op.Executes .pullRequestReview payload session ∧
    t.pre.pullRequests.get? id = some before ∧ before.context = pullRequest.context ∧
    IsReview services before review ∧ review.state = .approved ∧
    t.post.pullRequests.get? id = some (before.reviewed review) ∧
    pullRequest.lastReview = some review ∧
    ∀ u ∈ later, ∃ found ∈ u.post.pullRequests.get? id,
      found.context = pullRequest.context ∧ found.lastReview = some review

/-- A step that keeps the review extends the time since it. -/
theorem ReviewedSince.extend {tr : List AuthorityTransition} {after : PullRequest}
    {u : AuthorityTransition} (h : ReviewedSince services tr id pullRequest)
    (hkeeps : KeepsReview pullRequest after) (hpost : u.post.pullRequests.get? id = some after) :
    ReviewedSince services (tr ++ [u]) id after := by
  obtain ⟨earlier, t, later, payload, session, before, review, rfl, hcall, hpre, hcontext, hreview,
    hstate, hreviewed, hlast, hlater⟩ := h
  have hlastAfter : after.lastReview = some review := hkeeps.lastReview.trans hlast
  refine ⟨earlier, t, later ++ [u], payload, session, before, review, ?_, hcall, hpre,
    hcontext.trans hkeeps.context.symm, hreview, hstate, hreviewed, hlastAfter, ?_⟩
  · rw [List.append_assoc, List.cons_append]
  · intro v hv
    rcases List.mem_append.mp hv with hold | hnew
    · obtain ⟨found, hfound, hsame, hreviewedLast⟩ := hlater v hold
      exact ⟨found, hfound, hsame.trans hkeeps.context.symm, hreviewedLast⟩
    · cases List.mem_singleton.mp hnew
      exact ⟨after, hpost, rfl, hlastAfter⟩

/-- The approval of every Pull Request is current, and of a review since which nothing of its
context changed. -/
def ApprovalsHold (services : AuthorityServices) (tr : List AuthorityTransition)
    (s : AuthorityPlaneSnapshot) : Prop :=
  ∀ id pullRequest, s.pullRequests.get? id = some pullRequest →
    pullRequest.reviewState = .approved →
      CurrentApproval services pullRequest ∧ ReviewedSince services tr id pullRequest

/-- A Pull Request that is not written is approved as before. -/
theorem ApprovalsHold.unwritten {tr : List AuthorityTransition} (h : ApprovalsHold services tr s)
    (hget : s.pullRequests.get? id = some pullRequest)
    (happroved : pullRequest.reviewState = .approved)
    (hpost : (step services call s).2.pullRequests.get? id = some pullRequest) :
    CurrentApproval services pullRequest ∧
      ReviewedSince services (tr ++ [.of (step services) s call]) id pullRequest := by
  obtain ⟨hcurrent, hsince⟩ := h id pullRequest hget happroved
  exact ⟨hcurrent, hsince.extend (.refl _) hpost⟩

/-- The one that is written was approved just now, or keeps the approval it had. -/
theorem ApprovalsHold.written {tr : List AuthorityTransition} (h : ApprovalsHold services tr s)
    (hkeyed : OrderedMap.SelfKeyed PullRequest.id s.pullRequests)
    (hput : PullRequestPut services s call id pullRequest)
    (happroved : pullRequest.reviewState = .approved)
    (hpost : (step services call s).2.pullRequests.get? id = some pullRequest) :
    CurrentApproval services pullRequest ∧
      ReviewedSince services (tr ++ [.of (step services) s call]) id pullRequest := by
  rcases hput.review hkeyed with hpending | ⟨existing, hget, hkeeps⟩ |
    ⟨payload, session, existing, review, hcall, hget, hreview, rfl⟩
  · rw [hpending] at happroved
    cases happroved
  · obtain ⟨hcurrent, hsince⟩ := h id existing hget (hkeeps.reviewState.symm.trans happroved)
    exact ⟨hcurrent.keeps hkeeps, hsince.extend hkeeps hpost⟩
  · refine ⟨.of_review hreview happroved, tr, .of (step services) s call, [], payload, session,
      existing, review, rfl, hcall, hget, rfl, hreview, happroved, hpost,
      lastReview_reviewed existing review, ?_⟩
    simp

/-- **Approvals are current**: in every reachable snapshot an approved Pull Request carries an
approval of its head, base and Revisions as they are now, which its last review gave, and nothing of
its review context changed since that review. -/
theorem approved_current {ok : AuthorityPlaneSnapshot → AuthorityCall → Prop} {realmId : String}
    {tr : List AuthorityTransition} (h : AuthorityRun services ok realmId tr s)
    (hget : s.pullRequests.get? id = some pullRequest)
    (happroved : pullRequest.reviewState = .approved) :
    CurrentApproval services pullRequest ∧ ReviewedSince services tr id pullRequest := by
  have hrun : OrderedMap.SelfKeyed PullRequest.id s.pullRequests ∧ ApprovalsHold services tr s := by
    refine h.traceInvariant (fun tr s =>
      OrderedMap.SelfKeyed PullRequest.id s.pullRequests ∧ ApprovalsHold services tr s)
      ⟨OrderedMap.selfKeyed_empty _, fun id pullRequest hget _ => by
        cases (show none = some pullRequest from hget)⟩
      fun tr s call ⟨hkeyed, happrovals⟩ _ => ⟨step_pullRequests_keyed hkeyed, ?_⟩
    intro id pullRequest hpost happroved
    rcases step_pullRequests services call s with heq | ⟨key, written, hput, heq⟩
    · exact happrovals.unwritten (heq ▸ hpost) happroved hpost
    · by_cases hid : id = key
      · subst hid
        have hwritten : written = pullRequest := by
          rw [heq, OrderedMap.get?_set_self] at hpost
          exact Option.some.inj hpost
        exact happrovals.written hkeyed (hwritten ▸ hput) happroved hpost
      · refine happrovals.unwritten ?_ happroved hpost
        rwa [heq, OrderedMap.get?_set_ne _ _ hid] at hpost
  exact hrun.2 id pullRequest hget happroved

end

/-- A Pull Request is opened for a Change and approved. -/
def Sample.approved : List AuthorityCall := [
  Sample.createProject "1" "project:1" "revision:1" "space:1",
  Sample.createChange "2" "project:1" "revision:1" "change:1",
  Sample.openPullRequest "3" "project:1" "change:1" "pull-request:1",
  Sample.approvePullRequest "4" "pull-request:1"]

/-- Its approval is current. -/
theorem approved_current_reviewed :
    ∃ tr s pullRequest,
      AuthorityRun Sample.services (fun s call => call.drawn.Fresh s) "realm:1" tr s ∧
      s.pullRequests.get? "pull-request:1" = some pullRequest ∧
      pullRequest.reviewState = .approved ∧ CurrentApproval Sample.services pullRequest ∧
      ReviewedSince Sample.services tr "pull-request:1" pullRequest := by
  obtain ⟨hadmits, hstate⟩ :
      Admits (step Sample.services) (fun s call => call.drawn.Fresh s)
        (emptyAuthorityPlaneSnapshot "realm:1") Sample.approved ∧
      ((Sample.after Sample.approved).2.pullRequests.get? "pull-request:1").map
        PullRequest.reviewState = some .approved := by decide +kernel
  have hrun : AuthorityRun Sample.services (fun s call => call.drawn.Fresh s) "realm:1"
      (Sample.after Sample.approved).1 (Sample.after Sample.approved).2 :=
    Sample.run_after hadmits
  obtain ⟨pullRequest, hget, happroved⟩ := Option.map_eq_some_iff.mp hstate
  obtain ⟨hcurrent, hsince⟩ := approved_current hrun hget happroved
  exact ⟨_, _, pullRequest, hrun, hget, happroved, hcurrent, hsince⟩

end Anyam.Authority
