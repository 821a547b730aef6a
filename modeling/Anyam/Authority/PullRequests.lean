import Anyam.Authority.Intents

/-!
# Pull Request commands

`AuthorityPlaneCoordinator.apply` on the Pull Request commands. An approval is bound to the head,
base and Revision set it was given for; a change of any of them takes it back.

- **`pullRequestOpen_ok`**, **`pullRequestUpdate_ok`**, **`pullRequestReview_ok`**,
  **`pullRequestStatus_ok`**: what an accepted command writes, and what it checked.
-/

namespace Anyam.Authority

open Anyam.Lib Anyam.Kernel

/-- `PULL_REQUEST_TRANSITIONS`. -/
def pullRequestTransitions : PullRequestStatus → List PullRequestStatus
  | .open => [.closed, .blocked, .merged]
  | .closed => [.open]
  | .blocked => [.open]
  | .merged => []

/-- `stableJson` of an array of strings. -/
def stableStrings (values : List String) : String :=
  "[" ++ String.intercalate "," (values.map jsonString) ++ "]"

def pullRequestRevisionSetDigest (services : AuthorityServices) (revisionIds : List String) :
    String :=
  "sha256:" ++ services.sha256 (stableStrings revisionIds)

def pullRequestApprovalIsCurrent (services : AuthorityServices) (pullRequest : PullRequest) :
    Bool :=
  pullRequest.reviewState = .approved && pullRequest.reviewDigest.isSome
    && pullRequest.reviewHeadCommit = some pullRequest.headCommit
    && pullRequest.reviewBaseCommit = some pullRequest.baseCommit
    && pullRequest.reviewRevisionSetDigest =
      some (pullRequestRevisionSetDigest services pullRequest.revisionIds)

def invalidatePullRequestReview (pullRequest : PullRequest) (timestamp reason : String) :
    PullRequest :=
  { pullRequest with
    reviewDigest := none
    reviewHeadCommit := none
    reviewBaseCommit := none
    reviewRevisionSetDigest := none
    reviewState := .pending
    reviewInvalidatedAt := some timestamp
    updatedAt := timestamp
    receipt := s!"pullRequest=review-invalidated; id={pullRequest.id}; reason={reason}; approval=stale; canonicalWrite=false" }

/-! ## Opening -/

def pullRequestOpen (next : AuthorityPlaneSnapshot) (payload : Payload) (drawn : Drawn) :
    Applied := do
  let project ← currentProject next payload
    "create or restore the Project before opening a Pull Request" "pullRequest=not-created"
  let changeId ← requiredString (payload.get? "changeId") "changeId"
  let change ← orThrow
    ((next.changes.get? changeId).filter fun change => change.projectId = project.id)
    (refusal .notFound
      s!"Change {changeId} is not available for Project {project.id}."
      "create the Pull Request from a Change belonging to the same Project"
      s!"project={project.id}; change={changeId}; pullRequest=not-created; discoverable=false")
  let id := (optionalString (payload.get? "pullRequestId")).getD (drawn.opaqueId "pull-request")
  require (next.pullRequests.get? id = none) (refusal .conflict
    s!"Pull Request {id} already exists."
    "reuse the original idempotency key or choose a new Pull Request identity"
    s!"pullRequest={id}; exists=true; transition=not-applied")
  let revisionIds ← definedStrings (payload.get? "revisionIds") "revisionIds"
  forM revisionIds fun revisionId =>
    require ((next.changeRevisions.get? revisionId).map ChangeRevision.changeId = some change.id)
      (refusal .conflict
        s!"Change Revision {revisionId} is not part of Change {change.id}."
        "bind the Pull Request only to Revisions produced by its Change"
        s!"pullRequest={id}; revision={revisionId}; lineage=not-accepted")
  let disclosure ← enumStringOr (payload.get? "disclosure") "disclosure" disclosures
    ((change.origin.map fun origin => origin.disclosure).getD .project)
  let provider ← requiredString (payload.get? "provider") "provider"
  require (payload.get? "reviewDigest").isNone (refusal .invalidRequest
    "Pull Request approval cannot be attached while opening a Pull Request."
    "open the Pull Request first, then submit a separate review bound to its exact head and Revision set"
    s!"pullRequest={id}; review=separate-transition-required; transition=not-applied")
  let headRef ← requiredString (payload.get? "headRef") "headRef"
  let baseRef ← requiredString (payload.get? "baseRef") "baseRef"
  let headCommit ← requiredString (payload.get? "headCommit") "headCommit"
  let baseCommit ← requiredString (payload.get? "baseCommit") "baseCommit"
  let title ← requiredString (payload.get? "title") "title"
  let pullRequest : PullRequest := {
    id
    projectId := project.id
    changeId := change.id
    provider
    externalKey := optionalString (payload.get? "externalKey")
    remoteRepository := optionalString (payload.get? "remoteRepository")
    sourceSpaceId := optionalString (payload.get? "sourceSpaceId")
    headRef
    baseRef
    headCommit
    baseCommit
    title
    description := (optionalString (payload.get? "description")).getD ""
    status := .open
    reviewState := .pending
    reviews := some []
    revisionIds
    disclosure
    createdAt := drawn.now
    updatedAt := drawn.now
    receipt := s!"pullRequest=opened; id={id}; change={change.id}; provider={provider}; status=open; canonicalWrite=false" }
  return (next.put .pullRequests id pullRequest,
    success .pullRequestOpen next [.pullRequest pullRequest] pullRequest.receipt)

/-! ## Changing one -/

/-- The Pull Request `payload.pullRequestId` names. -/
def existingPullRequest (next : AuthorityPlaneSnapshot) (payload : Payload)
    (command : AuthorityCommandName) : Except AuthorityFailure PullRequest := do
  let pullRequestId ← requiredString (payload.get? "pullRequestId") "pullRequestId"
  orThrow (next.pullRequests.get? pullRequestId) (refusal .notFound
    s!"Pull Request {pullRequestId} is not available in this Realm."
    "verify the Pull Request identifier without probing undiscoverable resources"
    s!"pullRequest={pullRequestId}; operation={command}; discoverable=false")

/-- The check of a requested Project on a Pull Request. -/
def requirePullRequestProject (existing : PullRequest) (payload : Payload)
    (command : AuthorityCommandName) (pullRequestId : String) : Except AuthorityFailure Unit :=
  let projectId := optionalString (payload.get? "projectId")
  let requested := projectId.getD ""
  require (∀ id ∈ projectId, existing.projectId = id) (refusal .notFound
    s!"Pull Request {pullRequestId} is not available for Project {requested}."
    "verify the Pull Request identifier within the requested Project"
    s!"pullRequest={pullRequestId}; project={requested}; operation={command}; discoverable=false")

/-- A merged Pull Request is terminal: the check each command makes, with its own advice. -/
def requireUnmerged (existing : PullRequest) (recoveryAction : String)
    (command : AuthorityCommandName) (pullRequestId : String) : Except AuthorityFailure Unit :=
  require (existing.status ≠ .merged) (refusal .conflict
    s!"Pull Request {pullRequestId} is merged and terminal."
    recoveryAction
    s!"pullRequest={pullRequestId}; terminal=true; operation={command}; transition=not-applied")

/-- What `pullRequest.update` takes from its payload. -/
structure PullRequestUpdate where
  revisionId : Option String
  headRef : Option String
  baseRef : Option String
  headCommit : Option String
  baseCommit : Option String
  title : Option String
  description : Option String

/-- The values with one more, unless it is one of them. -/
def appended (values : List String) : Option String → List String
  | some value => if value ∈ values then values else values ++ [value]
  | none => values

/-- The record `pullRequest.update` writes. A change of the review context takes the approval
back. -/
def PullRequestUpdate.applied (update : PullRequestUpdate) (existing : PullRequest)
    (now : String) : PullRequest :=
  let revisionIds := appended existing.revisionIds update.revisionId
  let headRef := update.headRef.getD existing.headRef
  let baseRef := update.baseRef.getD existing.baseRef
  let headCommit := update.headCommit.getD existing.headCommit
  let baseCommit := update.baseCommit.getD existing.baseCommit
  let reviewContextChanged := headRef ≠ existing.headRef ∨ baseRef ≠ existing.baseRef ∨
    headCommit ≠ existing.headCommit ∨ baseCommit ≠ existing.baseCommit ∨
    ¬ sameStrings revisionIds existing.revisionIds
  let candidate : PullRequest := {
    existing with
    headRef
    baseRef
    headCommit
    baseCommit
    title := update.title.getD existing.title
    description := update.description.getD existing.description
    revisionIds
    updatedAt := now
    receipt := s!"pullRequest=updated; id={existing.id}; head={headCommit}; revisions={revisionIds.length}; canonicalWrite=false" }
  if reviewContextChanged then
    invalidatePullRequestReview candidate now "head-base-or-revision-change"
  else candidate

def pullRequestUpdate (next : AuthorityPlaneSnapshot) (payload : Payload) (drawn : Drawn) :
    Applied := do
  let existing ← existingPullRequest next payload .pullRequestUpdate
  let pullRequestId ← requiredString (payload.get? "pullRequestId") "pullRequestId"
  requirePullRequestProject existing payload .pullRequestUpdate pullRequestId
  requireUnmerged existing
    "create a new Pull Request or a follow-up Change; merged Pull Requests cannot be updated"
    .pullRequestUpdate pullRequestId
  let revisionId := optionalString (payload.get? "revisionId")
  let requested := revisionId.getD ""
  require (∀ id ∈ revisionId,
      (next.changeRevisions.get? id).map ChangeRevision.changeId = some existing.changeId)
    (refusal .conflict
      s!"Change Revision {requested} is not part of Change {existing.changeId}."
      "bind the Pull Request update only to a Revision produced by its Change"
      s!"pullRequest={pullRequestId}; revision={requested}; lineage=not-accepted")
  let description ← whenDefined (requiredString · "description") (payload.get? "description")
  let update : PullRequestUpdate := {
    revisionId
    headRef := optionalString (payload.get? "headRef")
    baseRef := optionalString (payload.get? "baseRef")
    headCommit := optionalString (payload.get? "headCommit")
    baseCommit := optionalString (payload.get? "baseCommit")
    title := optionalString (payload.get? "title")
    description }
  let updated := update.applied existing drawn.now
  return (next.put .pullRequests pullRequestId updated,
    success .pullRequestUpdate next [.pullRequest updated] updated.receipt)

/-! ## Reviewing one -/

/-- The review a command records for the Pull Request as it is. -/
def recordedReview (services : AuthorityServices) (existing : PullRequest)
    (state : PullRequestReviewState) (reviewDigest id : String) (reviewer : ActorRef)
    (reviewedAt : String) : PullRequestReview where
  id
  pullRequestId := existing.id
  reviewer
  state
  headCommit := existing.headCommit
  baseCommit := existing.baseCommit
  revisionSetDigest := pullRequestRevisionSetDigest services existing.revisionIds
  reviewDigest
  reviewedAt
  receipt := s!"pullRequest=review-recorded; id={existing.id}; reviewState={state}; head={existing.headCommit}; revisions={existing.revisionIds.length}; canonicalWrite=false"

/-- The Pull Request with a review recorded. -/
def PullRequest.reviewed (existing : PullRequest) (review : PullRequestReview) : PullRequest :=
  { existing with
    reviewInvalidatedAt := none
    reviewState := review.state
    reviewDigest := some review.reviewDigest
    reviewHeadCommit := some existing.headCommit
    reviewBaseCommit := some existing.baseCommit
    reviewRevisionSetDigest := some review.revisionSetDigest
    reviews := some (existing.reviews.getD [] ++ [review])
    updatedAt := review.reviewedAt
    receipt := s!"pullRequest=review-updated; id={existing.id}; reviewState={review.state}; head={existing.headCommit}; revisionSetDigest={review.revisionSetDigest}; canonicalWrite=false" }

def reviewStates : List PullRequestReviewState := [.pending, .changesRequested, .approved]

def pullRequestReview (services : AuthorityServices) (next : AuthorityPlaneSnapshot)
    (payload : Payload) (session : AuthoritySession) (drawn : Drawn) : Applied := do
  let existing ← existingPullRequest next payload .pullRequestReview
  let pullRequestId ← requiredString (payload.get? "pullRequestId") "pullRequestId"
  requireUnmerged existing
    "create a new Pull Request or follow-up Change; merged Pull Requests cannot receive reviews"
    .pullRequestReview pullRequestId
  let state ← enumString (payload.get? "reviewState") "reviewState" reviewStates
  let reviewDigest ← requiredString (payload.get? "reviewDigest") "reviewDigest"
  let id := (optionalString (payload.get? "reviewId")).getD (drawn.opaqueId "pull-request-review")
  let updated := existing.reviewed
    (recordedReview services existing state reviewDigest id (actorRef session) drawn.now)
  return (next.put .pullRequests pullRequestId updated,
    success .pullRequestReview next [.pullRequest updated] updated.receipt)

/-! ## Moving one -/

/-- What `pullRequest.merge` checks beyond the other moves. -/
def requireMergeable (services : AuthorityServices) (next : AuthorityPlaneSnapshot)
    (existing : PullRequest) (pullRequestId : String) : Except AuthorityFailure Unit := do
  let change := next.changes.get? existing.changeId
  let changeStatus := (change.map fun change => toString change.status).getD "missing"
  require (change.map Change.status = some .landed) (refusal .conflict
    s!"Pull Request {pullRequestId} cannot be marked merged before its Change is Landed."
    "complete review and Landing for the mapped Change before merging the compatibility projection"
    s!"pullRequest={pullRequestId}; change={existing.changeId}; changeStatus={changeStatus}; merge=not-accepted")
  require (pullRequestApprovalIsCurrent services existing = true) (refusal .conflict
    s!"Pull Request {pullRequestId} has no current approval for its exact head, base, and Revision set."
    "request a fresh approval for the current Pull Request head after completing Landing"
    s!"pullRequest={pullRequestId}; approval=required; head={existing.headCommit}; revisions={existing.revisionIds.length}; merge=not-accepted")

/-- The checks of a move to `desired` beyond the table of moves: `pullRequest.merge` has its own. -/
def requireMove (desired : PullRequestStatus) (services : AuthorityServices)
    (next : AuthorityPlaneSnapshot) (existing : PullRequest) (pullRequestId : String) :
    Except AuthorityFailure Unit :=
  if desired = .merged then requireMergeable services next existing pullRequestId else .ok ()

/-- The record a move writes. -/
def PullRequest.moved (existing : PullRequest) (desired : PullRequestStatus) (timestamp : String) :
    PullRequest :=
  match desired with
  | .open => {
    existing with
    closedAt := none
    mergedAt := none
    status := .open
    updatedAt := timestamp
    receipt := s!"pullRequest=reopened; id={existing.id}; canonicalWrite=false" }
  | .merged => {
    existing with
    status := .merged
    mergedAt := some timestamp
    updatedAt := timestamp
    receipt := s!"pullRequest=merged; id={existing.id}; change={existing.changeId}; canonicalWrite=false" }
  | .closed => {
    existing with
    status := .closed
    closedAt := some timestamp
    updatedAt := timestamp
    receipt := s!"pullRequest=closed; id={existing.id}; canonicalWrite=false" }
  | .blocked => {
    existing with
    status := .blocked
    updatedAt := timestamp
    receipt := s!"pullRequest=blocked; id={existing.id}; canonicalWrite=false" }

/-- `pullRequest.close`, `.reopen`, `.block` and `.merge`. -/
def pullRequestStatus (desired : PullRequestStatus) (command : AuthorityCommandName)
    (services : AuthorityServices) (next : AuthorityPlaneSnapshot) (payload : Payload)
    (drawn : Drawn) : Applied := do
  let existing ← existingPullRequest next payload command
  let pullRequestId ← requiredString (payload.get? "pullRequestId") "pullRequestId"
  requirePullRequestProject existing payload command pullRequestId
  requireUnmerged existing
    "create a new Pull Request or follow-up Change; merged Pull Requests cannot transition again"
    command pullRequestId
  let transitions := pullRequestTransitions existing.status
  let allowed :=
    if transitions = [] then "none" else String.intercalate "," (transitions.map toString)
  require (existing.status = desired ∨ desired ∈ transitions) (refusal .conflict
    s!"Pull Request {pullRequestId} cannot transition from {existing.status} to {desired}."
    (if existing.status = .closed ∨ existing.status = .blocked then
      "reopen the Pull Request explicitly before requesting another transition"
    else "use only the transitions allowed by the current Pull Request state")
    s!"pullRequest={pullRequestId}; status={existing.status}; desired={desired}; allowed={allowed}; transition=not-applied")
  requireMove desired services next existing pullRequestId
  if existing.status = desired then
    return (next, success command next [.pullRequest existing]
      s!"pullRequest={desired}; id={pullRequestId}; unchanged=true; canonicalWrite=false")
  else
    let updated := existing.moved desired drawn.now
    return (next.put .pullRequests pullRequestId updated,
      success command next [.pullRequest updated] updated.receipt)

def pullRequestClose := pullRequestStatus .closed .pullRequestClose

def pullRequestReopen := pullRequestStatus .open .pullRequestReopen

def pullRequestBlock := pullRequestStatus .blocked .pullRequestBlock

def pullRequestMerge := pullRequestStatus .merged .pullRequestMerge

/-! ## What they write -/

section

variable {services : AuthorityServices} {next next' : AuthorityPlaneSnapshot} {payload : Payload}
  {session : AuthoritySession} {drawn : Drawn} {result : AuthorityCommandResult}

theorem pullRequestOpen_ok (h : pullRequestOpen next payload drawn = .ok (next', result)) :
    ∃ (id : String) (pullRequest : PullRequest), next.pullRequests.get? id = none ∧
      pullRequest.id = id ∧ pullRequest.status = .open ∧ pullRequest.reviewState = .pending ∧
      pullRequest.reviews = some [] ∧ next' = next.put .pullRequests id pullRequest := by
  simp only [pullRequestOpen, bind_eq_ok, require_eq_ok, orThrow_eq_ok, exists_unit, pure_eq_ok,
    Prod.mk.injEq] at h
  obtain ⟨_, -, _, -, _, -, hnew, _, -, -, _, -, _, -, -, _, -, _, -, _, -, _, -, _, -, rfl, -⟩ := h
  exact ⟨_, _, hnew, rfl, rfl, rfl, rfl, rfl⟩

/-- The Pull Request that is changed is the one the payload names. -/
theorem existingPullRequest_ok {command : AuthorityCommandName} {existing : PullRequest}
    (h : existingPullRequest next payload command = .ok existing) :
    ∃ id, requiredString (payload.get? "pullRequestId") "pullRequestId" = .ok id ∧
      next.pullRequests.get? id = some existing := by
  simp only [existingPullRequest, bind_eq_ok, orThrow_eq_ok] at h
  exact h

theorem pullRequestUpdate_ok (h : pullRequestUpdate next payload drawn = .ok (next', result)) :
    ∃ (id : String) (existing : PullRequest) (update : PullRequestUpdate),
      next.pullRequests.get? id = some existing ∧ existing.status ≠ .merged ∧
      next' = next.put .pullRequests id (update.applied existing drawn.now) := by
  simp only [pullRequestUpdate, requireUnmerged, bind_eq_ok, require_eq_ok, exists_unit,
    pure_eq_ok, Prod.mk.injEq] at h
  obtain ⟨existing, hexisting, id, hid, -, hstatus, -, _, -, rfl, -⟩ := h
  obtain ⟨_, hid', hget⟩ := existingPullRequest_ok hexisting
  cases hid.symm.trans hid'
  exact ⟨_, existing, _, hget, hstatus, rfl⟩

theorem pullRequestReview_ok
    (h : pullRequestReview services next payload session drawn = .ok (next', result)) :
    ∃ id existing state reviewDigest reviewId, next.pullRequests.get? id = some existing ∧
      existing.status ≠ .merged ∧
      next' = next.put .pullRequests id (existing.reviewed (recordedReview services existing state
        reviewDigest reviewId (actorRef session) drawn.now)) := by
  simp only [pullRequestReview, requireUnmerged, bind_eq_ok, require_eq_ok, exists_unit,
    pure_eq_ok, Prod.mk.injEq] at h
  obtain ⟨existing, hexisting, id, hid, hstatus, state, -, reviewDigest, -, rfl, -⟩ := h
  obtain ⟨_, hid', hget⟩ := existingPullRequest_ok hexisting
  cases hid.symm.trans hid'
  exact ⟨_, existing, state, reviewDigest, _, hget, hstatus, rfl⟩

/-- A move leaves the snapshot alone, or moves a Pull Request that is not merged; a merge was
checked for the Landing and the approval. -/
theorem pullRequestStatus_ok {desired : PullRequestStatus} {command : AuthorityCommandName}
    (h : pullRequestStatus desired command services next payload drawn = .ok (next', result)) :
    next' = next ∨ ∃ id existing, next.pullRequests.get? id = some existing ∧
      existing.status ≠ .merged ∧
      (desired = .merged →
        (next.changes.get? existing.changeId).map Change.status = some .landed ∧
          pullRequestApprovalIsCurrent services existing = true) ∧
      next' = next.put .pullRequests id (existing.moved desired drawn.now) := by
  simp only [pullRequestStatus, requireUnmerged, bind_eq_ok, require_eq_ok, exists_unit] at h
  obtain ⟨existing, hexisting, id, hid, -, hstatus, -, hmerge, h⟩ := h
  obtain ⟨_, hid', hget⟩ := existingPullRequest_ok hexisting
  cases hid.symm.trans hid'
  split at h
  · exact .inl (Prod.mk.inj (Except.ok.inj h)).1.symm
  · refine .inr ⟨_, existing, hget, hstatus, fun hdesired => ?_,
      (Prod.mk.inj (Except.ok.inj h)).1.symm⟩
    rw [requireMove, if_pos hdesired] at hmerge
    simpa only [requireMergeable, bind_eq_ok, require_eq_ok, exists_unit] using hmerge

end

end Anyam.Authority
