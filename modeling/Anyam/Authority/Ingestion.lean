import Anyam.Authority.Mirrors

/-!
# Ingesting external proposals

The second half of `mirror.sync` and `mirror.reconcile` (`AuthorityPlaneCoordinator.apply`): an
operation that succeeded maps the provider proposal it carries to one Change, publishes one
Revision of it for each new head, projects it to a Pull Request, and moves the remote boundary of
the Mirror. The Change and the Revision are made by the commands of their own, on payloads put
together here.

- **`mirrorSync_ok`**: an accepted operation is a delivery that was recorded before, which changes
  nothing, or it is recorded with its checkpoint and its delivery.
- **`ingestProposal_ok`**: what an ingested proposal leaves of the ledger, its Change, its Revision
  and its Pull Request.
-/

namespace Anyam.Authority

open Anyam.Lib Anyam.Kernel Anyam.Execution

/-! ## The proposal an operation carries -/

/-- A provider proposal as an operation reports it. -/
structure ProposalEnvelope where
  provider : String
  sourceIdentity : String
  remoteRepository : String
  proposalKind : ProposalKind
  proposalKey : String
  head : String
  baseProjectRevisionId : String
  disclosure : DisclosureClassification
  installationId : Option String
deriving DecidableEq, Repr

def ProposalEnvelope.ledgerKey (envelope : ProposalEnvelope) : String :=
  mirrorProposalLedgerKey envelope.provider envelope.installationId envelope.sourceIdentity
    envelope.remoteRepository (toString envelope.proposalKind) envelope.proposalKey

def readProposal (mirror : RepositoryMirror) (value : Payload) :
    Except AuthorityFailure ProposalEnvelope := do
  let sourceIdentity ← requiredString (value.get? "sourceIdentity")
    "externalProposal.sourceIdentity"
  let remoteRepository ← requiredString (value.get? "remoteRepository")
    "externalProposal.remoteRepository"
  let proposalKind ← enumString (value.get? "proposalKind") "externalProposal.proposalKind"
    [ProposalKind.pullRequest, .ref, .commit]
  let proposalKey ← requiredString (value.get? "proposalKey") "externalProposal.proposalKey"
  let head ← requiredString ((nullish (value.get? "latestHeadCommit")).or (value.get? "headCommit"))
    "externalProposal.latestHeadCommit"
  let baseProjectRevisionId ← requiredString (value.get? "baseProjectRevisionId")
    "externalProposal.baseProjectRevisionId"
  let disclosure ← enumStringOr (value.get? "disclosure") "externalProposal.disclosure" disclosures
    mirror.disclosure
  return {
    provider := (optionalString (value.get? "provider")).getD mirror.provider
    sourceIdentity
    remoteRepository
    proposalKind
    proposalKey
    head
    baseProjectRevisionId
    disclosure
    installationId := optionalString (value.get? "installationId") }

/-- A proposal that may be ingested, with what it was checked against. -/
structure PermittedProposal extends ProposalEnvelope where
  baseCommit : Option String
  canonicalSourceSnapshot : Option String
  projectViewId : String
  view : ProjectView
  observation : Option MirrorRepositoryObservation

/-- The session of the fixture of a Mirror, which needs no delivery and no observation. -/
def isMirrorFixture (session : AuthoritySession) : Prop :=
  session.kind = some .mirror ∧ session.clientId = "anyam-mirror-fixture"

instance (session : AuthoritySession) : Decidable (isMirrorFixture session) :=
  inferInstanceAs (Decidable (_ ∧ _))

/-- The one observation of the mirrored Source Space, verified to be of the proposal. -/
def verifiedObservation (services : AuthorityServices) (request : MirrorRequest)
    (delivery : Option MirrorDelivery) (envelope : ProposalEnvelope) (projectViewId : String)
    (expectedBaseCommit : Option String) : Except AuthorityFailure MirrorRepositoryObservation := do
  let mirror := request.mirror
  let observations := request.mirrorRepositoryObservations.getD .empty
  let required := refusal .blocked
    s!"External proposal {envelope.proposalKey} has no exact Mirror RepositoryDriver observation for Source Space {mirror.sourceSpaceId}."
    "reinspect the proposal head and base through the internal RepositoryDriver handoff before creating a Change"
    s!"mirror={request.mirrorId}; proposal={envelope.proposalKey}; sourceSpace={mirror.sourceSpaceId}; observation=required; change=not-created; revision=not-created"
  let delivery ← orThrow delivery required
  let observation ← orThrow
    ((observations.get? mirror.sourceSpaceId).filter fun _ => observations.keys.length = 1) required
  let identity := if (truthy request.sourceSpace.repositoryId).isSome then "present" else "missing"
  let baseText := expectedBaseCommit.getD "missing"
  let incomplete := refusal .blocked
    s!"External proposal {envelope.proposalKey} has incomplete Repository identity or canonical base."
    "bind the Source Space to its authoritative Repository and re-read the canonical base before retrying the signed Mirror handoff"
    s!"mirror={request.mirrorId}; proposal={envelope.proposalKey}; repositoryIdentity={identity}; baseCommit={baseText}; change=not-created"
  let repositoryId ← orThrow (truthy request.sourceSpace.repositoryId) incomplete
  let expectedBaseCommitOid ← orThrow (truthy expectedBaseCommit) incomplete
  (verifyMirrorRepositoryObservation services observation {
    repositoryId
    sourceSpaceId := mirror.sourceSpaceId
    mirrorId := request.mirrorId
    proposalKey := envelope.proposalKey
    deliveryId := delivery.deliveryId
    provider := envelope.provider
    remoteRepository := envelope.remoteRepository
    projectViewId
    expectedCommitOid := envelope.head
    expectedBaseCommitOid }).mapError fun refused =>
      refusal .conflict
        "The Mirror RepositoryDriver observation does not match the external proposal identity or Git ancestry."
        refused.recoveryAction refused.receipt

/-- The observation of a proposal; the fixture of a Mirror gives none. -/
def requiredObservation (services : AuthorityServices) (request : MirrorRequest)
    (delivery : Option MirrorDelivery) (envelope : ProposalEnvelope) (projectViewId : String)
    (expectedBaseCommit : Option String) (session : AuthoritySession) :
    Except AuthorityFailure (Option MirrorRepositoryObservation) :=
  if isMirrorFixture session then .ok none
  else
    (verifiedObservation services request delivery envelope projectViewId expectedBaseCommit).map
      some

def permittedProposal (services : AuthorityServices) (next : AuthorityPlaneSnapshot)
    (request : MirrorRequest) (delivery : Option MirrorDelivery) (session : AuthoritySession)
    (value : Payload) : Except AuthorityFailure PermittedProposal := do
  let mirror := request.mirror
  let mirrorId := request.mirrorId
  let canonicalId := request.canonicalProjectRevisionId
  let envelope ← readProposal mirror value
  let key := envelope.proposalKey
  require (envelope.provider = mirror.provider ∧
      envelope.remoteRepository = mirror.remoteRepository) (refusal .conflict
    s!"External proposal identity does not match Mirror {mirrorId}."
    "bind the proposal to the configured provider and repository"
    s!"mirror={mirrorId}; proposal={key}; identity=mirror-mismatch; providerInvocation=false")
  let deliveryText := (delivery.map MirrorDelivery.deliveryId).getD ""
  require (∀ found ∈ delivery, found.provider = envelope.provider ∧
      found.installationId = envelope.installationId ∧
      found.sourceIdentity = envelope.sourceIdentity ∧
      found.remoteRepository = envelope.remoteRepository ∧
      found.proposalKey = some key) (refusal .conflict
    s!"Mirror delivery identity does not match external proposal {key}."
    "send a delivery and proposal envelope with matching provider, installation, source identity, repository, and proposal key"
    s!"mirror={mirrorId}; proposal={key}; delivery={deliveryText}; identity=proposal-delivery-mismatch; providerInvocation=false")
  require (envelope.baseProjectRevisionId = canonicalId) (refusal .staleState
    s!"External proposal {key} is based on {envelope.baseProjectRevisionId}, not the current canonical Project Revision {canonicalId}."
    "rebase or quarantine the proposal against the current canonical Project Revision; no Change was advanced"
    s!"mirror={mirrorId}; proposal={key}; base={envelope.baseProjectRevisionId}; canonical={canonicalId}; proposal=blocked")
  let baseCommit := optionalString (value.get? "baseCommit")
  let baseText := baseCommit.getD ""
  let canonicalSourceSnapshot :=
    request.canonicalProjectRevision.sourceSpaceSnapshots.get? mirror.sourceSpaceId
  let canonicalText := canonicalSourceSnapshot.getD "missing"
  require (∀ commit ∈ baseCommit, canonicalSourceSnapshot = some commit) (refusal .staleState
    s!"External proposal {key} names base commit {baseText}, not the canonical {canonicalText} Source Space snapshot."
    "rebase the proposal against the current canonical Source Space snapshot before importing it"
    s!"mirror={mirrorId}; proposal={key}; baseCommit={baseText}; canonicalSource={canonicalText}; proposal=blocked")
  require (envelope.disclosure = mirror.disclosure ∧
      (envelope.disclosure ≠ .public ∨ request.sourceSpace.classification = .public))
    (refusal .conflict
      s!"External proposal {key} disclosure is not permitted by Mirror {mirrorId}."
      "use a Project View whose disclosure matches the Mirror and Source Space policy"
      s!"mirror={mirrorId}; proposal={key}; disclosure={envelope.disclosure}; sourceClassification={request.sourceSpace.classification}; proposal=blocked; discoverable=false")
  let projectViewId ← requiredString (value.get? "projectViewId") "externalProposal.projectViewId"
  let view ← orThrow
    ((next.projectViews.get? projectViewId).filter fun view =>
      view.projectId = mirror.projectId ∧ view.projectRevisionId = canonicalId ∧
        mirror.sourceSpaceId ∈ view.visibleSourceSpaceIds ∧
        view.classification = toString envelope.disclosure)
    (refusal .notFound
      s!"Project View {projectViewId} is not a permitted disclosure View for external proposal {key}."
      "create or select the exact Project View that discloses this Source Space at the current canonical Project Revision"
      s!"mirror={mirrorId}; proposal={key}; projectView={projectViewId}; disclosure=blocked; discoverable=false")
  require (delivery.isSome ∨ isMirrorFixture session) (refusal .blocked
    s!"External proposal {key} has no verified provider delivery identity."
    "submit the proposal through the signed provider delivery handoff and re-inspect it before creating a Change"
    s!"mirror={mirrorId}; proposal={key}; delivery=required; change=not-created; revision=not-created")
  let observation ← requiredObservation services request delivery envelope projectViewId
    (baseCommit.or canonicalSourceSnapshot) session
  return {
    toProposalEnvelope := envelope
    baseCommit
    canonicalSourceSnapshot
    projectViewId
    view
    observation }

/-! ## Its Change -/

/-- The name of a proposal's author, when it has one. -/
def proposalAuthorName : Option Payload → Except AuthorityFailure (Option String)
  | none => .ok none
  | some author =>
    (requiredString (author.get? "name") "externalProposal.remoteAuthor.name").map some

/-- The origin a proposal's Change is created with, as the value of a payload. -/
def proposalOrigin (services : AuthorityServices) (request : MirrorRequest)
    (proposal : PermittedProposal) (delivery : Option MirrorDelivery) (value : Payload) :
    Except AuthorityFailure Json := do
  let author := (value.get? "remoteAuthor").bind Json.asRecord
  let authorName ← proposalAuthorName author
  let authorEmail := author.bind fun author => optionalString (author.get? "email")
  let receipt ← receiptString services (value.get? "receipt") "externalProposal.receipt"
  return .object (objectOf [
    ("kind", some (.string "mirror")),
    ("source", some (.string proposal.provider)),
    ("mirrorId", some (.string request.mirrorId)),
    ("remoteRepository", some (.string proposal.remoteRepository)),
    ("remoteRef", (optionalString (value.get? "remoteRef")).map .string),
    ("remoteCommit", some (.string proposal.head)),
    ("remoteAuthor", authorName.map fun name =>
      .object (objectOf [("name", some (.string name)), ("email", authorEmail.map .string)]).entries),
    ("externalProposalKey", some (.string proposal.proposalKey)),
    ("externalProposalKind", some (.string (toString proposal.proposalKind))),
    ("externalProposalHead", some (.string proposal.head)),
    ("externalProposalBase", proposal.baseCommit.map .string),
    ("externalProposalInstallation", proposal.installationId.map .string),
    ("externalProposalSourceIdentity", some (.string proposal.sourceIdentity)),
    ("externalDeliveryId", delivery.map fun delivery => .string delivery.deliveryId),
    ("disclosure", some (.string (toString proposal.disclosure))),
    ("receipt", some (.string receipt))]).entries

/-- The payload of the nested `change.create`. -/
def proposalChangePayload (request : MirrorRequest) (proposal : PermittedProposal)
    (value : Payload) (origin : Json) : Payload :=
  objectOf [
    ("projectId", some (.string request.mirror.projectId)),
    ("intentId", some (.string ((optionalString (value.get? "intentId")).getD
      s!"intent:external:{proposal.proposalKey}"))),
    ("changeId", (optionalString (value.get? "changeId")).map .string),
    ("baseProjectRevisionId", some (.string request.canonicalProjectRevisionId)),
    ("origin", some origin)]

/-- `result.value.change`. -/
def answeredChange (result : AuthorityCommandResult) : Except AuthorityFailure Change :=
  orThrow (result.value.findSome? fun
    | .change change => some change
    | _ => none) (.untranslated "Cannot read properties of undefined")

/-- `result.value.revision`. -/
def answeredRevision (result : AuthorityCommandResult) : Except AuthorityFailure ChangeRevision :=
  orThrow (result.value.findSome? fun
    | .revision revision => some revision
    | _ => none) (.untranslated "Cannot read properties of undefined")

/-- The Change of a proposal: the one its ledger record maps it to, or a new one. -/
def proposalChange (services : AuthorityServices) (next : AuthorityPlaneSnapshot)
    (request : MirrorRequest) (proposal : PermittedProposal) (delivery : Option MirrorDelivery)
    (session : AuthoritySession) (value : Payload) (drawn : Drawn) :
    Except AuthorityFailure (AuthorityPlaneSnapshot × Change) :=
  let key := proposal.proposalKey
  match next.externalProposals.get? proposal.ledgerKey with
  | some existing => do
    require (existing.mirrorId = request.mirrorId ∧
        existing.projectId = request.mirror.projectId ∧
        existing.sourceSpaceId = request.mirror.sourceSpaceId) (refusal .conflict
      s!"External proposal {key} is already mapped to a different Anyam Mirror."
      "inspect the proposal ledger and reconcile the provider source identity before retrying"
      s!"proposal={key}; ledgerKey={proposal.ledgerKey}; mapping=conflict; providerInvocation=false")
    let change ← orThrow (next.changes.get? existing.changeId) (refusal .indeterminate
      s!"External proposal {key} refers to missing Change {existing.changeId}."
      "restore the stable Change before resuming the Mirror checkpoint"
      s!"proposal={key}; change={existing.changeId}; lineage=incomplete")
    return (next, change)
  | none => do
    let origin ← proposalOrigin services request proposal delivery value
    let created ← changeCreate services next (proposalChangePayload request proposal value origin)
      session drawn
    let change ← answeredChange created.2
    return (created.1, change)

/-! ## Its Revision -/

/-- The snapshots a proposal's Revision is published with: the mirrored Source Space at its head,
every other as the View discloses it. -/
def proposalSnapshots (request : MirrorRequest) (proposal : PermittedProposal) (value : Payload) :
    Except AuthorityFailure Payload := do
  let mirrored := request.mirror.sourceSpaceId
  let disclosed := proposal.view.disclosedSourceSpaceSnapshots
  let key := proposal.proposalKey
  let supplied ← whenDefined (record · "externalProposal.sourceSpaceSnapshots")
    (value.get? "sourceSpaceSnapshots")
  let snapshots : Payload := supplied.getD
    ((disclosed.map Json.string).set mirrored (.string proposal.head))
  forM snapshots.keys fun sourceSpaceId => do
    require (sourceSpaceId ∈ proposal.view.visibleSourceSpaceIds ∧
        (disclosed.get? sourceSpaceId).isSome) (refusal .conflict
      s!"External proposal {key} includes Source Space {sourceSpaceId} outside Project View {proposal.projectViewId}."
      "publish only the Source Space snapshots disclosed by the exact Project View"
      s!"mirror={request.mirrorId}; proposal={key}; sourceSpace={sourceSpaceId}; disclosure=blocked; providerInvocation=false")
    require (sourceSpaceId = mirrored ∨
        (snapshots.get? sourceSpaceId).bind Json.asString = disclosed.get? sourceSpaceId)
      (refusal .conflict
        s!"External proposal {key} changes disclosed Source Space {sourceSpaceId} outside the mirrored Source Space."
        "use the Project View snapshot for every non-mirrored Source Space"
        s!"mirror={request.mirrorId}; proposal={key}; sourceSpace={sourceSpaceId}; snapshot=disclosure-mismatch; providerInvocation=false")
  require ((snapshots.get? mirrored).bind Json.asString = some proposal.head) (refusal .conflict
    s!"External proposal {key} does not map its mirrored Source Space to head {proposal.head}."
    "include the mirrored Source Space with the exact external proposal head commit"
    s!"mirror={request.mirrorId}; proposal={key}; sourceSpace={mirrored}; expectedHead={proposal.head}; snapshot=not-accepted; providerInvocation=false")
  return snapshots

/-- A verified observation, as the value of a payload. -/
def observationJson (observation : MirrorRepositoryObservation) : Json :=
  let objectFormat := match observation.objectFormat with
    | .sha1 => "sha1"
    | .sha256 => "sha256"
  .object [
    ("protocol", .string mirrorRepositoryObservationProtocol),
    ("repositoryId", .string observation.repositoryId),
    ("sourceSpaceId", .string observation.sourceSpaceId),
    ("mirrorId", .string observation.mirrorId),
    ("proposalKey", .string observation.proposalKey),
    ("deliveryId", .string observation.deliveryId),
    ("provider", .string observation.provider),
    ("remoteRepository", .string observation.remoteRepository),
    ("projectViewId", .string observation.projectViewId),
    ("objectFormat", .string objectFormat),
    ("symbolicRef", .string observation.symbolicRef),
    ("commitOid", .string observation.commitOid),
    ("treeOid", .string observation.treeOid),
    ("baseCommitOid", .string observation.baseCommitOid),
    ("manifestDigest", .string observation.manifestDigest),
    ("ancestryVerified", .bool true),
    ("observedAt", .string observation.observedAt),
    ("receipt", .string observation.receipt)]

/-- The payload of the nested `revision.publish`. -/
def proposalRevisionPayload (request : MirrorRequest) (proposal : PermittedProposal)
    (change : Change) (value snapshots : Payload) : Payload :=
  objectOf [
    ("changeId", some (.string change.id)),
    ("projectId", some (.string request.mirror.projectId)),
    ("projectViewId", some (.string proposal.projectViewId)),
    ("projectRevisionId", some (.string ((optionalString (value.get? "projectRevisionId")).getD
      s!"proposal-revision:{proposal.head}"))),
    ("sourceSpaceSnapshots", some (.object snapshots.entries)),
    ("mirrorRepositoryObservations", proposal.observation.map fun observation =>
      .object [(request.mirror.sourceSpaceId, observationJson observation)]),
    ("declaredEffects", some ((nullish (value.get? "declaredEffects")).getD
      (.ofStrings ["mirror.external-proposal"]))),
    ("kind", some (.string "implementation"))]

/-- A Revision is published for a head that was not observed before. -/
def proposalRevision (next : AuthorityPlaneSnapshot) (request : MirrorRequest)
    (proposal : PermittedProposal) (existing : Option ExternalProposal) (change : Change)
    (session : AuthoritySession) (value : Payload) (drawn : Drawn) :
    Except AuthorityFailure (AuthorityPlaneSnapshot × Option ChangeRevision) :=
  if ∃ ledger ∈ existing, proposal.head ∈ ledger.observedHeadCommits then
    return (next, none)
  else do
    let snapshots ← proposalSnapshots request proposal value
    let published ← revisionPublish next
      (proposalRevisionPayload request proposal change value snapshots) session drawn
    let revision ← answeredRevision published.2
    return (published.1, some revision)

/-! ## Its ledger record -/

/-- What a proposal says of itself now. -/
structure ProposalUpdate where
  remoteRef : Option String
  baseRef : Option String
  status : PullRequestStatus
  title : Option String
  description : Option String
deriving DecidableEq, Repr

def pullRequestStatuses : List PullRequestStatus := [.open, .closed, .merged, .blocked]

def readProposalUpdate (existing : Option ExternalProposal) (value : Payload) :
    Except AuthorityFailure ProposalUpdate := do
  let status ← enumStringOr (value.get? "status") "externalProposal.status" pullRequestStatuses
    ((existing.map ExternalProposal.status).getD .open)
  return {
    remoteRef := optionalString (value.get? "remoteRef")
    baseRef := optionalString (value.get? "baseRef")
    status
    title := optionalString (value.get? "title")
    description := optionalString (value.get? "description") }

/-- The record of a proposal that is in the ledger. -/
def ExternalProposal.observed (existing : ExternalProposal) (proposal : PermittedProposal)
    (update : ProposalUpdate) (revision : Option ChangeRevision) (delivery : Option MirrorDelivery)
    (now : String) : ExternalProposal :=
  let published := (revision.map ChangeRevision.id).getD "unchanged"
  { existing with
    latestHeadCommit := proposal.head
    remoteRef := update.remoteRef.or existing.remoteRef
    baseRef := update.baseRef.or existing.baseRef
    baseCommit := proposal.baseCommit.or existing.baseCommit
    status := update.status
    observedHeadCommits := appended existing.observedHeadCommits (some proposal.head)
    changeRevisionIds :=
      existing.changeRevisionIds ++ (revision.map ChangeRevision.id).toList
    lastDeliveryId :=
      (truthy (delivery.map MirrorDelivery.deliveryId)).or existing.lastDeliveryId
    updatedAt := now
    receipt := s!"proposal={proposal.proposalKey}; change={existing.changeId}; head={proposal.head}; status={update.status}; revision={published}; mapping=stable; credentialFree=true" }

/-- The record of a proposal that was not in the ledger. -/
def newProposal (request : MirrorRequest) (proposal : PermittedProposal) (update : ProposalUpdate)
    (change : Change) (revision : Option ChangeRevision) (delivery : Option MirrorDelivery)
    (drawn : Drawn) : ExternalProposal :=
  let published := (revision.map ChangeRevision.id).getD "none"
  {
    id := drawn.opaqueId "external-proposal"
    ledgerKey := proposal.ledgerKey
    mirrorId := request.mirrorId
    projectId := request.mirror.projectId
    sourceSpaceId := request.mirror.sourceSpaceId
    provider := proposal.provider
    installationId := proposal.installationId
    sourceIdentity := proposal.sourceIdentity
    remoteRepository := proposal.remoteRepository
    proposalKind := proposal.proposalKind
    proposalKey := proposal.proposalKey
    remoteRef := update.remoteRef
    baseRef := update.baseRef
    baseCommit := proposal.baseCommit
    latestHeadCommit := proposal.head
    observedHeadCommits := [proposal.head]
    changeId := change.id
    changeRevisionIds := (revision.map ChangeRevision.id).toList
    status := update.status
    lastDeliveryId := delivery.map MirrorDelivery.deliveryId
    disclosure := proposal.disclosure
    createdAt := drawn.now
    updatedAt := drawn.now
    receipt := s!"proposal={proposal.proposalKey}; change={change.id}; head={proposal.head}; status={update.status}; revision={published}; mapping=created; credentialFree=true" }

/-! ## Its Pull Request -/

/-- The status a Pull Request takes from its proposal: a merge of the provider counts only when the
Change of the proposal is landed. -/
def projectedStatus (change : Change) (status : PullRequestStatus) : PullRequestStatus :=
  if status = .merged ∧ change.status ≠ .landed then .blocked else status

/-- The Pull Request of the snapshot a proposal is of. -/
def proposalPullRequest (next : AuthorityPlaneSnapshot) (proposal : PermittedProposal) :
    Option PullRequest :=
  next.pullRequests.values.find? fun candidate =>
    candidate.provider = proposal.provider && candidate.externalKey = some proposal.proposalKey &&
      candidate.remoteRepository = some proposal.remoteRepository

/-- A Pull Request that is there, after its proposal was observed. A merged one stays as it is; a
change of the review context takes the approval back. -/
def PullRequest.mirrored (existing : PullRequest) (proposal : PermittedProposal)
    (update : ProposalUpdate) (change : Change) (revision : Option ChangeRevision) (now : String) :
    PullRequest :=
  let status := projectedStatus change update.status
  let revisionIds := appended existing.revisionIds (revision.map ChangeRevision.id)
  let reviewContextChanged := existing.headCommit ≠ proposal.head ∨
    (∃ ref ∈ update.remoteRef, existing.headRef ≠ ref) ∨
    (∃ commit ∈ proposal.baseCommit, existing.baseCommit ≠ commit) ∨
    (∃ ref ∈ update.baseRef, existing.baseRef ≠ ref) ∨
    ¬ sameStrings existing.revisionIds revisionIds
  let updated : PullRequest := {
    existing with
    headCommit := proposal.head
    headRef := update.remoteRef.getD existing.headRef
    baseCommit := proposal.baseCommit.getD existing.baseCommit
    baseRef := update.baseRef.getD existing.baseRef
    status
    revisionIds
    updatedAt := now
    receipt := s!"pullRequest=mirror-updated; id={existing.id}; proposal={proposal.proposalKey}; head={proposal.head}; status={status}; mapping=stable; credentialFree=true" }
  if existing.status = .merged then existing
  else if reviewContextChanged then
    invalidatePullRequestReview updated now "mirror-head-base-or-revision-change"
  else updated

/-- The Pull Request of a proposal that had none. -/
def newMirrorPullRequest (request : MirrorRequest) (proposal : PermittedProposal)
    (update : ProposalUpdate) (change : Change) (revision : Option ChangeRevision) (drawn : Drawn) :
    PullRequest :=
  let status := projectedStatus change update.status
  {
    id := drawn.opaqueId "pull-request"
    projectId := request.mirror.projectId
    changeId := change.id
    provider := proposal.provider
    externalKey := some proposal.proposalKey
    remoteRepository := some proposal.remoteRepository
    sourceSpaceId := some request.mirror.sourceSpaceId
    headRef := update.remoteRef.getD "refs/heads/main"
    baseRef := update.baseRef.getD "refs/heads/main"
    headCommit := proposal.head
    baseCommit := (proposal.baseCommit.or proposal.canonicalSourceSnapshot).getD "unknown"
    title := update.title.getD s!"Pull Request {proposal.proposalKey}"
    description := update.description.getD ""
    status
    reviewState := .pending
    reviews := some []
    revisionIds := (revision.map ChangeRevision.id).toList
    disclosure := proposal.disclosure
    createdAt := drawn.now
    updatedAt := drawn.now
    receipt := s!"pullRequest=mirror-created; id={proposal.proposalKey}; change={change.id}; head={proposal.head}; status={status}; mapping=stable; credentialFree=true" }

/-- The Pull Request a proposal is projected to; only a proposal of a Pull Request has one. -/
def mirrorPullRequest (next : AuthorityPlaneSnapshot) (request : MirrorRequest)
    (proposal : PermittedProposal) (update : ProposalUpdate) (change : Change)
    (revision : Option ChangeRevision) (drawn : Drawn) : Option PullRequest :=
  if proposal.proposalKind = .pullRequest then
    match proposalPullRequest next proposal with
    | some existing => some (existing.mirrored proposal update change revision drawn.now)
    | none => some (newMirrorPullRequest request proposal update change revision drawn)
  else none

/-! ## Ingesting one -/

/-- What the ingestion of a proposal leaves. -/
structure Ingested where
  proposal : ExternalProposal
  change : Change
  revision : Option ChangeRevision
  pullRequest : Option PullRequest

/-- `next.pullRequests[pullRequest.id] = pullRequest`, when there is one. -/
def putPullRequest (next : AuthorityPlaneSnapshot) :
    Option PullRequest → AuthorityPlaneSnapshot
  | some pullRequest => next.put .pullRequests pullRequest.id pullRequest
  | none => next

def ingestProposal (services : AuthorityServices) (next : AuthorityPlaneSnapshot)
    (request : MirrorRequest) (delivery : Option MirrorDelivery) (session : AuthoritySession)
    (value : Payload) (drawn : Drawn) :
    Except AuthorityFailure (AuthorityPlaneSnapshot × Ingested) := do
  let proposal ← permittedProposal services next request delivery session value
  let existing := next.externalProposals.get? proposal.ledgerKey
  let mapped ← proposalChange services next request proposal delivery session value drawn
  let published ← proposalRevision mapped.1 request proposal existing mapped.2 session value drawn
  let update ← readProposalUpdate existing value
  let persisted := match existing with
    | some existing => existing.observed proposal update published.2 delivery drawn.now
    | none => newProposal request proposal update mapped.2 published.2 delivery drawn
  let pullRequest :=
    mirrorPullRequest published.1 request proposal update mapped.2 published.2 drawn
  return (putPullRequest (published.1.put .externalProposals proposal.ledgerKey persisted)
      pullRequest,
    { proposal := persisted, change := mapped.2, revision := published.2, pullRequest })

/-- The proposal of an operation is ingested when it succeeded, unless the canonical refs won. -/
def ingests (request : MirrorRequest) : Bool :=
  request.operationState = .succeeded && request.reconciliation ≠ some .canonicalWins

def ingestWhenSucceeded (services : AuthorityServices) (next : AuthorityPlaneSnapshot)
    (request : MirrorRequest) (delivery : Option MirrorDelivery) (session : AuthoritySession)
    (drawn : Drawn) : Except AuthorityFailure (AuthorityPlaneSnapshot × Option Ingested) :=
  match request.externalProposal.filter fun _ => ingests request with
  | some value => do
    let ingested ← ingestProposal services next request delivery session value drawn
    return (ingested.1, some ingested.2)
  | none => return (next, none)

/-! ## Recording the operation -/

/-- `if (proposalDelivery) next.mirrorDeliveries[proposalDelivery.deliveryKey] = …`. -/
def putDelivery (next : AuthorityPlaneSnapshot) : Option MirrorDelivery → AuthorityPlaneSnapshot
  | some delivery => next.put .mirrorDeliveries delivery.deliveryKey delivery
  | none => next

def checkpointState : MirrorOperationState → MirrorCheckpointState
  | .succeeded => .completed
  | .started => .remoteInspected
  | _ => .blocked

instance : ToString MirrorCheckpointState where
  toString
    | .preflight => "preflight"
    | .remoteInspected => "remote-inspected"
    | .inboundProposals => "inbound-proposals"
    | .outboundApplied => "outbound-applied"
    | .blocked => "blocked"
    | .completed => "completed"

/-- The state a Mirror is left in. -/
def nextMirrorState (operationState : MirrorOperationState) (payload : Payload) :
    Except AuthorityFailure MirrorState :=
  match operationState with
  | .succeeded => enumStringOr (payload.get? "mirrorState") "mirrorState" mirrorStates .healthy
  | .failed => .ok .divergent
  | .degraded => .ok .lagging
  | .started | .blocked => .ok .blocked

/-- The Mirror after an operation: one that succeeded moves its remote boundary. -/
def RepositoryMirror.operated (mirror : RepositoryMirror) (request : MirrorRequest)
    (state : MirrorState) (changeId originOperationId : Option String) (now : String) :
    RepositoryMirror :=
  let acceptsRemoteBoundary : Bool := request.operationState = .succeeded
  let receipt := s!"mirror={request.mirrorId}; state={state}; operation={request.operationId}; acceptedRemoteBoundary={acceptsRemoteBoundary}; canonicalWrite=false; credentialFree=true"
  let operated : RepositoryMirror := {
    mirror with
    state
    lastOperationId := some request.operationId
    lastOriginOperationId := originOperationId.or mirror.lastOriginOperationId
    checkpointId := some request.checkpointId
    updatedAt := now
    receipt }
  if acceptsRemoteBoundary then
    { operated with
      canonicalProjectRevisionId := request.canonicalProjectRevisionId
      canonicalRefs := request.canonicalRefs
      remoteGeneration := request.actualRemoteGeneration
      remoteRefs := request.remoteRefs
      pendingInboundChangeIds := distinct (mirror.pendingInboundChangeIds ++
        request.pendingInboundChangeIds ++ request.inboundChangeIds ++ changeId.toList) }
  else operated

/-- The answer to an operation that was recorded. -/
def mirrorAnswer (next : AuthorityPlaneSnapshot) (request : MirrorRequest)
    (mirror : RepositoryMirror) (operation : MirrorOperation) (checkpoint : MirrorCheckpoint)
    (ingested : Option Ingested) (delivery : Option MirrorDelivery) : AuthorityCommandResult :=
  let pullRequest := ingested.bind Ingested.pullRequest
  let pullRequestText := (pullRequest.map fun found => s!" pullRequest={found.id};").getD ""
  if request.operationState = .succeeded then
    success request.command next
      ([.mirror mirror, .operation operation, .checkpoint checkpoint] ++
        (ingested.map fun found => .proposal found.proposal).toList ++
        (pullRequest.map .pullRequest).toList ++
        (ingested.map fun found => .change found.change).toList ++
        ((ingested.bind Ingested.revision).map .revision).toList ++
        (delivery.map .delivery).toList)
      s!"mirror={request.mirrorId}; operation={operation.id}; state=succeeded;{pullRequestText} canonicalWrite=false; credentialFree=true"
  else
    unsettled .blocked request.command next
      ([.mirror mirror, .operation operation, .checkpoint checkpoint] ++
        (delivery.map .delivery).toList)
      s!"mirror={request.mirrorId}; operation={operation.id}; state={request.operationState}; checkpoint={checkpoint.id}; canonicalWrite=false; credentialFree=true"
      request.recoveryAction

def recordMirrorOperation (services : AuthorityServices) (next : AuthorityPlaneSnapshot)
    (request : MirrorRequest) (payload : Payload) (delivery : Option MirrorDelivery)
    (session : AuthoritySession) (drawn : Drawn) : Applied := do
  let ingested ← ingestWhenSucceeded services next request delivery session drawn
  let changeId := ingested.2.map fun found => found.change.id
  let receipt ← receiptString services (payload.get? "receipt") "receipt"
  let state ← nextMirrorState request.operationState payload
  let checkpointed := checkpointState request.operationState
  let checkpoint : MirrorCheckpoint := {
    id := request.checkpointId
    mirrorId := request.mirrorId
    operationId := request.operationId
    state := checkpointed
    canonicalProjectRevisionId := request.canonicalProjectRevisionId
    canonicalRefs := request.canonicalRefs
    remoteGeneration := request.actualRemoteGeneration
    remoteRefs := request.remoteRefs
    completedInboundChangeIds := distinct
      (request.completedInboundChangeIds ++ changeId.toList ++ request.inboundChangeIds)
    recoveryAction := request.recoveryAction
    receipt := s!"mirror={request.mirrorId}; checkpoint={request.checkpointId}; state={checkpointed}; operation={request.operationId}; credentialFree=true" }
  let operation : MirrorOperation := {
    id := request.operationId
    mirrorId := request.mirrorId
    kind := request.operationKind
    state := request.operationState
    canonicalProjectRevisionId := request.canonicalProjectRevisionId
    expectedRemoteGeneration := request.expectedRemoteGeneration
    actualRemoteGeneration := some request.actualRemoteGeneration
    actor := some (actorRef session)
    inboundChangeIds := distinct (request.inboundChangeIds ++ changeId.toList)
    checkpointId := request.checkpointId
    errorCode := optionalString (payload.get? "errorCode")
    createdAt := drawn.now
    completedAt := if request.operationState = .succeeded then some drawn.now else none
    receipt }
  let mirror := request.mirror.operated request state changeId
    (optionalString (payload.get? "originOperationId")) drawn.now
  return ((((putDelivery ingested.1 delivery).put .mirrorOperations operation.id operation).put
      .mirrorCheckpoints checkpoint.id checkpoint).put .mirrors mirror.id mirror,
    mirrorAnswer next request mirror operation checkpoint ingested.2 delivery)

/-- `mirror.sync` and `mirror.reconcile`. A delivery that is recorded already is answered without
a transition, whatever became of it. -/
def mirrorSync (services : AuthorityServices) (command : AuthorityCommandName)
    (next : AuthorityPlaneSnapshot) (payload : Payload) (session : AuthoritySession)
    (drawn : Drawn) : Applied := do
  let request ← readMirrorRequest next command payload drawn
  match ← whenDefined (record · "delivery") (payload.get? "delivery") with
  | none => recordMirrorOperation services next request payload none session drawn
  | some value => do
    let envelope ← readDelivery request.mirrorId request.mirror value
    match next.mirrorDeliveries.get? envelope.deliveryKey with
    | some existing => do
      requireSameEvent request.mirrorId envelope existing
      return (next, duplicateAnswer next request envelope.deliveryId existing)
    | none =>
      recordMirrorOperation services next request payload
        (some (newDelivery request envelope value drawn)) session drawn

/-! ## What they write -/

section

variable {services : AuthorityServices} {command : AuthorityCommandName}
  {next next' : AuthorityPlaneSnapshot} {request : MirrorRequest} {payload : Payload}
  {proposal : PermittedProposal} {delivery : Option MirrorDelivery} {session : AuthoritySession}
  {value : Payload} {drawn : Drawn} {change : Change} {revision : Option ChangeRevision}
  {result : AuthorityCommandResult}

/-- The Change of a proposal is the one its ledger record names, or a new one that claims no
Workspace. -/
theorem proposalChange_ok
    (h : proposalChange services next request proposal delivery session value drawn =
      .ok (next', change)) :
    (∃ existing, next.externalProposals.get? proposal.ledgerKey = some existing ∧
        existing.sourceSpaceId = request.mirror.sourceSpaceId ∧
        next.changes.get? existing.changeId = some change ∧ next' = next) ∨
      (next.externalProposals.get? proposal.ledgerKey = none ∧
        ∃ origin result, changeCreate services next
          (proposalChangePayload request proposal value origin) session drawn =
            .ok (next', result) ∧ result.value = [.change change]) := by
  unfold proposalChange at h
  cases hexisting : next.externalProposals.get? proposal.ledgerKey with
  | some existing =>
    simp only [hexisting, bind_eq_ok, require_eq_ok, orThrow_eq_ok, exists_unit, pure_eq_ok,
      Prod.mk.injEq] at h
    obtain ⟨⟨-, -, hspace⟩, _, hchange, rfl, rfl⟩ := h
    exact .inl ⟨existing, rfl, hspace, hchange, rfl⟩
  | none =>
    simp only [hexisting, bind_eq_ok, answeredChange, orThrow_eq_ok, pure_eq_ok,
      Prod.mk.injEq] at h
    obtain ⟨origin, -, ⟨created, result⟩, hcreate, _, hanswer, rfl, rfl⟩ := h
    obtain ⟨_, _, _, made, -, -, -, -, -, -, -, -, -, -, -, hvalue⟩ := changeCreate_ok hcreate
    rw [hvalue] at hanswer
    obtain rfl : made = _ := Option.some.inj hanswer
    exact .inr ⟨rfl, origin, result, hcreate, hvalue⟩

/-- A new Change of a proposal claims no Workspace, so its Intent and its own record are all that
is written. -/
theorem proposalChange_created {origin : Json}
    (h : changeCreate services next (proposalChangePayload request proposal value origin) session
      drawn = .ok (next', result)) (hvalue : result.value = [.change change]) :
    ∃ (project : Project) (base : ProjectRevision), change.projectId = project.id ∧
      change.status = .active ∧ change.latestRevisionId = none ∧ change.workspaceId = none ∧
      next.projectRevisions.get? change.baseProjectRevisionId = some base ∧
      base.projectId = project.id ∧
      change.id = (optionalString ((proposalChangePayload request proposal value origin).get?
        "changeId")).getD (drawn.opaqueId "change") ∧
      next.changes.get? change.id = none ∧
      next' = (materializedIntent next project.id change.intentId change.author drawn.now).put
        .changes change.id change := by
  obtain ⟨project, base, workspace, made, -, hproject, hstatus, hlatest, hbase, hbelongs, hclaim,
    hworkspace, hid, hnew, rfl, hmade⟩ := changeCreate_ok h
  obtain rfl : change = made := by
    rw [hvalue] at hmade
    injection hmade with hmade
    injection hmade
  have hnone : (proposalChangePayload request proposal value origin).get? "workspaceId" = none :=
    objectOf_get?_eq_none (by simp)
  rw [hnone] at hworkspace
  refine ⟨project, base, hproject, hstatus, hlatest, hworkspace, hbase, hbelongs, hid, hnew, ?_⟩
  rw [hworkspace]
  rfl

theorem proposalChange_writes
    (h : proposalChange services next request proposal delivery session value drawn =
      .ok (next', change)) : next.WritesOnly [.intents, .changes] next' := by
  rcases proposalChange_ok h with ⟨_, -, -, -, rfl⟩ | ⟨-, origin, result, hcreate, hvalue⟩
  · exact .refl ..
  · obtain ⟨_, _, -, -, -, -, -, -, -, -, rfl⟩ := proposalChange_created hcreate hvalue
    exact .put ((materializedIntent_writes ..).mono (by decide)) (by decide) ..

/-- The snapshots a Revision is published with put the mirrored Source Space at the head. -/
theorem proposalSnapshots_ok {snapshots : Payload}
    (h : proposalSnapshots request proposal value = .ok snapshots) :
    (snapshots.get? request.mirror.sourceSpaceId).bind Json.asString = some proposal.head := by
  simp only [proposalSnapshots, bind_eq_ok, require_eq_ok, exists_unit, pure_eq_ok] at h
  obtain ⟨supplied, -, -, hmirrored, rfl⟩ := h
  exact hmirrored

/-- The fields of a nested `revision.publish` that it is read back by. -/
theorem proposalRevisionPayload_get? (request : MirrorRequest) (proposal : PermittedProposal)
    (change : Change) (value : Payload) (snapshots : Payload) :
    (proposalRevisionPayload request proposal change value snapshots).get? "changeId" =
        some (.string change.id) ∧
      (proposalRevisionPayload request proposal change value snapshots).get? "revisionId" = none ∧
      (proposalRevisionPayload request proposal change value snapshots).get?
        "sourceSpaceSnapshots" = some (.object snapshots.entries) := by
  refine ⟨objectOf_get? (by simp) (by simp), objectOf_get?_eq_none (by simp),
    objectOf_get? (by simp) (by simp)⟩

/-- A Revision is published for a head that was not observed before, with the mirrored Source
Space at that head. -/
theorem proposalRevision_ok {existing : Option ExternalProposal}
    (h : proposalRevision next request proposal existing change session value drawn =
      .ok (next', revision)) :
    ((∃ ledger ∈ existing, proposal.head ∈ ledger.observedHeadCommits) ∧ next' = next ∧
        revision = none) ∨
      ((∀ ledger ∈ existing, proposal.head ∉ ledger.observedHeadCommits) ∧
        ∃ (changeId : String) (found : Change) (published : ChangeRevision),
          revision = some published ∧ optionalString (some (.string change.id)) = some changeId ∧
          next.changes.get? changeId = some found ∧ found.status ≠ .landed ∧
          found.status ≠ .abandoned ∧ next.changeRevisions.get? published.id = none ∧
          published.id = drawn.opaqueId "change-revision" ∧ published.changeId = changeId ∧
          published.sourceSpaceSnapshots.get? request.mirror.sourceSpaceId = some proposal.head ∧
          next' = (next.put .changeRevisions published.id published).put .changes changeId
            { found with latestRevisionId := some published.id, status := .submitted }) := by
  unfold proposalRevision at h
  split at h
  · rename_i hobserved
    obtain ⟨rfl, rfl⟩ := Prod.mk.inj (Except.ok.inj h)
    exact .inl ⟨hobserved, rfl, rfl⟩
  · rename_i hnew
    simp only [bind_eq_ok, answeredRevision, orThrow_eq_ok, pure_eq_ok, Prod.mk.injEq] at h
    obtain ⟨snapshots, hsnapshots, ⟨published, answer⟩, hpublish, _, hanswer, rfl, rfl⟩ := h
    obtain ⟨hchangePayload, hrevisionPayload, hsnapshotsPayload⟩ :=
      proposalRevisionPayload_get? request proposal change value snapshots
    obtain ⟨changeId, id, found, made, given, hchangeId, hfound, hlanded, habandoned, hfree, hid,
      hdrawn, hof, -, hgiven, hmade, rfl, hvalue⟩ := revisionPublish_ok hpublish
    rw [hvalue] at hanswer
    obtain rfl : made = _ := Option.some.inj hanswer
    rw [hchangePayload] at hchangeId
    rw [hrevisionPayload] at hdrawn
    subst hid
    have hread : given = snapshots := by
      have := hgiven _ (by rw [hsnapshotsPayload]; rfl)
      exact (Option.some.inj this).symm.trans (OrderedMap.ofList_entries snapshots)
    refine .inr ⟨fun ledger hledger hmem => hnew ⟨ledger, hledger, hmem⟩, changeId, found, made,
      rfl, hchangeId, hfound, hlanded, habandoned, hfree, hdrawn, hof, ?_, rfl⟩
    rw [hmade, hread, OrderedMap.get?_map]
    obtain ⟨json, hjson, htext⟩ := Option.bind_eq_some_iff.mp (proposalSnapshots_ok hsnapshots)
    cases json <;> cases htext
    rw [hjson]
    rfl

theorem proposalRevision_writes {existing : Option ExternalProposal}
    (h : proposalRevision next request proposal existing change session value drawn =
      .ok (next', revision)) : next.WritesOnly [.changeRevisions, .changes] next' := by
  rcases proposalRevision_ok h with ⟨-, rfl, -⟩ | ⟨-, _, _, _, -, -, -, -, -, -, -, -, -, rfl⟩
  · exact .refl ..
  · exact .put (.put (.refl ..) (by decide) ..) (by decide) ..

/-- What the ingestion of a proposal leaves: its Change, its Revision, its ledger record and its
Pull Request. -/
theorem ingestProposal_ok {ingested : Ingested}
    (h : ingestProposal services next request delivery session value drawn =
      .ok (next', ingested)) :
    ∃ (proposal : PermittedProposal) (changed published : AuthorityPlaneSnapshot)
      (update : ProposalUpdate),
      permittedProposal services next request delivery session value = .ok proposal ∧
      proposalChange services next request proposal delivery session value drawn =
        .ok (changed, ingested.change) ∧
      proposalRevision changed request proposal (next.externalProposals.get? proposal.ledgerKey)
        ingested.change session value drawn = .ok (published, ingested.revision) ∧
      readProposalUpdate (next.externalProposals.get? proposal.ledgerKey) value = .ok update ∧
      ingested.proposal = (match next.externalProposals.get? proposal.ledgerKey with
        | some existing => existing.observed proposal update ingested.revision delivery drawn.now
        | none => newProposal request proposal update ingested.change ingested.revision delivery
            drawn) ∧
      ingested.pullRequest = mirrorPullRequest published request proposal update ingested.change
        ingested.revision drawn ∧
      next' = putPullRequest
        (published.put .externalProposals proposal.ledgerKey ingested.proposal)
        ingested.pullRequest := by
  simp only [ingestProposal, bind_eq_ok, pure_eq_ok, Prod.mk.injEq] at h
  obtain ⟨proposal, hproposal, ⟨changed, change⟩, hchange, ⟨published, revision⟩, hrevision, update,
    hupdate, rfl, rfl⟩ := h
  exact ⟨proposal, changed, published, update, hproposal, hchange, hrevision, hupdate, rfl, rfl,
    rfl⟩

/-- The collections an ingestion may write. -/
def ingestionWrites : List Collection :=
  [.intents, .changes, .changeRevisions, .externalProposals, .pullRequests]

theorem ingestProposal_writes {ingested : Ingested}
    (h : ingestProposal services next request delivery session value drawn =
      .ok (next', ingested)) : next.WritesOnly ingestionWrites next' := by
  obtain ⟨proposal, changed, published, update, -, hchange, hrevision, -, -, -, rfl⟩ :=
    ingestProposal_ok h
  have hchanged : next.WritesOnly ingestionWrites changed :=
    (proposalChange_writes hchange).mono (by decide)
  have hpublished : next.WritesOnly ingestionWrites published :=
    hchanged.trans ((proposalRevision_writes hrevision).mono (by decide))
  have hledger : next.WritesOnly ingestionWrites
      (published.put .externalProposals proposal.ledgerKey ingested.proposal) :=
    hpublished.put (by decide) ..
  cases ingested.pullRequest with
  | none => exact hledger
  | some pullRequest => exact hledger.put (by decide) ..

theorem ingestWhenSucceeded_writes {found : Option Ingested}
    (h : ingestWhenSucceeded services next request delivery session drawn = .ok (next', found)) :
    next.WritesOnly ingestionWrites next' := by
  unfold ingestWhenSucceeded at h
  split at h
  · simp only [bind_eq_ok, pure_eq_ok, Prod.mk.injEq] at h
    obtain ⟨⟨_, ingested⟩, hingested, rfl, -⟩ := h
    exact ingestProposal_writes hingested
  · obtain ⟨rfl, -⟩ := Prod.mk.inj (Except.ok.inj h)
    exact .refl ..

theorem operated_id (mirror : RepositoryMirror) (state : MirrorState)
    (changeId originOperationId : Option String) (now : String) :
    (mirror.operated request state changeId originOperationId now).id = mirror.id := by
  simp only [RepositoryMirror.operated]
  split <;> rfl

/-- An operation is recorded with its checkpoint, its delivery and its Mirror, after it ingested
the proposal it carries. -/
theorem recordMirrorOperation_ok
    (h : recordMirrorOperation services next request payload delivery session drawn =
      .ok (next', result)) :
    ∃ (ingested : AuthorityPlaneSnapshot) (found : Option Ingested) (operation : MirrorOperation)
      (checkpoint : MirrorCheckpoint) (mirror : RepositoryMirror),
      ingestWhenSucceeded services next request delivery session drawn = .ok (ingested, found) ∧
      operation.id = request.operationId ∧ checkpoint.id = request.checkpointId ∧
      mirror.id = request.mirror.id ∧
      next' = ((((putDelivery ingested delivery).put .mirrorOperations request.operationId
        operation).put .mirrorCheckpoints request.checkpointId checkpoint).put .mirrors mirror.id
          mirror) ∧
      result = mirrorAnswer next request mirror operation checkpoint found delivery := by
  simp only [recordMirrorOperation, bind_eq_ok, pure_eq_ok, Prod.mk.injEq] at h
  obtain ⟨⟨ingested, found⟩, hingested, receipt, -, state, -, rfl, rfl⟩ := h
  refine ⟨ingested, found, _, _, _, hingested, rfl, rfl, ?_, rfl, rfl⟩
  exact operated_id ..

/-- An accepted operation answers a delivery that was recorded before, which changes nothing, or
is recorded with the delivery it carries. -/
theorem mirrorSync_ok
    (h : mirrorSync services command next payload session drawn = .ok (next', result)) :
    ∃ request, readMirrorRequest next command payload drawn = .ok request ∧
      ((whenDefined (record · "delivery") (payload.get? "delivery") = .ok none ∧
          recordMirrorOperation services next request payload none session drawn =
            .ok (next', result)) ∨
        ∃ given envelope,
          whenDefined (record · "delivery") (payload.get? "delivery") = .ok (some given) ∧
          readDelivery request.mirrorId request.mirror given = .ok envelope ∧
          ((∃ existing, next.mirrorDeliveries.get? envelope.deliveryKey = some existing ∧
              requireSameEvent request.mirrorId envelope existing = .ok () ∧ next' = next ∧
              result = duplicateAnswer next request envelope.deliveryId existing) ∨
            (next.mirrorDeliveries.get? envelope.deliveryKey = none ∧
              recordMirrorOperation services next request payload
                (some (newDelivery request envelope given drawn)) session drawn =
                  .ok (next', result)))) := by
  simp only [mirrorSync, bind_eq_ok] at h
  obtain ⟨request, hrequest, given, hgiven, h⟩ := h
  refine ⟨request, hrequest, ?_⟩
  cases given with
  | none => exact .inl ⟨hgiven, h⟩
  | some given =>
    simp only [bind_eq_ok] at h
    obtain ⟨envelope, henvelope, h⟩ := h
    refine .inr ⟨given, envelope, hgiven, henvelope, ?_⟩
    cases hexisting : next.mirrorDeliveries.get? envelope.deliveryKey with
    | some existing =>
      simp only [hexisting, bind_eq_ok, pure_eq_ok, exists_unit, Prod.mk.injEq] at h
      obtain ⟨hsame, rfl, rfl⟩ := h
      exact .inl ⟨existing, rfl, hsame, rfl, rfl⟩
    | none =>
      rw [hexisting] at h
      exact .inr ⟨rfl, h⟩

theorem putDelivery_writes (next : AuthorityPlaneSnapshot) (delivery : Option MirrorDelivery) :
    next.WritesOnly [.mirrorDeliveries] (putDelivery next delivery) := by
  cases delivery with
  | none => exact .refl ..
  | some delivery => exact .put (.refl ..) (List.mem_singleton_self _) ..

/-- After the ingestion, an operation writes its own records only. -/
theorem recordMirrorOperation_ingested
    (h : recordMirrorOperation services next request payload delivery session drawn =
      .ok (next', result)) :
    ∃ (ingested : AuthorityPlaneSnapshot) (found : Option Ingested),
      ingestWhenSucceeded services next request delivery session drawn = .ok (ingested, found) ∧
      ingested.WritesOnly [.mirrorDeliveries, .mirrorOperations, .mirrorCheckpoints, .mirrors]
        next' := by
  obtain ⟨ingested, found, operation, checkpoint, mirror, hingested, -, -, -, rfl, -⟩ :=
    recordMirrorOperation_ok h
  exact ⟨ingested, found, hingested, .put (.put (.put ((putDelivery_writes ..).mono (by decide))
    (by decide) ..) (by decide) ..) (by decide) ..⟩

/-- The collections an operation of a Mirror may write. -/
def mirrorWrites : List Collection :=
  ingestionWrites ++ [.mirrorDeliveries, .mirrorOperations, .mirrorCheckpoints, .mirrors]

theorem recordMirrorOperation_writes
    (h : recordMirrorOperation services next request payload delivery session drawn =
      .ok (next', result)) : next.WritesOnly mirrorWrites next' := by
  obtain ⟨ingested, found, hingested, hrest⟩ := recordMirrorOperation_ingested h
  have hwrites : next.WritesOnly mirrorWrites ingested :=
    (ingestWhenSucceeded_writes hingested).mono (List.subset_append_left ..)
  exact hwrites.trans (hrest.mono (List.subset_append_right ..))

theorem mirrorSync_writes
    (h : mirrorSync services command next payload session drawn = .ok (next', result)) :
    next.WritesOnly mirrorWrites next' := by
  obtain ⟨request, -, ⟨-, hrecord⟩ | ⟨given, envelope, -, -, ⟨_, -, -, rfl, -⟩ | ⟨-, hrecord⟩⟩⟩ :=
    mirrorSync_ok h
  · exact recordMirrorOperation_writes hrecord
  · exact .refl ..
  · exact recordMirrorOperation_writes hrecord

end

end Anyam.Authority
