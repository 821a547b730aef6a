import Anyam.Authority.Mirrors
import Anyam.Kernel.WorkspaceMounts

/-!
# Opening a snapshot

`normalizeAuthorityPlaneSnapshot`, which every stored snapshot goes through before a coordinator
works on it: it files proposals and deliveries under their ledger keys, fills in the deployment
profile of each Target and the reviews of each Pull Request, and refuses a snapshot whose
Workspaces and Changes disagree.

- **`normalizeAuthorityPlaneSnapshot_ok`**: what it returns differs in those four collections only.
-/

namespace Anyam.Authority

open Anyam.Lib Anyam.Kernel Anyam.Delivery

/-! ## Ledger keys -/

def ExternalProposal.restoredKey (proposal : ExternalProposal) : String :=
  mirrorProposalLedgerKey proposal.provider (truthy proposal.installationId) proposal.sourceIdentity
    proposal.remoteRepository (toString proposal.proposalKind) proposal.proposalKey

def MirrorDelivery.restoredKey (delivery : MirrorDelivery) : String :=
  mirrorDeliveryLedgerKey delivery.provider (truthy delivery.installationId) delivery.sourceIdentity
    delivery.remoteRepository delivery.deliveryId

/-- The records under the keys they are to have, each key claimed by one record. -/
def restoredEntries {α : Type} (key id : α → String) (claimed : String → AuthorityFailure) :
    List α → List (String × α) → Except AuthorityFailure (List (String × α))
  | [], entries => .ok entries
  | value :: values, entries => do
    match entries.find? fun entry => entry.1 = key value with
    | some existing =>
      require (id existing.2 = id value) (claimed (key value))
      restoredEntries key id claimed values entries
    | none => restoredEntries key id claimed values (entries ++ [(key value, value)])

def proposalClaimed (ledgerKey : String) : AuthorityFailure :=
  refusal .indeterminate
    s!"External proposal ledger key {ledgerKey} is claimed by multiple restored proposals."
    "repair the credential-free export so each provider proposal identity is unique, then restore again"
    s!"proposalLedgerKey={ledgerKey}; restore=blocked; duplicate=true"

def deliveryClaimed (deliveryKey : String) : AuthorityFailure :=
  refusal .indeterminate
    s!"Mirror delivery ledger key {deliveryKey} is claimed by multiple restored deliveries."
    "repair the credential-free export so each provider delivery identity is unique, then restore again"
    s!"deliveryKey={deliveryKey}; restore=blocked; duplicate=true"

/-! ## Lineage -/

def lineageFailure (message receipt : String) : AuthorityFailure :=
  refusal .indeterminate message
    "quarantine the Authority snapshot, repair the Workspace/View/Change lineage, and restore it through the recovery ceremony"
    s!"{receipt}; restore=blocked; transition=not-applied"

/-- The mounts of a Workspace are valid and canonical, and show what its View discloses. -/
def assertWorkspaceMounts (text : UnicodeText) (workspace : Workspace) (view : ProjectView) :
    Except AuthorityFailure Unit := do
  let id := workspace.id
  let inputs := workspace.mounts.map fun mount => ⟨mount.sourceSpaceId, mount.mountPath⟩
  let validated ← (validateWorkspaceMounts text view.visibleSourceSpaceIds inputs).mapError
    fun error =>
      let receipt := error.receipt
      lineageFailure s!"Workspace {id} has invalid Source Space mounts."
        s!"workspace={id}; {receipt}"
  let normalizedBySource := OrderedMap.ofList (validated.map fun mount =>
    (mount.sourceSpaceId, mount.mountPath))
  forM workspace.mounts fun mount =>
    let mountPath := jsonString mount.mountPath
    require (normalizedBySource.get? mount.sourceSpaceId = some mount.mountPath ∧
        view.disclosedSourceSpaceSnapshots.get? mount.sourceSpaceId = some mount.snapshotId)
      (lineageFailure s!"Workspace {id} contains a non-canonical or stale Source Space mount."
        s!"workspace={id}; sourceSpace={mount.sourceSpaceId}; mountPath={mountPath}; mount=stale-or-noncanonical")

def assertWorkspaceLineage (text : UnicodeText) (snapshot : AuthorityPlaneSnapshot)
    (workspace : Workspace) : Except AuthorityFailure Unit := do
  let id := workspace.id
  let incomplete := lineageFailure
    s!"Workspace {id} has incomplete Project, Revision, or View lineage."
    s!"workspace={id}; project={workspace.projectId}; projectRevision={workspace.projectRevisionId}; projectView={workspace.projectViewId}; lineage=incomplete"
  let _ ← orThrow (snapshot.projects.get? workspace.projectId) incomplete
  let revision ← orThrow (snapshot.projectRevisions.get? workspace.projectRevisionId) incomplete
  require (revision.projectId = workspace.projectId) incomplete
  let view ← orThrow (snapshot.projectViews.get? workspace.projectViewId) incomplete
  require (view.projectId = workspace.projectId ∧
    view.projectRevisionId = workspace.projectRevisionId) incomplete
  assertWorkspaceMounts text workspace view
  match truthy workspace.changeId with
  | none => return ()
  | some changeId =>
    let change ← orThrow (snapshot.changes.get? changeId) (lineageFailure
      s!"Workspace {id} refers to a missing Change {changeId}."
      s!"workspace={id}; change={changeId}; lineage=incomplete")
    require (change.projectId = workspace.projectId ∧ change.workspaceId = some id ∧
        change.baseProjectRevisionId = workspace.projectRevisionId) (lineageFailure
      s!"Workspace {id} and Change {changeId} disagree about their base or binding."
      s!"workspace={id}; change={changeId}; workspaceBase={workspace.projectRevisionId}; changeBase={change.baseProjectRevisionId}; lineage=mismatch")
    require (¬ (workspace.state = .closed ∧ change.status ≠ .landed ∧ change.status ≠ .abandoned))
      (lineageFailure s!"Workspace {id} is closed while its Change {changeId} remains non-terminal."
        s!"workspace={id}; change={changeId}; workspaceState=closed; changeStatus={change.status}; lineage=mismatch")

def assertChangeLineage (snapshot : AuthorityPlaneSnapshot) (change : Change) :
    Except AuthorityFailure Unit := do
  let id := change.id
  let noBase := lineageFailure
    s!"Change {id} has no Project Revision base belonging to its Project."
    s!"change={id}; project={change.projectId}; baseProjectRevision={change.baseProjectRevisionId}; lineage=incomplete"
  let baseRevision ← orThrow (snapshot.projectRevisions.get? change.baseProjectRevisionId) noBase
  require (baseRevision.projectId = change.projectId) noBase
  match truthy change.workspaceId with
  | none => return ()
  | some workspaceId =>
    let found := snapshot.workspaces.get? workspaceId
    let workspaceBase := (found.map Workspace.projectRevisionId).getD "missing"
    let disagree := lineageFailure
      s!"Change {id} and Workspace {workspaceId} disagree about their base or binding."
      s!"change={id}; workspace={workspaceId}; changeBase={change.baseProjectRevisionId}; workspaceBase={workspaceBase}; lineage=mismatch"
    let workspace ← orThrow found disagree
    require (workspace.projectId = change.projectId ∧ workspace.changeId = some id ∧
      workspace.projectRevisionId = change.baseProjectRevisionId) disagree

def assertAuthorityWorkspaceChangeLineage (text : UnicodeText)
    (snapshot : AuthorityPlaneSnapshot) : Except AuthorityFailure Unit := do
  forM snapshot.workspaces.values (assertWorkspaceLineage text snapshot)
  forM snapshot.changes.values (assertChangeLineage snapshot)

/-! ## The normalized snapshot -/

/-- `{ ...target, deploymentProfile: targetDeploymentProfile(target) }` of each Target. -/
def restoredTargets (services : AuthorityServices) :
    List (String × Target) → Except AuthorityFailure (List (String × Target))
  | [] => .ok []
  | (id, target) :: rest => do
    let profile ← (targetDeploymentProfile services.profile target.toTarget).mapError
      fun error => .untranslated error.message
    let targets ← restoredTargets services rest
    return (id, { target with deploymentProfile := some profile }) :: targets

def normalizeAuthorityPlaneSnapshot (services : AuthorityServices)
    (snapshot : AuthorityPlaneSnapshot) : Except AuthorityFailure AuthorityPlaneSnapshot := do
  let externalProposals ← restoredEntries ExternalProposal.restoredKey ExternalProposal.id
    proposalClaimed snapshot.externalProposals.values []
  let mirrorDeliveries ← restoredEntries MirrorDelivery.restoredKey MirrorDelivery.id
    deliveryClaimed snapshot.mirrorDeliveries.values []
  let targets ← restoredTargets services snapshot.targets.entries
  let pullRequests := snapshot.pullRequests.map fun pullRequest =>
    { pullRequest with reviews := some (pullRequest.reviews.getD []) }
  let normalized := { snapshot with
    records := fun
      | .externalProposals => .ofList (externalProposals.map fun (key, proposal) =>
        (key, { proposal with ledgerKey := key }))
      | .mirrorDeliveries => .ofList (mirrorDeliveries.map fun (key, delivery) =>
        (key, { delivery with deliveryKey := key }))
      | .targets => .ofList targets
      | .pullRequests => pullRequests
      | c => snapshot.records c }
  assertAuthorityWorkspaceChangeLineage services.text normalized
  return normalized

/-- The collections that are restored. -/
def restoredCollections : List Collection :=
  [.externalProposals, .mirrorDeliveries, .targets, .pullRequests]

/-- What is the same in a snapshot that is read again: all but the order of its entries, its events
and the collections that are restored. -/
structure SameRows (s s' : AuthorityPlaneSnapshot) : Prop where
  realmId : s'.realmId = s.realmId
  version : s'.version = s.version
  records : ∀ c ∉ restoredCollections, ∀ id, (s'.records c).get? id = (s.records c).get? id
  idempotency : ∀ key, s'.idempotency.get? key = s.idempotency.get? key

namespace SameRows

variable {s s' s'' : AuthorityPlaneSnapshot}

theorem refl (s : AuthorityPlaneSnapshot) : SameRows s s :=
  ⟨rfl, rfl, fun _ _ _ => rfl, fun _ => rfl⟩

theorem symm (h : SameRows s s') : SameRows s' s :=
  ⟨h.realmId.symm, h.version.symm, fun c hc id => (h.records c hc id).symm,
    fun key => (h.idempotency key).symm⟩

theorem trans (h : SameRows s s') (h' : SameRows s' s'') : SameRows s s'' :=
  ⟨h'.realmId.trans h.realmId, h'.version.trans h.version,
    fun c hc id => (h'.records c hc id).trans (h.records c hc id),
    fun key => (h'.idempotency key).trans (h.idempotency key)⟩

end SameRows

theorem normalizeAuthorityPlaneSnapshot_ok {services : AuthorityServices}
    {s s' : AuthorityPlaneSnapshot} (h : normalizeAuthorityPlaneSnapshot services s = .ok s') :
    SameRows s s' ∧ s'.audit = s.audit := by
  simp only [normalizeAuthorityPlaneSnapshot, bind_eq_ok, exists_unit, pure_eq_ok] at h
  obtain ⟨_, -, _, -, _, -, -, rfl⟩ := h
  refine ⟨⟨rfl, rfl, fun c hc id => ?_, fun _ => rfl⟩, rfl⟩
  cases c <;> first | rfl | exact absurd (by decide) hc

end Anyam.Authority
