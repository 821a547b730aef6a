import Anyam.Identity.Realm

/-!
# Tasks, Capability Grants and delegation

The operations of `RealmIdentityPolicy` that hand out authority: a Task of an authenticated
Session, a Capability Grant for it, a Grant derived from another one, and the delegation of a
human Session to an enrolled agent.

- `createCapabilityGrant`: `requireGrant` are its checks, those against a parent in
  `requireParent`, and `newGrant` the record.
- `delegateAgent`: `requireParties` and `requireDelegatedScope` are its checks,
  `delegatedGrantInput` the Grant it asks for.
-/

namespace Anyam.Identity

open Anyam.Lib Anyam.Kernel RealmM

section

variable (services : RealmServices) (settings : RealmSettings)

/-! ## Tasks -/

/-- The enrolled agent of an agent Actor. -/
def RealmState.agentOf (s : RealmState) (actor : Option RealmActor) : Option RealmAgent := do
  let actor ← actor
  if actor.kind = .agent then (truthy actor.agentId).bind s.agents.get? else none

def isAgent (actor : Option RealmActor) : Bool := actor.any (·.kind = .agent)

def createTask (input : CreateTaskInput) (drawn : RealmDrawn) (clock : RealmClock) :
    RealmM RealmTask := do
  let session ← requireSession services input.sessionId (clock.sub 0)
  let s ← state
  require (session.authorizationEpoch = s.realm.authorizationEpoch) {
    code := "task.session_stale"
    message := "Task creation requires a session authenticated under the active Realm authorization policy."
    recoveryAction := "authenticate again after the Realm policy change"
    receipt := s!"session-epoch={session.authorizationEpoch}; realm-epoch={s.realm.authorizationEpoch}" }
  require (session.principalId = input.principalId ∧ session.actorId = input.actorId) {
    code := "task.actor_mismatch"
    message := "Task principal, Actor, and Session do not form one authenticated chain."
    recoveryAction := "create the Task from the active session's ActorRef"
    receipt := s!"session={session.id}; principal-match={shown (session.principalId = input.principalId)}; actor-match={shown (session.actorId = input.actorId)}" }
  let actor := s.actors.get? input.actorId
  let agent := s.agentOf actor
  require (isAgent actor = true → ∃ a ∈ agent, a.status = .active ∧
      input.modelProvider = some a.modelProvider) {
    code := "task.agent_model_mismatch"
    message := "An agent Task must use the enrolled agent runtime and model provider; provider substitution was not accepted."
    recoveryAction := "create a fresh Task with the enrolled agent model provider"
    receipt := s!"agent={orMissing (agent.map (·.id))}; modelProvider={orMissing input.modelProvider}" }
  let task : RealmTask := {
    id := drawn.opaqueId "task"
    realmId := s.realm.id
    principalId := input.principalId
    actorId := input.actorId
    sessionId := input.sessionId
    purpose := input.purpose
    workspaceId := truthy input.workspaceId
    changeId := truthy input.changeId
    modelProvider := truthy input.modelProvider
    agentId := agent.map (·.id)
    delegatedByActorId := truthy session.delegatedByActorId
    delegatedBySessionId := truthy session.delegatedBySessionId
    createdAt := services.toISOString (clock [1])
    status := .active }
  update fun s => { s with tasks := s.tasks.set task.id task }
  return task

/-! ## Capability Grants -/

/-- The model providers a Grant is given: an agent's own when none are named. -/
def grantModelProviders (input : CreateTaskGrantInput) (agent : Option RealmAgent) : List String :=
  input.allowedModelProviders.getD (agent.elim [] fun agent => [agent.modelProvider])

/-- The credential classes a Grant is given: an agent's own when none are named, else all. -/
def grantCredentialClasses (input : CreateTaskGrantInput) (agent : Option RealmAgent) :
    List CredentialClass :=
  input.allowedCredentialClasses.getD (agent.elim
    [.realmApi, .git, .mcp, .runner, .integration, .deployment, .promotion]
    (·.allowedCredentialClasses))

/-- The checks of a Grant's chain of Principal, Actor, Client, Session and Task. -/
def requireGrantee (input : CreateTaskGrantInput) (principal : Principal) (session : RealmSession)
    (client : RealmClient) : RealmM RealmTask := do
  let s ← state
  let actor := s.actors.get? input.actorId
  let agent := s.agentOf actor
  require (∀ id ∈ input.agentId, ∃ a ∈ agent, id = a.id) {
    code := "grant.agent_mismatch"
    message := "Capability Grant agent metadata does not match the authenticated agent Actor."
    recoveryAction := "issue the Grant through the delegated agent Session and its enrolled agent identity"
    receipt := s!"input-agent={orEmpty input.agentId}; actor-agent={orMissing (agent.map (·.id))}" }
  require (isAgent actor = true ∨
      input.delegatedByActorId = none ∧ input.delegatedBySessionId = none) {
    code := "grant.delegation_metadata_invalid"
    message := "Delegation metadata is only valid for an agent Actor Grant."
    recoveryAction := "remove delegation metadata from a human Grant or create a delegated agent Session"
    receipt := "delegation metadata requires agent actor" }
  require (isAgent actor = true → ∃ a ∈ agent, a.status = .active) {
    code := "grant.agent_revoked"
    message := "A revoked agent Actor cannot receive a Capability Grant."
    recoveryAction := "enroll or reactivate the agent through an owner-approved Realm operation, then create a fresh delegation"
    receipt := s!"agent={orMissing (agent.map (·.id))}; status={orMissing (agent.map (·.status.text))}" }
  require (isAgent actor = true → truthy input.parentGrantId ≠ none) {
    code := "grant.agent_parent_required"
    message := "An agent Capability Grant must be derived from an active human-owned parent Grant."
    recoveryAction := "delegate the Task from an active human Session and parent Grant; direct agent authority is not supported"
    receipt := "agent-parent-grant=required" }
  require (session.authorizationEpoch = s.realm.authorizationEpoch) {
    code := "grant.session_stale"
    message := "Capability Grant issuance requires a session authenticated under the active Realm authorization policy."
    recoveryAction := "authenticate again after the Realm policy change"
    receipt := s!"session-epoch={session.authorizationEpoch}; realm-epoch={s.realm.authorizationEpoch}" }
  require (session.principalId = principal.id ∧ session.actorId = input.actorId ∧
      session.clientId = client.id) {
    code := "grant.actor_mismatch"
    message := "Capability Grant identity does not match the authenticated Principal, Actor, Client, and Session."
    recoveryAction := "create the Grant from one active Session and ActorRef"
    receipt := s!"principal={shown (session.principalId = principal.id)}; actor={shown (session.actorId = input.actorId)}; client={shown (session.clientId = client.id)}" }
  orThrow ((s.tasks.get? input.taskId).filter fun task =>
      task.status = .active ∧ task.principalId = principal.id ∧ task.actorId = input.actorId ∧
        task.sessionId = session.id) {
    code := "grant.task_invalid"
    message := "Capability Grant must reference an active Task in the same Principal, Actor, and Session chain."
    recoveryAction := "create or resume the Task before issuing a Grant"
    receipt := s!"task={input.taskId}; task-chain=invalid" }

/-- A Grant derived within one human Session. -/
def sameChain (input : CreateTaskGrantInput) (actor : Option RealmActor) (session : RealmSession)
    (client : RealmClient) (parent : RealmCapabilityGrant) : Bool :=
  !isAgent actor && parent.actorId = input.actorId && parent.clientId = client.id &&
    parent.sessionId = session.id

/-- A Grant derived for an agent from a Grant of the human it was delegated by. -/
def delegatedAgentChain (s : RealmState) (input : CreateTaskGrantInput)
    (actor : Option RealmActor) (session : RealmSession) (task : RealmTask)
    (parent : RealmCapabilityGrant) : Bool :=
  isAgent actor && (s.agentOf actor).any (fun agent =>
    (s.actors.get? parent.actorId).any (·.kind = .human) && input.agentId = some agent.id &&
    input.delegatedByActorId = some parent.actorId &&
    input.delegatedBySessionId = some parent.sessionId &&
    session.delegatedByActorId = some parent.actorId &&
    session.delegatedBySessionId = some parent.sessionId && task.agentId = some agent.id)

/-- What makes a derived Grant wider than its parent. -/
def widens (input : CreateTaskGrantInput) (agent : Option RealmAgent)
    (parent : RealmCapabilityGrant) : Bool :=
  let childModels := grantModelProviders input agent
  let modelsWiden := parent.allowedModelProviders ≠ [] &&
    (childModels = [] || !listIsSubset childModels parent.allowedModelProviders)
  -- no credential class is an explicit grant of none, no model provider is any
  let credentialsWiden :=
    !listIsSubset (grantCredentialClasses input agent) parent.allowedCredentialClasses
  let effectsWiden := !listIsSubset (input.effects.getD []) parent.effects
  services.after (input.expiresAt.getD parent.expiresAt) parent.expiresAt ||
    !listIsSubset input.actions parent.actions ||
    !listIsSubset input.sourceSpaceIds parent.sourceSpaceIds || modelsWiden || credentialsWiden ||
    effectsWiden || !budgetIsNarrower (input.budget.getD .empty) parent.budget

/-- The checks of a derived Grant against its parent. -/
def requireParent (input : CreateTaskGrantInput) (principal : Principal) (session : RealmSession)
    (client : RealmClient) (task : RealmTask) (clock : RealmClock) (parentGrantId : String) :
    RealmM Unit := do
  let s ← state
  let actor := s.actors.get? input.actorId
  let found := s.grants.get? parentGrantId
  let parent ← orThrow (found.filter fun parent =>
      parent.principalId = principal.id ∧
        (sameChain input actor session client parent ∨
          delegatedAgentChain s input actor session task parent) ∧
        grantChainIsActive services s clock parent) {
    code := "grant.parent_invalid"
    message := "Derived Capability Grant cannot use an inactive or unrelated parent Grant."
    recoveryAction := "use an active human parent Grant and preserve the Principal, Actor, Session, Task, and delegation chain"
    receipt := s!"parent-grant={parentGrantId}; delegation-chain={shown (found.any (delegatedAgentChain s input actor session task))}" }
  require (widens services input (s.agentOf actor) parent = false) {
    code := "grant.widening"
    message := "Derived Capability Grant would widen parent authority; no Grant was issued."
    recoveryAction := "narrow actions, Source Spaces, effects, model providers, credential classes, budgets, and expiry to the parent Grant"
    receipt := "delegation-narrowing=failed" }

/-- The checks of a Grant that names a parent. -/
def requireNarrowing (input : CreateTaskGrantInput) (principal : Principal)
    (session : RealmSession) (client : RealmClient) (task : RealmTask) (clock : RealmClock) :
    RealmM Unit :=
  match truthy input.parentGrantId with
  | none => pure ()
  | some parentGrantId =>
    requireParent services input principal session client task clock parentGrantId

/-- The checks of a new Grant. -/
def requireGrant (input : CreateTaskGrantInput) (clock : RealmClock) : RealmM Unit := do
  let principal ← requirePrincipal input.principalId
  let session ← requireSession services input.sessionId (clock.sub 0)
  let client ← requireClient input.clientId
  let task ← requireGrantee input principal session client
  let s ← state
  let agent := s.agentOf (s.actors.get? input.actorId)
  require (∀ a ∈ agent, (∀ provider ∈ grantModelProviders input agent, provider = a.modelProvider) ∧
      (∀ c ∈ grantCredentialClasses input agent, c ∈ a.allowedCredentialClasses) ∧
      ∀ action ∈ input.actions, action ∉ agentProhibitedCapabilities) {
    code := "grant.agent_scope_invalid"
    message := "Agent authority must remain within the enrolled model provider, credential audiences, and non-promotional capabilities."
    recoveryAction := "narrow the agent Grant to its enrolled model provider, allowed audiences, and Workspace/Change operations"
    receipt := "agent-scope=narrowing-failed; canonical-promotion=false" }
  requireNarrowing services input principal session client task (clock.sub 1)
  require (∀ expiresAt ∈ input.expiresAt, services.dateParse expiresAt ≠ none ∧
      services.expired expiresAt (clock [2]) = false) {
    code := "grant.expiry_invalid"
    message := "Capability Grant expiry must be a valid future timestamp."
    recoveryAction := "issue the Grant with an expiry after the current Realm time"
    receipt := s!"expiresAt={orEmpty input.expiresAt}" }

/-- The record of a new Grant. -/
def newGrant (s : RealmState) (input : CreateTaskGrantInput) (drawn : RealmDrawn) (now : Int) :
    RealmCapabilityGrant :=
  let agent := s.agentOf (s.actors.get? input.actorId)
  { id := drawn.opaqueId "grant"
    realmId := s.realm.id
    subjectId := input.actorId
    resource := { input.resource with realmId := s.realm.id }
    actions := input.actions
    expiresAt := input.expiresAt.getD (expiry services now settings.credentialLifetimeMs)
    status := .active
    principalId := input.principalId
    actorId := input.actorId
    clientId := input.clientId
    sessionId := input.sessionId
    taskId := input.taskId
    sourceSpaceIds := input.sourceSpaceIds
    effects := input.effects.getD []
    allowedModelProviders := grantModelProviders input agent
    allowedCredentialClasses := grantCredentialClasses input agent
    deniedActions := input.deniedActions.getD []
    budget := input.budget.getD .empty
    policyVersion := s.realm.policyVersion
    authorizationEpoch := s.realm.authorizationEpoch
    agentId := match agent with
      | some agent => some agent.id
      | none => truthy input.agentId
    delegatedByActorId := truthy input.delegatedByActorId
    delegatedBySessionId := truthy input.delegatedBySessionId
    parentGrantId := truthy input.parentGrantId
    consentAt := truthy input.consentAt }

def createCapabilityGrant (input : CreateTaskGrantInput) (drawn : RealmDrawn)
    (clock : RealmClock) : RealmM RealmCapabilityGrant := do
  requireGrant services input clock
  let s ← state
  let grant := newGrant services settings s input drawn (clock [3])
  update fun s => { s with grants := s.grants.set grant.id grant }
  return grant

def createOwnerTaskGrant (input : OwnerTaskGrantInput) (drawn : RealmDrawn) (clock : RealmClock) :
    RealmM (RealmTask × RealmCapabilityGrant) := do
  let session ← requireSession services input.sessionId (clock.sub 0)
  let s ← state
  let _ ← orThrow ((s.actors.get? session.actorId).filter (·.kind = .human)) {
    code := "mcp.delivery_owner_required"
    message := "MCP delivery authority must be created from an authenticated human Realm Session."
    recoveryAction := "authenticate the Realm owner and retry the delivery grant authorization"
    receipt := "mcpDelivery=owner-session-required; taskGrant=not-created" }
  require (input.sourceSpaceIds ≠ []) {
    code := "mcp.delivery_source_spaces_required"
    message := "MCP delivery authority requires an explicit Source Space disclosure set."
    recoveryAction := "authorize a project-scoped MCP resource whose Project exposes at least one Source Space"
    receipt := "mcpDelivery=source-space-disclosure-required; taskGrant=not-created" }
  let bindings := s.bindings session.principalId input.resource
  require ((∀ action ∈ input.actions, ∃ binding ∈ bindings, action ∈ roleCapabilities binding.role) ∧
      ∀ action ∈ input.actions, ∀ binding ∈ bindings, action ∉ binding.deniedCapabilities) {
    code := "mcp.delivery_owner_denied"
    message := "The authenticated Realm owner has no active relationship permitting this delivery resource and operation set."
    recoveryAction := "authorize the MCP resource through an owner relationship that permits the requested delivery actions"
    receipt := s!"mcpDelivery=owner-policy-denied; actions={input.actions.length}; taskGrant=not-created" }
  let effects := input.effects.getD []
  let prohibitedEffect := effects.find? fun effect =>
    effect ∈ ["canonical.write", "production.deploy", "target.promote"]
  -- an empty text is no effect that is prohibited
  require (prohibitedEffect = none) {
    code := "mcp.delivery_effect_denied"
    message := "MCP delivery authority cannot contain canonical-write or production-promotion effects."
    recoveryAction := "request only the typed delivery operation; canonical landing, provider execution, and production approval remain separate"
    receipt := s!"mcpDelivery=effect-denied; effect={orEmpty prohibitedEffect}; taskGrant=not-created" }
  let task ← createTask services {
    principalId := session.principalId
    actorId := session.actorId
    sessionId := session.id
    purpose := input.purpose
    workspaceId := truthy input.resource.workspaceId
    changeId := truthy input.resource.changeId } drawn (clock.sub 1)
  let grant ← createCapabilityGrant services settings {
    principalId := session.principalId
    actorId := session.actorId
    clientId := session.clientId
    sessionId := session.id
    taskId := task.id
    resource := input.resource
    sourceSpaceIds := input.sourceSpaceIds
    actions := input.actions
    effects := some effects
    allowedCredentialClasses := some []
    expiresAt := truthy input.expiresAt } drawn (clock.sub 2)
  return (task, grant)

/-! ## Delegation to an agent -/

def createAgentSession (parentSession : RealmSession) (agent : RealmAgent) (drawn : RealmDrawn)
    (clock : RealmClock) : RealmM RealmSession := do
  let s ← state
  let found := s.actors.get? parentSession.actorId
  let parentActor ← orThrow (found.filter fun actor =>
      actor.kind = .human ∧ actor.status = .active) {
    code := "delegation.parent_actor_invalid"
    message := "Only an active human Actor can create an agent Session."
    recoveryAction := "delegate from an active human Session; agent-to-agent delegation is not enabled"
    receipt := s!"parent-actor={parentSession.actorId}; kind={orMissing (found.map (·.kind.text))}; status={orMissing (found.map (·.status.text))}" }
  let parentExpiry ← time (services.dateParse parentSession.expiresAt)
  let configuredExpiry := clock [0] + settings.sessionLifetimeMs
  let actor : RealmActor := {
    principalId := parentSession.principalId
    actorId := drawn.opaqueId "actor"
    sessionId := drawn.opaqueId "session"
    clientId := agent.clientId
    realmId := s.realm.id
    kind := .agent
    status := .active
    agentId := some agent.id
    delegatedByActorId := some parentActor.actorId
    delegatedBySessionId := some parentSession.id
    modelProvider := some agent.modelProvider }
  let session : RealmSession := {
    id := actor.sessionId
    realmId := s.realm.id
    principalId := parentSession.principalId
    actorId := actor.actorId
    clientId := agent.clientId
    method := parentSession.method
    strength := parentSession.strength
    issuedAt := services.toISOString clock.now
    expiresAt := services.toISOString (min parentExpiry configuredExpiry)
    authorizationEpoch := s.realm.authorizationEpoch
    status := .active
    actorKind := some .agent
    agentId := some agent.id
    delegatedByActorId := some parentActor.actorId
    delegatedBySessionId := some parentSession.id }
  update fun s => { s with
    actors := s.actors.set actor.actorId actor
    sessions := s.sessions.set session.id session }
  return session

/-- The parties of a delegation, as its checks have found them. -/
structure DelegationParties where
  parentActor : RealmActor
  agent : RealmAgent
  parentGrant : RealmCapabilityGrant

/-- What a delegation hands to the Grant it creates. -/
structure DelegatedScope where
  effects : List String
  allowedCredentialClasses : List CredentialClass
  budget : Budget
  expiresAt : String

def delegatedScope (input : AgentDelegationInput) (parties : DelegationParties) :
    DelegatedScope where
  effects := input.effects.getD []
  allowedCredentialClasses :=
    input.allowedCredentialClasses.getD parties.agent.allowedCredentialClasses
  budget := input.budget.getD .empty
  expiresAt := input.expiresAt.getD parties.parentGrant.expiresAt

/-- The checks of a delegation on the parties. -/
def requireParties (input : AgentDelegationInput) (parentSession : RealmSession)
    (clock : RealmClock) : RealmM DelegationParties := do
  let s ← state
  let found := s.actors.get? parentSession.actorId
  let parentActor ← orThrow (found.filter fun actor =>
      actor.kind = .human ∧ actor.status = .active) {
    code := "delegation.parent_actor_invalid"
    message := "Only an active human Actor can delegate an agent Task."
    recoveryAction := "authenticate as a human and delegate from that Session; agent-to-agent delegation is not enabled"
    receipt := s!"parent-actor={parentSession.actorId}; kind={orMissing (found.map (·.kind.text))}" }
  require (trim input.purpose ≠ "") {
    code := "delegation.purpose_invalid"
    message := "Agent delegation requires a non-empty Task purpose."
    recoveryAction := "describe the outcome the agent is authorized to pursue"
    receipt := "purpose required" }
  let foundAgent := s.agents.get? input.agentId
  let agent ← orThrow (foundAgent.filter fun agent =>
      agent.realmId = s.realm.id ∧ agent.principalId = parentSession.principalId ∧
        agent.status = .active) {
    code := "delegation.agent_invalid"
    message := "The requested agent is not an active agent owned by the delegating Principal in this Realm."
    recoveryAction := "enroll the agent in this Realm under the authenticated Principal, then retry"
    receipt := s!"agent={input.agentId}; same-realm-principal={shown (foundAgent.map (·.principalId) = some parentSession.principalId)}; status={orMissing (foundAgent.map (·.status.text))}" }
  let parentGrant ← orThrow ((s.grants.get? input.parentGrantId).filter fun grant =>
      grant.principalId = parentSession.principalId ∧ grant.actorId = parentSession.actorId ∧
        grant.clientId = parentSession.clientId ∧ grant.sessionId = parentSession.id ∧
        (s.tasks.get? grant.taskId).any (fun task =>
          task.principalId = parentSession.principalId ∧ task.actorId = parentSession.actorId ∧
            task.sessionId = parentSession.id ∧ task.status = .active) ∧
        grantChainIsActive services s clock grant) {
    code := "delegation.parent_grant_invalid"
    message := "Agent delegation requires an active human-owned parent Grant and Task in the current Session."
    recoveryAction := "create a fresh human Task and Grant, include agent.delegate, and retry delegation"
    receipt := s!"parent-grant={input.parentGrantId}; parent-chain=invalid" }
  return { parentActor, agent, parentGrant }

/-- The checks of a delegation on its scope. -/
def requireDelegatedScope (input : AgentDelegationInput) (parentSession : RealmSession)
    (parties : DelegationParties) (now : Int) : RealmM DelegatedScope := do
  let s ← state
  let { agent, parentGrant, .. } := parties
  require (.agentDelegate ∈ parentGrant.actions) {
    code := "delegation.capability_missing"
    message := "The parent Grant does not authorize human-to-agent delegation."
    recoveryAction := "issue the human parent Grant with agent.delegate after the Realm relationship permits it"
    receipt := "parent-grant=agent.delegate missing" }
  let bindings := s.bindings parentSession.principalId input.resource
  let roleAllowsDelegation := bindings.any fun binding =>
    .agentDelegate ∈ roleCapabilities binding.role
  let relationshipDeniesDelegation := bindings.any fun binding =>
    .agentDelegate ∈ binding.deniedCapabilities
  require (roleAllowsDelegation = true ∧ relationshipDeniesDelegation = false) {
    code := "delegation.relationship_denied"
    message := "The delegating Principal has no active relationship that permits agent delegation for this resource."
    recoveryAction := "grant agent.delegate on an active organization or team relationship, without an explicit deny"
    receipt := s!"role-allows={roleAllowsDelegation}; relationship-deny={relationshipDeniesDelegation}" }
  require (resourceMatches parentGrant.resource input.resource) {
    code := "delegation.resource_widening"
    message := "Agent delegation cannot escape the parent Grant resource scope."
    recoveryAction := "delegate a child resource inside the parent Grant scope"
    receipt := "parent-resource contains child=false" }
  require (listIsSubset input.sourceSpaceIds parentGrant.sourceSpaceIds) {
    code := "delegation.source_space_widening"
    message := "Agent delegation cannot add Source Spaces outside the parent Grant."
    recoveryAction := "select only Source Spaces already present in the parent Grant"
    receipt := "source-space subset=false" }
  require (listIsSubset input.actions parentGrant.actions ∧
      ∀ action ∈ input.actions, action ∉ agentProhibitedCapabilities) {
    code := "delegation.action_widening"
    message := "Agent actions must be a non-promotional subset of the human parent Grant."
    recoveryAction := "remove prohibited capabilities and keep every action inside the parent Grant"
    receipt := "actions subset=false; canonical-promotion=false" }
  let scope := delegatedScope input parties
  require (listIsSubset scope.effects parentGrant.effects) {
    code := "delegation.effect_widening"
    message := "Agent effects must be a subset of the human parent Grant."
    recoveryAction := "declare only effects already authorized by the parent Grant"
    receipt := "effects subset=false" }
  require (listIsSubset scope.allowedCredentialClasses agent.allowedCredentialClasses ∧
      listIsSubset scope.allowedCredentialClasses parentGrant.allowedCredentialClasses) {
    code := "delegation.audience_widening"
    message := "Agent credential audiences must remain inside both the enrolled agent audiences and the parent Grant audiences."
    recoveryAction := "request only Git, MCP, or Realm API audiences explicitly approved for this agent and parent Grant"
    receipt := "credential-audience intersection=false" }
  require (parentGrant.allowedModelProviders ≠ [] →
      agent.modelProvider ∈ parentGrant.allowedModelProviders) {
    code := "delegation.model_denied"
    message := "The enrolled agent model provider is outside the parent Grant trust zone."
    recoveryAction := "delegate to an agent whose provider is allowed by the parent Grant or issue a deliberate parent Grant update"
    receipt := s!"modelProvider={agent.modelProvider}; parent-model-allow=false" }
  require (budgetIsNarrower scope.budget parentGrant.budget) {
    code := "delegation.budget_widening"
    message := "Agent budgets must be no wider than the human parent Grant budget."
    recoveryAction := "lower the requested budget or omit dimensions that the parent leaves unbounded"
    receipt := "budget narrowing=false" }
  require (services.dateParse scope.expiresAt ≠ none ∧
      services.expired scope.expiresAt now = false ∧
      services.after scope.expiresAt parentGrant.expiresAt = false) {
    code := "delegation.expiry_invalid"
    message := "Agent delegation expiry must be a future timestamp no later than the parent Grant expiry."
    recoveryAction := "choose an expiry inside the active parent Grant window"
    receipt := s!"child-expiresAt={scope.expiresAt}; parent-expiresAt={parentGrant.expiresAt}" }
  return scope

/-- The Grant a delegation asks for. -/
def delegatedGrantInput (input : AgentDelegationInput) (parentSession agentSession : RealmSession)
    (task : RealmTask) (parties : DelegationParties) (scope : DelegatedScope)
    (consentAt : String) : CreateTaskGrantInput where
  principalId := parentSession.principalId
  actorId := agentSession.actorId
  clientId := parties.agent.clientId
  sessionId := agentSession.id
  taskId := task.id
  resource := input.resource
  sourceSpaceIds := input.sourceSpaceIds
  actions := input.actions
  effects := some scope.effects
  allowedModelProviders := some [parties.agent.modelProvider]
  allowedCredentialClasses := some scope.allowedCredentialClasses
  budget := some scope.budget
  expiresAt := some scope.expiresAt
  parentGrantId := some parties.parentGrant.id
  agentId := some parties.agent.id
  delegatedByActorId := some parties.parentActor.actorId
  delegatedBySessionId := some parentSession.id
  consentAt := some consentAt

def delegateAgent (input : AgentDelegationInput) (drawn : RealmDrawn) (clock : RealmClock) :
    RealmM RealmAgentDelegation := do
  let parentSession ← requireSession services input.humanSessionId (clock.sub 0)
  let parties ← requireParties services input parentSession (clock.sub 1)
  let scope ← requireDelegatedScope services input parentSession parties (clock [2])
  let agentSession ← createAgentSession services settings parentSession parties.agent drawn
    (clock.sub 3)
  let s ← state
  let agentActor := s.actors.get? agentSession.actorId
  let task ← createTask services {
    principalId := parentSession.principalId
    actorId := agentSession.actorId
    sessionId := agentSession.id
    purpose := input.purpose
    workspaceId := truthy input.workspaceId
    changeId := truthy input.changeId
    modelProvider := some parties.agent.modelProvider } drawn (clock.sub 4)
  let consentAt := input.consentAt.getD (services.toISOString (clock [5]))
  let grant ← createCapabilityGrant services settings
    (delegatedGrantInput input parentSession agentSession task parties scope consentAt) drawn
    (clock.sub 6)
  let actor ← orThrow agentActor {
    code := "delegation.actor_missing"
    message := "Agent delegation created no Actor record; the operation was not valid."
    recoveryAction := "retry after checking the Realm session ledger"
    receipt := "agent actor record missing" }
  return {
    agent := parties.agent
    actor, task, grant
    session := agentSession
    delegatedBy := parties.parentActor.toActorRef
    receipt := s!"delegation=human-to-agent; agent={parties.agent.id}; parentGrant={parties.parentGrant.id}; modelProvider={parties.agent.modelProvider}; canonicalWrite=false" }

end

end Anyam.Identity
