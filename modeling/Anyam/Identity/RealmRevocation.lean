import Anyam.Identity.RealmGrants

/-!
# Revocation, credentials and recovery

The operations of `RealmIdentityPolicy` that end authority, with everything derived from it: a
Grant, a Session, an enrolled Agent. Then the short-lived credentials of a Grant, the live check
of a delivery Grant, and the snapshots a Realm is restored from.

- `grantRevocation`, `delegatedSessions`, `sessionGrants`: what a revocation reaches.
- **`revokeGrant_ends`**: a revoked Grant, and each that was derived from it, is not active.
- `loadSnapshot`: a recovery closes all authority of the snapshot; a hydration keeps it.
-/

namespace Anyam.Identity

open Anyam.Lib Anyam.Kernel RealmM

section

variable (services : RealmServices) (settings : RealmSettings)

/-! ## Revocation -/

/-- The Grants that end with one: it, and the active ones derived from them. -/
def grantRevocation (s : RealmState) (grantId : String) : List String :=
  saturate (·.id)
    (fun ids child => (parentGrant child).any (· ∈ ids) && child.status = .active)
    s.grants.values (s.grants.values.length + 1) [grantId]

/-- The Sessions that end with one: it, and those delegated from them. -/
def delegatedSessions (s : RealmState) (sessionId : String) : List String :=
  saturate (·.id) (fun ids candidate => (delegatingSession candidate).any (· ∈ ids))
    s.sessions.values (s.sessions.values.length + 1) [sessionId]

/-- The active Grants of some Sessions, and those derived from them. -/
def sessionGrants (s : RealmState) (sessionIds : List String) : List String :=
  saturate (·.id)
    (fun ids grant => (grant.sessionId ∈ sessionIds || grant.parentGrantId.any (· ∈ ids)) &&
      grant.status = .active)
    s.grants.values (s.grants.values.length + 1) []

def RealmCapabilityGrant.revokedIn (ids : List String) (grant : RealmCapabilityGrant) :
    RealmCapabilityGrant :=
  if grant.id ∈ ids then { grant with status := .revoked } else grant

def RealmSession.revokedIn (ids : List String) (session : RealmSession) : RealmSession :=
  if session.id ∈ ids then { session with status := .revoked } else session

/-- An Actor ends with a Session that names it. -/
def RealmActor.revokedIn (actorIds : List String) (actor : RealmActor) : RealmActor :=
  if actor.actorId ∈ actorIds then { actor with status := .revoked } else actor

def RealmTask.closedIn (sessionIds : List String) (task : RealmTask) : RealmTask :=
  if task.sessionId ∈ sessionIds then { task with status := .closed } else task

/-- Revoke the active credentials of some Sessions and Grants. -/
def IssuedCredentialRecord.revokedIn (sessionIds grantIds : List String)
    (credential : IssuedCredentialRecord) : IssuedCredentialRecord :=
  if credential.status = .active ∧
      (credential.sessionId ∈ sessionIds ∨ credential.grantId ∈ grantIds) then
    { credential with status := .revoked }
  else credential

/-- The credentials a revocation ends. -/
def endedCredentials (s : RealmState) (sessionIds grantIds : List String) : List String :=
  (s.credentials.values.filter fun credential => credential.status = .active ∧
    (credential.sessionId ∈ sessionIds ∨ credential.grantId ∈ grantIds)).map (·.id)

def revokeGrant (grantId : String) : RealmM (List String) := do
  let s ← state
  let _ ← orThrow (s.grants.get? grantId) {
    code := "grant.not_found"
    message := s!"Capability Grant {grantId} is not available in this Realm."
    affectedObject := some grantId
    recoveryAction := "inspect the active Task and grant chain"
    receipt := "grant lookup" }
  let revoked := grantRevocation s grantId
  update fun s => { s with
    grants := s.grants.map (·.revokedIn revoked)
    credentials := s.credentials.map (·.revokedIn [] revoked) }
  return endedCredentials s [] revoked

structure SessionRevocation where
  revokedGrantIds : List String
  revokedCredentialIds : List String
deriving DecidableEq, Repr

def revokeSession (sessionId : String) : RealmM SessionRevocation := do
  let s ← state
  let _ ← orThrow (s.sessions.get? sessionId) {
    code := "session.not_found"
    message := s!"Session {sessionId} is not available in this Realm."
    affectedObject := some sessionId
    recoveryAction := "authenticate again or inspect the Realm session ledger"
    receipt := "session lookup" }
  let sessionIds := delegatedSessions s sessionId
  let actorIds := (s.sessions.values.filter (·.id ∈ sessionIds)).map (·.actorId)
  let grantIds := sessionGrants s sessionIds
  update fun s => { s with
    sessions := s.sessions.map (·.revokedIn sessionIds)
    actors := s.actors.map (·.revokedIn actorIds)
    tasks := s.tasks.map (·.closedIn sessionIds)
    grants := s.grants.map (·.revokedIn grantIds)
    credentials := s.credentials.map (·.revokedIn sessionIds grantIds) }
  return {
    revokedGrantIds := grantIds
    revokedCredentialIds := endedCredentials s sessionIds grantIds }

section

variable {s s' : RealmState} {grantId sessionId id : String}

/-- The Grant that an active Grant is derived from. -/
def activeParent (grant : RealmCapabilityGrant) : Option String :=
  (parentGrant grant).filter fun _ => grant.status = .active

/-- **A revocation reaches every derived Grant**: when it returns, neither the Grant nor one that
was derived from it through active Grants is active, nor a credential of one of them. -/
theorem revokeGrant_ends {ended : List String} (h : revokeGrant grantId s = (.ok ended, s'))
    (hid : Reached (·.id) activeParent s.grants.values grantId id) :
    (∀ grant ∈ s'.grants.values, grant.id = id → grant.status ≠ .active) ∧
      ∀ credential ∈ s'.credentials.values, credential.grantId = id →
        credential.status ≠ .active := by
  have hmem : id ∈ grantRevocation s grantId := by
    refine hid.mem_saturate fun keys grant k hparent hk => ?_
    obtain ⟨hof, hactive⟩ := Option.filter_eq_some_iff.mp hparent
    rw [hof, Option.any_some, Bool.and_eq_true]
    exact ⟨decide_eq_true hk, hactive⟩
  obtain ⟨_, mid, hread, h⟩ := Transact.bind_eq_ok.mp h
  obtain ⟨rfl, rfl⟩ := Transact.state_eq_ok.mp hread
  obtain ⟨_, mid, hfound, h⟩ := Transact.bind_eq_ok.mp h
  obtain ⟨-, rfl⟩ := Transact.orThrow_eq_ok.mp hfound
  obtain ⟨_, mid, hwritten, h⟩ := Transact.bind_eq_ok.mp h
  obtain rfl := Transact.update_eq_ok.mp hwritten
  obtain ⟨-, rfl⟩ := Transact.pure_eq_ok.mp h
  refine ⟨fun grant hgrant hof => ?_, fun credential hcredential hof => ?_⟩
  · rw [OrderedMap.values_map] at hgrant
    obtain ⟨before, -, rfl⟩ := List.mem_map.mp hgrant
    grind [RealmCapabilityGrant.revokedIn]
  · rw [OrderedMap.values_map] at hcredential
    obtain ⟨before, -, rfl⟩ := List.mem_map.mp hcredential
    grind [IssuedCredentialRecord.revokedIn]

end

/-- Revoke the Session of each of some Actors. -/
def revokeActorSessions : List RealmActor → RealmM (List SessionRevocation)
  | [] => return []
  | actor :: actors => do
    let result ← revokeSession actor.sessionId
    let rest ← revokeActorSessions actors
    return result :: rest

structure AgentRevocation where
  revokedActorIds : List String
  revokedSessionIds : List String
  revokedGrantIds : List String
  revokedCredentialIds : List String
  receipt : String
deriving DecidableEq, Repr

def revokeAgent (agentId : String) (clock : RealmClock) : RealmM AgentRevocation := do
  let s ← state
  let agent ← orThrow ((s.agents.get? agentId).filter (·.realmId = s.realm.id)) {
    code := "agent.not_found"
    message := s!"Agent {agentId} is not available in this Realm."
    affectedObject := some agentId
    recoveryAction := "inspect the Realm-owned agent registry and retry with an enrolled agent"
    receipt := "agent lookup" }
  require (agent.status = .active) {
    code := "agent.revoked"
    message := s!"Agent {agentId} is already revoked; existing delegated authority remains closed."
    affectedObject := some agentId
    recoveryAction := "enroll a new agent identity for a deliberate fresh delegation"
    receipt := s!"agent={agentId}; status={agent.status.text}" }
  update fun s => { s with agents := s.agents.set agentId { agent with
    status := .revoked
    revokedAt := some (services.toISOString clock.now) } }
  let actors := s.actors.values.filter (·.agentId = some agentId)
  let results ← revokeActorSessions actors
  return {
    revokedActorIds := actors.map (·.actorId)
    revokedSessionIds := actors.map (·.sessionId)
    revokedGrantIds := (results.flatMap (·.revokedGrantIds)).dedup
    revokedCredentialIds := (results.flatMap (·.revokedCredentialIds)).dedup
    receipt := s!"agent={agentId}; status=revoked; delegated-authority=closed; human-sessions=untouched" }

/-! ## Credentials -/

def revokeCredential (credentialId : String) : RealmM IssuedCredentialRecord := do
  let s ← state
  let credential ← orThrow (s.credentials.get? credentialId) {
    code := "credential.not_found"
    message := s!"Credential {credentialId} is not available in this Realm."
    affectedObject := some credentialId
    recoveryAction := "inspect active credential records without exposing token values"
    receipt := "credential id lookup" }
  let revoked := { credential with status := .revoked }
  update fun s => { s with credentials := s.credentials.set credentialId revoked }
  return revoked

def issueCredential (input : IssueCredentialInput) (drawn : RealmDrawn) (clock : RealmClock) :
    RealmM (IssuedCredentialRecord × String) := do
  let principal ← requirePrincipal input.principalId
  let session ← requireSession services input.sessionId (clock.sub 0)
  let client ← requireClient input.clientId
  let s ← state
  let grant ← orThrow ((s.grants.get? input.grantId).filter fun grant =>
      (s.tasks.get? input.taskId).any fun task =>
        grant.taskId = task.id ∧ task.id = input.taskId ∧ grant.principalId = principal.id ∧
          grant.actorId = input.actorId ∧ grant.clientId = client.id ∧
          grant.sessionId = session.id ∧ task.principalId = principal.id ∧
          task.actorId = input.actorId ∧ task.sessionId = session.id) {
    code := "credential.chain_invalid"
    message := "Credential issuance requires one active Principal, Actor, Client, Session, Task, and Grant chain."
    recoveryAction := "request a fresh task-scoped credential through the Realm broker"
    receipt := "credential delegation chain" }
  require (grantChainIsActive services s (clock.sub 1) grant) {
    code := "credential.grant_inactive"
    message := "Credential issuance was denied because the Capability Grant is revoked, expired, or stale."
    recoveryAction := "renew the task grant after re-authentication and policy evaluation"
    receipt := s!"grant={grant.id}; epoch={s.realm.authorizationEpoch}" }
  require (input.credentialClass ∈ client.allowedAudiences) {
    code := "credential.audience_denied"
    message := s!"Client {client.id} is not allowed to issue {input.credentialClass.text} credentials."
    recoveryAction := "use the client registered for this credential audience"
    receipt := s!"client={client.id}; class={input.credentialClass.text}" }
  require (input.credentialClass ∈ grant.allowedCredentialClasses) {
    code := "credential.class_denied"
    message := s!"Capability Grant does not allow {input.credentialClass.text} credentials."
    recoveryAction := "request an explicit, narrower credential class in the Task Grant"
    receipt := s!"grant={grant.id}; class={input.credentialClass.text}" }
  require (resourceMatches grant.resource input.resource) {
    code := "credential.resource_denied"
    message := "Capability Grant does not cover the requested credential resource."
    recoveryAction := "issue the credential for the exact granted Project, Source Space, Change, or Target"
    receipt := "credential resource scope" }
  let grantExpiry ← time (services.dateParse grant.expiresAt)
  let requestedExpiry := clock [3] + settings.credentialLifetimeMs
  let record : IssuedCredentialRecord := {
    id := drawn.opaqueId "credential"
    realmId := s.realm.id
    credentialClass := input.credentialClass
    audience := credentialAudience input.credentialClass
    principalId := principal.id
    actorId := input.actorId
    clientId := client.id
    sessionId := session.id
    taskId := input.taskId
    grantId := grant.id
    resource := { input.resource with realmId := s.realm.id }
    tokenDigest := services.tokenDigest drawn.token
    issuedAt := services.toISOString (clock [2])
    expiresAt := services.toISOString (min grantExpiry requestedExpiry)
    authorizationEpoch := s.realm.authorizationEpoch
    status := .active }
  update fun s => { s with credentials := s.credentials.set record.id record }
  return (record, drawn.token)

/-- The answer for the record of a live credential. -/
def scopeVerdict (input : CredentialValidationInput) (record : IssuedCredentialRecord) :
    CredentialValidationResult :=
  let expectedClass := input.credentialClass.getD record.credentialClass
  let expectedAudience := input.audience.getD record.audience
  if record.credentialClass ≠ expectedClass then
    .invalid "credential.audience_mismatch"
      "Credential class does not match the requested transport audience."
      s!"expected-class={expectedClass.text}; actual-class={record.credentialClass.text}"
  else if record.audience ≠ expectedAudience then
    .invalid "credential.audience_mismatch"
      "Credential audience does not match the requested resource server."
      s!"expected-audience={expectedAudience}; actual-audience={record.audience}"
  else if ¬ input.resource.all (resourceMatches record.resource) then
    .invalid "credential.resource_mismatch" "Credential is scoped to another resource."
      "credential resource scope"
  else .valid record

/-- What a validation writes and answers for the record of a token. -/
def credentialVerdict (s : RealmState) (input : CredentialValidationInput)
    (record : IssuedCredentialRecord) (clock : RealmClock) :
    IssuedCredentialRecord × CredentialValidationResult :=
  if record.status = .revoked then
    (record, .invalid "credential.revoked" "Credential was revoked and cannot be used."
      s!"credential={record.id}; status=revoked")
  else if record.status = .expired ∨ services.expired record.expiresAt clock.now then
    ({ record with status := .expired }, .invalid "credential.expired"
      "Credential has expired; obtain a fresh short-lived credential."
      s!"credential={record.id}; expiresAt={record.expiresAt}")
  else if ¬ ((s.grants.get? record.grantId).any (grantChainIsActive services s (clock.sub 1)) ∧
      (s.sessions.get? record.sessionId).any (sessionChainIsActive services s (clock.sub 0)) ∧
      (s.principals.get? record.principalId).any (·.status = .active) ∧
      (s.clients.get? record.clientId).isSome ∧
      record.authorizationEpoch = s.realm.authorizationEpoch) then
    ({ record with status := .revoked }, .invalid "credential.stale"
      "Credential is no longer valid for the current Realm session, grant, or authorization epoch."
      s!"credential={record.id}; epoch={s.realm.authorizationEpoch}")
  else (record, scopeVerdict input record)

def validateCredential (token : String) (input : CredentialValidationInput) (clock : RealmClock) :
    RealmM CredentialValidationResult := do
  let s ← state
  match s.credentials.values.find? (·.tokenDigest = services.tokenDigest token) with
  | none =>
    return .invalid "credential.invalid" "Credential is not recognised by this Realm."
      "opaque credential digest lookup"
  | some record =>
    let (record, verdict) := credentialVerdict services s input record clock
    update fun s => { s with credentials := s.credentials.set record.id record }
    return verdict

/-! ## The live chain of a delivery -/

/-- `validateTaskGrant` of an active Session. -/
def taskGrantVerdict (s : RealmState) (input : TaskGrantValidationInput) (session : RealmSession)
    (clock : RealmClock) : TaskGrantValidationResult :=
  let found := (s.grants.get? input.grantId).filter fun grant =>
    (s.tasks.get? input.taskId).any fun task =>
      task.realmId = s.realm.id ∧ grant.realmId = s.realm.id ∧ task.status = .active ∧
        grant.taskId = task.id ∧ task.principalId = input.principalId ∧
        task.actorId = input.actorId ∧ task.sessionId = session.id ∧
        grant.principalId = input.principalId ∧ grant.actorId = input.actorId ∧
        grant.clientId = input.clientId ∧ grant.sessionId = session.id
  let missingEffect grant := (input.effects.getD []).find? (· ∉ grant.effects)
  match found with
  | none => .invalid "mcp.delivery_task_grant_invalid"
      "reauthorize the MCP client so Anyam can create a fresh resource-bound Task and Grant"
      "mcpDelivery=task-grant-chain-invalid; canonicalWrite=false"
  | some grant =>
    if ¬ grantChainIsActive services s clock grant then
      .invalid "mcp.delivery_task_grant_inactive"
        "reauthorize after revocation, expiry, or a Realm authorization-policy change"
        s!"mcpDelivery=task-grant-inactive; epoch={s.realm.authorizationEpoch}; canonicalWrite=false"
    else if ¬ resourceMatches grant.resource input.resource then
      .invalid "mcp.delivery_resource_denied"
        "use the exact project, Workspace, and Change resource bound to this MCP grant"
        "mcpDelivery=resource-mismatch; canonicalWrite=false"
    else if input.sourceSpaceIds = [] ∨ ¬ listIsSubset input.sourceSpaceIds grant.sourceSpaceIds then
      .invalid "mcp.delivery_source_space_denied"
        "reauthorize with the exact disclosed Project Source Spaces; no hidden Source Space was disclosed"
        "mcpDelivery=source-space-mismatch; canonicalWrite=false"
    else if input.action ∉ grant.actions then
      .invalid "mcp.delivery_action_denied"
        "request the operation-specific delivery scope during OAuth authorization"
        s!"mcpDelivery=action-denied; operation={input.action.text}; canonicalWrite=false"
    -- an effect whose text is empty is not missed
    else match truthy (missingEffect grant) with
      | some effect => .invalid "mcp.delivery_effect_denied"
          "reauthorize the MCP client for the exact typed delivery effect"
          s!"mcpDelivery=effect-denied; effect={effect}; canonicalWrite=false"
      | none => .valid input.taskId grant.id grant.expiresAt s.realm.authorizationEpoch
          grant.sourceSpaceIds.length
          s!"mcpDelivery=task-grant-live; epoch={s.realm.authorizationEpoch}; sourceSpaces={grant.sourceSpaceIds.length}; canonicalWrite=false"

def validateTaskGrant (input : TaskGrantValidationInput) (clock : RealmClock) :
    RealmM TaskGrantValidationResult := do
  let found ← Transact.attempt (requireSession services input.sessionId (clock.sub 0))
  let s ← state
  match found with
  | .ok session => return taskGrantVerdict services s input session (clock.sub 1)
  | .error (.realm error) =>
    return .invalid error.code error.recoveryAction s!"{error.receipt}; canonicalWrite=false"
  | .error .invalidDate =>
    return .invalid "mcp.delivery_task_grant_invalid"
      "reauthorize the MCP client and retry the same typed operation"
      "mcpDelivery=task-grant-validation-failed; canonicalWrite=false"

/-- The disclosure of a Source Space to a human read adapter. -/
def canReadSourceSpaceMetadata (sessionId : String) (resource : ResourceRef)
    (classification : SourceSpaceClassification) (capability : Option Capability)
    (clock : RealmClock) : RealmM Bool := do
  let session ← validateSession services sessionId clock
  let s ← state
  let policy := (truthy resource.sourceSpaceId).bind s.sourceSpacePolicies.get?
  let capabilities := activeCapabilitiesForPrincipal s session.principalId resource
  let capability := capability.getD .sourceRead
  return (s.actors.get? session.actorId).any (·.kind = .human) &&
    resource.realmId = s.realm.id && policy.any fun policy =>
      policy.classification = classification && policy.policyVersion = s.realm.policyVersion &&
      .sourceRead ∈ capabilities && capability ∈ capabilities &&
      .sourceRead ∈ policy.allowedCapabilities && .sourceRead ∉ policy.deniedCapabilities &&
      capability ∉ policy.deniedCapabilities &&
      (policy.discoverable || session.principalId ∈ policy.readerPrincipalIds) &&
      (policy.readerPrincipalIds = [] || session.principalId ∈ policy.readerPrincipalIds)

end

/-! ## Snapshots -/

def getRecoverySnapshot (s : RealmState) : RealmRecoverySnapshot :=
  { s.toRealmRecords with credentialFree := true }

/-- The state of a snapshot; a recovery closes its authority. -/
def loadedSnapshot (snapshot : RealmRecoverySnapshot) (revokeAuthority : Bool) (s : RealmState) :
    RealmState :=
  if revokeAuthority then
    { snapshot.toRealmRecords with
      realm := { snapshot.realm with
        authorizationEpoch :=
          max s.realm.authorizationEpoch snapshot.realm.authorizationEpoch + 1 }
      sessions := snapshot.sessions.map fun session => { session with status := .revoked }
      tasks := snapshot.tasks.map fun task => { task with status := .closed }
      grants := snapshot.grants.map fun grant => { grant with status := .revoked }
      credentials := .empty }
  else { snapshot.toRealmRecords with credentials := .empty }

def loadSnapshot (snapshot : RealmRecoverySnapshot) (revokeAuthority : Bool) : RealmM Realm := do
  update (loadedSnapshot snapshot revokeAuthority)
  let s ← state
  return s.realm

def restoreRecoverySnapshot (snapshot : RealmRecoverySnapshot) : RealmM Realm := do
  require (snapshot.credentialFree = true) {
    code := "recovery.credentials_present"
    message := "Realm recovery snapshots must not contain active credential material."
    recoveryAction := "create a credential-free recovery export and retry verification"
    receipt := "credentialFree=true required" }
  let s ← state
  require (snapshot.realm.id = s.realm.id) {
    code := "recovery.realm_mismatch"
    message := "Recovery snapshot belongs to another Realm."
    recoveryAction := "restore the snapshot into an installation with the same Realm identity or start a deliberate Realm migration"
    receipt := s!"expected={s.realm.id}; actual={snapshot.realm.id}" }
  loadSnapshot snapshot true

def restoreOperationalSnapshot (snapshot : RealmRecoverySnapshot) : RealmM Realm := do
  require (snapshot.credentialFree = true) {
    code := "recovery.credentials_present"
    message := "Operational Realm snapshots must not contain active credential material."
    recoveryAction := "create a credential-free Realm snapshot and retry hydration"
    receipt := "credentialFree=true required" }
  let s ← state
  require (snapshot.realm.id = s.realm.id) {
    code := "recovery.realm_mismatch"
    message := "Realm snapshot belongs to another Realm."
    recoveryAction := "hydrate the snapshot into an installation with the same Realm identity"
    receipt := s!"expected={s.realm.id}; actual={snapshot.realm.id}" }
  loadSnapshot snapshot false

/-! ## A new policy object -/

structure RealmIdentityPolicyOptions where
  realmId : String
  name : Option String := none
  relyingPartyId : Option String := none
  policyVersion : Option String := none
deriving DecidableEq, Repr

/-- A default client, as the constructor registers it. -/
def defaultClient (realmId id : String) (kind : ClientKind) : RealmClient where
  id := id
  realmId := realmId
  kind := kind
  status := .active
  allowedAudiences := defaultAudiences kind
  allowedOperations := []

/-- The state a policy object starts with. -/
def initialRealmState (options : RealmIdentityPolicyOptions) (createdAt : String) : RealmState where
  realm := {
    id := options.realmId
    name := options.name.getD options.realmId
    relyingPartyId := options.relyingPartyId.getD "anyam.local"
    policyVersion := options.policyVersion.getD s!"{options.realmId}:policy:v1"
    authorizationEpoch := 1
    createdAt }
  principals := .empty
  agents := .empty
  passkeys := .empty
  oidcProviders := .empty
  oidcIdentities := .empty
  clients := .ofList [
    ("client:anyam-web", defaultClient options.realmId "client:anyam-web" .browser),
    ("client:anyam-cli", defaultClient options.realmId "client:anyam-cli" .cli),
    ("client:anyam-mcp", defaultClient options.realmId "client:anyam-mcp" .mcp)]
  actors := .empty
  sessions := .empty
  tasks := .empty
  relationships := .empty
  sourceSpacePolicies := .empty
  grants := .empty
  credentials := .empty

end Anyam.Identity
