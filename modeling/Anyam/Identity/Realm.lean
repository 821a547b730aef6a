import Anyam.Identity.RealmRecords

/-!
# Realm identity and policy

`RealmIdentityPolicy` of `identity/realm.ts`: its lookups and chains, enrollment, and human
Sessions. A method is a `Transact` on the state: what it wrote before it threw stays. The audit
trail, which no method reads, is left out.

- `sessionChainIsActive`, `grantChainIsActive`: the two walks to a parent.
- `requireSession`: a Session is looked at, marked when its time is over, and its chain walked.
- `createHumanSession`: the one way a Session comes from authentication.
-/

namespace Anyam.Identity

open Anyam.Lib Anyam.Kernel

abbrev RealmM := Transact RealmState RealmFailure

namespace RealmM

abbrev state : RealmM RealmState := Transact.state

abbrev update (f : RealmState → RealmState) : RealmM Unit := Transact.update f

abbrev require (p : Prop) [Decidable p] (error : RealmIdentityError) : RealmM Unit :=
  Transact.require p (.realm error)

abbrev orThrow {α : Type} (value : Option α) (error : RealmIdentityError) : RealmM α :=
  Transact.orThrow value (.realm error)

/-- The time of a date, or the error of an invalid one. -/
abbrev time (value : Option Int) : RealmM Int := Transact.orThrow value .invalidDate

end RealmM

open RealmM

/-- A Boolean, as a text shows it. -/
def shown (p : Prop) [Decidable p] : String := if p then "true" else "false"

/-- `value ?? "missing"`. -/
def orMissing (value : Option String) : String := value.getD "missing"

def orEmpty (value : Option String) : String := value.getD ""

/-! ## Chains -/

section Chains

variable (services : RealmServices) (s : RealmState)

/-- The enrolled agent of an agent Actor is active. -/
def agentIsActive (agentId : Option String) : Bool :=
  ((truthy agentId).bind s.agents.get?).any fun agent => agent.status = .active

/-- What `sessionChainIsActive` asks of each Session it comes to. -/
def sessionPasses (now : Int) (session : RealmSession) : Bool :=
  session.realmId = s.realm.id && session.status = .active &&
    !services.expired session.expiresAt now &&
    session.authorizationEpoch = s.realm.authorizationEpoch &&
    (s.actors.get? session.actorId).any fun actor =>
      actor.status = .active && actor.realmId = s.realm.id &&
        actor.principalId = session.principalId && actor.sessionId = session.id &&
        (actor.kind ≠ .agent || agentIsActive s actor.agentId)

/-- The Session a Session was delegated from. -/
def delegatingSession (session : RealmSession) : Option String :=
  truthy session.delegatedBySessionId

def sessionChainIsActive (clock : RealmClock) (session : RealmSession) : Bool :=
  chainHolds s.sessions (·.id) delegatingSession
    (fun distance => sessionPasses services s (clock [distance])) s.sessions.keys.length 0 []
    session

/-- What `grantChainIsActive` asks of each Grant it comes to. -/
def grantPasses (now : Int) (grant : RealmCapabilityGrant) : Bool :=
  grant.status = .active && !services.expired grant.expiresAt now &&
    grant.authorizationEpoch = s.realm.authorizationEpoch

/-- The Grant a Grant was derived from. -/
def parentGrant (grant : RealmCapabilityGrant) : Option String := truthy grant.parentGrantId

def grantChainIsActive (clock : RealmClock) (grant : RealmCapabilityGrant) : Bool :=
  chainHolds s.grants (·.id) parentGrant
    (fun distance => grantPasses services s (clock [distance])) s.grants.keys.length 0 [] grant

end Chains

/-- The active relationships of a Principal whose resource contains the given one. -/
def RealmState.bindings (s : RealmState) (principalId : String) (resource : ResourceRef) :
    List Relationship :=
  s.relationships.values.filter fun binding =>
    binding.status = .active ∧ binding.realmId = s.realm.id ∧ binding.principalId = principalId ∧
      resourceMatches binding.resource resource

/-- Effective capabilities of a Principal at a resource. -/
def activeCapabilitiesForPrincipal (s : RealmState) (principalId : String)
    (resource : ResourceRef) : List Capability :=
  match s.principals.get? principalId with
  | none => []
  | some principal =>
    if principal.realmId = s.realm.id ∧ principal.status = .active then
      let bindings := s.bindings principalId resource
      let denied := bindings.flatMap (·.deniedCapabilities)
      ((bindings.flatMap (roleCapabilities ·.role)).dedup.filter (· ∉ denied)).mergeSort
        (·.text ≤ ·.text)
    else []

section

variable (services : RealmServices) (settings : RealmSettings)

/-! ## Lookups that throw -/

def requirePrincipal (principalId : String) : RealmM Principal := do
  let s ← state
  orThrow ((s.principals.get? principalId).filter (·.realmId = s.realm.id)) {
    code := "identity.not_found"
    message := "The requested identity is not available in this Realm."
    recoveryAction := "use an identity enrolled in this Realm"
    receipt := "principal lookup" }

def requireClient (clientId : String) : RealmM RealmClient := do
  let s ← state
  orThrow ((s.clients.get? clientId).filter fun client =>
      client.realmId = s.realm.id ∧ client.status = .active) {
    code := "client.invalid"
    message := s!"Client {clientId} is not active in this Realm."
    affectedObject := some clientId
    recoveryAction := "register or re-enable the client in this Realm"
    receipt := "client registration lookup" }

/-- A Session whose time is over is marked so when it is looked at. -/
def markExpiredSession (now : Int) (session : RealmSession) : RealmSession :=
  if session.status = .active ∧ services.expired session.expiresAt now then
    { session with status := .expired }
  else session

def requireSession (sessionId : String) (clock : RealmClock) : RealmM RealmSession := do
  let s ← state
  let found ← orThrow ((s.sessions.get? sessionId).filter (·.realmId = s.realm.id)) {
    code := "session.not_found"
    message := "The requested authenticated session is not available in this Realm."
    recoveryAction := "authenticate again through the configured Realm provider"
    receipt := "session lookup" }
  let session := markExpiredSession services clock.now found
  update fun s => { s with sessions := s.sessions.set sessionId session }
  let s ← state
  require (session.status = .active ∧ sessionChainIsActive services s (clock.sub 0) session) {
    code := "session.inactive"
    message := s!"Session {session.id} is no longer active in its Principal-to-Actor delegation chain; no protected operation was performed."
    affectedObject := some session.id
    recoveryAction := "authenticate the delegating human again and create a fresh agent Task"
    receipt := s!"session-status={session.status.text}; chain=inactive" }
  return session

def validateSession (sessionId : String) (clock : RealmClock) : RealmM RealmSession :=
  requireSession services sessionId clock

/-- `expiry(now, lifetimeMs)`. -/
def expiry (now lifetimeMs : Int) : String := services.toISOString (now + lifetimeMs)

/-! ## Enrollment -/

def defaultAudiences : ClientKind → List CredentialClass
  | .browser => [.realmApi, .mcp]
  | .cli => [.realmApi, .git, .mcp]
  | .mcp => [.realmApi, .mcp]
  | .git => [.git]
  | .runner => [.runner]
  | .integration => [.integration]
  | .deployment => [.deployment]
  | .promotion => [.promotion]

def registerClient (id : String) (kind : ClientKind)
    (allowedAudiences : Option (List CredentialClass))
    (allowedOperations : Option (List String)) : RealmM RealmClient := do
  let s ← state
  let existing := s.clients.get? id
  require (existing.map (·.status) ≠ some .active) {
    code := "client.exists"
    message := s!"Client {id} is already registered in this Realm."
    affectedObject := some id
    recoveryAction := "use the existing client or register a new client identifier for the changed consent"
    receipt := "active client uniqueness" }
  let client : RealmClient := {
    id, kind
    realmId := s.realm.id
    status := .active
    allowedAudiences := allowedAudiences.getD (defaultAudiences kind)
    allowedOperations := allowedOperations.getD [] }
  require (existing.map (·.status) ≠ some .revoked) {
    code := "client.revoked"
    message := s!"Client {id} was revoked and cannot be silently reactivated."
    affectedObject := some id
    recoveryAction := "register a new client identifier and obtain explicit consent"
    receipt := "revoked client reuse denied" }
  update fun s => { s with clients := s.clients.set id client }
  return client

/-- The client an agent is enrolled with, registered when it is new. -/
def agentClient (clientId : String) (allowedCredentialClasses : List CredentialClass) :
    RealmM RealmClient := do
  let s ← state
  match s.clients.get? clientId with
  | some client => pure client
  | none => registerClient clientId .mcp (some allowedCredentialClasses) (some ["agent.task"])

structure RegisterAgentInput where
  principalId : String
  name : String
  runtime : String
  modelProvider : String
  id : Option String := none
  clientId : Option String := none
  allowedCredentialClasses : Option (List CredentialClass) := none
deriving DecidableEq, Repr

def registerAgent (input : RegisterAgentInput) (drawn : RealmDrawn) (clock : RealmClock) :
    RealmM RealmAgent := do
  let principal ← requirePrincipal input.principalId
  require (principal.status = .active) {
    code := "agent.principal_disabled"
    message := "A disabled Principal cannot enroll an agent Actor."
    recoveryAction := "re-enable the Principal and retry agent enrollment"
    receipt := s!"principal={principal.id}; status={principal.status.text}" }
  require (trim input.name ≠ "" ∧ trim input.runtime ≠ "" ∧ trim input.modelProvider ≠ "") {
    code := "agent.registration_invalid"
    message := "Agent enrollment requires a name, runtime, and model provider."
    recoveryAction := "provide the agent runtime identity and model provider, without provider credentials"
    receipt := "name, runtime, modelProvider required" }
  let id := input.id.getD (drawn.opaqueId "agent")
  let s ← state
  require (s.agents.get? id = none) {
    code := "agent.exists"
    message := s!"Agent {id} is already registered in this Realm."
    affectedObject := some id
    recoveryAction := "use the existing agent registration or choose a new agent identity"
    receipt := "agent id uniqueness" }
  let clientId := input.clientId.getD s!"client:{id}"
  let allowedCredentialClasses :=
    input.allowedCredentialClasses.getD agentDefaultCredentialClasses
  require (allowedCredentialClasses ≠ []) {
    code := "agent.registration_invalid"
    message := "Agent enrollment requires at least one allowed credential audience."
    recoveryAction := "allow only the Git, MCP, or Realm API audiences the agent actually needs"
    receipt := "allowedCredentialClasses must not be empty" }
  let client ← agentClient clientId allowedCredentialClasses
  require (client.status = .active ∧
      ∀ credentialClass ∈ allowedCredentialClasses, credentialClass ∈ client.allowedAudiences) {
    code := "agent.client_audience_denied"
    message := "Agent credential audiences exceed the registered client consent."
    recoveryAction := "register a client whose allowed audiences contain the agent's exact credential classes"
    receipt := s!"client={clientId}; audience-intersection=false" }
  let agent : RealmAgent := {
    id, clientId, allowedCredentialClasses
    realmId := s.realm.id
    principalId := principal.id
    name := input.name
    runtime := input.runtime
    modelProvider := input.modelProvider
    status := .active
    createdAt := services.toISOString clock.now }
  update fun s => { s with agents := s.agents.set id agent }
  return agent

def createPrincipal (id : Option String) (displayName : String) (drawn : RealmDrawn)
    (clock : RealmClock) : RealmM Principal := do
  let s ← state
  let principal : Principal := {
    id := id.getD (drawn.opaqueId "principal")
    realmId := s.realm.id
    displayName
    status := .active
    createdAt := services.toISOString clock.now }
  require (s.principals.get? principal.id = none) {
    code := "identity.exists"
    message := s!"Principal {principal.id} already exists in this Realm."
    affectedObject := some principal.id
    recoveryAction := "use the existing principal or choose a new identity"
    receipt := "principal id uniqueness" }
  update fun s => { s with principals := s.principals.set principal.id principal }
  return principal

def registerPasskey (principalId credentialId : String) (relyingPartyId : Option String)
    (signCount : Option Int) : RealmM PasskeyCredential := do
  let principal ← requirePrincipal principalId
  let s ← state
  let credential : PasskeyCredential := {
    id := credentialId
    principalId := principal.id
    realmId := s.realm.id
    relyingPartyId := relyingPartyId.getD s.realm.relyingPartyId
    signCount := signCount.getD 0
    status := .active }
  require (s.passkeys.get? credential.id = none) {
    code := "passkey.exists"
    message := s!"Passkey {credential.id} is already registered in this Realm."
    affectedObject := some credential.id
    recoveryAction := "use the enrolled passkey or register a distinct credential"
    receipt := "passkey id uniqueness" }
  update fun s => { s with passkeys := s.passkeys.set credential.id credential }
  return credential

def registerOidcProvider (id : Option String) (issuer clientId : String) (drawn : RealmDrawn) :
    RealmM OidcProvider := do
  let s ← state
  let provider : OidcProvider := {
    id := id.getD (drawn.opaqueId "oidc-provider")
    realmId := s.realm.id
    issuer, clientId
    status := .active }
  require (∀ existing ∈ s.oidcProviders.values, existing.issuer ≠ provider.issuer) {
    code := "oidc.provider_exists"
    message := s!"OIDC issuer {provider.issuer} is already registered in this Realm."
    affectedObject := some provider.issuer
    recoveryAction := "use the existing provider or register a different issuer"
    receipt := "OIDC issuer uniqueness" }
  update fun s => { s with oidcProviders := s.oidcProviders.set provider.id provider }
  return provider

/-- The active provider of an issuer. -/
def RealmState.oidcProvider (s : RealmState) (issuer : String) : Option OidcProvider :=
  s.oidcProviders.values.find? fun candidate =>
    candidate.issuer = issuer ∧ candidate.status = .active

def linkOidcIdentity (principalId issuer subject : String) : RealmM OidcIdentity := do
  let principal ← requirePrincipal principalId
  let s ← state
  let provider ← orThrow (s.oidcProvider issuer) {
    code := "oidc.provider_not_found"
    message := "The requested OIDC issuer is not enabled in this Realm."
    recoveryAction := "register the selected OIDC provider before linking identities"
    receipt := s!"issuer={issuer}; provider=missing" }
  let key := s!"{issuer}|{subject}"
  require (s.oidcIdentities.get? key = none) {
    code := "oidc.identity_exists"
    message := "That OIDC identity is already linked in this Realm."
    recoveryAction := "authenticate with the linked identity or unlink it through an explicit identity Change"
    receipt := "OIDC issuer and subject uniqueness" }
  let identity : OidcIdentity := { issuer := provider.issuer, subject, principalId := principal.id }
  update fun s => { s with oidcIdentities := s.oidcIdentities.set key identity }
  return identity

def addRelationship (principalId : String) (kind : RelationshipKind) (subjectId : String)
    (role : RealmRole) (resource : Option ResourceRef)
    (deniedCapabilities : Option (List Capability)) (drawn : RealmDrawn) :
    RealmM Relationship := do
  let principal ← requirePrincipal principalId
  let s ← state
  let relationship : Relationship := {
    id := drawn.opaqueId "relationship"
    realmId := s.realm.id
    principalId := principal.id
    kind, subjectId, role
    resource := resource.getD { realmId := s.realm.id }
    deniedCapabilities := deniedCapabilities.getD []
    status := .active }
  update fun s => { s with
    relationships := s.relationships.set relationship.id relationship }
  return relationship

structure SourceSpacePolicyInput where
  sourceSpaceId : String
  classification : SourceSpaceClassification
  allowedCapabilities : List Capability
  deniedCapabilities : Option (List Capability) := none
  readerPrincipalIds : Option (List String) := none
  allowedModelProviders : Option (List String) := none
  discoverable : Option Bool := none
deriving DecidableEq, Repr

def setSourceSpacePolicy (input : SourceSpacePolicyInput) (drawn : RealmDrawn) :
    RealmM SourceSpacePolicy := do
  let s ← state
  let policy : SourceSpacePolicy := {
    id := drawn.opaqueId "source-space-policy"
    realmId := s.realm.id
    sourceSpaceId := input.sourceSpaceId
    classification := input.classification
    allowedCapabilities := input.allowedCapabilities
    deniedCapabilities := input.deniedCapabilities.getD []
    readerPrincipalIds := input.readerPrincipalIds.getD []
    allowedModelProviders := input.allowedModelProviders.getD []
    discoverable := input.discoverable.getD true
    policyVersion := s.realm.policyVersion }
  update fun s => { s with
    sourceSpacePolicies := s.sourceSpacePolicies.set policy.sourceSpaceId policy }
  return policy

def activatePolicy (policyVersion : String) : RealmM Realm := do
  require (trim policyVersion ≠ "") {
    code := "policy.version_invalid"
    message := "Policy version must not be empty."
    recoveryAction := "activate an immutable, named policy version"
    receipt := "policy version validation" }
  update fun s => { s with realm := { s.realm with
    policyVersion, authorizationEpoch := s.realm.authorizationEpoch + 1 } }
  let s ← state
  return s.realm

/-! ## Sessions -/

def createHumanSession (principalId clientId : String) (method : AuthenticationMethod)
    (drawn : RealmDrawn) (clock : RealmClock) : RealmM RealmSession := do
  let principal ← requirePrincipal principalId
  let client ← requireClient clientId
  require (principal.status = .active) {
    code := "identity.disabled"
    message := s!"Principal {principal.id} is disabled; authentication did not create a session."
    affectedObject := some principal.id
    recoveryAction := "re-enable the principal through Realm administration"
    receipt := s!"principal-status={principal.status.text}" }
  let s ← state
  let actor : RealmActor := {
    principalId := principal.id
    actorId := drawn.opaqueId "actor"
    sessionId := drawn.opaqueId "session"
    clientId := client.id
    realmId := s.realm.id
    kind := .human
    status := .active }
  let session : RealmSession := {
    id := actor.sessionId
    realmId := s.realm.id
    principalId := principal.id
    actorId := actor.actorId
    clientId := client.id
    method
    strength := method
    issuedAt := services.toISOString clock.now
    expiresAt := expiry services (clock [0]) settings.sessionLifetimeMs
    authorizationEpoch := s.realm.authorizationEpoch
    status := .active
    actorKind := some .human }
  update fun s => { s with
    actors := s.actors.set actor.actorId actor
    sessions := s.sessions.set session.id session }
  return session

structure PasskeyAssertion where
  credentialId : String
  relyingPartyId : Option String := none
  challenge : String
  verified : Bool
  signCount : Option Int := none
  clientId : Option String := none
deriving DecidableEq, Repr

/-- `Number.isSafeInteger(value)`. -/
def isSafeInteger (value : Int) : Bool :=
  -9007199254740991 ≤ value && value ≤ 9007199254740991

def authenticatePasskey (input : PasskeyAssertion) (drawn : RealmDrawn) (clock : RealmClock) :
    RealmM RealmSession := do
  let s ← state
  let credential ← orThrow ((s.passkeys.get? input.credentialId).filter fun credential =>
      credential.status = .active ∧
        credential.relyingPartyId = input.relyingPartyId.getD s.realm.relyingPartyId) {
    code := "auth.passkey_invalid"
    message := "Passkey authentication was not accepted by this Realm."
    recoveryAction := "retry with a passkey enrolled for this Realm origin"
    receipt := "passkey credential and relying-party check" }
  require (input.challenge ≠ "" ∧ input.verified) {
    code := "auth.passkey_unverified"
    message := "The passkey assertion was not verified; no session was created."
    recoveryAction := "complete a fresh WebAuthn assertion through the Realm adapter"
    receipt := "verified WebAuthn assertion required" }
  require (∀ presented ∈ input.signCount,
      isSafeInteger presented ∧ credential.signCount ≤ presented) {
    code := "auth.passkey_counter_regression"
    message := "The verified passkey counter regressed inside the serialized Realm coordinator."
    recoveryAction := "revoke the credential and enroll a fresh passkey after checking for authenticator cloning"
    receipt := s!"stored={credential.signCount}; presented={input.signCount.getD 0}; counter=regression" }
  update fun s => { s with passkeys := s.passkeys.set input.credentialId { credential with
    signCount := input.signCount.getD (credential.signCount + 1) } }
  createHumanSession services settings credential.principalId
    (input.clientId.getD "client:anyam-web") .passkey drawn clock

def authenticateOidc (issuer subject : String) (verified : Bool) (clientId : Option String)
    (drawn : RealmDrawn) (clock : RealmClock) : RealmM RealmSession := do
  let s ← state
  require ((s.oidcProvider issuer).isSome ∧ verified) {
    code := "auth.oidc_invalid"
    message := "OIDC authentication was not accepted by this Realm."
    recoveryAction := "complete OIDC discovery and authorization through the configured issuer"
    receipt := s!"issuer={issuer}; verified={verified}" }
  let identity ← orThrow (s.oidcIdentities.get? s!"{issuer}|{subject}") {
    code := "auth.oidc_unlinked"
    message := "The verified OIDC identity is not linked to a local Realm principal."
    recoveryAction := "ask a Realm owner to link this OIDC subject before retrying"
    receipt := "issuer-and-subject local identity lookup" }
  createHumanSession services settings identity.principalId (clientId.getD "client:anyam-web")
    .oidc drawn clock

end

end Anyam.Identity
