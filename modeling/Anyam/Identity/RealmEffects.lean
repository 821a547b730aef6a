import Anyam.Identity.Evaluation

/-!
# What the operations of a Realm leave

An operation that returns or throws leaves the identity of the Realm, the Sessions and the Grants
in one of a few ways, and the invariants of a Realm follow from these alone.

- `Examined`: a lookup may mark Sessions as expired. `Quiet`: also new Sessions. `Lasting`: also
  Grants with another status.
- **`perform_lasting`**: every operation that creates no Grant is `Lasting`.
- `GrantCreated`: what the creation of a Grant writes and has checked. **`perform_created`**:
  the three operations that create one.
-/

namespace Anyam.Identity

open Anyam.Lib Anyam.Kernel

/-! ## Relations -/

/-- A Grant but for its status. -/
def RealmCapabilityGrant.authority (grant : RealmCapabilityGrant) : RealmCapabilityGrant :=
  { grant with status := .active }

/-- A Session but for its status. -/
def RealmSession.opened (session : RealmSession) : RealmSession :=
  { session with status := .active }

/-- A Session is filed under its own identifier, and one that no other Session delegated is a
human's. -/
structure SessionSound (k : String) (session : RealmSession) : Prop where
  keyed : session.id = k
  named : session.id ≠ ""
  human : delegatingSession session = none → session.actorKind = some .human

theorem SessionSound.of_opened {k : String} {x y : RealmSession} (h : SessionSound k x)
    (hy : y.opened = x.opened) : SessionSound k y := by
  have hid : y.opened.id = x.opened.id := by rw [hy]
  have hparent : delegatingSession y.opened = delegatingSession x.opened := by rw [hy]
  have hkind : y.opened.actorKind = x.opened.actorKind := by rw [hy]
  exact ⟨Eq.trans hid h.keyed, fun hnone => h.named (Eq.trans hid.symm hnone),
    fun hnone => Eq.trans hkind (h.human (Eq.trans hparent.symm hnone))⟩

def SessionsSound (r : RealmRecords) : Prop :=
  ∀ k x, r.sessions.get? k = some x → SessionSound k x

/-- Editing the status of some Sessions. -/
theorem SessionsSound.of_map {r r' : RealmRecords} (h : SessionsSound r)
    {f : RealmSession → RealmSession} (hr : r'.sessions = r.sessions.map f)
    (hf : ∀ x, (f x).opened = x.opened) : SessionsSound r' := by
  intro k x' hx'
  rw [hr, OrderedMap.get?_map, Option.map_eq_some_iff] at hx'
  obtain ⟨x, hx, rfl⟩ := hx'
  exact (h k x hx).of_opened (hf x)

/-- Writing one Session. -/
theorem SessionsSound.of_set {r r' : RealmRecords} (h : SessionsSound r) {k : String}
    {x : RealmSession} (hr : r'.sessions = r.sessions.set k x) (hx : SessionSound k x) :
    SessionsSound r' := by
  intro k' x' hx'
  rw [hr, OrderedMap.get?_set] at hx'
  split at hx'
  · rename_i hk
    cases hx'
    exact hk ▸ hx
  · exact h k' x' hx'

/-- Only Sessions were marked. -/
structure Examined (s s' : RealmState) : Prop where
  rest : s' = { s with sessions := s'.sessions }
  sessions : SessionsSound s.toRealmRecords → SessionsSound s'.toRealmRecords

/-- The Realm and its Grants are as before, Sessions were marked or opened. -/
structure Quiet (s s' : RealmState) : Prop where
  realm : s'.realm = s.realm
  grants : s'.grants = s.grants
  sessions : SessionsSound s.toRealmRecords → SessionsSound s'.toRealmRecords

/-- The Realm is the same, Sessions were marked or opened, and no Grant changed but in status. -/
structure Lasting (r r' : RealmRecords) : Prop where
  realmId : r'.realm.id = r.realm.id
  sessions : SessionsSound r → SessionsSound r'
  grants : ∀ k, (r'.grants.get? k).map (·.authority) = (r.grants.get? k).map (·.authority)

/-- `Lasting`, of the states of a Realm. -/
def LastingState (s s' : RealmState) : Prop := Lasting s.toRealmRecords s'.toRealmRecords

theorem Examined.quiet {s s' : RealmState} (h : Examined s s') : Quiet s s' where
  realm := by rw [h.rest]
  grants := by rw [h.rest]
  sessions := h.sessions

theorem Quiet.lasting {s s' : RealmState} (h : Quiet s s') : LastingState s s' where
  realmId := by rw [h.realm]
  sessions := h.sessions
  grants := fun k => by rw [h.grants]

theorem Quiet.of_eq {s s' : RealmState} (hrealm : s'.realm = s.realm)
    (hgrants : s'.grants = s.grants) (hsessions : s'.sessions = s.sessions) : Quiet s s' :=
  ⟨hrealm, hgrants, fun h k x hx => h k x (hsessions ▸ hx)⟩

instance : Std.Refl Examined := ⟨fun _ => ⟨rfl, id⟩⟩

instance : IsTrans RealmState Examined where
  trans s s' s'' h h' := by
    refine ⟨?_, h'.sessions ∘ h.sessions⟩
    rw [h'.rest, h.rest]

instance : Std.Refl Quiet := ⟨fun _ => .of_eq rfl rfl rfl⟩

instance : IsTrans RealmState Quiet where
  trans _ _ _ h h' :=
    ⟨h'.realm.trans h.realm, h'.grants.trans h.grants, h'.sessions ∘ h.sessions⟩

theorem Lasting.trans {r r' r'' : RealmRecords} (h : Lasting r r') (h' : Lasting r' r'') :
    Lasting r r'' :=
  ⟨h'.realmId.trans h.realmId, h'.sessions ∘ h.sessions,
    fun k => (h'.grants k).trans (h.grants k)⟩

instance : Std.Refl LastingState := ⟨fun _ => ⟨rfl, id, fun _ => rfl⟩⟩

instance : IsTrans RealmState LastingState := ⟨fun _ _ _ => Lasting.trans⟩

/-! ## Lookups -/

open Transact (Keeps bind_leaves keeps_bind keeps_state keeps_pure keeps_require keeps_orThrow
  keeps_update)

/-- A computation that only reads. -/
abbrev Reads {α : Type} (m : RealmM α) : Prop := Keeps Eq m

theorem Reads.quiet {α : Type} {m : RealmM α} (h : Reads m) : Keeps Quiet m :=
  Keeps.mono h fun heq => heq ▸ refl _

theorem reads_requirePrincipal {principalId : String} : Reads (requirePrincipal principalId) :=
  keeps_bind keeps_state fun _ => keeps_orThrow

theorem reads_requireClient {clientId : String} : Reads (requireClient clientId) :=
  keeps_bind keeps_state fun _ => keeps_orThrow

section

variable {services : RealmServices} {settings : RealmSettings}

@[simp] theorem opened_markExpiredSession {now : Int} {session : RealmSession} :
    (markExpiredSession services now session).opened = session.opened := by
  unfold markExpiredSession
  split <;> rfl

/-- A lookup of a Session marks that Session and nothing else. -/
theorem examines_requireSession {sessionId : String} {clock : RealmClock} :
    Keeps Examined (requireSession services sessionId clock) := by
  intro s
  refine bind_leaves (Q := (s = ·)) rfl (fun h => h ▸ refl s) fun read mid hread _ => ?_
  obtain ⟨rfl, rfl⟩ := Transact.state_eq_ok.mp hread
  refine bind_leaves (Q := (s = ·)) rfl (fun h => h ▸ refl s) fun found mid hfound _ => ?_
  obtain ⟨hlookup, rfl⟩ := Transact.orThrow_eq_ok.mp hfound
  have hget := (Option.filter_eq_some_iff.mp hlookup).1
  refine bind_leaves (Q := Examined s) ?_ id fun _ mid _ hmid => IsTrans.trans _ _ _ hmid ?_
  · refine ⟨rfl, fun h => h.of_set rfl ?_⟩
    exact (h sessionId found hget).of_opened opened_markExpiredSession
  · exact (keeps_bind keeps_state fun _ => keeps_bind keeps_require fun _ => keeps_pure) mid

theorem reads_requireGrantee {input : CreateTaskGrantInput} {principal : Principal}
    {session : RealmSession} {client : RealmClient} :
    Reads (requireGrantee input principal session client) :=
  keeps_bind keeps_state fun _ => keeps_bind keeps_require fun _ =>
    keeps_bind keeps_require fun _ => keeps_bind keeps_require fun _ =>
    keeps_bind keeps_require fun _ => keeps_bind keeps_require fun _ =>
    keeps_bind keeps_require fun _ => keeps_orThrow

theorem reads_requireParent {input : CreateTaskGrantInput} {principal : Principal}
    {session : RealmSession} {client : RealmClient} {task : RealmTask} {clock : RealmClock}
    {parentGrantId : String} :
    Reads (requireParent services input principal session client task clock parentGrantId) :=
  keeps_bind keeps_state fun _ => keeps_bind keeps_orThrow fun _ => keeps_require

theorem reads_requireParties {input : AgentDelegationInput} {parentSession : RealmSession}
    {clock : RealmClock} : Reads (requireParties services input parentSession clock) :=
  keeps_bind keeps_state fun _ => keeps_bind keeps_orThrow fun _ =>
    keeps_bind keeps_require fun _ => keeps_bind keeps_orThrow fun _ =>
    keeps_bind keeps_orThrow fun _ => keeps_pure

theorem reads_requireDelegatedScope {input : AgentDelegationInput} {parentSession : RealmSession}
    {parties : DelegationParties} {now : Int} :
    Reads (requireDelegatedScope services input parentSession parties now) :=
  keeps_bind keeps_state fun _ => keeps_bind keeps_require fun _ =>
    keeps_bind keeps_require fun _ => keeps_bind keeps_require fun _ =>
    keeps_bind keeps_require fun _ => keeps_bind keeps_require fun _ =>
    keeps_bind keeps_require fun _ => keeps_bind keeps_require fun _ =>
    keeps_bind keeps_require fun _ => keeps_bind keeps_require fun _ =>
    keeps_bind keeps_require fun _ => keeps_pure

/-! ## Operations that create no Grant -/

/-- Writing what is no part of the Realm record, a Session or a Grant. -/
theorem keeps_aside {f : RealmState → RealmState} (hrealm : ∀ s, (f s).realm = s.realm)
    (hgrants : ∀ s, (f s).grants = s.grants) (hsessions : ∀ s, (f s).sessions = s.sessions) :
    Keeps Quiet (RealmM.update f) :=
  keeps_update fun s => .of_eq (hrealm s) (hgrants s) (hsessions s)

theorem quiet_registerClient {id : String} {kind : ClientKind}
    {allowedAudiences : Option (List CredentialClass)} {allowedOperations : Option (List String)} :
    Keeps Quiet (registerClient id kind allowedAudiences allowedOperations) :=
  keeps_bind keeps_state fun _ => keeps_bind keeps_require fun _ =>
    keeps_bind keeps_require fun _ =>
    keeps_bind (keeps_aside (fun _ => rfl) (fun _ => rfl) fun _ => rfl) fun _ => keeps_pure

theorem quiet_agentClient {clientId : String} {classes : List CredentialClass} :
    Keeps Quiet (agentClient clientId classes) := by
  refine keeps_bind keeps_state fun s => ?_
  cases s.clients.get? clientId with
  | some client => exact keeps_pure
  | none => exact quiet_registerClient

theorem quiet_registerAgent {input : RegisterAgentInput} {drawn : RealmDrawn}
    {clock : RealmClock} : Keeps Quiet (registerAgent services input drawn clock) :=
  keeps_bind reads_requirePrincipal.quiet fun _ => keeps_bind keeps_require fun _ =>
    keeps_bind keeps_require fun _ => keeps_bind keeps_state fun _ =>
    keeps_bind keeps_require fun _ => keeps_bind keeps_require fun _ =>
    keeps_bind quiet_agentClient fun _ => keeps_bind keeps_require fun _ =>
    keeps_bind (keeps_aside (fun _ => rfl) (fun _ => rfl) fun _ => rfl) fun _ => keeps_pure

theorem quiet_createPrincipal {id : Option String} {displayName : String} {drawn : RealmDrawn}
    {clock : RealmClock} : Keeps Quiet (createPrincipal services id displayName drawn clock) :=
  keeps_bind keeps_state fun _ => keeps_bind keeps_require fun _ =>
    keeps_bind (keeps_aside (fun _ => rfl) (fun _ => rfl) fun _ => rfl) fun _ => keeps_pure

theorem quiet_registerPasskey {principalId credentialId : String}
    {relyingPartyId : Option String} {signCount : Option Int} :
    Keeps Quiet (registerPasskey principalId credentialId relyingPartyId signCount) :=
  keeps_bind reads_requirePrincipal.quiet fun _ => keeps_bind keeps_state fun _ =>
    keeps_bind keeps_require fun _ =>
    keeps_bind (keeps_aside (fun _ => rfl) (fun _ => rfl) fun _ => rfl) fun _ => keeps_pure

theorem quiet_registerOidcProvider {id : Option String} {issuer clientId : String}
    {drawn : RealmDrawn} : Keeps Quiet (registerOidcProvider id issuer clientId drawn) :=
  keeps_bind keeps_state fun _ => keeps_bind keeps_require fun _ =>
    keeps_bind (keeps_aside (fun _ => rfl) (fun _ => rfl) fun _ => rfl) fun _ => keeps_pure

theorem quiet_linkOidcIdentity {principalId issuer subject : String} :
    Keeps Quiet (linkOidcIdentity principalId issuer subject) :=
  keeps_bind reads_requirePrincipal.quiet fun _ => keeps_bind keeps_state fun _ =>
    keeps_bind keeps_orThrow fun _ => keeps_bind keeps_require fun _ =>
    keeps_bind (keeps_aside (fun _ => rfl) (fun _ => rfl) fun _ => rfl) fun _ => keeps_pure

theorem quiet_addRelationship {principalId : String} {kind : RelationshipKind}
    {subjectId : String} {role : RealmRole} {resource : Option ResourceRef}
    {deniedCapabilities : Option (List Capability)} {drawn : RealmDrawn} :
    Keeps Quiet (addRelationship principalId kind subjectId role resource deniedCapabilities
      drawn) :=
  keeps_bind reads_requirePrincipal.quiet fun _ => keeps_bind keeps_state fun _ =>
    keeps_bind (keeps_aside (fun _ => rfl) (fun _ => rfl) fun _ => rfl) fun _ => keeps_pure

theorem quiet_setSourceSpacePolicy {input : SourceSpacePolicyInput} {drawn : RealmDrawn} :
    Keeps Quiet (setSourceSpacePolicy input drawn) :=
  keeps_bind keeps_state fun _ =>
    keeps_bind (keeps_aside (fun _ => rfl) (fun _ => rfl) fun _ => rfl) fun _ => keeps_pure

theorem lasting_activatePolicy {policyVersion : String} :
    Keeps LastingState (activatePolicy policyVersion) :=
  keeps_bind keeps_require fun _ =>
    keeps_bind (keeps_update fun _ => ⟨rfl, id, fun _ => rfl⟩) fun _ =>
    keeps_bind keeps_state fun _ => keeps_pure

/-- A human Session is opened as a human's. -/
theorem quiet_createHumanSession {principalId clientId : String} {method : AuthenticationMethod}
    {drawn : RealmDrawn} {clock : RealmClock} :
    Keeps Quiet (createHumanSession services settings principalId clientId method drawn clock) := by
  refine keeps_bind reads_requirePrincipal.quiet fun _ => ?_
  refine keeps_bind reads_requireClient.quiet fun _ => ?_
  refine keeps_bind keeps_require fun _ => keeps_bind keeps_state fun _ => ?_
  refine keeps_bind (keeps_update fun s => ?_) fun _ => keeps_pure
  refine ⟨rfl, rfl, fun h => h.of_set rfl ⟨rfl, ?_, fun _ => rfl⟩⟩
  exact opaqueId_ne_empty _ _

theorem quiet_authenticatePasskey {input : PasskeyAssertion} {drawn : RealmDrawn}
    {clock : RealmClock} :
    Keeps Quiet (authenticatePasskey services settings input drawn clock) :=
  keeps_bind keeps_state fun _ => keeps_bind keeps_orThrow fun _ =>
    keeps_bind keeps_require fun _ => keeps_bind keeps_require fun _ =>
    keeps_bind (keeps_aside (fun _ => rfl) (fun _ => rfl) fun _ => rfl) fun _ =>
    quiet_createHumanSession

theorem quiet_authenticateOidc {issuer subject : String} {verified : Bool}
    {clientId : Option String} {drawn : RealmDrawn} {clock : RealmClock} :
    Keeps Quiet (authenticateOidc services settings issuer subject verified clientId drawn
      clock) :=
  keeps_bind keeps_state fun _ => keeps_bind keeps_require fun _ =>
    keeps_bind keeps_orThrow fun _ => quiet_createHumanSession

theorem quiet_createTask {input : CreateTaskInput} {drawn : RealmDrawn} {clock : RealmClock} :
    Keeps Quiet (createTask services input drawn clock) :=
  keeps_bind (examines_requireSession.mono Examined.quiet) fun _ =>
    keeps_bind keeps_state fun _ => keeps_bind keeps_require fun _ =>
    keeps_bind keeps_require fun _ => keeps_bind keeps_require fun _ =>
    keeps_bind (keeps_aside (fun _ => rfl) (fun _ => rfl) fun _ => rfl) fun _ => keeps_pure

/-- An agent Session names the Session it was delegated from. -/
theorem quiet_createAgentSession {parentSession : RealmSession} {agent : RealmAgent}
    {drawn : RealmDrawn} {clock : RealmClock} {s : RealmState}
    (hparent : SessionsSound s.toRealmRecords → parentSession.id ≠ "") :
    Quiet s (createAgentSession services settings parentSession agent drawn clock s).2 := by
  refine bind_leaves (Q := (s = ·)) rfl (fun h => h ▸ refl s) fun _ _ _ hmid => hmid ▸ ?_
  refine bind_leaves (Q := (s = ·)) rfl (fun h => h ▸ refl s) fun _ _ _ hmid => hmid ▸ ?_
  refine bind_leaves (Q := (s = ·)) rfl (fun h => h ▸ refl s) fun _ _ _ hmid => hmid ▸ ?_
  refine ⟨rfl, rfl, fun h => h.of_set rfl ⟨rfl, opaqueId_ne_empty _ _, fun hnone => ?_⟩⟩
  exact absurd (truthy_eq_none.mp hnone) (by simpa using hparent h)

/-! ## Revocation -/

@[simp] theorem authority_revokedIn {ids : List String} {grant : RealmCapabilityGrant} :
    (grant.revokedIn ids).authority = grant.authority := by
  unfold RealmCapabilityGrant.revokedIn
  split <;> rfl

@[simp] theorem opened_revokedIn {ids : List String} {session : RealmSession} :
    (session.revokedIn ids).opened = session.opened := by
  unfold RealmSession.revokedIn
  split <;> rfl

/-- Grants edited in status. -/
theorem map_authority_map {grants : OrderedMap String RealmCapabilityGrant}
    {f : RealmCapabilityGrant → RealmCapabilityGrant} (hf : ∀ g, (f g).authority = g.authority)
    (k : String) :
    ((grants.map f).get? k).map (·.authority) = (grants.get? k).map (·.authority) := by
  rw [OrderedMap.get?_map, Option.map_map]
  exact congrArg (Option.map · _) (funext hf)

/-- A Grant written back with another status. -/
theorem map_authority_set {grants : OrderedMap String RealmCapabilityGrant} {k : String}
    {g g' : RealmCapabilityGrant} (hget : grants.get? k = some g)
    (h : g'.authority = g.authority) (k' : String) :
    ((grants.set k g').get? k').map (·.authority) = (grants.get? k').map (·.authority) := by
  rw [OrderedMap.get?_set]
  split
  · rename_i hk
    rw [hk, hget, Option.map_some, Option.map_some, h]
  · rfl

theorem lasting_revokeGrant {grantId : String} : Keeps LastingState (revokeGrant grantId) := by
  refine keeps_bind keeps_state fun s => keeps_bind keeps_orThrow fun _ => ?_
  refine keeps_bind (keeps_update fun s => ?_) fun _ => keeps_pure
  exact ⟨rfl, id, map_authority_map fun _ => authority_revokedIn⟩

theorem lasting_revokeSession {sessionId : String} :
    Keeps LastingState (revokeSession sessionId) := by
  refine keeps_bind keeps_state fun s => keeps_bind keeps_orThrow fun _ => ?_
  refine keeps_bind (keeps_update fun s => ?_) fun _ => keeps_pure
  exact ⟨rfl, fun h => h.of_map rfl fun _ => opened_revokedIn,
    map_authority_map fun _ => authority_revokedIn⟩

theorem lasting_revokeActorSessions {actors : List RealmActor} :
    Keeps LastingState (revokeActorSessions actors) := by
  induction actors with
  | nil => exact keeps_pure
  | cons actor actors ih =>
    exact keeps_bind lasting_revokeSession fun _ => keeps_bind ih fun _ => keeps_pure

theorem lasting_revokeAgent {agentId : String} {clock : RealmClock} :
    Keeps LastingState (revokeAgent services agentId clock) := by
  refine keeps_bind keeps_state fun s => keeps_bind keeps_orThrow fun _ => ?_
  refine keeps_bind keeps_require fun _ => ?_
  refine keeps_bind (keeps_update fun s => ⟨rfl, id, fun _ => rfl⟩) fun _ => ?_
  exact keeps_bind lasting_revokeActorSessions fun _ => keeps_pure

/-! ## Credentials and reads -/

theorem quiet_revokeCredential {credentialId : String} :
    Keeps Quiet (revokeCredential credentialId) :=
  keeps_bind keeps_state fun _ => keeps_bind keeps_orThrow fun _ =>
    keeps_bind (keeps_aside (fun _ => rfl) (fun _ => rfl) fun _ => rfl) fun _ => keeps_pure

theorem quiet_issueCredential {input : IssueCredentialInput} {drawn : RealmDrawn}
    {clock : RealmClock} :
    Keeps Quiet (issueCredential services settings input drawn clock) :=
  keeps_bind reads_requirePrincipal.quiet fun _ =>
    keeps_bind (examines_requireSession.mono Examined.quiet) fun _ =>
    keeps_bind reads_requireClient.quiet fun _ => keeps_bind keeps_state fun _ =>
    keeps_bind keeps_orThrow fun _ => keeps_bind keeps_require fun _ =>
    keeps_bind keeps_require fun _ => keeps_bind keeps_require fun _ =>
    keeps_bind keeps_require fun _ => keeps_bind keeps_orThrow fun _ =>
    keeps_bind (keeps_aside (fun _ => rfl) (fun _ => rfl) fun _ => rfl) fun _ => keeps_pure

theorem quiet_validateCredential {token : String} {input : CredentialValidationInput}
    {clock : RealmClock} : Keeps Quiet (validateCredential services token input clock) := by
  refine keeps_bind keeps_state fun s => ?_
  cases s.credentials.values.find? (·.tokenDigest = services.tokenDigest token) with
  | none => exact keeps_pure
  | some record =>
    exact keeps_bind (keeps_aside (fun _ => rfl) (fun _ => rfl) fun _ => rfl) fun _ => keeps_pure

theorem quiet_validateTaskGrant {input : TaskGrantValidationInput} {clock : RealmClock} :
    Keeps Quiet (validateTaskGrant services input clock) := by
  refine keeps_bind (examines_requireSession.mono Examined.quiet).attempt fun found => ?_
  refine keeps_bind keeps_state fun s => ?_
  rcases found with (error | _) | session <;> exact keeps_pure

theorem quiet_canReadSourceSpaceMetadata {sessionId : String} {resource : ResourceRef}
    {classification : SourceSpaceClassification} {capability : Option Capability}
    {clock : RealmClock} :
    Keeps Quiet (canReadSourceSpaceMetadata services sessionId resource classification capability
      clock) :=
  keeps_bind (examines_requireSession.mono Examined.quiet) fun _ =>
    keeps_bind keeps_state fun _ => keeps_pure

/-! ## Evaluation -/

/-- What an observing evaluation marks is a Session and a Grant. -/
theorem lasting_observed {c : PolicyContext} {clock : RealmClock} (s : RealmState) :
    LastingState s (observed services s c clock) := by
  refine ⟨rfl, fun h => ?_, fun k => ?_⟩
  · cases hfound : chainedSession s c with
    | none => exact fun k x hx => h k x (by simpa only [observed, hfound] using hx)
    | some session =>
      have hget := (Option.filter_eq_some_iff.mp hfound).1
      by_cases hactive : sessionChainIsActive services s (clock.sub 0) session = true
      · exact fun k x hx => h k x (by simpa only [observed, hfound, hactive, if_true] using hx)
      · refine h.of_set (k := c.input.sessionId)
          (by simp only [observed, hfound, hactive]; rfl) ?_
        exact (h _ _ hget).of_opened opened_markExpiredSession
  · simp only [observed]
    split
    · rfl
    · split
      · rfl
      · rename_i grant hfound
        split
        · refine map_authority_set (Option.filter_eq_some_iff.mp hfound).1 ?_ k
          rfl
        · rfl

theorem lasting_evaluateDecision {input : PolicyEvaluationInput} {observe : Bool}
    {drawn : RealmDrawn} {clock : RealmClock} :
    Keeps LastingState (evaluateDecision services input observe drawn clock) := by
  refine keeps_bind keeps_orThrow fun capability => keeps_bind keeps_state fun read => ?_
  refine keeps_bind (keeps_update fun s => ?_) fun _ => keeps_pure
  cases observe with
  | true => exact lasting_observed s
  | false => exact refl s

theorem lasting_authorize {input : PolicyEvaluationInput} {drawn : RealmDrawn}
    {clock : RealmClock} : Keeps LastingState (authorize services input drawn clock) :=
  keeps_bind lasting_evaluateDecision fun _ => keeps_bind keeps_require fun _ => keeps_pure

/-! ## The creation of a Grant -/

/-- What the creation of a Grant writes, and what it has checked before. -/
structure GrantCreated (services : RealmServices) (settings : RealmSettings) (drawn : RealmDrawn)
    (input : CreateTaskGrantInput) (now : Int) (s s' : RealmState) : Prop where
  written : s' = { s with
    grants := s.grants.set (drawn.opaqueId "grant") (newGrant services settings s input drawn now) }
  parent : ∀ id, truthy input.parentGrantId = some id → ∃ parent, s.grants.get? id = some parent ∧
    widens services input (s.agentOf (s.actors.get? input.actorId)) parent = false
  expiry : ∀ expiresAt ∈ input.expiresAt, services.dateParse expiresAt ≠ none

/-- Nothing but the marks of lookups and new Sessions, and then a Grant or none. -/
def Grants (services : RealmServices) (settings : RealmSettings) (drawn : RealmDrawn)
    (asked : CreateTaskGrantInput → Int → Prop) (s s' : RealmState) : Prop :=
  Quiet s s' ∨ ∃ mid input now, Quiet s mid ∧ asked input now ∧
    GrantCreated services settings drawn input now mid s'

theorem Grants.after {drawn : RealmDrawn} {asked : CreateTaskGrantInput → Int → Prop}
    {s s' s'' : RealmState} (h : Quiet s s')
    (h' : Grants services settings drawn asked s' s'') : Grants services settings drawn asked s s'' := by
  rcases h' with hquiet | ⟨mid, input, now, hquiet, hasked, hcreated⟩
  · exact .inl (IsTrans.trans _ _ _ h hquiet)
  · exact .inr ⟨mid, input, now, IsTrans.trans _ _ _ h hquiet, hasked, hcreated⟩

theorem reads_requireNarrowing {input : CreateTaskGrantInput} {principal : Principal}
    {session : RealmSession} {client : RealmClient} {task : RealmTask} {clock : RealmClock} :
    Reads (requireNarrowing services input principal session client task clock) := by
  unfold requireNarrowing
  cases truthy input.parentGrantId with
  | none => exact keeps_pure
  | some parentGrantId => exact reads_requireParent

theorem quiet_requireGrant {input : CreateTaskGrantInput} {clock : RealmClock} :
    Keeps Quiet (requireGrant services input clock) :=
  keeps_bind reads_requirePrincipal.quiet fun _ =>
    keeps_bind (examines_requireSession.mono Examined.quiet) fun _ =>
    keeps_bind reads_requireClient.quiet fun _ => keeps_bind reads_requireGrantee.quiet fun _ =>
    keeps_bind keeps_state fun _ => keeps_bind keeps_require fun _ =>
    keeps_bind reads_requireNarrowing.quiet fun _ => keeps_require

theorem Reads.eq {α : Type} {m : RealmM α} (h : Reads m) {s s' : RealmState} {a : α}
    (hm : m s = (.ok a, s')) : s = s' := by
  have := h s
  rwa [hm] at this

/-- A parent that a Grant was checked against. -/
theorem parent_of_requireNarrowing {input : CreateTaskGrantInput} {principal : Principal}
    {session : RealmSession} {client : RealmClient} {task : RealmTask} {clock : RealmClock}
    {s s' : RealmState}
    (h : requireNarrowing services input principal session client task clock s = (.ok (), s'))
    {id : String} (hid : truthy input.parentGrantId = some id) :
    ∃ parent, s.grants.get? id = some parent ∧
      widens services input (s.agentOf (s.actors.get? input.actorId)) parent = false := by
  simp only [requireNarrowing, hid, requireParent, Transact.bind_eq_ok, Transact.state_eq_ok,
    Transact.orThrow_eq_ok, Transact.require_eq_ok] at h
  obtain ⟨_, _, ⟨rfl, rfl⟩, parent, _, ⟨hfound, rfl⟩, hwidens, -⟩ := h
  exact ⟨parent, (Option.filter_eq_some_iff.mp hfound).1, hwidens⟩

/-- What the checks of a Grant have established. -/
theorem requireGrant_ok {input : CreateTaskGrantInput} {clock : RealmClock} {s mid : RealmState}
    (h : requireGrant services input clock s = (.ok (), mid)) :
    (∀ id, truthy input.parentGrantId = some id → ∃ parent, mid.grants.get? id = some parent ∧
      widens services input (mid.agentOf (mid.actors.get? input.actorId)) parent = false) ∧
    ∀ expiresAt ∈ input.expiresAt, services.dateParse expiresAt ≠ none := by
  simp only [requireGrant, Transact.bind_eq_ok, Transact.state_eq_ok, Transact.require_eq_ok] at h
  obtain ⟨_, _, _, _, _, _, _, _, _, task, _, _, _, _, ⟨rfl, rfl⟩, _, _, ⟨-, rfl⟩, _, _,
    hnarrowing, hexpiry, rfl⟩ := h
  obtain rfl := reads_requireNarrowing.eq hnarrowing
  exact ⟨fun id => parent_of_requireNarrowing hnarrowing, fun e he => (hexpiry e he).1⟩

theorem grants_createCapabilityGrant {input : CreateTaskGrantInput} {drawn : RealmDrawn}
    {clock : RealmClock} (s : RealmState) :
    Grants services settings drawn (fun asked now => asked = input ∧ now = clock [3]) s
      (createCapabilityGrant services settings input drawn clock s).2 := by
  refine bind_leaves (Q := Quiet s) (quiet_requireGrant s) .inl fun _ mid hchecked hquiet => ?_
  obtain ⟨hparent, hexpiry⟩ := requireGrant_ok hchecked
  exact .inr ⟨mid, input, clock [3], hquiet, ⟨rfl, rfl⟩, rfl, hparent, hexpiry⟩

theorem Grants.mono {drawn : RealmDrawn} {asked asked' : CreateTaskGrantInput → Int → Prop}
    {s s' : RealmState} (h : Grants services settings drawn asked s s')
    (himp : ∀ input now, asked input now → asked' input now) :
    Grants services settings drawn asked' s s' :=
  h.imp_right fun ⟨mid, input, now, hquiet, hasked, hcreated⟩ =>
    ⟨mid, input, now, hquiet, himp input now hasked, hcreated⟩

/-- An owner's Grant has no parent. -/
theorem grants_createOwnerTaskGrant {input : OwnerTaskGrantInput} {drawn : RealmDrawn}
    {clock : RealmClock} (s : RealmState) :
    Grants services settings drawn (fun asked _ => asked.parentGrantId = none) s
      (createOwnerTaskGrant services settings input drawn clock s).2 := by
  refine bind_leaves (examines_requireSession.mono Examined.quiet s) .inl fun session _ _ h => ?_
  refine bind_leaves h .inl fun _ _ _ h => bind_leaves h .inl fun _ _ _ h => ?_
  refine bind_leaves h .inl fun _ _ _ h => bind_leaves h .inl fun _ _ _ h => ?_
  refine bind_leaves h .inl fun _ mid _ h => ?_
  refine bind_leaves (IsTrans.trans _ _ _ h (quiet_createTask mid)) .inl fun task mid _ h => ?_
  refine bind_leaves (Grants.after h (grants_createCapabilityGrant mid)) ?_ fun _ _ _ h => ?_
  · exact fun h => h.mono fun _ _ hasked => hasked.1 ▸ rfl
  · exact h.mono fun _ _ hasked => hasked.1 ▸ rfl

/-! ## Delegation -/

/-- What the checks of a delegation have established of the parent Grant. -/
structure Delegable (services : RealmServices) (s : RealmState) (input : AgentDelegationInput)
    (parties : DelegationParties) (scope : DelegatedScope) : Prop where
  parent : s.grants.get? input.parentGrantId = some parties.parentGrant
  resource : resourceMatches parties.parentGrant.resource input.resource = true
  expiry : services.after scope.expiresAt parties.parentGrant.expiresAt = false
  scope : scope = delegatedScope input parties

theorem requireParties_ok {input : AgentDelegationInput} {parentSession : RealmSession}
    {clock : RealmClock} {s mid : RealmState} {parties : DelegationParties}
    (h : requireParties services input parentSession clock s = (.ok parties, mid)) :
    s.grants.get? input.parentGrantId = some parties.parentGrant := by
  simp only [requireParties, Transact.bind_eq_ok, Transact.state_eq_ok, Transact.orThrow_eq_ok,
    Transact.require_eq_ok, Transact.pure_eq_ok] at h
  obtain ⟨_, _, ⟨rfl, rfl⟩, _, _, ⟨-, rfl⟩, _, _, ⟨-, rfl⟩, _, _, ⟨-, rfl⟩, _, _, ⟨hgrant, rfl⟩,
    rfl, -⟩ := h
  exact (Option.filter_eq_some_iff.mp hgrant).1

theorem requireDelegatedScope_ok {input : AgentDelegationInput} {parentSession : RealmSession}
    {parties : DelegationParties} {now : Int} {s mid : RealmState} {scope : DelegatedScope}
    (h : requireDelegatedScope services input parentSession parties now s = (.ok scope, mid)) :
    resourceMatches parties.parentGrant.resource input.resource = true ∧
      services.after scope.expiresAt parties.parentGrant.expiresAt = false ∧
      scope = delegatedScope input parties := by
  simp only [requireDelegatedScope, Transact.bind_eq_ok, Transact.state_eq_ok,
    Transact.require_eq_ok, Transact.pure_eq_ok] at h
  obtain ⟨_, _, ⟨rfl, rfl⟩, _, _, ⟨-, rfl⟩, _, _, ⟨-, rfl⟩, _, _, ⟨hresource, rfl⟩, _, _, ⟨-, rfl⟩,
    _, _, ⟨-, rfl⟩, _, _, ⟨-, rfl⟩, _, _, ⟨-, rfl⟩, _, _, ⟨-, rfl⟩, _, _, ⟨-, rfl⟩, _, _,
    ⟨hexpiry, rfl⟩, rfl, -⟩ := h
  exact ⟨hresource, hexpiry.2.2, rfl⟩

/-- The Session a lookup gives is in the state it leaves. -/
theorem get?_of_requireSession {sessionId : String} {clock : RealmClock} {s mid : RealmState}
    {session : RealmSession}
    (h : requireSession services sessionId clock s = (.ok session, mid)) :
    mid.sessions.get? sessionId = some session := by
  simp only [requireSession, Transact.bind_eq_ok, Transact.state_eq_ok, Transact.orThrow_eq_ok,
    Transact.require_eq_ok, Transact.update_eq_ok, Transact.pure_eq_ok] at h
  obtain ⟨_, _, ⟨rfl, rfl⟩, _, _, ⟨-, rfl⟩, _, _, rfl, _, _, ⟨rfl, rfl⟩, _, _, ⟨-, rfl⟩, rfl, rfl⟩
    := h
  exact OrderedMap.get?_set_self _ _ _

/-- The Grant a delegation asks for. -/
def DelegationAsks (services : RealmServices) (s : RealmState) (input : AgentDelegationInput)
    (asked : CreateTaskGrantInput) : Prop :=
  ∃ parentSession agentSession task parties scope consentAt,
    Delegable services s input parties scope ∧
      asked = delegatedGrantInput input parentSession agentSession task parties scope consentAt

theorem grants_delegateAgent {input : AgentDelegationInput} {drawn : RealmDrawn}
    {clock : RealmClock} (s : RealmState) :
    Grants services settings drawn (fun asked _ => DelegationAsks services s input asked) s
      (delegateAgent services settings input drawn clock s).2 := by
  refine bind_leaves (examines_requireSession s).quiet .inl fun parentSession s₁ hsession h₁ => ?_
  refine bind_leaves (IsTrans.trans _ _ _ h₁ (reads_requireParties.quiet s₁)) .inl
    fun parties s₂ hparties _ => ?_
  obtain rfl := reads_requireParties.eq hparties
  refine bind_leaves (IsTrans.trans _ _ _ h₁ (reads_requireDelegatedScope.quiet s₁)) .inl
    fun scope s₂ hscope _ => ?_
  obtain rfl := reads_requireDelegatedScope.eq hscope
  have hsound : SessionsSound s₁.toRealmRecords → parentSession.id ≠ "" := fun hs =>
    (hs _ _ (get?_of_requireSession hsession)).named
  refine bind_leaves (IsTrans.trans _ _ _ h₁ (quiet_createAgentSession hsound)) .inl
    fun agentSession s₂ _ h₂ => ?_
  refine bind_leaves h₂ .inl fun _ s₃ _ h₃ => ?_
  refine bind_leaves (IsTrans.trans _ _ _ h₃ (quiet_createTask s₃)) .inl fun task s₄ _ h₄ => ?_
  obtain ⟨hresource, hexpiry, hscope'⟩ := requireDelegatedScope_ok hscope
  have hparent := requireParties_ok hparties
  rw [h₁.grants] at hparent
  have hasks : ∀ asked now, (asked = delegatedGrantInput input parentSession agentSession task
      parties scope (input.consentAt.getD (services.toISOString (clock [5]))) ∧ now =
        clock.sub 6 [3]) → DelegationAsks services s input asked := fun _ _ hasked =>
    ⟨_, _, _, _, _, _, ⟨hparent, hresource, hexpiry, hscope'⟩, hasked.1⟩
  refine bind_leaves (Grants.after h₄ (grants_createCapabilityGrant s₄)) (Grants.mono · hasks)
    fun _ s₅ _ h₅ => ?_
  exact bind_leaves h₅ (Grants.mono · hasks) fun _ _ _ h => h.mono hasks

end

end Anyam.Identity
