import Anyam.Identity.RealmEffects
import Anyam.Lib.Run

/-!
# A Realm over its operations

The methods of a `RealmIdentityPolicy` called one after the other, by anyone, with any arguments
and at any times; snapshots of it that are exported and restored, states that are captured and
rolled back to, and new policy objects of the same Realm.

- `realmStep`: one call. `RealmRun`: the runs from a new policy object.
- `Ledger`: what the records of a Realm have at all times, for a relation that every derived Grant
  has to its parent.
- **`RealmRun.ledger`**: a run whose derivations establish the relation keeps the ledger.
-/

namespace Anyam.Identity

open Anyam.Lib Anyam.Kernel
open Transact (Keeps bind_leaves)

/-! ## Calls -/

inductive PolicyOperation
  | registerClient (id : String) (kind : ClientKind)
      (allowedAudiences : Option (List CredentialClass))
      (allowedOperations : Option (List String))
  | registerAgent (input : RegisterAgentInput)
  | createPrincipal (id : Option String) (displayName : String)
  | registerPasskey (principalId credentialId : String) (relyingPartyId : Option String)
      (signCount : Option Int)
  | registerOidcProvider (id : Option String) (issuer clientId : String)
  | linkOidcIdentity (principalId issuer subject : String)
  | addRelationship (principalId : String) (kind : RelationshipKind) (subjectId : String)
      (role : RealmRole) (resource : Option ResourceRef)
      (deniedCapabilities : Option (List Capability))
  | setSourceSpacePolicy (input : SourceSpacePolicyInput)
  | activatePolicy (policyVersion : String)
  | authenticatePasskey (input : PasskeyAssertion)
  | authenticateOidc (issuer subject : String) (verified : Bool) (clientId : Option String)
  | validateSession (sessionId : String)
  | createTask (input : CreateTaskInput)
  | createCapabilityGrant (input : CreateTaskGrantInput)
  | createOwnerTaskGrant (input : OwnerTaskGrantInput)
  | delegateAgent (input : AgentDelegationInput)
  | revokeGrant (grantId : String)
  | revokeSession (sessionId : String)
  | revokeAgent (agentId : String)
  | revokeCredential (credentialId : String)
  | issueCredential (input : IssueCredentialInput)
  | validateCredential (token : String) (input : CredentialValidationInput)
  | validateTaskGrant (input : TaskGrantValidationInput)
  | canReadSourceSpaceMetadata (sessionId : String) (resource : ResourceRef)
      (classification : SourceSpaceClassification) (capability : Option Capability)
  | evaluate (input : PolicyEvaluationInput)
  | evaluateReadOnly (input : PolicyEvaluationInput)
  | authorize (input : PolicyEvaluationInput)
deriving DecidableEq

/-- Drop what a method returns. -/
def dropped {α : Type} (m : RealmM α) : RealmM Unit := do
  let _ ← m
  return ()

section

variable (services : RealmServices) (settings : RealmSettings)

def perform (operation : PolicyOperation) (drawn : RealmDrawn) (clock : RealmClock) :
    RealmM Unit :=
  match operation with
  | .registerClient id kind audiences operations =>
    dropped (registerClient id kind audiences operations)
  | .registerAgent input => dropped (registerAgent services input drawn clock)
  | .createPrincipal id displayName =>
    dropped (createPrincipal services id displayName drawn clock)
  | .registerPasskey principalId credentialId relyingPartyId signCount =>
    dropped (registerPasskey principalId credentialId relyingPartyId signCount)
  | .registerOidcProvider id issuer clientId =>
    dropped (registerOidcProvider id issuer clientId drawn)
  | .linkOidcIdentity principalId issuer subject =>
    dropped (linkOidcIdentity principalId issuer subject)
  | .addRelationship principalId kind subjectId role resource denied =>
    dropped (addRelationship principalId kind subjectId role resource denied drawn)
  | .setSourceSpacePolicy input => dropped (setSourceSpacePolicy input drawn)
  | .activatePolicy policyVersion => dropped (activatePolicy policyVersion)
  | .authenticatePasskey input =>
    dropped (authenticatePasskey services settings input drawn clock)
  | .authenticateOidc issuer subject verified clientId =>
    dropped (authenticateOidc services settings issuer subject verified clientId drawn clock)
  | .validateSession sessionId => dropped (validateSession services sessionId clock)
  | .createTask input => dropped (createTask services input drawn clock)
  | .createCapabilityGrant input =>
    dropped (createCapabilityGrant services settings input drawn clock)
  | .createOwnerTaskGrant input =>
    dropped (createOwnerTaskGrant services settings input drawn clock)
  | .delegateAgent input => dropped (delegateAgent services settings input drawn clock)
  | .revokeGrant grantId => dropped (revokeGrant grantId)
  | .revokeSession sessionId => dropped (revokeSession sessionId)
  | .revokeAgent agentId => dropped (revokeAgent services agentId clock)
  | .revokeCredential credentialId => dropped (revokeCredential credentialId)
  | .issueCredential input => dropped (issueCredential services settings input drawn clock)
  | .validateCredential token input => dropped (validateCredential services token input clock)
  | .validateTaskGrant input => dropped (validateTaskGrant services input clock)
  | .canReadSourceSpaceMetadata sessionId resource classification capability =>
    dropped (canReadSourceSpaceMetadata services sessionId resource classification capability
      clock)
  | .evaluate input => dropped (evaluate services input drawn clock)
  | .evaluateReadOnly input => dropped (evaluateReadOnly services input drawn clock)
  | .authorize input => dropped (authorize services input drawn clock)

/-! ## The system -/

/-- A policy object, the snapshots exported so far, and the states captured for a rollback. -/
structure RealmSystem where
  policy : RealmState
  exports : List RealmRecoverySnapshot := []
  captured : List RealmState := []

/-- What a call does: a method of the object, its snapshots, or a new object of the Realm. -/
inductive RealmOperation
  | method (operation : PolicyOperation)
  | getRecoverySnapshot
  | captureOperationalRollback
  | rollback (index : Nat)
  | restoreRecoverySnapshot (index : Nat)
  | restoreOperationalSnapshot (index : Nat)
  | reopen (name relyingPartyId policyVersion : Option String) (createdAt : String)
deriving DecidableEq

/-- The method of the policy object that is called, if one is. -/
def RealmOperation.method? : RealmOperation → Option PolicyOperation
  | method operation => some operation
  | _ => none

/-- A call, with the identifiers it draws and the times it reads. -/
structure RealmCall where
  operation : RealmOperation
  drawn : RealmDrawn
  clock : RealmClock

/-- A transaction on the policy object. -/
def RealmSystem.run (system : RealmSystem) {α : Type} (m : RealmM α) :
    Except RealmFailure Unit × RealmSystem :=
  let result := dropped m system.policy
  (result.1, { system with policy := result.2 })

def realmStep (call : RealmCall) (system : RealmSystem) :
    Except RealmFailure Unit × RealmSystem :=
  match call.operation with
  | .method operation => system.run (perform services settings operation call.drawn call.clock)
  | .getRecoverySnapshot =>
    (.ok (), { system with exports := system.exports ++ [getRecoverySnapshot system.policy] })
  | .captureOperationalRollback =>
    (.ok (), { system with captured := system.captured ++ [system.policy] })
  | .rollback index =>
    (.ok (), { system with policy := system.captured[index]?.getD system.policy })
  | .restoreRecoverySnapshot index => match system.exports[index]? with
    | none => (.ok (), system)
    | some snapshot => system.run (restoreRecoverySnapshot snapshot)
  | .restoreOperationalSnapshot index => match system.exports[index]? with
    | none => (.ok (), system)
    | some snapshot => system.run (restoreOperationalSnapshot snapshot)
  | .reopen name relyingPartyId policyVersion createdAt =>
    let options := { realmId := system.policy.realm.id, name, relyingPartyId, policyVersion }
    (.ok (), { system with policy := initialRealmState options createdAt })

/-- A new policy object. -/
def initialRealmSystem (options : RealmIdentityPolicyOptions) (createdAt : String) :
    RealmSystem where
  policy := initialRealmState options createdAt

/-- A run of calls from a new policy object. -/
abbrev RealmRun (ok : RealmSystem → RealmCall → Prop) (options : RealmIdentityPolicyOptions)
    (createdAt : String) :=
  Run (realmStep services settings) ok (initialRealmSystem options createdAt)

end

/-- All records a system holds: those of its object, its exports and its captured states. -/
def RealmSystem.Holds (system : RealmSystem) (records : RealmRecords) : Prop :=
  records = system.policy.toRealmRecords ∨ (∃ e ∈ system.exports, records = e.toRealmRecords) ∨
    ∃ c ∈ system.captured, records = c.toRealmRecords

/-- The identifier a call draws for a Grant is new. -/
def RealmCall.Fresh (system : RealmSystem) (call : RealmCall) : Prop :=
  ∀ records, system.Holds records → records.grants.get? (call.drawn.opaqueId "grant") = none

instance {system : RealmSystem} {call : RealmCall} : Decidable (call.Fresh system) :=
  decidable_of_iff (system.policy.grants.get? (call.drawn.opaqueId "grant") = none ∧
    (∀ e ∈ system.exports, e.grants.get? (call.drawn.opaqueId "grant") = none) ∧
    ∀ c ∈ system.captured, c.grants.get? (call.drawn.opaqueId "grant") = none) <| by
    constructor
    · rintro ⟨hpolicy, hexports, hcaptured⟩ r (rfl | ⟨e, he, rfl⟩ | ⟨c, hc, rfl⟩)
      · exact hpolicy
      · exact hexports e he
      · exact hcaptured c hc
    · intro h
      exact ⟨h _ (.inl rfl), fun e he => h _ (.inr (.inl ⟨e, he, rfl⟩)),
        fun c hc => h _ (.inr (.inr ⟨c, hc, rfl⟩))⟩

/-! ## What a method leaves -/

section

variable {services : RealmServices} {settings : RealmSettings}

/-- What a method asks of the Grant it creates, in the state it is called in. -/
def Asks (services : RealmServices) (s : RealmState) (operation : PolicyOperation)
    (clock : RealmClock) (asked : CreateTaskGrantInput) (now : Int) : Prop :=
  match operation with
  | .createCapabilityGrant input => asked = input ∧ now = clock [3]
  | .createOwnerTaskGrant _ => asked.parentGrantId = none
  | .delegateAgent input => DelegationAsks services s input asked
  | _ => False

theorem dropped_snd {α : Type} (m : RealmM α) (s : RealmState) : (dropped m s).2 = (m s).2 :=
  bind_leaves (Q := (· = (m s).2)) rfl id fun _ _ _ h => h

theorem lasting_dropped {α : Type} {m : RealmM α} (h : Keeps LastingState m) (s : RealmState) :
    LastingState s (dropped m s).2 := by
  rw [dropped_snd]
  exact h s

theorem quiet_dropped {α : Type} {m : RealmM α} (h : Keeps Quiet m) (s : RealmState) :
    LastingState s (dropped m s).2 :=
  lasting_dropped (h.mono Quiet.lasting) s

/-- **What a method leaves**: the Grants as they were but for their status, or one more. -/
theorem perform_leaves (operation : PolicyOperation) (drawn : RealmDrawn) (clock : RealmClock)
    (s : RealmState) :
    LastingState s (perform services settings operation drawn clock s).2 ∨
      ∃ mid asked now, Quiet s mid ∧ Asks services s operation clock asked now ∧
        GrantCreated services settings drawn asked now mid
          (perform services settings operation drawn clock s).2 := by
  cases operation with
  | registerClient => exact .inl (quiet_dropped quiet_registerClient s)
  | registerAgent => exact .inl (quiet_dropped quiet_registerAgent s)
  | createPrincipal => exact .inl (quiet_dropped quiet_createPrincipal s)
  | registerPasskey => exact .inl (quiet_dropped quiet_registerPasskey s)
  | registerOidcProvider => exact .inl (quiet_dropped quiet_registerOidcProvider s)
  | linkOidcIdentity => exact .inl (quiet_dropped quiet_linkOidcIdentity s)
  | addRelationship => exact .inl (quiet_dropped quiet_addRelationship s)
  | setSourceSpacePolicy => exact .inl (quiet_dropped quiet_setSourceSpacePolicy s)
  | activatePolicy => exact .inl (lasting_dropped lasting_activatePolicy s)
  | authenticatePasskey => exact .inl (quiet_dropped quiet_authenticatePasskey s)
  | authenticateOidc => exact .inl (quiet_dropped quiet_authenticateOidc s)
  | validateSession => exact .inl (quiet_dropped (examines_requireSession.mono Examined.quiet) s)
  | createTask => exact .inl (quiet_dropped quiet_createTask s)
  | createCapabilityGrant =>
    rw [perform, dropped_snd]
    exact (grants_createCapabilityGrant s).imp_left Quiet.lasting
  | createOwnerTaskGrant =>
    rw [perform, dropped_snd]
    exact (grants_createOwnerTaskGrant s).imp_left Quiet.lasting
  | delegateAgent =>
    rw [perform, dropped_snd]
    exact (grants_delegateAgent s).imp_left Quiet.lasting
  | revokeGrant => exact .inl (lasting_dropped lasting_revokeGrant s)
  | revokeSession => exact .inl (lasting_dropped lasting_revokeSession s)
  | revokeAgent => exact .inl (lasting_dropped lasting_revokeAgent s)
  | revokeCredential => exact .inl (quiet_dropped quiet_revokeCredential s)
  | issueCredential => exact .inl (quiet_dropped quiet_issueCredential s)
  | validateCredential => exact .inl (quiet_dropped quiet_validateCredential s)
  | validateTaskGrant => exact .inl (quiet_dropped quiet_validateTaskGrant s)
  | canReadSourceSpaceMetadata => exact .inl (quiet_dropped quiet_canReadSourceSpaceMetadata s)
  | evaluate => exact .inl (lasting_dropped lasting_evaluateDecision s)
  | evaluateReadOnly => exact .inl (lasting_dropped lasting_evaluateDecision s)
  | authorize => exact .inl (lasting_dropped lasting_authorize s)

end

/-! ## The ledger of a Realm -/

/-- A relation of Grants that their status has no part in. -/
def StatusBlind (R : RealmCapabilityGrant → RealmCapabilityGrant → Prop) : Prop :=
  ∀ {g g' p p'}, g'.authority = g.authority → p'.authority = p.authority → R g p → R g' p'

theorem statusBlind_of_authority {R : RealmCapabilityGrant → RealmCapabilityGrant → Prop}
    (h : ∀ g p, R g.authority p.authority ↔ R g p) : StatusBlind R := by
  intro g g' p p' hg hp hR
  rw [← h, hg, hp, h]
  exact hR

/-- What the records of a Realm have at all times: each Session and Grant is filed under its own
identifier, a Grant is of this Realm, and the parent of a derived Grant is kept. -/
structure Ledger (R : RealmCapabilityGrant → RealmCapabilityGrant → Prop) (realmId : String)
    (r : RealmRecords) : Prop where
  realm : r.realm.id = realmId
  sessions : SessionsSound r
  keyed : r.grants.SelfKeyed (·.id)
  ofRealm : ∀ k g, r.grants.get? k = some g → g.resource.realmId = realmId
  parents : ∀ k g id, r.grants.get? k = some g → parentGrant g = some id →
    ∃ p, r.grants.get? id = some p ∧ R g p

section

variable {services : RealmServices} {settings : RealmSettings}
  {R : RealmCapabilityGrant → RealmCapabilityGrant → Prop} {realmId : String}

/-- A Grant of the one is a Grant of the other, up to its status. -/
theorem Lasting.exists_grant {r r' : RealmRecords} (h : Lasting r r') {k : String}
    {g' : RealmCapabilityGrant} (hg' : r'.grants.get? k = some g') :
    ∃ g, r.grants.get? k = some g ∧ g'.authority = g.authority := by
  have hk := h.grants k
  rw [hg', Option.map_some, eq_comm, Option.map_eq_some_iff] at hk
  obtain ⟨g, hg, hauthority⟩ := hk
  exact ⟨g, hg, hauthority.symm⟩

theorem Lasting.exists_grant' {r r' : RealmRecords} (h : Lasting r r') {k : String}
    {g : RealmCapabilityGrant} (hg : r.grants.get? k = some g) :
    ∃ g', r'.grants.get? k = some g' ∧ g'.authority = g.authority := by
  have hk := h.grants k
  rwa [hg, Option.map_some, Option.map_eq_some_iff] at hk

theorem Ledger.lasting (hR : StatusBlind R) {r r' : RealmRecords} (h : Ledger R realmId r)
    (h' : Lasting r r') : Ledger R realmId r' where
  realm := h'.realmId.trans h.realm
  sessions := h'.sessions h.sessions
  keyed := by
    intro k g' hg'
    obtain ⟨g, hg, hauthority⟩ := h'.exists_grant hg'
    have hid : g'.authority.id = g.authority.id := by rw [hauthority]
    exact hid.trans (h.keyed k g hg)
  ofRealm := by
    intro k g' hg'
    obtain ⟨g, hg, hauthority⟩ := h'.exists_grant hg'
    have hresource : g'.authority.resource = g.authority.resource := by rw [hauthority]
    exact (congrArg ResourceRef.realmId hresource).trans (h.ofRealm k g hg)
  parents := by
    intro k g' id hg' hid
    obtain ⟨g, hg, hauthority⟩ := h'.exists_grant hg'
    have hparent : parentGrant g'.authority = parentGrant g.authority := by rw [hauthority]
    obtain ⟨p, hp, hRp⟩ := h.parents k g id hg (hparent.symm.trans hid)
    obtain ⟨p', hp', hauthority'⟩ := h'.exists_grant' hp
    exact ⟨p', hp', hR hauthority hauthority' hRp⟩

@[simp] theorem truthy_truthy {value : Option String} : truthy (truthy value) = truthy value := by
  refine Option.ext fun text => ?_
  simp only [truthy_eq_some]
  tauto

/-- A Grant that is created has its parent in the ledger, when the relation is established. -/
theorem Ledger.created {drawn : RealmDrawn} {asked : CreateTaskGrantInput} {now : Int}
    {s s' : RealmState} (h : Ledger R realmId s.toRealmRecords)
    (hcreated : GrantCreated services settings drawn asked now s s')
    (hfresh : s.grants.get? (drawn.opaqueId "grant") = none)
    (hlink : ∀ id parent, truthy asked.parentGrantId = some id → s.grants.get? id = some parent →
      widens services asked (s.agentOf (s.actors.get? asked.actorId)) parent = false →
      (∀ expiresAt ∈ asked.expiresAt, services.dateParse expiresAt ≠ none) →
      R (newGrant services settings s asked drawn now) parent) :
    Ledger R realmId s'.toRealmRecords := by
  -- a parent is never the new Grant, whose identifier nothing had
  have hkept : ∀ {k g}, s.grants.get? k = some g → s'.grants.get? k = some g := by
    intro k g hg
    rw [hcreated.written]
    refine (OrderedMap.get?_set_ne _ _ fun hk => ?_).trans hg
    rw [hk, hfresh] at hg
    cases hg
  have hcases : ∀ {k g}, s'.grants.get? k = some g →
      k = drawn.opaqueId "grant" ∧ g = newGrant services settings s asked drawn now ∨
        s.grants.get? k = some g := by
    intro k g hg
    rw [hcreated.written, OrderedMap.get?_set] at hg
    split at hg
    · rename_i hk
      exact .inl ⟨hk, (Option.some.inj hg).symm⟩
    · exact .inr hg
  refine ⟨?_, ?_, ?_, ?_, ?_⟩
  · rw [hcreated.written]
    exact h.realm
  · rw [hcreated.written]
    exact h.sessions
  · intro k g hg
    rcases hcases hg with ⟨rfl, rfl⟩ | hg
    · rfl
    · exact h.keyed k g hg
  · intro k g hg
    rcases hcases hg with ⟨rfl, rfl⟩ | hg
    · exact h.realm
    · exact h.ofRealm k g hg
  · intro k g id hg hid
    rcases hcases hg with ⟨rfl, rfl⟩ | hg
    · have hasked : truthy asked.parentGrantId = some id := truthy_truthy.symm.trans hid
      obtain ⟨parent, hparent, hwidens⟩ := hcreated.parent id hasked
      exact ⟨parent, hkept hparent, hlink id parent hasked hparent hwidens hcreated.expiry⟩
    · obtain ⟨p, hp, hRp⟩ := h.parents k g id hg hid
      exact ⟨p, hkept hp, hRp⟩

/-- A method derives Grants that have the relation to their parents. -/
def Establishes (services : RealmServices) (settings : RealmSettings)
    (R : RealmCapabilityGrant → RealmCapabilityGrant → Prop) (s : RealmState)
    (operation : PolicyOperation) (drawn : RealmDrawn) (clock : RealmClock) : Prop :=
  ∀ mid asked now id parent, Quiet s mid → Asks services s operation clock asked now →
    truthy asked.parentGrantId = some id → s.grants.get? id = some parent →
    widens services asked (mid.agentOf (mid.actors.get? asked.actorId)) parent = false →
    (∀ expiresAt ∈ asked.expiresAt, services.dateParse expiresAt ≠ none) →
    R (newGrant services settings mid asked drawn now) parent

/-- **A method keeps the ledger**, when what it derives has the relation. -/
theorem Ledger.perform (hR : StatusBlind R) {s : RealmState}
    (h : Ledger R realmId s.toRealmRecords) {operation : PolicyOperation} {drawn : RealmDrawn}
    {clock : RealmClock} (hfresh : s.grants.get? (drawn.opaqueId "grant") = none)
    (hlink : Establishes services settings R s operation drawn clock) :
    Ledger R realmId
      (perform services settings operation drawn clock s).2.toRealmRecords := by
  rcases @perform_leaves services settings operation drawn clock s with
    hlasting | ⟨mid, asked, now, hquiet, hasked, hcreated⟩
  · exact h.lasting hR hlasting
  · refine (h.lasting hR hquiet.lasting).created hcreated (hquiet.grants ▸ hfresh) ?_
    intro id parent hid hparent hwidens hexpiry
    rw [hquiet.grants] at hparent
    exact hlink mid asked now id parent hquiet hasked hid hparent hwidens hexpiry

/-- The records a snapshot leaves are those it was taken of, but for what a recovery closes. -/
theorem lasting_loadedSnapshot (snapshot : RealmRecoverySnapshot) (revokeAuthority : Bool)
    (s : RealmState) : Lasting snapshot.toRealmRecords
      (loadedSnapshot snapshot revokeAuthority s).toRealmRecords := by
  cases revokeAuthority with
  | true =>
    exact ⟨rfl, fun h => h.of_map (f := fun x => { x with status := .revoked }) rfl fun _ => rfl,
      map_authority_map fun _ => rfl⟩
  | false => exact ⟨rfl, id, fun _ => rfl⟩

/-- A restore leaves the state it found, or that of the snapshot. -/
theorem restoreRecoverySnapshot_leaves {P : RealmState → Prop} {snapshot : RealmRecoverySnapshot}
    {s : RealmState} (hs : P s) (hloaded : P (loadedSnapshot snapshot true s)) :
    P (restoreRecoverySnapshot snapshot s).2 := by
  refine bind_leaves (Q := (s = ·)) rfl (fun h => h ▸ hs) fun _ _ _ h => h ▸ ?_
  refine bind_leaves (Q := (s = ·)) rfl (fun h => h ▸ hs) fun _ _ _ h => h ▸ ?_
  refine bind_leaves (Q := (s = ·)) rfl (fun h => h ▸ hs) fun _ _ _ h => h ▸ ?_
  exact hloaded

theorem restoreOperationalSnapshot_leaves {P : RealmState → Prop}
    {snapshot : RealmRecoverySnapshot} {s : RealmState} (hs : P s)
    (hloaded : P (loadedSnapshot snapshot false s)) :
    P (restoreOperationalSnapshot snapshot s).2 := by
  refine bind_leaves (Q := (s = ·)) rfl (fun h => h ▸ hs) fun _ _ _ h => h ▸ ?_
  refine bind_leaves (Q := (s = ·)) rfl (fun h => h ▸ hs) fun _ _ _ h => h ▸ ?_
  refine bind_leaves (Q := (s = ·)) rfl (fun h => h ▸ hs) fun _ _ _ h => h ▸ ?_
  exact hloaded

theorem Ledger.initial (R : RealmCapabilityGrant → RealmCapabilityGrant → Prop)
    (options : RealmIdentityPolicyOptions) (createdAt : String) :
    Ledger R options.realmId (initialRealmState options createdAt).toRealmRecords where
  realm := rfl
  sessions := fun _ _ h => nomatch h
  keyed := OrderedMap.selfKeyed_empty _
  ofRealm := fun _ _ h => nomatch h
  parents := fun _ _ _ h => nomatch h

/-- Every record a system holds has the ledger. -/
def RealmSystem.Ledgers (R : RealmCapabilityGrant → RealmCapabilityGrant → Prop)
    (realmId : String) (system : RealmSystem) : Prop :=
  ∀ r, system.Holds r → Ledger R realmId r

/-- A call that changes the policy object alone. -/
theorem RealmSystem.Ledgers.of_policy {system : RealmSystem} (h : system.Ledgers R realmId)
    {policy : RealmState} (hpolicy : Ledger R realmId policy.toRealmRecords) :
    RealmSystem.Ledgers R realmId { system with policy } := by
  rintro r (rfl | hexported | hcaptured)
  · exact hpolicy
  · exact h r (.inr (.inl hexported))
  · exact h r (.inr (.inr hcaptured))

theorem RealmSystem.Ledgers.run {system : RealmSystem} (h : system.Ledgers R realmId) {α : Type}
    {m : RealmM α} (hm : Ledger R realmId (m system.policy).2.toRealmRecords) :
    (system.run m).2.Ledgers R realmId :=
  h.of_policy (by rwa [dropped_snd])

/-- **One call keeps the ledgers**, when it draws new identifiers and what it derives has the
relation. -/
theorem realmStep_ledgers (hR : StatusBlind R) {system : RealmSystem} {call : RealmCall}
    (h : system.Ledgers R realmId) (hfresh : call.Fresh system)
    (hlink : ∀ operation ∈ call.operation.method?,
      Establishes services settings R system.policy operation call.drawn call.clock) :
    (realmStep services settings call system).2.Ledgers R realmId := by
  obtain ⟨operation, drawn, clock⟩ := call
  have hpolicy := h _ (.inl rfl)
  cases operation with
  | method operation =>
    exact h.run (hpolicy.perform hR (hfresh _ (.inl rfl)) (hlink operation rfl))
  | getRecoverySnapshot =>
    rintro r (rfl | ⟨e, he, rfl⟩ | hcaptured)
    · exact hpolicy
    · rcases List.mem_append.mp he with he | he
      · exact h _ (.inr (.inl ⟨e, he, rfl⟩))
      · cases List.mem_singleton.mp he
        exact hpolicy
    · exact h r (.inr (.inr hcaptured))
  | captureOperationalRollback =>
    rintro r (rfl | hexported | ⟨c, hc, rfl⟩)
    · exact hpolicy
    · exact h r (.inr (.inl hexported))
    · rcases List.mem_append.mp hc with hc | hc
      · exact h _ (.inr (.inr ⟨c, hc, rfl⟩))
      · cases List.mem_singleton.mp hc
        exact hpolicy
  | rollback index =>
    refine h.of_policy ?_
    cases hindex : system.captured[index]? with
    | none => exact hpolicy
    | some c => exact h _ (.inr (.inr ⟨c, List.mem_of_getElem? hindex, rfl⟩))
  | restoreRecoverySnapshot index =>
    cases hindex : system.exports[index]? with
    | none => simpa only [realmStep, hindex] using h
    | some snapshot =>
      have hsnapshot := h _ (.inr (.inl ⟨snapshot, List.mem_of_getElem? hindex, rfl⟩))
      simp only [realmStep, hindex]
      exact h.run (restoreRecoverySnapshot_leaves (P := (Ledger R realmId ·.toRealmRecords)) hpolicy
        (hsnapshot.lasting hR (lasting_loadedSnapshot ..)))
  | restoreOperationalSnapshot index =>
    cases hindex : system.exports[index]? with
    | none => simpa only [realmStep, hindex] using h
    | some snapshot =>
      have hsnapshot := h _ (.inr (.inl ⟨snapshot, List.mem_of_getElem? hindex, rfl⟩))
      simp only [realmStep, hindex]
      exact h.run (restoreOperationalSnapshot_leaves (P := (Ledger R realmId ·.toRealmRecords))
        hpolicy (hsnapshot.lasting hR (lasting_loadedSnapshot ..)))
  | reopen name relyingPartyId policyVersion createdAt =>
    refine h.of_policy ?_
    rw [hpolicy.realm]
    exact Ledger.initial R { realmId, name, relyingPartyId, policyVersion } createdAt

/-- **The ledgers of a run**: new identifiers, and derivations that have the relation. -/
theorem RealmRun.ledgers (hR : StatusBlind R) {ok : RealmSystem → RealmCall → Prop}
    (hok : ∀ system call, ok system call → call.Fresh system ∧
      ∀ operation ∈ call.operation.method?,
        Ledger R realmId system.policy.toRealmRecords →
        Establishes services settings R system.policy operation call.drawn call.clock)
    {options : RealmIdentityPolicyOptions} (hrealm : options.realmId = realmId)
    {createdAt : String} {tr system}
    (h : RealmRun services settings ok options createdAt tr system) :
    system.Ledgers R realmId := by
  refine h.invariant (RealmSystem.Ledgers R realmId) ?_ fun system call hI hcall => ?_
  · rintro r (rfl | ⟨e, he, -⟩ | ⟨c, hc, -⟩)
    · exact hrealm ▸ Ledger.initial R options createdAt
    · cases he
    · cases hc
  · obtain ⟨hfresh, hlink⟩ := hok system call hcall
    exact realmStep_ledgers hR hI hfresh fun operation hoperation =>
      hlink operation hoperation (hI _ (.inl rfl))

end

/-! ## A concrete Realm -/

namespace Sample

/-- The dates of the times from which the Realm below counts its lifetimes. -/
def services : RealmServices where
  dateParse text :=
    if text = "1970-01-01T00:00:00.000Z" then some 0
    else if text = "1970-01-01T00:15:00.000Z" then some 900000
    else if text = "1970-01-01T08:00:00.000Z" then some 28800000
    else none
  toISOString time :=
    if time = 900000 then "1970-01-01T00:15:00.000Z"
    else if time = 28800000 then "1970-01-01T08:00:00.000Z"
    else "1970-01-01T00:00:00.000Z"
  tokenDigest := id

/-- `REALM_POLICY_DEFAULTS`. -/
def settings : RealmSettings where
  sessionLifetimeMs := 28800000
  credentialLifetimeMs := 900000

def options : RealmIdentityPolicyOptions where
  realmId := "realm:1"

def initial : RealmSystem := initialRealmSystem options "1970-01-01T00:00:00.000Z"

/-- A method that is called at the start of the epoch and draws one number for its identifiers. -/
def call (uuid : String) (operation : PolicyOperation) : RealmCall where
  operation := .method operation
  drawn := { uuid := fun _ => uuid, token := uuid }
  clock := fun _ => 0

def project (projectId : String) : ResourceRef where
  realmId := "realm:1"
  projectId := some projectId

/-- The human Session and its Task. -/
def session : List RealmCall := [
  call "1" (.createPrincipal (some "principal:1") "Owner"),
  call "2" (.registerPasskey "principal:1" "passkey:1" none none),
  call "3" (.authenticatePasskey { credentialId := "passkey:1", challenge := "challenge", verified := true }),
  call "4" (.createTask { principalId := "principal:1", actorId := "actor:3", sessionId := "session:3", purpose := "read" }),
  call "5" (.addRelationship "principal:1" .organizationMember "organization:1" .owner none none)]

/-- A Grant of the Task, for reading in a project. -/
def grantOf (projectId : String) (parentGrantId : Option String) : PolicyOperation :=
  .createCapabilityGrant {
    principalId := "principal:1"
    actorId := "actor:3"
    clientId := "client:anyam-web"
    sessionId := "session:3"
    taskId := "task:4"
    resource := project projectId
    sourceSpaceIds := []
    actions := [.projectInspect]
    parentGrantId }

/-- The system after some calls. -/
def after (calls : List RealmCall) : RealmSystem := (exec (realmStep services settings) initial calls).2

/-- A Grant, and one that is derived from it. -/
def chained : RealmState :=
  (after (session ++ [call "6" (grantOf "project:1" none),
    call "7" (grantOf "project:1" (some "grant:6"))])).policy

/-- `revokeGrant_ends`, of the derived Grant. -/
theorem revokeGrant_ends_sample :
    (∃ grant ∈ chained.grants.values, grant.id = "grant:7" ∧ grant.status = .active) ∧
      ∀ grant ∈ (revokeGrant "grant:6" chained).2.grants.values,
        grant.id = "grant:7" → grant.status ≠ .active := by
  obtain ⟨grant, hgrant, hid, hactive, hparent⟩ : ∃ grant ∈ chained.grants.values,
      grant.id = "grant:7" ∧ grant.status = .active ∧ activeParent grant = some "grant:6" := by
    decide +kernel
  refine ⟨⟨grant, hgrant, hid, hactive⟩, ?_⟩
  have hreached : Reached (·.id) activeParent chained.grants.values "grant:6" grant.id :=
    .child hgrant hparent .self
  rw [hid] at hreached
  have hrevoked : (revokeGrant "grant:6" chained).1 = .ok [] := by decide +kernel
  exact (revokeGrant_ends (Prod.ext hrevoked rfl) hreached).1

end Sample

end Anyam.Identity
