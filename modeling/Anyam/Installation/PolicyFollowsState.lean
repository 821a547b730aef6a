import Anyam.Identity.RealmEffects
import Anyam.Installation.RecoveryRoundTrip

/-!
# The policy in memory and the state that was stored

The Realm policy of an installation is an object next to its state, and three calls write to it
before they write the state: a provisioning and a restoration put a new policy in its place, and an
enrollment adds to the one that is there. The state takes its snapshot from the policy, so that
what a call that threw left in the policy is stored by the next one.

- `policyAuthority`, `storedAuthority`: who a policy lets in, and who the stored snapshot does.
- `Settled`: the condition under which a call leaves the two alike.
- **`policy_follows`**: in every run of settled calls the policy in memory and the stored snapshot
  have the same authority, and the state is the last one that was stored.
- `enrollment_left`: an enrollment that could not be stored leaves its Principal in the policy, and
  the next one stores it.
-/

namespace Anyam.Installation

open Anyam.Lib Anyam.Kernel Anyam.Identity Anyam.Portability InstallationM

/-! ## Authority -/

/-- Who a Realm lets in, and its epoch. -/
structure Authority where
  principals : OrderedMap String Principal
  passkeys : OrderedMap String PasskeyCredential
  oidcIdentities : OrderedMap String OidcIdentity
  relationships : OrderedMap String Relationship
  authorizationEpoch : Nat

def authorityOf (records : RealmRecords) : Authority where
  principals := records.principals
  passkeys := records.passkeys
  oidcIdentities := records.oidcIdentities
  relationships := records.relationships
  authorizationEpoch := records.realm.authorizationEpoch

/-- The authority of a Realm before anybody is enrolled. -/
def noAuthority : Authority where
  principals := .empty
  passkeys := .empty
  oidcIdentities := .empty
  relationships := .empty
  authorizationEpoch := 1

/-- The authority of the policy in memory; where there is none, that of a new Realm. -/
def CustomerRealmInstallation.policyAuthority (installation : CustomerRealmInstallation) :
    Authority :=
  (installation.identity.map fun identity => authorityOf identity.toRealmRecords).getD noAuthority

/-- The authority of the snapshot in a state; where there is none, that of a new Realm. -/
def CustomerRealmInstallationState.storedAuthority (s : CustomerRealmInstallationState) :
    Authority :=
  (s.realmSnapshot.map fun snapshot => authorityOf snapshot.toRealmRecords).getD noAuthority

/-! ## Opening an installation again -/

/-- `CustomerRealmInstallation.open`: a new object on the state that was stored, or on a first state
if none was. -/
def openInstallation (host : InstallationHost) (now : String)
    (s : CustomerRealmInstallationState) :
    Except InstallationFailure CustomerRealmInstallation :=
  if s.revision = 0 then .ok (newInstallation host s.installationId now)
  else
    match s.realmSnapshot, truthy s.realmId with
    | some snapshot, some realmId =>
      match restoreOperationalSnapshot snapshot (initialRealmState { realmId } now) with
      | (.ok _, identity) => .ok { state := s, identity := some identity }
      | (.error error, _) => .error (.realm error)
    | _, _ => .ok { state := s, identity := none }

inductive InstallationEvent
  | call (op : InstallationOp)
  | opened (now : String)

/-- A call, or a new object in the place of the one there was. -/
def eventStep (host : InstallationHost) :
    InstallationEvent → CustomerRealmInstallation →
      Except InstallationFailure Unit × CustomerRealmInstallation
  | .call op, installation => installationStep host op installation
  | .opened now, installation =>
    match openInstallation host now installation.state with
    | .ok again => (.ok (), again)
    | .error error => (.error error, installation)

/-! ## When a call leaves the two alike -/

/-- The Principal that an enrollment creates. -/
def EnrollInput.createdId (input : EnrollInput) (world : InstallationWorld) : String :=
  (truthy input.principalId).getD (world.drawn.opaqueId "principal")

/-- An enrollment gets as far as the policy. -/
structure ReachesPolicy (installation : CustomerRealmInstallation) (input : EnrollInput) : Prop where
  phase : installation.state.phase = .realmReady
  displayName : trim input.displayName ≠ ""
  verified : trim input.authentication.verificationReceipt ≠ ""
  recovery : trim input.recovery.enrollmentReceipt ≠ ""
  realm : (truthy installation.state.realmId).isSome

/-- A policy can register what an owner was authenticated with. -/
def Registrable (identity : RealmState) : OwnerAuthentication → Prop
  | .passkey credentialId _ => trim credentialId ≠ "" ∧ identity.passkeys.get? credentialId = none
  | .oidc issuer subject clientId _ =>
    (trim issuer ≠ "" ∧ trim subject ≠ "" ∧ trim clientId ≠ "") ∧
      (identity.oidcProvider issuer = none →
        ∀ provider ∈ identity.oidcProviders.values, provider.issuer ≠ issuer) ∧
      identity.oidcIdentities.get? s!"{issuer}|{subject}" = none

/-- The authority of a bundle that was restored. -/
def CustomerRealmRecoveryBundle.restoredAuthority (bundle : CustomerRealmRecoveryBundle) :
    Authority :=
  { authorityOf bundle.realmSnapshot.toRealmRecords with
    authorizationEpoch := max 1 bundle.realmSnapshot.realm.authorizationEpoch + 1 }

/-- Nobody is let in yet, or a provisioning can be stored. -/
def ProvisionSettled (installation : CustomerRealmInstallation) (world : InstallationWorld) : Prop :=
  installation.state.storedAuthority = noAuthority ∨ world.saved "realm.provisioned" = true

/-- **When a call leaves the policy in memory and the stored snapshot alike.** -/
def Settled (host : InstallationHost) (installation : CustomerRealmInstallation)
    (world : InstallationWorld) : InstallationCall → Prop
  | .install _ => installation.state.phase = .new → ProvisionSettled installation world
  | .recover => ∀ degraded ∈ installation.state.degraded,
    degraded.operation = .accountInspect ∨ degraded.operation = .realmProvision →
      ProvisionSettled installation world
  | .enrollVerifiedOwner input => ReachesPolicy installation input →
    ∀ identity ∈ installation.identity,
      (identity.principals.get? (input.createdId world)).isSome ∨
        Registrable identity input.authentication ∧ world.saved "realm.owner.enrolled" = true
  | .restoreRecovery bundle => installation.state.phase = .new →
    host.bundleErrors bundle = [] → bundle.installationId = installation.state.installationId →
      installation.state.storedAuthority = bundle.restoredAuthority ∨
        world.saved "recovery.verified" = true
  | .createProject _ _ | .importProject _ | .recordDeploymentReadiness _ | .exportRecovery _
  | .activateRecovery _ => True

def EventSettled (host : InstallationHost) (installation : CustomerRealmInstallation) :
    InstallationEvent → Prop
  | .call op => Settled host installation op.world op.call
  | .opened _ => True

/-- A state is written by a transition that the store takes. -/
def Writes (host : InstallationHost) (world : InstallationWorld)
    (s s' : CustomerRealmInstallationState) : Prop :=
  ∃ (installation : CustomerRealmInstallation) (phase : CustomerRealmInstallationPhase)
    (eventType : String) (event : EventRefs) (partialEffects : List String) (patch : StatePatch),
    installation.state = s ∧ world.saved eventType = true ∧
      s' = nextState host world installation phase eventType event partialEffects patch

/-- The state is the last one of those that the store took, or the one there was. -/
abbrev LastStored (host : InstallationHost) (world : InstallationWorld) :
    CustomerRealmInstallationState → CustomerRealmInstallationState → Prop :=
  Relation.ReflTransGen (Writes host world)

/-! ## What every call keeps -/

/-- What opens again as it was: the snapshot in a state is of its Realm. -/
structure Filed (s : CustomerRealmInstallationState) : Prop where
  named : s.realmId ≠ some ""
  snapshot : ∀ snapshot ∈ s.realmSnapshot,
    s.realmId = some snapshot.realm.id ∧ snapshot.credentialFree = true

/-- The invariant: the policy and the stored snapshot have the same authority. -/
structure Follows (installation : CustomerRealmInstallation) : Prop where
  alike : installation.policyAuthority = installation.state.storedAuthority
  named : ∀ identity ∈ installation.identity, identity.realm.id ≠ ""
  filed : Filed installation.state

section

variable (host : InstallationHost) (world : InstallationWorld) (s₀ : CustomerRealmInstallationState)

/-- What holds where a call ends. -/
structure Followed (installation : CustomerRealmInstallation) : Prop extends
    Follows installation where
  written : LastStored host world s₀ installation.state

/-- What holds between the transitions of a call that leaves the policy. -/
structure FollowedAt (a : Authority) (installation : CustomerRealmInstallation) : Prop extends
    Followed host world s₀ installation where
  stored : installation.state.storedAuthority = a

end

section

variable {host : InstallationHost} {world : InstallationWorld}
  {s₀ : CustomerRealmInstallationState} {a : Authority} {installation : CustomerRealmInstallation}
  {phase : CustomerRealmInstallationPhase} {eventType : String} {event : EventRefs}
  {partialEffects : List String} {patch : StatePatch}

/-- A transition stores the authority of the policy, whatever was stored before. -/
theorem moved_policy {identity : RealmState} (hidentity : installation.identity = some identity)
    (hnamed : identity.realm.id ≠ "") :
    Follows (moved host world installation phase eventType event partialEffects patch) := by
  have hsnapshot : (moved host world installation phase eventType event partialEffects
      patch).state.realmSnapshot = some (getRecoverySnapshot identity) := by
    show (installation.identity.map getRecoverySnapshot).or _ = _
    rw [hidentity]
    rfl
  have hrealm : (moved host world installation phase eventType event partialEffects
      patch).state.realmId = some identity.realm.id := by
    show (installation.identity.map (·.realm.id)).or _ = _
    rw [hidentity]
    rfl
  refine ⟨?_, fun other hother => ?_, ?_, fun snapshot hmem => ?_⟩
  · show installation.policyAuthority = _
    rw [CustomerRealmInstallation.policyAuthority, hidentity,
      CustomerRealmInstallationState.storedAuthority, hsnapshot]
    rfl
  · cases hidentity.symm.trans hother
    exact hnamed
  · rw [hrealm]
    exact fun h => hnamed (Option.some.inj h)
  · cases hsnapshot.symm.trans hmem
    exact ⟨hrealm, rfl⟩

/-- A transition of an installation without a policy keeps what was stored. -/
theorem moved_unprovisioned (h : Follows installation) (hidentity : installation.identity = none)
    (hsnapshot : (patch installation.state).realmSnapshot = installation.state.realmSnapshot)
    (hrealm : (patch installation.state).realmId = installation.state.realmId) :
    Follows (moved host world installation phase eventType event partialEffects patch) := by
  have hsnapshot' : (moved host world installation phase eventType event partialEffects
      patch).state.realmSnapshot = installation.state.realmSnapshot := by
    show (installation.identity.map getRecoverySnapshot).or _ = _
    rw [hidentity]
    exact hsnapshot
  have hrealm' : (moved host world installation phase eventType event partialEffects
      patch).state.realmId = installation.state.realmId := by
    show (installation.identity.map (·.realm.id)).or _ = _
    rw [hidentity]
    exact hrealm
  refine ⟨?_, h.named, ?_, fun snapshot hmem => ?_⟩
  · show installation.policyAuthority = _
    rw [h.alike, CustomerRealmInstallationState.storedAuthority,
      CustomerRealmInstallationState.storedAuthority, hsnapshot']
  · rw [hrealm']
    exact h.filed.named
  · rw [hsnapshot'] at hmem
    rw [hrealm']
    exact h.filed.snapshot snapshot hmem

theorem moved_follows (h : Follows installation)
    (hpatch : (patch installation.state).realmSnapshot = installation.state.realmSnapshot ∧
      (patch installation.state).realmId = installation.state.realmId) :
    Follows (moved host world installation phase eventType event partialEffects patch) := by
  cases hidentity : installation.identity with
  | none => exact moved_unprovisioned h hidentity hpatch.1 hpatch.2
  | some identity => exact moved_policy hidentity (h.named identity hidentity)

/-- What a transition that the store takes writes. -/
theorem moved_written (h : LastStored host world s₀ installation.state)
    (hsaved : world.saved eventType = true) :
    LastStored host world s₀
      (moved host world installation phase eventType event partialEffects patch).state :=
  h.tail ⟨installation, phase, eventType, event, partialEffects, patch, rfl, hsaved, rfl⟩

theorem FollowedAt.moved (h : FollowedAt host world s₀ a installation)
    (hsaved : world.saved eventType = true)
    (hpatch : (patch installation.state).realmSnapshot = installation.state.realmSnapshot ∧
      (patch installation.state).realmId = installation.state.realmId) :
    FollowedAt host world s₀ a
      (moved host world installation phase eventType event partialEffects patch) := by
  have hfollows : Follows (Installation.moved host world installation phase eventType event
    partialEffects patch) := moved_follows h.toFollows hpatch
  refine ⟨⟨hfollows, moved_written h.written hsaved⟩, ?_⟩
  rw [← hfollows.alike]
  exact h.alike.trans h.stored

/-- A transition, and what is done after it. -/
theorem transition_followed {α : Type} {f : Unit → InstallationM α}
    (h : FollowedAt host world s₀ a installation)
    (hpatch : (patch installation.state).realmSnapshot = installation.state.realmSnapshot ∧
      (patch installation.state).realmId = installation.state.realmId)
    (hf : FollowedAt host world s₀ a
        (moved host world installation phase eventType event partialEffects patch) →
      Followed host world s₀ (f () (moved host world installation phase eventType event
        partialEffects patch)).2) :
    Followed host world s₀ ((transition host world phase eventType event partialEffects patch >>= f)
      installation).2 := by
  by_cases hsaved : world.saved eventType = true
  · rw [Transact.bind_of_ok (transition_saved hsaved)]
    exact hf (h.moved hsaved hpatch)
  · rw [Transact.bind_of_error (transition_failed hsaved)]
    exact h.toFollowed

/-- A last transition. -/
theorem transition_ends (h : FollowedAt host world s₀ a installation)
    (hpatch : (patch installation.state).realmSnapshot = installation.state.realmSnapshot ∧
      (patch installation.state).realmId = installation.state.realmId) :
    Followed host world s₀
      (transition host world phase eventType event partialEffects patch installation).2 := by
  by_cases hsaved : world.saved eventType = true
  · rw [transition_saved hsaved]
    exact (h.moved hsaved hpatch).toFollowed
  · rw [transition_failed hsaved]
    exact h.toFollowed

/-! ## How a call ends -/

theorem recordProviderFailure_followed {operation : CustomerRealmOperation}
    {result : CustomerRealmProviderFailure} (h : FollowedAt host world s₀ a installation) :
    Followed host world s₀
      (recordProviderFailure host world operation result installation).2 := by
  rw [recordProviderFailure, state_bind]
  exact transition_ends h ⟨rfl, rfl⟩

/-- The Realm of an installation has a name. -/
theorem realmName_ne_empty (h : Filed installation.state) :
    installation.state.realmId.getD s!"realm:{installation.state.installationId}" ≠ "" := by
  cases hrealm : installation.state.realmId with
  | none =>
    intro hempty
    rw [Option.getD_none, String.append_eq_empty_iff] at hempty
    exact absurd hempty.1 (by decide)
  | some realmId =>
    rintro rfl
    exact h.named hrealm

theorem finishProvisioning_followed {accountId operationId : String}
    {requestedResourceTypes : List String} {receipt : CustomerRealmProvisionReceipt}
    (h : FollowedAt host world s₀ a installation)
    (hsettled : a = noAuthority ∨ world.saved "realm.provisioned" = true) :
    Followed host world s₀ (finishProvisioning host world accountId requestedResourceTypes receipt
      operationId installation).2 := by
  rw [finishProvisioning, state_bind]
  by_cases hreceipt : provisionVerified accountId requestedResourceTypes receipt
  · rw [if_pos hreceipt]
    dsimp only
    rw [Transact.update_bind]
    by_cases hsaved : world.saved "realm.provisioned" = true
    · rw [transition_saved hsaved]
      exact ⟨moved_policy rfl (realmName_ne_empty h.filed), moved_written h.written hsaved⟩
    · rw [transition_failed hsaved]
      -- the new policy lets nobody in, and nobody is let in by what was stored
      refine ⟨⟨?_, ?_, h.filed⟩, h.written⟩
      · exact (h.stored.trans (hsettled.resolve_right hsaved)).symm
      · rintro _ ⟨⟩
        exact realmName_ne_empty h.filed
  · rw [if_neg hreceipt]
    exact recordProviderFailure_followed h

theorem finishProvision_followed {accountId : String} {operationId : String → String}
    {requestedResourceTypes : List String}
    {provision : CustomerRealmProviderResult CustomerRealmProvisionReceipt}
    (h : FollowedAt host world s₀ a installation)
    (hsettled : a = noAuthority ∨ world.saved "realm.provisioned" = true) :
    Followed host world s₀ (finishProvision host world accountId requestedResourceTypes operationId
      provision installation).2 := by
  cases provision with
  | failed failure => exact recordProviderFailure_followed h
  | succeeded providerOperationId receipt _ => exact finishProvisioning_followed h hsettled

theorem finishImportAnswer_followed
    {result : CustomerRealmProviderResult CustomerRealmImportReceipt}
    (h : FollowedAt host world s₀ a installation) :
    Followed host world s₀ (finishImportAnswer host world result installation).2 := by
  cases result with
  | failed failure => exact recordProviderFailure_followed h
  | succeeded operationId receipt _ =>
    refine requireProject_bind h.toFollowed fun project _ => ?_
    by_cases hreceipt : importVerified project receipt
    · rw [if_pos hreceipt]
      refine requireImport_bind h.toFollowed fun importRecord => ?_
      rw [state_bind]
      exact transition_ends h ⟨rfl, rfl⟩
    · rw [if_neg hreceipt]
      exact recordProviderFailure_followed h

/-! ## Installing and recovering -/

theorem provisionAccount_followed {input : InstallInput}
    {operationId inspectionOperationId : String} {plannedResources : CustomerRealmResources}
    {inspection : CustomerRealmAccountInspection} (h : FollowedAt host world s₀ a installation)
    (hsettled : a = noAuthority ∨ world.saved "realm.provisioned" = true) :
    Followed host world s₀ (provisionAccount host world input operationId plannedResources
      inspectionOperationId inspection installation).2 := by
  rw [provisionAccount, state_bind]
  refine transition_followed h ⟨rfl, rfl⟩ fun h₁ => ?_
  refine transition_followed h₁ ⟨rfl, rfl⟩ fun h₂ => ?_
  rw [state_bind]
  refine Transact.bind_orThrow h₂.toFollowed fun command _ => ?_
  refine Transact.bind_orThrow h₂.toFollowed fun provision _ => ?_
  exact finishProvision_followed h₂ hsettled

theorem install_followed {input : InstallInput} (h : FollowedAt host world s₀ a installation)
    (hsettled : installation.state.phase = .new →
      a = noAuthority ∨ world.saved "realm.provisioned" = true) :
    Followed host world s₀ (install host world input installation).2 := by
  refine requirePhase_bind h.toFollowed fun hphase => ?_
  have hsettled := hsettled (List.mem_singleton.mp hphase)
  refine Transact.bind_require h.toFollowed fun _ => ?_
  refine Transact.bind_require h.toFollowed fun _ => ?_
  refine transition_followed h ⟨rfl, rfl⟩ fun h₁ => ?_
  refine Transact.bind_orThrow h₁.toFollowed fun inspection _ => ?_
  cases inspection with
  | failed failure => exact recordProviderFailure_followed h₁
  | succeeded inspectionOperationId inspection _ =>
    by_cases haccount : accountVerified input.accountId inspection
    · simp only [if_pos haccount]
      exact provisionAccount_followed h₁ hsettled
    · simp only [if_neg haccount]
      exact recordProviderFailure_followed h₁

theorem resumeProvisioning_followed {degraded : CustomerRealmDegradedState} {accountId : String}
    (h : FollowedAt host world s₀ a installation)
    (hsettled : a = noAuthority ∨ world.saved "realm.provisioned" = true) :
    Followed host world s₀ (resumeProvisioning host world degraded accountId installation).2 := by
  rw [resumeProvisioning, state_bind]
  refine Transact.bind_orThrow h.toFollowed fun found _ => ?_
  obtain ⟨resources, command⟩ := found
  refine transition_followed h ⟨rfl, rfl⟩ fun h₁ => ?_
  rw [state_bind]
  refine Transact.bind_orThrow h₁.toFollowed fun provision _ => ?_
  exact finishProvision_followed h₁ hsettled

theorem recoverAccount_followed {degraded : CustomerRealmDegradedState}
    (h : FollowedAt host world s₀ a installation)
    (hsettled : a = noAuthority ∨ world.saved "realm.provisioned" = true) :
    Followed host world s₀ (recoverAccount host world degraded installation).2 := by
  rw [recoverAccount, state_bind]
  refine Transact.bind_orThrow h.toFollowed fun found _ => ?_
  obtain ⟨accountId, command⟩ := found
  refine Transact.bind_orThrow h.toFollowed fun inspection _ => ?_
  cases inspection with
  | failed failure => exact recordProviderFailure_followed h
  | succeeded inspectionOperationId inspection _ =>
    by_cases haccount : accountVerified accountId inspection
    · simp only [if_pos haccount]
      rw [state_bind]
      refine transition_followed h ⟨rfl, rfl⟩ fun h₁ => ?_
      exact resumeProvisioning_followed h₁ hsettled
    · simp only [if_neg haccount]
      exact recordProviderFailure_followed h

theorem recoverProvisioning_followed (h : FollowedAt host world s₀ a installation)
    (hsettled : a = noAuthority ∨ world.saved "realm.provisioned" = true) :
    Followed host world s₀ (recoverProvisioning host world installation).2 := by
  refine requireAccount_bind h.toFollowed fun account _ => ?_
  rw [state_bind]
  refine Transact.bind_orThrow h.toFollowed fun found _ => ?_
  obtain ⟨resources, command⟩ := found
  refine Transact.bind_orThrow h.toFollowed fun inspected _ => ?_
  exact finishProvision_followed h hsettled

theorem recoverImport_followed {degraded : CustomerRealmDegradedState}
    (h : FollowedAt host world s₀ a installation) :
    Followed host world s₀ (recoverImport host world degraded installation).2 := by
  rw [recoverImport, state_bind]
  refine Transact.bind_orThrow h.toFollowed fun importRecord _ => ?_
  refine transition_followed h ⟨rfl, rfl⟩ fun h₁ => ?_
  rw [state_bind]
  refine requireProject_bind h₁.toFollowed fun project _ => ?_
  refine requireImport_bind h₁.toFollowed fun importRecord => ?_
  refine Transact.bind_orThrow h₁.toFollowed fun result _ => ?_
  exact finishImportAnswer_followed h₁

theorem recover_followed (h : FollowedAt host world s₀ a installation)
    (hsettled : ∀ degraded ∈ installation.state.degraded,
      degraded.operation = .accountInspect ∨ degraded.operation = .realmProvision →
        a = noAuthority ∨ world.saved "realm.provisioned" = true) :
    Followed host world s₀ (recover host world installation).2 := by
  refine requirePhase_bind h.toFollowed fun _ => ?_
  rw [state_bind]
  refine Transact.bind_orThrow h.toFollowed fun degraded hdegraded => ?_
  have hsettled := hsettled degraded hdegraded
  refine Transact.bind_require h.toFollowed fun _ => ?_
  cases hoperation : degraded.operation with
  | accountInspect => exact recoverAccount_followed h (hsettled (.inl hoperation))
  | realmProvision => exact recoverProvisioning_followed h (hsettled (.inr hoperation))
  | projectImport => exact recoverImport_followed h
  | realmRecover | deploymentReadiness => exact h.toFollowed

theorem createProject_followed {project : Project} {sourceSpaceIds : List String}
    (h : FollowedAt host world s₀ a installation) :
    Followed host world s₀ (createProject host world project sourceSpaceIds installation).2 := by
  refine requirePhase_bind h.toFollowed fun _ => ?_
  rw [state_bind]
  refine Transact.bind_require h.toFollowed fun _ => ?_
  refine Transact.bind_require h.toFollowed fun _ => ?_
  exact transition_ends h ⟨rfl, rfl⟩

theorem importProject_followed {input : ImportInput}
    (h : FollowedAt host world s₀ a installation) :
    Followed host world s₀ (importProject host world input installation).2 := by
  refine requirePhase_bind h.toFollowed fun _ => ?_
  refine Transact.bind_require h.toFollowed fun _ => ?_
  rw [state_bind]
  refine Transact.bind_require h.toFollowed fun _ => ?_
  refine requireProject_bind h.toFollowed fun project _ => ?_
  refine transition_followed h ⟨rfl, rfl⟩ fun h₁ => ?_
  rw [state_bind]
  refine requireProject_bind h₁.toFollowed fun project _ => ?_
  refine Transact.bind_orThrow h₁.toFollowed fun result _ => ?_
  exact finishImportAnswer_followed h₁

theorem recordDeploymentReadiness_followed {input : ReadinessInput}
    (h : FollowedAt host world s₀ a installation) :
    Followed host world s₀ (recordDeploymentReadiness host world input installation).2 := by
  refine requirePhase_bind h.toFollowed fun _ => ?_
  refine Transact.bind_require h.toFollowed fun _ => ?_
  rw [state_bind]
  by_cases hinput : input.status = .ready
  · simp only [if_pos hinput]
    exact transition_ends h ⟨rfl, rfl⟩
  · simp only [if_neg hinput]
    exact transition_ends h ⟨rfl, rfl⟩

theorem exportRecovery_followed {projectExport : Option ProjectExport}
    (h : FollowedAt host world s₀ a installation) :
    Followed host world s₀ (exportRecovery host world projectExport installation).2 := by
  rw [exportRecovery, self_bind]
  refine Transact.bind_orThrow h.toFollowed fun found _ => ?_
  refine Transact.bind_reads keeps_requireProjectExport h.toFollowed fun _ _ => ?_
  refine transition_followed h ⟨rfl, rfl⟩ fun h₁ => ?_
  rw [state_bind]
  exact Transact.bind_require h₁.toFollowed fun _ => h₁.toFollowed

/-- An activation stores the policy that it found. -/
theorem activateRecovery_followed {input : ActivateInput}
    (h : FollowedAt host world s₀ a installation) :
    Followed host world s₀ (activateRecovery host world input installation).2 := by
  refine requirePhase_bind h.toFollowed fun _ => ?_
  rw [self_bind]
  refine Transact.bind_require h.toFollowed fun _ => ?_
  refine requireAccount_bind h.toFollowed fun account _ => ?_
  refine Transact.bind_orThrow h.toFollowed fun resources _ => ?_
  refine Transact.bind_orThrow h.toFollowed fun inspected _ => ?_
  cases inspected with
  | failed failure => exact recordProviderFailure_followed h
  | succeeded _ receipt _ =>
    refine Transact.bind_orThrow h.toFollowed fun identity hidentity => ?_
    by_cases hsaved : world.saved "recovery.activated" = true
    · rw [transition_saved hsaved]
      exact ⟨moved_policy hidentity (h.named identity hidentity), moved_written h.written hsaved⟩
    · rw [transition_failed hsaved]
      exact h.toFollowed

/-! ## Enrolling -/

section

variable {identity : RealmState} {principal : Principal}

/-- A Principal that a policy knows. -/
def Enrolled (principal : Principal) (identity : RealmState) : Prop :=
  identity.principals.get? principal.id = some principal ∧ principal.realmId = identity.realm.id

theorem requirePrincipal_ok (h : Enrolled principal identity) :
    requirePrincipal principal.id identity = (.ok principal, identity) := by
  refine Transact.bind_eq_ok.mpr ⟨identity, identity, rfl, ?_⟩
  refine Transact.orThrow_eq_ok.mpr ⟨?_, rfl⟩
  rw [h.1, Option.filter_some, if_pos (decide_eq_true h.2)]

/-- What an enrollment creates first. -/
theorem createPrincipal_ok (services : RealmServices) (displayName : String) (clock : RealmClock)
    {id : Option String} {drawn : RealmDrawn}
    (hnew : identity.principals.get? (id.getD (drawn.opaqueId "principal")) = none) :
    ∃ principal next, createPrincipal services id displayName drawn clock identity =
        (.ok principal, next) ∧ Enrolled principal next ∧ next.realm = identity.realm ∧
      next.passkeys = identity.passkeys ∧ next.oidcProviders = identity.oidcProviders ∧
      next.oidcIdentities = identity.oidcIdentities := by
  refine ⟨_, _, Transact.bind_eq_ok.mpr ⟨identity, identity, rfl, Transact.bind_eq_ok.mpr
    ⟨(), identity, Transact.require_eq_ok.mpr ⟨hnew, rfl⟩, rfl⟩⟩, ⟨?_, rfl⟩, rfl, rfl, rfl, rfl⟩
  exact OrderedMap.get?_set_self _ _ _

theorem require_throws {p : Prop} [Decidable p] {error : RealmIdentityError} (h : ¬ p) :
    RealmM.require p error identity = (.error (.realm error), identity) := by
  rw [RealmM.require, Transact.require, Lib.require, if_neg h]

/-- A Principal that exists is refused before anything is written. -/
theorem createPrincipal_exists (services : RealmServices) (displayName : String)
    (clock : RealmClock) {id : Option String} {drawn : RealmDrawn}
    (h : (identity.principals.get? (id.getD (drawn.opaqueId "principal"))).isSome) :
    ∃ error, createPrincipal services id displayName drawn clock identity =
      (.error error, identity) := by
  exact ⟨_, (Transact.bind_of_ok (show RealmM.state identity = (.ok identity, identity) from rfl)).trans
    (Transact.bind_of_error (require_throws (Option.isSome_iff_ne_none.mp h)))⟩

theorem registerPasskey_ok {credentialId : String} (relyingPartyId : Option String)
    (signCount : Option Int) (h : Enrolled principal identity)
    (hnew : identity.passkeys.get? credentialId = none) :
    ∃ credential next, registerPasskey principal.id credentialId relyingPartyId signCount identity =
        (.ok credential, next) ∧ Enrolled principal next := by
  refine ⟨_, _, Transact.bind_eq_ok.mpr ⟨principal, identity, requirePrincipal_ok h,
    Transact.bind_eq_ok.mpr ⟨identity, identity, rfl, Transact.bind_eq_ok.mpr
      ⟨(), identity, Transact.require_eq_ok.mpr ⟨hnew, rfl⟩, rfl⟩⟩⟩, h⟩

/-- A new provider is the active one of its issuer. -/
theorem registerOidcProvider_ok (clientId : String) (drawn : RealmDrawn) {issuer : String}
    (h : Enrolled principal identity)
    (hnew : ∀ provider ∈ identity.oidcProviders.values, provider.issuer ≠ issuer) :
    ∃ provider next, registerOidcProvider none issuer clientId drawn identity =
        (.ok provider, next) ∧ Enrolled principal next ∧ next.oidcProvider issuer ≠ none ∧
      next.oidcIdentities = identity.oidcIdentities := by
  refine ⟨_, _, Transact.bind_eq_ok.mpr ⟨identity, identity, rfl, Transact.bind_eq_ok.mpr
    ⟨(), identity, Transact.require_eq_ok.mpr ⟨hnew, rfl⟩, rfl⟩⟩, h, ?_, rfl⟩
  intro hnone
  refine absurd (List.find?_eq_none.mp hnone _ (OrderedMap.mem_values_of_get?
    (OrderedMap.get?_set_self _ _ _))) ?_
  simp

theorem linkOidcIdentity_ok {issuer subject : String} (h : Enrolled principal identity)
    (hprovider : identity.oidcProvider issuer ≠ none)
    (hnew : identity.oidcIdentities.get? s!"{issuer}|{subject}" = none) :
    ∃ link next, linkOidcIdentity principal.id issuer subject identity = (.ok link, next) ∧
      Enrolled principal next := by
  obtain ⟨provider, hprovider⟩ := Option.ne_none_iff_exists'.mp hprovider
  refine ⟨_, _, Transact.bind_eq_ok.mpr ⟨principal, identity, requirePrincipal_ok h,
    Transact.bind_eq_ok.mpr ⟨identity, identity, rfl, Transact.bind_eq_ok.mpr
      ⟨provider, identity, Transact.orThrow_eq_ok.mpr ⟨hprovider, rfl⟩, Transact.bind_eq_ok.mpr
        ⟨(), identity, Transact.require_eq_ok.mpr ⟨hnew, rfl⟩, rfl⟩⟩⟩⟩, h⟩

theorem ofRealm_ok {α : Type} {m : RealmM α} {value : α} {next : RealmState}
    (h : m identity = (.ok value, next)) : ofRealm m identity = (.ok value, next) := by
  rw [ofRealm, h]
  rfl

variable (world) in
theorem registerAuthentication_ok {authentication : OwnerAuthentication}
    (h : Enrolled principal identity) (hregistrable : Registrable identity authentication) :
    ∃ next, registerAuthentication world principal authentication identity = (.ok (), next) ∧
      Enrolled principal next := by
  cases authentication with
  | passkey credentialId receipt =>
    obtain ⟨hnamed, hnew⟩ := hregistrable
    obtain ⟨credential, next, hregistered, hnext⟩ :=
      registerPasskey_ok none none h hnew
    exact ⟨next, Transact.bind_eq_ok.mpr ⟨(), identity, Transact.require_eq_ok.mpr ⟨hnamed, rfl⟩,
      Transact.bind_eq_ok.mpr ⟨credential, next, ofRealm_ok hregistered, rfl⟩⟩, hnext⟩
  | oidc issuer subject clientId receipt =>
    obtain ⟨hnamed, hissuer, hnew⟩ := hregistrable
    by_cases hprovider : identity.oidcProvider issuer = none
    · obtain ⟨provider, mid, hregistered, hmid, hactive, hlinks⟩ :=
        registerOidcProvider_ok clientId world.drawn h (hissuer hprovider)
      obtain ⟨link, next, hlinked, hnext⟩ :=
        linkOidcIdentity_ok hmid hactive (hlinks.symm ▸ hnew)
      refine ⟨next, ?_, hnext⟩
      refine Transact.bind_eq_ok.mpr ⟨(), identity, Transact.require_eq_ok.mpr ⟨hnamed, rfl⟩,
        Transact.bind_eq_ok.mpr ⟨identity, identity, rfl, ?_⟩⟩
      simp only [if_pos hprovider]
      exact Transact.bind_eq_ok.mpr ⟨provider, mid, ofRealm_ok hregistered,
        Transact.bind_eq_ok.mpr ⟨link, next, ofRealm_ok hlinked, rfl⟩⟩
    · obtain ⟨link, next, hlinked, hnext⟩ :=
        linkOidcIdentity_ok h hprovider hnew
      refine ⟨next, ?_, hnext⟩
      refine Transact.bind_eq_ok.mpr ⟨(), identity, Transact.require_eq_ok.mpr ⟨hnamed, rfl⟩,
        Transact.bind_eq_ok.mpr ⟨identity, identity, rfl, ?_⟩⟩
      simp only [if_neg hprovider]
      exact Transact.bind_eq_ok.mpr ⟨link, next, ofRealm_ok hlinked, rfl⟩

theorem addRelationship_ok (kind : RelationshipKind) (subjectId : String) (role : RealmRole)
    (resource : Option ResourceRef) (denied : Option (List Capability)) (drawn : RealmDrawn)
    (h : Enrolled principal identity) :
    ∃ relationship next, addRelationship principal.id kind subjectId role resource denied drawn
      identity = (.ok relationship, next) :=
  ⟨_, _, Transact.bind_eq_ok.mpr ⟨principal, identity, requirePrincipal_ok h,
    Transact.bind_eq_ok.mpr ⟨identity, identity, rfl, rfl⟩⟩⟩

variable (host world) in
/-- An enrollment of a new Principal returns when its authentication can be registered. -/
theorem enrollPrincipal_ok (input : EnrollInput) (realmId : String)
    (hnew : identity.principals.get? (input.createdId world) = none)
    (hregistrable : Registrable identity input.authentication) :
    ∃ principal next, enrollPrincipal host world input realmId identity = (.ok principal, next) := by
  obtain ⟨principal, created, hcreated, henrolled, -, hpasskeys, hproviders, hlinks⟩ :=
    createPrincipal_ok host.realm input.displayName (world.clock.sub 0) hnew
  have hcreatable : Registrable created input.authentication := by
    cases hauthentication : input.authentication with
    | passkey credentialId receipt =>
      rw [hauthentication] at hregistrable
      rw [Registrable, hpasskeys]
      exact hregistrable
    | oidc issuer subject clientId receipt =>
      rw [hauthentication] at hregistrable
      rw [Registrable, RealmState.oidcProvider, hproviders, hlinks]
      exact hregistrable
  obtain ⟨registered, hregistered, hstill⟩ :=
    registerAuthentication_ok world henrolled hcreatable
  obtain ⟨relationship, next, hrelated⟩ := addRelationship_ok .organizationMember principal.id
    .owner (some { realmId }) none world.drawn hstill
  exact ⟨principal, next, Transact.bind_eq_ok.mpr ⟨principal, created, ofRealm_ok hcreated,
    Transact.bind_eq_ok.mpr ⟨(), registered, hregistered,
      Transact.bind_eq_ok.mpr ⟨relationship, next, ofRealm_ok hrelated, rfl⟩⟩⟩⟩

/-- An enrollment does not write the Realm of the policy. -/
theorem quiet_enrollPrincipal {input : EnrollInput} {realmId : String} :
    Transact.Keeps Quiet (enrollPrincipal host world input realmId) := by
  refine Transact.keeps_bind (keeps_ofRealm quiet_createPrincipal) fun principal =>
    Transact.keeps_bind ?_ fun _ => Transact.keeps_bind (keeps_ofRealm quiet_addRelationship)
      fun _ => Transact.keeps_pure
  cases input.authentication with
  | passkey credentialId receipt =>
    exact Transact.keeps_bind Transact.keeps_require fun _ =>
      Transact.keeps_bind (keeps_ofRealm quiet_registerPasskey) fun _ => Transact.keeps_pure
  | oidc issuer subject clientId receipt =>
    refine Transact.keeps_bind Transact.keeps_require fun _ =>
      Transact.keeps_bind Transact.keeps_state fun s => ?_
    by_cases hprovider : s.oidcProvider issuer = none
    · simp only [if_pos hprovider]
      exact Transact.keeps_bind (keeps_ofRealm quiet_registerOidcProvider) fun _ =>
        Transact.keeps_bind (keeps_ofRealm quiet_linkOidcIdentity) fun _ => Transact.keeps_pure
    · simp only [if_neg hprovider]
      exact Transact.keeps_bind (keeps_ofRealm quiet_linkOidcIdentity) fun _ =>
        Transact.keeps_pure

end

theorem enrollVerifiedOwner_followed {input : EnrollInput}
    (h : FollowedAt host world s₀ a installation)
    (hsettled : Settled host installation world (.enrollVerifiedOwner input)) :
    Followed host world s₀ (enrollVerifiedOwner host world input installation).2 := by
  refine requirePhase_bind h.toFollowed fun hphase => ?_
  refine Transact.bind_require h.toFollowed fun hname => ?_
  refine Transact.bind_require h.toFollowed fun hverified => ?_
  refine Transact.bind_require h.toFollowed fun hrecovery => ?_
  rw [self_bind]
  refine Transact.bind_orThrow h.toFollowed fun ⟨identity, realmId⟩ hfound => ?_
  obtain ⟨hidentity, hrealm⟩ := of_bind_map hfound
  have hreaches : ReachesPolicy installation input :=
    ⟨List.mem_singleton.mp hphase, hname, hverified, hrecovery, Option.isSome_of_mem hrealm⟩
  have hnamed : identity.realm.id ≠ "" := h.named identity hidentity
  dsimp only
  by_cases hexists : (identity.principals.get? (input.createdId world)).isSome
  · -- refused before the policy is written
    obtain ⟨error, hrefused⟩ := createPrincipal_exists host.realm
      input.displayName (world.clock.sub 0) hexists
    have hthrown : onPolicy identity (enrollPrincipal host world input realmId) installation =
        (.error (.realm error), installation) := by
      have hpolicy : enrollPrincipal host world input realmId identity =
          (.error (.realm error), identity) := by
        refine Transact.bind_of_error ?_
        rw [ofRealm, hrefused]
        rfl
      rw [onPolicy, hpolicy, ← show installation.identity = some identity from hidentity]
    rw [Transact.bind_of_error hthrown]
    exact h.toFollowed
  · obtain ⟨hregistrable, hsaved⟩ := (hsettled hreaches identity hidentity).resolve_left hexists
    obtain ⟨principal, next, henrolled⟩ := enrollPrincipal_ok host world input realmId
      (Option.not_isSome_iff_eq_none.mp hexists) hregistrable
    have hnext : next.realm = identity.realm :=
      (Transact.Keeps.leaves quiet_enrollPrincipal henrolled).realm
    have hreturned : onPolicy identity (enrollPrincipal host world input realmId) installation =
        (.ok principal, { installation with identity := some next }) := by
      rw [onPolicy, henrolled]
    rw [Transact.bind_of_ok hreturned, transition_saved hsaved]
    exact ⟨moved_policy rfl (by rw [hnext]; exact hnamed), moved_written h.written hsaved⟩

/-! ## Restoring -/

/-- A bundle that passes its verification is restored into the policy, whatever the store does. -/
theorem restoreRecovery_followed {bundle : CustomerRealmRecoveryBundle}
    (h : FollowedAt host world s₀ a installation)
    (hsettled : Settled host installation world (.restoreRecovery bundle)) :
    Followed host world s₀ (restoreRecovery host world bundle installation).2 := by
  refine Transact.bind_require h.toFollowed fun hverified => ?_
  refine requirePhase_bind h.toFollowed fun hphase => ?_
  rw [state_bind]
  refine Transact.bind_require h.toFollowed fun hsame => ?_
  refine Transact.bind_require h.toFollowed fun hnamed => ?_
  have hsettled := hsettled (List.mem_singleton.mp hphase) hverified hsame
  have hfree := (bundleErrors_eq_nil.mp hverified).1.credentialFree.2
  have hreturned : onPolicy (freshPolicy host world bundle) (restorePolicy bundle.realmSnapshot)
      installation =
      (.ok (getRecoverySnapshot (restoredPolicy host world bundle)),
        { installation with identity := some (restoredPolicy host world bundle) }) := by
    rw [onPolicy, restorePolicy_ok hfree rfl]
    rfl
  show Followed host world s₀
    ((onPolicy (freshPolicy host world bundle) (restorePolicy bundle.realmSnapshot) >>= _)
      installation).2
  rw [Transact.bind_of_ok hreturned]
  by_cases hsaved : world.saved "recovery.verified" = true
  · rw [transition_saved hsaved]
    exact ⟨moved_policy rfl hnamed, moved_written h.written hsaved⟩
  · rw [transition_failed hsaved]
    refine ⟨⟨?_, ?_, h.filed⟩, h.written⟩
    · exact (hsettled.resolve_right hsaved).symm
    · rintro _ ⟨⟩
      exact hnamed

/-! ## Calls and new objects -/

/-- A settled call keeps the invariant, and leaves the last state that was stored. -/
theorem run_followed {call : InstallationCall} (h : Follows installation)
    (hsettled : Settled host installation world call) :
    Followed host world installation.state (call.run host world installation).2 := by
  have hat : FollowedAt host world installation.state installation.state.storedAuthority
      installation := ⟨⟨h, .refl⟩, rfl⟩
  cases call with
  | install input => exact install_followed hat hsettled
  | enrollVerifiedOwner input => exact enrollVerifiedOwner_followed hat hsettled
  | createProject project sourceSpaceIds => exact createProject_followed hat
  | importProject input => exact importProject_followed hat
  | recordDeploymentReadiness input => exact recordDeploymentReadiness_followed hat
  | recover => exact recover_followed hat hsettled
  | exportRecovery projectExport =>
    exact Transact.bind_leaves (exportRecovery_followed hat) id fun _ _ _ h => h
  | restoreRecovery bundle => exact restoreRecovery_followed hat hsettled
  | activateRecovery input => exact activateRecovery_followed hat

theorem newInstallation_follows {installationId now : String} :
    Follows (newInstallation host installationId now) := by
  refine ⟨rfl, ?_, nofun, ?_⟩
  · rintro _ ⟨⟩
  · rintro _ ⟨⟩

/-- The policy that is restored for operation has the authority of the snapshot. -/
theorem restoreOperationalSnapshot_ok {snapshot : RealmRecoverySnapshot} {identity : RealmState}
    (hfree : snapshot.credentialFree = true) (hrealm : snapshot.realm.id = identity.realm.id) :
    restoreOperationalSnapshot snapshot identity =
      (.ok snapshot.realm, loadedSnapshot snapshot false identity) :=
  Transact.bind_eq_ok.mpr ⟨(), identity, Transact.require_eq_ok.mpr ⟨hfree, rfl⟩,
    Transact.bind_eq_ok.mpr ⟨identity, identity, rfl,
      Transact.bind_eq_ok.mpr ⟨(), identity, Transact.require_eq_ok.mpr ⟨hrealm, rfl⟩, rfl⟩⟩⟩

variable (host) in
/-- A new object on a stored state has the policy of its snapshot. -/
theorem openInstallation_ok (now : String) (h : Filed installation.state) :
    ∃ again, openInstallation host now installation.state = .ok again ∧ Follows again := by
  rw [openInstallation]
  by_cases hunstored : installation.state.revision = 0
  · rw [if_pos hunstored]
    exact ⟨_, rfl, newInstallation_follows⟩
  · rw [if_neg hunstored]
    cases hsnapshot : installation.state.realmSnapshot with
    | none =>
      refine ⟨_, rfl, ⟨?_, ?_, h⟩⟩
      · rw [CustomerRealmInstallationState.storedAuthority, hsnapshot]
        rfl
      · rintro _ ⟨⟩
    | some snapshot =>
      obtain ⟨hrealm, hfree⟩ := h.snapshot snapshot hsnapshot
      have hnamed : snapshot.realm.id ≠ "" := fun hempty => h.named (hempty ▸ hrealm)
      rw [hrealm, truthy_eq_some.mpr ⟨rfl, hnamed⟩]
      dsimp only
      rw [restoreOperationalSnapshot_ok hfree rfl]
      refine ⟨_, rfl, ⟨?_, ?_, h⟩⟩
      · rw [CustomerRealmInstallationState.storedAuthority, hsnapshot]
        rfl
      · rintro _ ⟨⟩
        exact hnamed

theorem eventStep_follows {event : InstallationEvent} (h : Follows installation)
    (hsettled : EventSettled host installation event) :
    Follows (eventStep host event installation).2 := by
  cases event with
  | call op => exact (run_followed h hsettled).toFollows
  | opened now =>
    obtain ⟨again, hagain, hfollows⟩ := openInstallation_ok host now h.filed
    rw [eventStep, hagain]
    exact hfollows

/-! ## Runs -/

abbrev EventTransition :=
  Transition CustomerRealmInstallation InstallationEvent (Except InstallationFailure Unit)

/-- A run of calls and new objects, whose calls meet a condition where they are made. -/
abbrev EventRun (host : InstallationHost)
    (ok : CustomerRealmInstallation → InstallationEvent → Prop) (installationId now : String)
    (tr : List EventTransition) (installation : CustomerRealmInstallation) : Prop :=
  Run (eventStep host) ok (newInstallation host installationId now) tr installation

/-- **The policy in memory follows what is stored.** In every state that a run of settled calls
reaches, whatever the provider, the importer and the store answer, and whether a call returned or
threw: the policy has the authority of the stored snapshot, and every call left the last state that
the store took. -/
theorem policy_follows {installationId now : String} {tr : List EventTransition}
    (hrun : EventRun host (EventSettled host) installationId now tr installation) :
    installation.policyAuthority = installation.state.storedAuthority ∧
      ∀ t ∈ tr, ∀ op, t.op = .call op →
        LastStored host op.world t.pre.state t.post.state := by
  suffices h : Follows installation ∧ ∀ t ∈ tr, ∀ op, t.op = .call op →
      LastStored host op.world t.pre.state t.post.state from ⟨h.1.alike, h.2⟩
  induction hrun with
  | nil =>
    refine ⟨newInstallation_follows, ?_⟩
    rintro _ ⟨⟩
  | @snoc tr s event hrun hsettled ih =>
    refine ⟨eventStep_follows ih.1 hsettled, fun t ht op hop => ?_⟩
    rcases List.mem_append.mp ht with hold | hlast
    · exact ih.2 t hold op hop
    · obtain rfl := List.mem_singleton.mp hlast
      subst hop
      exact (run_followed ih.1 hsettled).written

end

/-! ## An enrollment that is not stored -/

def ranEvents (events : List InstallationEvent) : List EventTransition × CustomerRealmInstallation :=
  exec (eventStep quietHost) (newInstallation quietHost "installation" "now") events

/-- A Realm is provisioned, opened again, and gets an owner. -/
def enrolledStored : List InstallationEvent := [
  .call ⟨installAccount, goodWorld⟩, .opened "now", .call ⟨enrollOwner "ada", goodWorld⟩]

/-- The store refuses the first owner, and takes the second. -/
def enrolledRefused : List InstallationEvent := [
  .call ⟨installAccount, goodWorld⟩,
  .call ⟨enrollOwner "ada", { goodWorld with saved := fun _ => false }⟩,
  .call ⟨enrollOwner "grace", { goodWorld with drawn := { uuid := fun _ => "two", token := "token" } }⟩]

theorem policy_follows_sample :
    (ranEvents enrolledStored).2.state.phase = .ownerReady ∧
      (ranEvents enrolledStored).2.policyAuthority =
        (ranEvents enrolledStored).2.state.storedAuthority := by
  have hrun : EventRun quietHost (EventSettled quietHost) "installation" "now"
      (ranEvents enrolledStored).1 (ranEvents enrolledStored).2 := by
    refine run_exec ⟨fun _ => .inr rfl, trivial, fun _ => ?_, trivial⟩
    rintro _ ⟨⟩
    exact .inr ⟨⟨by decide, rfl⟩, rfl⟩
  exact ⟨rfl, (policy_follows hrun).1⟩

/-- **An enrollment that threw is stored by the next one**: after the first enrollment, which the
store refused, the policy has a Principal that the stored snapshot lacks, and after the second one
the stored snapshot has both, each with an owner relationship. -/
theorem enrollment_left :
    EventRun quietHost (fun _ _ => True) "installation" "now" (ranEvents (enrolledRefused.take 2)).1
        (ranEvents (enrolledRefused.take 2)).2 ∧
      (ranEvents (enrolledRefused.take 2)).1.map (fun t => t.reply.isOk) = [true, false] ∧
      (ranEvents (enrolledRefused.take 2)).2.policyAuthority ≠
        (ranEvents (enrolledRefused.take 2)).2.state.storedAuthority ∧
      (ranEvents enrolledRefused).2.state.storedAuthority.relationships.values.map
        (fun binding => (binding.principalId, binding.role)) = [("ada", .owner), ("grace", .owner)] := by
  refine ⟨run_exec (Admits.of_forall (fun _ _ => trivial) _ _), ?_, fun h => ?_, ?_⟩
  · decide +kernel
  · exact absurd (congrArg (fun authority => authority.principals.keys) h) (by decide +kernel)
  · decide +kernel

end Anyam.Installation
