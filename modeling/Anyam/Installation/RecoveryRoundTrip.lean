import Anyam.Installation.CustomerRealmRuns

/-!
# A recovery bundle, exported and restored

A bundle is exported by one installation and restored into a new one of the same id. The restored
state is a patch of a transition of the new installation, and that transition takes its audit list
from the state that it leaves, not from the patch.

- `RoundTrip`: what a restoration of a bundle promises; `Verified`: what its verification checks.
- **`restored_loses_audit`**: every exported bundle is restored with its other fields, under a
  checkpoint that verifies, and none makes the round trip: the events of its audit list are lost.
- **`restored_backed`**: phases stay backed when an exported bundle is restored.
-/

namespace Anyam.Installation

open Anyam.Lib Anyam.Identity Anyam.Kernel Anyam.Portability InstallationM

/-- The fields of a bundle that the state keeps, under a checkpoint whose digest verifies. -/
structure Survives (host : InstallationHost) (bundle : CustomerRealmRecoveryBundle)
    (s : CustomerRealmInstallationState) : Prop where
  account : s.account = bundle.state.account
  owner : s.owner = bundle.state.owner
  project : s.project = bundle.state.project
  importRecord : s.importRecord = bundle.state.importRecord
  pendingCommands : s.pendingCommands = bundle.state.pendingCommands
  resourceIds : s.resources.map (·.resourceIds) = bundle.state.resources.map (·.resourceIds)
  checkpoint : s.checkpoint.stateDigest = host.pendingDigest s

/-- A bundle is restored into a new installation of its id, with its fields and an audit list as
`audit` has it, and can be exported again. -/
def Restorable (host : InstallationHost) (bundle : CustomerRealmRecoveryBundle)
    (audit : List CustomerRealmAuditEvent → Prop) : Prop :=
  ∀ (now : String) (restoring : InstallationWorld), restoring.saved "recovery.verified" = true →
    ∃ restored, restoreRecovery host restoring bundle
        (newInstallation host bundle.installationId now) = (.ok (), restored) ∧
      Survives host bundle restored.state ∧ audit restored.state.audit ∧
      ∀ exporting : InstallationWorld, exporting.saved "recovery.exported" = true →
        (∀ again, host.scanCredentialMaterial again = none) →
        exporting.opaqueId "installation-audit:recovery.exported" ∉
          restored.state.audit.map (·.id) →
        ∃ again next, exportRecovery host exporting none restored = (.ok again, next) ∧
          host.bundleErrors again = []

/-- **The round trip of a bundle**: the audit list that is restored extends that of the bundle. -/
def RoundTrip (host : InstallationHost) (bundle : CustomerRealmRecoveryBundle) : Prop :=
  Restorable host bundle fun audit => bundle.audit <+: audit

section

variable {host : InstallationHost} {world : InstallationWorld}
  {installation next : CustomerRealmInstallation} {bundle : CustomerRealmRecoveryBundle}
  {phase : CustomerRealmInstallationPhase} {eventType : String} {event : EventRefs}
  {partialEffects : List String} {patch : StatePatch}

/-! ## Transitions -/

/-- The checkpoint of a transition verifies. -/
theorem moved_checkpoint :
    (moved host world installation phase eventType event partialEffects
        patch).state.checkpoint.stateDigest =
      host.pendingDigest (moved host world installation phase eventType event partialEffects
        patch).state := rfl

/-- A transition adds one event to the audit list of the state it leaves. -/
theorem moved_audit :
    ∃ added : CustomerRealmAuditEvent, added.eventType = eventType ∧
      (moved host world installation phase eventType event partialEffects patch).state.audit =
        installation.state.audit ++ [added] := ⟨_, rfl, rfl⟩

/-! ## The exported bundle -/

/-- A bundle that is exported passes its verification, is of its installation, and its last event
is the export. -/
theorem exportRecovery_ok {projectExport : Option ProjectExport}
    (h : exportRecovery host world projectExport installation = (.ok bundle, next)) :
    host.bundleErrors bundle = [] ∧ bundle.installationId = installation.state.installationId ∧
      bundle.state.pendingCommands = bundle.pendingCommands ∧
      ∃ exported : CustomerRealmAuditEvent, exported.eventType = "recovery.exported" ∧
        bundle.audit = installation.state.audit ++ [exported] := by
  rw [exportRecovery, self_bind] at h
  obtain ⟨⟨identity, realmId⟩, mid, hfound, h⟩ := Transact.bind_eq_ok.mp h
  obtain ⟨-, rfl⟩ := Transact.orThrow_eq_ok.mp hfound
  obtain ⟨_, mid, hread, h⟩ := Transact.bind_eq_ok.mp h
  obtain rfl : installation = mid := keeps_requireProjectExport.leaves hread
  obtain ⟨_, mid, hmoved, h⟩ := Transact.bind_eq_ok.mp h
  by_cases hstore : world.saved "recovery.exported" = true
  · rw [transition_saved hstore] at hmoved
    cases hmoved
    rw [state_bind] at h
    obtain ⟨_, _, hverified, hbundle⟩ := Transact.bind_eq_ok.mp h
    simp only [InstallationM.require, Transact.require_eq_ok] at hverified
    obtain ⟨hverified, rfl⟩ := hverified
    obtain ⟨rfl, -⟩ := Transact.pure_eq_ok.mp hbundle
    exact ⟨hverified, rfl, rfl, _, rfl, rfl⟩
  · rw [transition_failed hstore] at hmoved
    cases hmoved

/-- What the verification of a bundle checks, but for the Project Export. -/
structure Verified (host : InstallationHost) (bundle : CustomerRealmRecoveryBundle) : Prop where
  scanned : host.scanCredentialMaterial bundle = none
  protocol : bundle.protocol = contractRecovery ∧ bundle.version = "v1"
  hosting : bundle.hostingMode = "customer-operated"
  installation : bundle.state.installationId = bundle.installationId
  realm : truthy bundle.state.realmId = some bundle.realmSnapshot.realm.id
  snapshot : bundle.state.realmSnapshot.map host.snapshotDigest =
    some (host.snapshotDigest bundle.realmSnapshot)
  credentialFree : bundle.integrity.credentialFree = true ∧ bundle.realmSnapshot.credentialFree = true
  account : ∃ account ∈ bundle.state.account, customerOwnershipValid account
  resources : ∃ resources ∈ bundle.state.resources, resources.owner = "customer" ∧
    ¬ (resources.state = .verified ∧ resources.resourceIds = [])
  checkpoint : bundle.state.checkpoint.stateDigest = host.pendingDigest bundle.state
  commands : host.commandsDigest bundle.state.pendingCommands =
    host.commandsDigest bundle.pendingCommands
  audit : host.auditDigest bundle.state.audit = host.auditDigest bundle.audit
  commandIds : commandErrors [] [] bundle.pendingCommands = []
  auditIds : auditErrors [] bundle.audit = []
  grants : grantErrors bundle.realmSnapshot = []
  digest : bundle.integrity.digest = host.bundleDigest bundle.toUnsignedRecoveryBundle

theorem bundleErrors_eq_nil : host.bundleErrors bundle = [] ↔
    Verified host bundle ∧
      (bundle.projectExport.map (host.projectExportErrors bundle.state)).getD [] = [] := by
  unfold InstallationHost.bundleErrors
  cases hscanned : host.scanCredentialMaterial bundle with
  | some kind =>
    simp only [Option.isSome_some, if_true]
    constructor
    · exact fun h => absurd h (List.cons_ne_nil _ _)
    · rintro ⟨h, -⟩
      rw [h.scanned] at hscanned
      cases hscanned
  | none =>
    simp only [Option.isSome_none, Bool.false_eq_true, if_false, List.append_eq_nil_iff,
      problem_eq_nil, not_or, not_not, Bool.not_eq_false]
    constructor
    · rintro ⟨⟨⟨⟨⟨⟨⟨⟨⟨⟨⟨⟨⟨⟨⟨hprotocol, hhosting⟩, hinstallation⟩, hrealm⟩, hsnapshot⟩, hfree⟩,
        haccount⟩, hresources⟩, hcheckpoint⟩, hcommands⟩, haudit⟩, hexport⟩, hcommandIds⟩,
        hauditIds⟩, hgrants⟩, hdigest⟩
      exact ⟨⟨hscanned, hprotocol, hhosting, hinstallation, hrealm, hsnapshot, hfree, haccount,
        hresources, hcheckpoint, hcommands, haudit, hcommandIds, hauditIds, hgrants, hdigest⟩, hexport⟩
    · rintro ⟨h, hexport⟩
      exact ⟨⟨⟨⟨⟨⟨⟨⟨⟨⟨⟨⟨⟨⟨⟨h.protocol, h.hosting⟩, h.installation⟩, h.realm⟩, h.snapshot⟩,
        h.credentialFree⟩, h.account⟩, h.resources⟩, h.checkpoint⟩, h.commands⟩, h.audit⟩, hexport⟩,
        h.commandIds⟩, h.auditIds⟩, h.grants⟩, h.digest⟩

/-! ## The restored installation -/

/-- The policy that a bundle restores has the Realm of the bundle, and its authority is revoked. -/
theorem restorePolicy_ok {snapshot : RealmRecoverySnapshot} {identity : RealmState}
    (hfree : snapshot.credentialFree = true) (hrealm : snapshot.realm.id = identity.realm.id) :
    restorePolicy snapshot identity =
      (.ok (getRecoverySnapshot (loadedSnapshot snapshot true identity)),
        loadedSnapshot snapshot true identity) := by
  have hrestored : restoreRecoverySnapshot snapshot identity =
      (.ok (loadedSnapshot snapshot true identity).realm,
        loadedSnapshot snapshot true identity) := by
    unfold restoreRecoverySnapshot
    rw [Transact.bind_of_ok (a := ()) (Transact.require_eq_ok.mpr ⟨hfree, rfl⟩)]
    show (Transact.require (snapshot.realm.id = identity.realm.id) _ >>= _) identity = _
    rw [Transact.bind_of_ok (a := ()) (Transact.require_eq_ok.mpr ⟨hrealm, rfl⟩)]
    rfl
  have hpolicy : ofRealm (restoreRecoverySnapshot snapshot) identity =
      (.ok (loadedSnapshot snapshot true identity).realm,
        loadedSnapshot snapshot true identity) := by
    rw [ofRealm, hrestored]
    rfl
  rw [restorePolicy, Transact.bind_of_ok hpolicy]
  rfl

/-- The policy of the Realm that a restoration starts from. -/
def freshPolicy (host : InstallationHost) (restoring : InstallationWorld)
    (bundle : CustomerRealmRecoveryBundle) : RealmState :=
  initialRealmState { realmId := bundle.realmSnapshot.realm.id }
    (host.realm.toISOString (restoring.clock.sub 0).now)

/-- The policy of the Realm that is restored. -/
def restoredPolicy (host : InstallationHost) (restoring : InstallationWorld)
    (bundle : CustomerRealmRecoveryBundle) : RealmState :=
  loadedSnapshot bundle.realmSnapshot true (freshPolicy host restoring bundle)

/-- The installation that a bundle is restored into. -/
def restoredInto (host : InstallationHost) (restoring : InstallationWorld)
    (bundle : CustomerRealmRecoveryBundle) (now : String) : CustomerRealmInstallation :=
  let policy := restoredPolicy host restoring bundle
  moved host restoring
    { newInstallation host bundle.installationId now with identity := some policy }
    .recoveryPending "recovery.verified"
    { checkpointId := some bundle.state.checkpoint.checkpointId }
    ((bundle.state.importRecord.map (·.partialEffects)).getD [])
    fun _ => restoredState bundle (getRecoverySnapshot policy)

/-- A verified bundle is restored when the transition can be saved. -/
theorem restoreRecovery_ok {restoring : InstallationWorld} {now : String}
    (hverified : host.bundleErrors bundle = [])
    (hsaved : restoring.saved "recovery.verified" = true) :
    restoreRecovery host restoring bundle (newInstallation host bundle.installationId now) =
      (.ok (), restoredInto host restoring bundle now) := by
  obtain ⟨hchecked, -⟩ := bundleErrors_eq_nil.mp hverified
  have hrealm : bundle.realmSnapshot.realm.id ≠ "" := (truthy_eq_some.mp hchecked.realm).2
  have hphase : requirePhase [.new] "recovery.restore"
      (newInstallation host bundle.installationId now) =
      (.ok (), newInstallation host bundle.installationId now) := by
    rw [requirePhase, state_bind]
    exact Transact.require_eq_ok.mpr ⟨List.mem_singleton_self _, rfl⟩
  have hpolicy : onPolicy (freshPolicy host restoring bundle) (restorePolicy bundle.realmSnapshot)
      (newInstallation host bundle.installationId now) =
      (.ok (getRecoverySnapshot (restoredPolicy host restoring bundle)),
        { newInstallation host bundle.installationId now with
          identity := some (restoredPolicy host restoring bundle) }) := by
    rw [onPolicy, restorePolicy_ok hchecked.credentialFree.2 rfl]
    rfl
  have hsame : bundle.installationId =
      (newInstallation host bundle.installationId now).state.installationId := rfl
  unfold restoreRecovery
  rw [Transact.bind_of_ok (a := ()) (Transact.require_eq_ok.mpr ⟨hverified, rfl⟩),
    Transact.bind_of_ok hphase, state_bind,
    Transact.bind_of_ok (a := ()) (Transact.require_eq_ok.mpr ⟨hsame, rfl⟩),
    Transact.bind_of_ok (a := ()) (Transact.require_eq_ok.mpr ⟨hrealm, rfl⟩)]
  show (onPolicy (freshPolicy host restoring bundle) (restorePolicy bundle.realmSnapshot) >>= _) _ = _
  rw [Transact.bind_of_ok hpolicy]
  exact transition_saved hsaved

/-- **What is restored, field by field.** -/
theorem restoredInto_survives {restoring : InstallationWorld} {now : String}
    (hcommands : bundle.state.pendingCommands = bundle.pendingCommands) :
    Survives host bundle (restoredInto host restoring bundle now).state := by
  refine ⟨rfl, rfl, rfl, rfl, hcommands.symm, ?_, moved_checkpoint⟩
  show (bundle.state.resources.map _).map _ = _
  rw [Option.map_map]
  rfl

/-- The audit list of what is restored has the restoration only. -/
theorem restoredInto_audit {restoring : InstallationWorld} {now : String} :
    ∃ verified : CustomerRealmAuditEvent, verified.eventType = "recovery.verified" ∧
      (restoredInto host restoring bundle now).state.audit = [verified] :=
  moved_audit

/-! ## The next export -/

/-- A revoked Grant has the chain it had. -/
theorem grantErrors_loadedSnapshot {snapshot : RealmRecoverySnapshot} {identity : RealmState}
    (h : grantErrors snapshot = []) :
    grantErrors (getRecoverySnapshot (loadedSnapshot snapshot true identity)) = [] := by
  simp only [grantErrors, List.flatMap_eq_nil_iff, List.append_eq_nil_iff, problem_eq_nil] at h ⊢
  intro grant hgrant
  simp only [getRecoverySnapshot, loadedSnapshot, if_true, OrderedMap.values_map, List.mem_map,
    OrderedMap.keys_map] at hgrant ⊢
  obtain ⟨before, hbefore, rfl⟩ := hgrant
  exact h before hbefore

/-- What the next export is verified as. -/
theorem verified_again {restoring exporting : InstallationWorld} {now : String} (receipt : String)
    (hchecked : Verified host bundle)
    (hscanned : ∀ again, host.scanCredentialMaterial again = none)
    (hfresh : exporting.opaqueId "installation-audit:recovery.exported" ∉
      (restoredInto host restoring bundle now).state.audit.map (·.id))
    {s : CustomerRealmInstallationState} {unsigned : UnsignedRecoveryBundle}
    (hs : s = (moved host exporting (restoredInto host restoring bundle now)
      (restoredInto host restoring bundle now).state.phase "recovery.exported"
      { checkpointId := some (restoredInto host restoring bundle now).state.checkpoint.checkpointId }
      [] id).state)
    (hunsigned : unsigned = unsignedBundle exporting s
      (getRecoverySnapshot (restoredPolicy host restoring bundle)) none) :
    Verified host { unsigned with
      integrity := { digest := host.bundleDigest unsigned, credentialFree := true, receipt } } := by
  have hrealm : bundle.realmSnapshot.realm.id ≠ "" := (truthy_eq_some.mp hchecked.realm).2
  obtain ⟨resources, hresources, howner, -⟩ := hchecked.resources
  subst hunsigned hs
  refine {
    scanned := hscanned _
    protocol := ⟨rfl, rfl⟩
    hosting := rfl
    installation := rfl
    realm := truthy_eq_some.mpr ⟨rfl, hrealm⟩
    snapshot := rfl
    credentialFree := ⟨rfl, rfl⟩
    account := hchecked.account
    resources := ⟨{ resources with state := .recoveryPending }, ?_, howner, ?_⟩
    checkpoint := rfl
    commands := rfl
    audit := rfl
    commandIds := hchecked.commandIds
    auditIds := ?_
    grants := grantErrors_loadedSnapshot hchecked.grants
    digest := rfl }
  · show (bundle.state.resources.map _) = _
    rw [show bundle.state.resources = some resources from hresources]
    rfl
  · rintro ⟨⟨⟩, -⟩
  · obtain ⟨verified, -, haudit⟩ := @restoredInto_audit host bundle restoring now
    rw [haudit] at hfresh
    show auditErrors [] ((restoredInto host restoring bundle now).state.audit ++ [_]) = []
    rw [haudit]
    simp only [List.cons_append, List.nil_append, auditErrors, List.append_nil,
      List.append_eq_nil_iff, problem_eq_nil]
    refine ⟨List.not_mem_nil, ?_⟩
    have htext : toString "installation-audit:" ++ toString "recovery.exported" =
        "installation-audit:recovery.exported" := rfl
    rw [htext]
    simpa using hfresh

theorem restoredInto_exports {restoring exporting : InstallationWorld} {now : String}
    (hverified : host.bundleErrors bundle = [])
    (hsaved : exporting.saved "recovery.exported" = true)
    (hscanned : ∀ again, host.scanCredentialMaterial again = none)
    (hfresh : exporting.opaqueId "installation-audit:recovery.exported" ∉
      (restoredInto host restoring bundle now).state.audit.map (·.id)) :
    ∃ again next, exportRecovery host exporting none (restoredInto host restoring bundle now) =
      (.ok again, next) ∧ host.bundleErrors again = [] := by
  obtain ⟨hchecked, -⟩ := bundleErrors_eq_nil.mp hverified
  have hrealm : bundle.realmSnapshot.realm.id ≠ "" := (truthy_eq_some.mp hchecked.realm).2
  have hidentity : truthy (restoredInto host restoring bundle now).state.realmId =
      some bundle.realmSnapshot.realm.id := truthy_eq_some.mpr ⟨rfl, hrealm⟩
  have hfound : ((restoredInto host restoring bundle now).identity.bind fun identity =>
      (truthy (restoredInto host restoring bundle now).state.realmId).map fun realmId =>
        (identity, realmId)) =
      some (restoredPolicy host restoring bundle, bundle.realmSnapshot.realm.id) := by
    rw [hidentity]
    rfl
  rw [exportRecovery, self_bind,
    Transact.bind_of_ok (Transact.orThrow_eq_ok.mpr ⟨hfound, rfl⟩)]
  show ∃ again next, (requireProjectExport host _ none >>= _) _ = (.ok again, next) ∧ _
  rw [Transact.bind_of_ok (a := ()) (m := requireProjectExport host _ none) rfl,
    Transact.bind_of_ok (transition_saved hsaved), state_bind]
  have hagain (receipt : String) := bundleErrors_eq_nil.mpr ⟨verified_again receipt hchecked
    hscanned hfresh rfl rfl, rfl⟩
  rw [Transact.bind_of_ok (a := ()) (Transact.require_eq_ok.mpr ⟨hagain _, rfl⟩)]
  exact ⟨_, _, rfl, hagain _⟩

/-! ## The round trip -/

/-- No bundle with an export in its audit list makes the round trip. -/
theorem not_roundTrip {before : List CustomerRealmAuditEvent} {exported : CustomerRealmAuditEvent}
    (hevent : exported.eventType = "recovery.exported") (haudit : bundle.audit = before ++ [exported])
    (hverified : host.bundleErrors bundle = []) (world : InstallationWorld) :
    ¬ RoundTrip host bundle := by
  intro hround
  -- in a world that saves
  let restoring : InstallationWorld := { world with saved := fun _ => true }
  obtain ⟨restored, hrestored, -, hextends, -⟩ := hround "" restoring rfl
  rw [restoreRecovery_ok hverified rfl] at hrestored
  cases hrestored
  obtain ⟨verified, hother, honly⟩ := @restoredInto_audit host bundle restoring ""
  have hmem : exported ∈ (restoredInto host restoring bundle "").state.audit :=
    hextends.subset (by rw [haudit]; simp)
  rw [honly, List.mem_singleton] at hmem
  rw [← hmem, hevent] at hother
  exact absurd hother (by decide)

/-- **A restored installation has lost the audit list of its bundle**, and nothing else: every
bundle that is exported is restored with its other fields and can be exported again. -/
theorem restored_loses_audit {projectExport : Option ProjectExport}
    (hexport : exportRecovery host world projectExport installation = (.ok bundle, next)) :
    Restorable host bundle (fun audit => ∃ verified : CustomerRealmAuditEvent,
        verified.eventType = "recovery.verified" ∧ audit = [verified]) ∧
      ¬ RoundTrip host bundle := by
  obtain ⟨hverified, -, hcommands, exported, hevent, haudit⟩ := exportRecovery_ok hexport
  constructor
  · intro now restoring hsaved
    exact ⟨_, restoreRecovery_ok hverified hsaved, restoredInto_survives hcommands,
      restoredInto_audit, fun _ => restoredInto_exports hverified⟩
  · exact not_roundTrip hevent haudit hverified world

end

/-! ## A bundle of a run -/

/-- The bundle of an installation with an owner. -/
theorem exported_enrolledOnce : ∃ bundle next,
    exportRecovery quietHost goodWorld none (ran enrolledOnce).2 = (.ok bundle, next) :=
  ⟨_, _, rfl⟩

/-- **Phases stay backed across a recovery**: also in a run whose calls are permitted or restore
the bundle that another permitted run exported. -/
theorem restored_backed {host : InstallationHost} {world : InstallationWorld}
    {projectExport : Option ProjectExport} {bundle : CustomerRealmRecoveryBundle}
    {id id' now now' : String} {tr tr' : List InstallationStep}
    {source next target : CustomerRealmInstallation}
    (hsource : PermittedRun host id now tr source)
    (hexport : exportRecovery host world projectExport source = (.ok bundle, next))
    (hrun : Run (installationStep host)
      (fun s op => Permitted s op.call ∨ op.call = .restoreRecovery bundle)
      (newInstallation host id' now') tr' target) : Backed target := by
  have hcoherent := exported_coherent (reached_kept hsource).1 hexport
  refine (hrun.invariant Sound (newInstallation_sound id' now') fun s op h hop => ?_).backed
  have hpermitted : Permitted s op.call := by
    rcases hop with hpermitted | hrestore
    · exact hpermitted
    · rw [hrestore]
      exact fun _ => hcoherent
  have hkept : Kept s.state.owner s := ⟨h, fun _ h => h⟩
  exact (run_kept hkept hpermitted).sound

/-- `restored_backed`, of the bundle of `exported_enrolledOnce` in a new installation. -/
theorem restored_backed_sample : ∃ bundle next,
    exportRecovery quietHost goodWorld none (ran enrolledOnce).2 = (.ok bundle, next) ∧
      Backed (ran [⟨.restoreRecovery bundle, goodWorld⟩]).2 := by
  obtain ⟨bundle, next, hexport⟩ := exported_enrolledOnce
  exact ⟨bundle, next, hexport,
    restored_backed ran_enrolledOnce hexport (run_exec ⟨.inr rfl, trivial⟩)⟩

/-- It is restored with its Realm, and without its audit list. -/
theorem restored_loses_audit_sample : ∃ bundle next,
    exportRecovery quietHost goodWorld none (ran enrolledOnce).2 = (.ok bundle, next) ∧
      ¬ RoundTrip quietHost bundle := by
  obtain ⟨bundle, next, hexport⟩ := exported_enrolledOnce
  exact ⟨bundle, next, hexport, (restored_loses_audit hexport).2⟩

/-- A reachable installation whose bundle does not make the round trip: its events are not in
the audit list of the installation that is restored. -/
theorem bundle_not_roundTrip :
    InstallationRun quietHost "installation" "now" (ran enrolledOnce).1 (ran enrolledOnce).2 ∧
      ∃ bundle next, exportRecovery quietHost goodWorld none (ran enrolledOnce).2 =
        (.ok bundle, next) ∧ ¬ RoundTrip quietHost bundle := by
  refine ⟨ran_any _, ?_⟩
  obtain ⟨bundle, next, hexport⟩ := exported_enrolledOnce
  obtain ⟨hverified, -, -, exported, hevent, haudit⟩ := exportRecovery_ok hexport
  exact ⟨bundle, next, hexport, not_roundTrip hevent haudit hverified goodWorld⟩

end Anyam.Installation
