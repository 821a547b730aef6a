import Anyam.Installation.CustomerRealmInvariant
import Anyam.Lib.Run

/-!
# Runs of an installation

Runs of calls of one installation, from a new one.

- `InstallationRun`: a run of any calls with any answers; `PermittedRun`: one whose calls are
  permitted where they are made.
- **`run_backed`**: what holds in every state of a permitted run.
- `exported_coherent`: the bundle of an installation that keeps the invariant is coherent.
-/

namespace Anyam.Installation

open Anyam.Lib Anyam.Identity Anyam.Kernel Anyam.Portability

abbrev InstallationStep :=
  Transition CustomerRealmInstallation InstallationOp (Except InstallationFailure Unit)

/-- A run of any calls. -/
abbrev InstallationRun (host : InstallationHost) (installationId now : String)
    (tr : List InstallationStep) (installation : CustomerRealmInstallation) : Prop :=
  Run (installationStep host) (fun _ _ => True) (newInstallation host installationId now) tr
    installation

/-- A run whose calls are permitted where they are made. -/
abbrev PermittedRun (host : InstallationHost) (installationId now : String)
    (tr : List InstallationStep) (installation : CustomerRealmInstallation) : Prop :=
  Run (installationStep host) (fun installation op => Permitted installation op.call)
    (newInstallation host installationId now) tr installation

section

variable {host : InstallationHost} {installationId now : String} {tr : List InstallationStep}
  {installation : CustomerRealmInstallation}

/-- The invariant holds at the end of a permitted run, and the owner is that of every state of the
run that has one. -/
theorem reached_kept (hrun : PermittedRun host installationId now tr installation) :
    Sound installation ∧ ∀ t ∈ tr, Kept t.pre.state.owner installation := by
  induction hrun with
  | nil => exact ⟨newInstallation_sound installationId now, by rintro _ ⟨⟩⟩
  | @snoc tr s op hrun hpermitted ih =>
    have hnext {owner : Option CustomerRealmOwner} (h : Kept owner s) :
        Kept owner (installationStep host op s).2 := run_kept h hpermitted
    refine ⟨(hnext ⟨ih.1, fun _ h => h⟩).sound, fun t ht => ?_⟩
    rcases List.mem_append.mp ht with hold | hlast
    · exact hnext (ih.2 t hold)
    · obtain rfl := List.mem_singleton.mp hlast
      exact hnext ⟨ih.1, fun _ h => h⟩

/-- **Phases are backed by facts.** In every state that a run of permitted calls reaches, whatever
the provider, the importer and the store answer: the phase is backed by its facts, the policy has
one owner, and an owner that any earlier state had is still the owner. -/
theorem run_backed (hrun : PermittedRun host installationId now tr installation) :
    Backed installation ∧ ∀ t ∈ tr, ∀ owner, t.pre.state.owner = some owner →
      installation.state.owner = some owner := by
  obtain ⟨hsound, hkept⟩ := reached_kept hrun
  exact ⟨hsound.backed, fun t ht owner howner => (hkept t ht).owner owner howner⟩

/-- The bundle of an installation that keeps the invariant is coherent, so that it can be
restored. -/
theorem exported_coherent {world : InstallationWorld} {projectExport : Option ProjectExport}
    {bundle : CustomerRealmRecoveryBundle} {next : CustomerRealmInstallation}
    (h : Sound installation)
    (hexport : exportRecovery host world projectExport installation = (.ok bundle, next)) :
    Coherent bundle := by
  rw [exportRecovery, self_bind] at hexport
  obtain ⟨⟨identity, realmId⟩, mid, hfound, hexport⟩ := Transact.bind_eq_ok.mp hexport
  obtain ⟨hpair, rfl⟩ := Transact.orThrow_eq_ok.mp hfound
  obtain ⟨_, mid, hread, hexport⟩ := Transact.bind_eq_ok.mp hexport
  obtain rfl : installation = mid := keeps_requireProjectExport.leaves hread
  obtain ⟨_, mid, hmoved, hexport⟩ := Transact.bind_eq_ok.mp hexport
  by_cases hstore : world.saved "recovery.exported" = true
  · rw [transition_saved hstore] at hmoved
    cases hmoved
    rw [state_bind] at hexport
    obtain ⟨_, _, hverified, hbundle⟩ := Transact.bind_eq_ok.mp hexport
    obtain ⟨rfl, -⟩ := Transact.pure_eq_ok.mp hbundle
    exact ⟨h.imported, h.remembered, h.policy identity (of_bind_map hpair).1⟩
  · rw [transition_failed hstore] at hmoved
    cases hmoved

end

/-! ## A second owner, and a Realm without resources -/

def quietHost : InstallationHost where
  textDigest := fun text => text
  inputDigest := fun _ => "input"
  stateDigest := fun _ => "state"
  snapshotDigest := fun _ => "snapshot"
  commandsDigest := fun _ => "commands"
  auditDigest := fun _ => "audit"
  bundleDigest := fun _ => "bundle"
  scanCredentialMaterial := fun _ => none
  manifest := {
    cwd := []
    digestText := id
    stableStringify := fun value => value.receipt
    credentialField := fun _ => none }
  realm := { dateParse := fun _ => none, toISOString := fun _ => "now", tokenDigest := id }

/-- A provider that finds and provisions what it is asked for, and a store that saves. -/
def goodWorld : InstallationWorld where
  inspectAccount := fun accountId _ =>
    some (.succeeded "inspection" ⟨accountId, "customer", "customer", true, "inspected"⟩ "receipt")
  provisionRealm := fun accountId _ _ _ requestedResourceTypes =>
    some (.succeeded "provision"
      ⟨accountId, "customer", ["database"], requestedResourceTypes, .verified, "provisioned"⟩
      "receipt")
  inspectProvision := fun _ _ _ _ => none
  startImport := fun _ _ _ _ _ _ => none
  resumeImport := fun _ _ _ => none
  saved := fun _ => true
  nowIso := fun _ => "now"
  opaqueId := id
  drawn := { uuid := fun _ => "one", token := "token" }
  clock := fun _ => 0

/-- The provisioning does not get through. -/
def brokenWorld : InstallationWorld :=
  { goodWorld with
    provisionRealm := fun _ installationId operationId _ _ =>
      some (.failed (failure "cloudflare.unavailable" .providerOutage installationId operationId
        true [] "retry" "unavailable")) }

def installAccount : InstallationCall :=
  .install { accountId := "account", requestedResourceTypes := ["d1"], ownerConfirmed := true }

def reportReady : InstallationCall :=
  .recordDeploymentReadiness
    { operationId := "readiness", status := .ready, receipt := "ready", recoveryAction := "none" }

def enrollOwner (name : String) : InstallationCall :=
  .enrollVerifiedOwner {
    displayName := name
    authentication := .passkey name "verified"
    recovery := { method := .hardwareKey, enrollmentReceipt := "enrolled" }
    principalId := some name }

def ran (operations : List InstallationOp) : List InstallationStep × CustomerRealmInstallation :=
  exec (installationStep quietHost) (newInstallation quietHost "installation" "now") operations

/-- A report before the enrollment and one after it, and then another enrollment. -/
def enrolledTwice : List InstallationOp := [
  ⟨installAccount, goodWorld⟩,
  ⟨reportReady, goodWorld⟩,
  ⟨enrollOwner "ada", goodWorld⟩,
  ⟨reportReady, goodWorld⟩,
  ⟨enrollOwner "grace", { goodWorld with drawn := { uuid := fun _ => "two", token := "token" } }⟩]

/-- An enrollment that is not saved, and then another one. -/
def enrolledUnsaved : List InstallationOp := [
  ⟨installAccount, goodWorld⟩,
  ⟨enrollOwner "ada", { goodWorld with saved := fun _ => false }⟩,
  ⟨enrollOwner "grace", { goodWorld with drawn := { uuid := fun _ => "two", token := "token" } }⟩]

/-- A report after a provisioning that failed. -/
def reportedBroken : List InstallationOp := [
  ⟨installAccount, brokenWorld⟩,
  ⟨reportReady, goodWorld⟩]

/-- One enrollment, after a report. -/
def enrolledOnce : List InstallationOp := [
  ⟨installAccount, goodWorld⟩,
  ⟨reportReady, goodWorld⟩,
  ⟨enrollOwner "ada", goodWorld⟩]

theorem ran_enrolledOnce :
    PermittedRun quietHost "installation" "now" (ran enrolledOnce).1 (ran enrolledOnce).2 := by
  refine run_exec ⟨trivial, fun _ => ?_, fun _ => ⟨rfl, ?_⟩, trivial⟩
  · rintro ⟨⟩
  · rintro _ ⟨⟩
    -- the policy of a new Realm
    rintro _ ⟨⟩

theorem run_backed_sample :
    (ran enrolledOnce).2.state.phase = .ownerReady ∧ Backed (ran enrolledOnce).2 :=
  ⟨rfl, (run_backed ran_enrolledOnce).1⟩

theorem ran_any (operations : List InstallationOp) :
    InstallationRun quietHost "installation" "now" (ran operations).1 (ran operations).2 :=
  run_exec (Admits.of_forall (fun _ _ => trivial) _ _)

instance (relationships : OrderedMap String Relationship) : Decidable (OneOwner relationships) :=
  inferInstanceAs (Decidable (∀ binding ∈ relationships.values,
    ∀ binding' ∈ relationships.values, binding.role = .owner → binding'.role = .owner →
      binding.principalId = binding'.principalId))

/-- The owner is another one after the second enrollment, and two Principals are owners; so are
they after an enrollment that was not saved; and a report of readiness is enough for `realm-ready`
when nothing was provisioned. -/
theorem phases_not_backed :
    (InstallationRun quietHost "installation" "now" (ran enrolledTwice).1 (ran enrolledTwice).2 ∧
      ¬ Backed (ran enrolledTwice).2 ∧
      ∃ t ∈ (ran enrolledTwice).1, ∃ owner, t.pre.state.owner = some owner ∧
        (ran enrolledTwice).2.state.owner ≠ some owner) ∧
    (InstallationRun quietHost "installation" "now" (ran enrolledUnsaved).1
        (ran enrolledUnsaved).2 ∧ ¬ Backed (ran enrolledUnsaved).2) ∧
    InstallationRun quietHost "installation" "now" (ran reportedBroken).1 (ran reportedBroken).2 ∧
      ¬ Backed (ran reportedBroken).2 := by
  refine ⟨⟨ran_any _, fun h => ?_, _, List.mem_of_getElem? (i := 3) rfl, _, rfl, ?_⟩,
    ⟨ran_any _, fun h => ?_⟩, ran_any _, fun h => ?_⟩
  · exact absurd (h.policy _ rfl) (by decide +kernel)
  · decide +kernel
  · exact absurd (h.policy _ rfl) (by decide +kernel)
  · obtain ⟨-, ⟨resources, hresources, hverified⟩, -⟩ := h.realm (by decide +kernel)
    have hplanned : (ran reportedBroken).2.state.resources.map (·.state) = some .provisioning := by
      decide +kernel
    rw [show (ran reportedBroken).2.state.resources = some resources from hresources,
      Option.map_some, hverified] at hplanned
    cases hplanned

end Anyam.Installation
