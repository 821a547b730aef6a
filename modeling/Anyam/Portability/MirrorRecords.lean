import Anyam.Kernel.Mirror
import Anyam.Lib.Dedupe
import Anyam.Lib.Guards
import Anyam.Lib.KeyedList

/-!
# Records of the mirror coordinator

What `portability/mirror.ts` exchanges with the remote adapter, the Change sink and its
callers, and its helper functions on refs and failures.
-/

namespace Anyam.Portability

open Anyam.Lib Anyam.Kernel

/-! ## What the adapter observes -/

structure MirrorRemoteCommit where
  oid : String
  ref : String
  author : RemoteAuthor
  message : Option String := none
  disclosure : DisclosureClassification
  originOperationId : Option String := none
deriving DecidableEq, Repr

inductive MirrorRefUpdateKind
  | unchanged | created | fastForward | forcePush | deleted
deriving DecidableEq, Repr

instance : ToString MirrorRefUpdateKind where
  toString
    | .unchanged => "unchanged"
    | .created => "created"
    | .fastForward => "fast-forward"
    | .forcePush => "force-push"
    | .deleted => "deleted"

structure MirrorRefUpdate where
  remoteRef : String
  previousOid : Option String := none
  currentOid : Option String := none
  kind : MirrorRefUpdateKind
  originOperationId : Option String := none
  receipt : String
deriving DecidableEq, Repr

structure MirrorRemoteState where
  generation : String
  refs : List GitRef
  updates : List MirrorRefUpdate
  commits : List MirrorRemoteCommit
  originOperationId : Option String := none
  receipt : String
deriving DecidableEq, Repr

structure MirrorProviderFailure where
  errorCode : String
  message : String
  retryable : Bool
  affectedObject : String
  recoveryAction : String
  receipt : String
  remoteMayHaveChanged : Option Bool := none
deriving DecidableEq, Repr

inductive MirrorProviderResult (α : Type)
  | succeeded (value : α)
  | failed (failure : MirrorProviderFailure)
deriving DecidableEq, Repr

/-- How an awaited call ends: with a result, or with a throw, of an `Error` with a name
or of something else. -/
inductive MirrorAnswer (α : Type)
  | returned (result : MirrorProviderResult α)
  | threw (errorName : Option String)
deriving DecidableEq, Repr

/-! ## What callers ask for -/

structure MirrorCanonicalState where
  projectRevisionId : String
  sourceSpaceId : String
  sourceSpaceClassification : SourceSpaceClassification
  disclosure : DisclosureClassification
  verified : Bool
  verificationReceipt : String
  refs : List GitRef
deriving DecidableEq, Repr

structure MirrorInboundChangeInput where
  projectId : String
  sourceSpaceId : String
  baseProjectRevisionId : String
  intentId : String
  title : String
  localRef : String
  remoteCommit : MirrorRemoteCommit
  origin : ChangeOrigin
deriving DecidableEq, Repr

inductive MirrorReconciliation
  | remoteAsProposal | canonicalWins
deriving DecidableEq, Repr

structure MirrorSyncInput where
  canonical : MirrorCanonicalState
  idempotencyKey : String
  actor : Option ActorRef := none
  reconciliation : Option MirrorReconciliation := none
  resumeCheckpointId : Option String := none
deriving DecidableEq, Repr

structure MirrorSyncValue where
  mirror : RepositoryMirror
  operation : MirrorOperation
  checkpoint : MirrorCheckpoint
  inboundChanges : List Change
deriving DecidableEq, Repr

structure MirrorBudget where
  name : String
  limit : String
  asked : String
  receipt : String
deriving DecidableEq, Repr

structure MirrorSyncFailure extends MirrorProviderFailure where
  mirror : RepositoryMirror
  operation : MirrorOperation
  checkpoint : MirrorCheckpoint
  budget : MirrorBudget
deriving DecidableEq, Repr

inductive MirrorSyncResult
  | succeeded (value : MirrorSyncValue)
  | failed (failure : MirrorSyncFailure)
deriving DecidableEq, Repr

structure MirrorError where
  code : String
  message : String
  affectedObject : String
  recoveryAction : String
  receipt : String
deriving DecidableEq, Repr

/-- The readings of the clock one stretch of a sync makes, in order. -/
abbrev Clock := Nat → String

/-- What the coordinator calls outside its own module: the digest of a JSON text, and the
locale's order of strings. -/
structure MirrorServices where
  digest : String → String
  localeCompare : String → String → Ordering

/-! ## Helper functions -/

def MirrorServices.stableId (services : MirrorServices) (kind json : String) : String :=
  kind ++ ":" ++ services.digest json

def nonEmpty (value field : String) : Except MirrorError Unit :=
  require (trim value ≠ "") {
    code := "mirror.invalid_input"
    message := s!"{field} must not be empty."
    affectedObject := field
    recoveryAction := s!"provide a non-empty {field} and retry the mirror operation"
    receipt := s!"field={field}; present=false" }

def disclosureRank : DisclosureClassification → Nat
  | .public => 0
  | .project => 1
  | .restricted => 2

def disclosureAllows (mirrorDisclosure observed : DisclosureClassification) : Prop :=
  disclosureRank observed ≤ disclosureRank mirrorDisclosure

instance (mirrorDisclosure observed : DisclosureClassification) :
    Decidable (disclosureAllows mirrorDisclosure observed) :=
  inferInstanceAs (Decidable (_ ≤ _))

/-- `refsMap(refs).get(name)`. -/
def refOid (refs : List GitRef) (name : String) : Option String :=
  (lastWith GitRef.name refs name).map GitRef.oid

/-- `left` and `right` have one length, and `refsMap(right)` has every ref of `left`. -/
def refsEqual (left right : List GitRef) : Prop :=
  left.length = right.length ∧ ∀ ref ∈ left, refOid right ref.name = some ref.oid

instance (left right : List GitRef) : Decidable (refsEqual left right) :=
  inferInstanceAs (Decidable (_ ∧ ∀ ref ∈ left, refOid right ref.name = some ref.oid))

/-- `refs.sort((left, right) => left.name.localeCompare(right.name))`. -/
def sortedByName (services : MirrorServices) (refs : List GitRef) : List GitRef :=
  refs.mergeSort fun left right => services.localeCompare left.name right.name ≠ .gt

def projectCanonicalRefs (services : MirrorServices) (canonical : MirrorCanonicalState)
    (mappings : List MirrorRefMapping) : List GitRef :=
  sortedByName services (mappings.filterMap fun mapping =>
    (refOid canonical.refs mapping.localRef).map fun oid => ⟨mapping.remoteRef, oid⟩)

def allowedRemoteRefs (services : MirrorServices) (refs : List GitRef)
    (mappings : List MirrorRefMapping) : List GitRef :=
  sortedByName services
    (refs.filter fun ref => ref.name ∈ mappings.map MirrorRefMapping.remoteRef)

def mappingForRemote (remoteRef : String) (mappings : List MirrorRefMapping) :
    Option MirrorRefMapping :=
  mappings.find? fun mapping => mapping.remoteRef = remoteRef

/-- `/credential|auth|token|permission|forbidden/i.test(errorCode)`. -/
def namesCredential (errorCode : String) : Bool :=
  let lowered := String.ofList (errorCode.toList.map Char.toLower)
  ["credential", "auth", "token", "permission", "forbidden"].any (includes lowered)

def classifyProviderState (failure : MirrorProviderFailure) (remoteMayHaveChanged : Bool) :
    MirrorState :=
  if namesCredential failure.errorCode then .credentialFailed
  else if remoteMayHaveChanged || failure.remoteMayHaveChanged.getD false then .divergent
  else if failure.retryable then .lagging
  else .blocked

def MirrorSyncInput.operationKind (input : MirrorSyncInput) : MirrorOperationKind :=
  if input.reconciliation.isSome then .reconcile else .sync

/-- The result of an awaited call: a throw is caught and becomes the failure. -/
def MirrorAnswer.caught {α : Type} (answer : MirrorAnswer α)
    (exception : Option String → MirrorProviderFailure) : MirrorProviderResult α :=
  match answer with
  | .returned result => result
  | .threw errorName => .failed (exception errorName)

def MirrorProviderResult.value {α : Type} : MirrorProviderResult α → Option α
  | .succeeded value => some value
  | .failed _ => none

def MirrorProviderResult.failure {α : Type} : MirrorProviderResult α → Option MirrorProviderFailure
  | .succeeded _ => none
  | .failed failure => some failure

/-- The first line of a commit message, or the OID where there is no message. -/
def MirrorRemoteCommit.title (commit : MirrorRemoteCommit) : String :=
  (commit.message.bind fun message => (split '\n' message).head?).getD
    s!"Remote change {commit.oid}"

/-! ## Facts about refs -/

variable {services : MirrorServices} {left right refs : List GitRef}
  {mappings : List MirrorRefMapping}

theorem refOid_eq_some_iff {ref : GitRef} :
    refOid refs ref.name = some ref.oid ↔ lastWith GitRef.name refs ref.name = some ref := by
  unfold refOid
  rw [Option.map_eq_some_iff]
  constructor
  · rintro ⟨found, hfound, hoid⟩
    have hname : found.name = ref.name := (lastWith_eq_some hfound).2
    rw [hfound]
    exact congrArg some (by cases found; cases ref; simp_all)
  · intro h
    exact ⟨ref, h, rfl⟩

theorem refsEqual_iff_sameListing : refsEqual left right ↔ SameListing GitRef.name left right := by
  unfold refsEqual SameListing
  exact and_congr_right fun _ => forall₂_congr fun _ _ => refOid_eq_some_iff

/-- The names of a ref list are distinct. -/
def NamesDistinct (refs : List GitRef) : Prop := (refs.map GitRef.name).Nodup

instance (refs : List GitRef) : Decidable (NamesDistinct refs) :=
  inferInstanceAs (Decidable (List.Nodup _))

/-- **`refsEqual` is equality up to the order** when the left names are distinct. -/
theorem refsEqual_iff_perm (h : NamesDistinct left) : refsEqual left right ↔ left.Perm right :=
  refsEqual_iff_sameListing.trans (sameListing_iff_perm h)

theorem sortedByName_perm : (sortedByName services refs).Perm refs := List.mergeSort_perm _ _

theorem NamesDistinct.perm (h : NamesDistinct left) (hperm : left.Perm right) :
    NamesDistinct right := (hperm.map _).nodup_iff.mp h

theorem mem_allowedRemoteRefs {ref : GitRef} :
    ref ∈ allowedRemoteRefs services refs mappings ↔
      ref ∈ refs ∧ ref.name ∈ mappings.map MirrorRefMapping.remoteRef := by
  unfold allowedRemoteRefs
  rw [sortedByName_perm.mem_iff]
  simp

/-- Observed refs with distinct names stay so when they are restricted. -/
theorem NamesDistinct.allowedRemoteRefs (h : NamesDistinct refs) :
    NamesDistinct (allowedRemoteRefs services refs mappings) := by
  have hfilter : NamesDistinct
      (refs.filter fun ref => ref.name ∈ mappings.map MirrorRefMapping.remoteRef) :=
    h.sublist (List.filter_sublist.map _)
  exact hfilter.perm sortedByName_perm.symm

/-- Each remote ref is mapped once. -/
def RemoteRefsDistinct (mappings : List MirrorRefMapping) : Prop :=
  (mappings.map MirrorRefMapping.remoteRef).Nodup

/-- A projection names each mapped ref at most once. -/
theorem projectCanonicalRefs_namesDistinct (canonical : MirrorCanonicalState)
    (h : RemoteRefsDistinct mappings) :
    NamesDistinct (projectCanonicalRefs services canonical mappings) := by
  refine NamesDistinct.perm ?_ sortedByName_perm.symm
  refine List.Nodup.sublist ?_ h
  induction mappings with
  | nil => exact List.Sublist.slnil
  | cons mapping rest ih =>
    rw [List.filterMap_cons]
    cases refOid canonical.refs mapping.localRef with
    | none => exact (ih (List.nodup_cons.mp h).2).cons _
    | some oid => exact (ih (List.nodup_cons.mp h).2).cons_cons _

end Anyam.Portability
