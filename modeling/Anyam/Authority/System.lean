import Anyam.Authority.Plane
import Anyam.Lib.Run

/-!
# The Authority plane as a system

The methods of an `AuthorityPlaneCoordinator` called one after the other, by anyone, with any
arguments. A call that throws leaves the snapshot as it was.

- `Writes`: the records a call leaves once it was applied, by the method that was called.
- **`perform_ok`**: an accepted call changes nothing, keeps the row of a Promotion at its goal, or
  is a transition: it steps the version by one, keeps every row, adds one event, and leaves the
  records it `Writes`.
- `AuthorityRun`: the runs from the empty snapshot.
- **`Drawn.Fresh`**: the identifiers a call draws are new and trimmed.
-/

namespace Anyam.Authority

open Anyam.Lib Anyam.Kernel Anyam.Delivery Anyam.Execution

/-! ## Calls -/

inductive AuthorityOperation
  | execute (command : AuthorityCommand) (session : AuthoritySession)
  | registerRunnerProfile (profile : RunnerProfile) (session : AuthoritySession)
  | completeRunner (command : RunnerCompletionCommand) (session : AuthoritySession)
      (custody : Option RunnerArtifactCustody)
  | executePromotion (input : PromotionExecutionRequest)
  | reconcilePromotion (input : PromotionReconciliationRequest)

/-- A call of a method, with what it draws. -/
structure AuthorityCall where
  operation : AuthorityOperation
  drawn : Drawn

/-- The command an operation is recorded as. -/
def AuthorityOperation.name : AuthorityOperation → AuthorityCommandName
  | .execute command _ => command.command
  | .registerRunnerProfile _ _ => .runnerRegister
  | .completeRunner _ _ _ => .runnerComplete
  | .executePromotion _ => .promotionExecute
  | .reconcilePromotion _ => .promotionReconcile

/-- The row a command is answered from, when its key is recorded. -/
def AuthorityOperation.row (s : AuthorityPlaneSnapshot) :
    AuthorityOperation → Option IdempotencyRecord
  | .execute command _ =>
    (optionalString (some (.string command.idempotencyKey))).bind s.idempotency.get?
  | _ => none

/-- What a call returns; only the synchronization of a Runner returns nothing. -/
abbrev AuthorityReply := Except AuthorityFailure (Option AuthorityCommandResult)

def answered (applied : AuthorityPlaneSnapshot × AuthorityCommandResult) :
    AuthorityPlaneSnapshot × Option AuthorityCommandResult :=
  (applied.1, some applied.2)

def perform (services : AuthorityServices) (state : AuthorityPlaneSnapshot) (call : AuthorityCall) :
    Except AuthorityFailure (AuthorityPlaneSnapshot × Option AuthorityCommandResult) :=
  let drawn := call.drawn
  match call.operation with
  | .execute command session => (execute services state command session drawn).map answered
  | .registerRunnerProfile profile session =>
    (registerRunnerProfile state profile session drawn).map fun next => (next, none)
  | .completeRunner command session custody =>
    (completeRunner services state command session custody drawn).map answered
  | .executePromotion input => (executePromotion services state input drawn).map answered
  | .reconcilePromotion input => (reconcilePromotion services state input drawn).map answered

/-- One call on the snapshot a coordinator holds. -/
def step (services : AuthorityServices) (call : AuthorityCall) (state : AuthorityPlaneSnapshot) :
    AuthorityReply × AuthorityPlaneSnapshot :=
  match perform services state call with
  | .ok (state', result) => (.ok result, state')
  | .error failure => (.error failure, state)

abbrev AuthorityTransition := Transition AuthorityPlaneSnapshot AuthorityCall AuthorityReply

/-- A run from the empty snapshot of a Realm. -/
abbrev AuthorityRun (services : AuthorityServices)
    (ok : AuthorityPlaneSnapshot → AuthorityCall → Prop) (realmId : String) :
    List AuthorityTransition → AuthorityPlaneSnapshot → Prop :=
  Lib.Run (step services) ok (emptyAuthorityPlaneSnapshot realmId)

/-! ## Drawn identifiers -/

/-- The kinds of identifiers the coordinator draws. -/
def drawnKinds : List String :=
  ["artifact", "authority-audit", "candidate-revision", "change", "change-revision", "evidence",
    "external-proposal", "intent", "intent-comment", "landing", "mirror", "mirror-checkpoint",
    "mirror-delivery", "mirror-operation", "project", "project-revision", "project-view",
    "projection", "promotion", "pull-request", "pull-request-review", "release", "run", "target",
    "workspace"]

/-- The identifiers a call draws: texts without blanks around them, that no record and no event of
the snapshot is filed under. -/
structure Drawn.Fresh (drawn : Drawn) (s : AuthorityPlaneSnapshot) : Prop where
  trimmed : ∀ kind ∈ drawnKinds, trim (drawn.opaqueId kind) = drawn.opaqueId kind
  records : ∀ kind ∈ drawnKinds, ∀ c ∈ Collection.all,
    (s.records c).get? (drawn.opaqueId kind) = none
  audit : ∀ event ∈ s.audit, event.id ≠ drawn.opaqueId "authority-audit"

theorem drawnKinds_unblank : ∀ kind ∈ drawnKinds,
    kind ≠ "" ∧ kind.toList.head?.any isTrimmed = false := by
  decide +kernel

-- no kind starts with a blank, so only the end of what was drawn is looked at
instance (drawn : Drawn) (s : AuthorityPlaneSnapshot) : Decidable (drawn.Fresh s) :=
  decidable_of_iff ((∀ kind ∈ drawnKinds, (drawn.uuid kind).toList.getLast?.any isTrimmed = false) ∧
      (∀ kind ∈ drawnKinds, ∀ c ∈ Collection.all,
        (s.records c).get? (drawn.opaqueId kind) = none) ∧
      ∀ event ∈ s.audit, event.id ≠ drawn.opaqueId "authority-audit")
    ⟨fun ⟨trimmed, records, audit⟩ =>
      ⟨fun kind hkind => (trim_opaqueId (drawnKinds_unblank kind hkind).1
        (drawnKinds_unblank kind hkind).2).mpr (trimmed kind hkind), records, audit⟩,
      fun h => ⟨fun kind hkind => (trim_opaqueId (drawnKinds_unblank kind hkind).1
        (drawnKinds_unblank kind hkind).2).mp (h.trimmed kind hkind), h.records, h.audit⟩⟩

/-- No record is filed under an identifier that is drawn. -/
theorem Drawn.Fresh.get? {drawn : Drawn} {s : AuthorityPlaneSnapshot} (h : drawn.Fresh s)
    (c : Collection) {kind : String} (hkind : kind ∈ drawnKinds) :
    (s.records c).get? (drawn.opaqueId kind) = none :=
  h.records kind hkind c c.mem_all

/-! ## Transitions -/

/-- The records a call leaves once it was applied: by a command, by an enrollment, by a
completion, or by the execution of a Promotion. -/
inductive Writes (services : AuthorityServices) (s : AuthorityPlaneSnapshot) (drawn : Drawn) :
    AuthorityOperation → AuthorityPlaneSnapshot → Prop
  | command {command : AuthorityCommand} {session : AuthoritySession}
      {next : AuthorityPlaneSnapshot} {applied : AuthorityCommandResult}
      (hrow : (AuthorityOperation.execute command session).row s = none)
      (hhandoff : command.command = .mirrorSync ∨ command.command = .mirrorReconcile →
        isMirrorHandoff session)
      (h : apply services s command session drawn = .ok (next, applied)) :
      Writes services s drawn (.execute command session) next
  | enrollment {profile : RunnerProfile} {session : AuthoritySession}
      (h : s.runnerProfiles.get? profile.id = none) :
      Writes services s drawn (.registerRunnerProfile profile session)
        (s.put .runnerProfiles profile.id profile)
  | completion {command : RunnerCompletionCommand} {session : AuthoritySession}
      {custody : Option RunnerArtifactCustody} {next : AuthorityPlaneSnapshot}
      {applied : AuthorityCommandResult}
      (h : applyRunnerCompletion services s command custody drawn = .ok (next, applied)) :
      Writes services s drawn (.completeRunner command session custody) next
  | promotion {operation : AuthorityOperation} {next : AuthorityPlaneSnapshot}
      (hname : operation.name.writes = [.promotions, .targets])
      (h : s.WritesOnly [.promotions, .targets] next) (hprofiles : KeepsProfiles s next) :
      Writes services s drawn operation next

/-- A transition steps the version by one, keeps every row, and adds one event. -/
structure Steps (s s' : AuthorityPlaneSnapshot) (auditId : String) : Prop where
  realmId : s'.realmId = s.realmId
  version : s'.version = s.version + 1
  idempotency : OrderedMap.Kept s.idempotency s'.idempotency
  audit : ∃ event, event.id = auditId ∧ event.stateVersion = s.version + 1 ∧
    s'.audit = s.audit ++ [event]

/-- The row of a Promotion that has reached its goal is all that is kept. -/
structure KeepsRow (s s' : AuthorityPlaneSnapshot) (key : String) (row : IdempotencyRecord) :
    Prop where
  new : s.idempotency.get? key = none
  eq : s' = { s with idempotency := s.idempotency.set key row }

/-- The Promotion an operation is on. -/
def AuthorityOperation.promotionId : AuthorityOperation → Option String
  | .executePromotion input => some input.promotionId
  | .reconcilePromotion input => some input.promotionId
  | _ => none

section

variable {services : AuthorityServices} {s s' : AuthorityPlaneSnapshot} {drawn : Drawn}
  {operation : AuthorityOperation} {call : AuthorityCall}

theorem Writes.writesOnly {next : AuthorityPlaneSnapshot}
    (h : Writes services s drawn operation next) : s.WritesOnly operation.name.writes next := by
  cases h with
  | command _ _ h => exact apply_writes h
  | enrollment _ => exact .put (.refl ..) (List.mem_singleton_self _) ..
  | completion h =>
    obtain ⟨done, receipt, -, -, -, rfl⟩ := applyRunnerCompletion_ok h
    exact done.file_writes ..
  | promotion hname h _ => exact hname ▸ h

theorem recordTransition_steps {next : AuthorityPlaneSnapshot} {command : AuthorityCommandName}
    {key fingerprint : String} {applied : AuthorityCommandResult} {session : AuthoritySession}
    {cs : List Collection} (hwrites : s.WritesOnly cs next) (hkey : s.idempotency.get? key = none) :
    Steps s (recordTransition next command key fingerprint applied session drawn).1
      (drawn.opaqueId "authority-audit") := by
  have hversion : next.version + 1 = s.version + 1 := congrArg (· + 1) hwrites.version
  refine ⟨hwrites.realmId, hversion, ?_,
    transitionEvent (next.version + 1) command key { applied with version := next.version + 1 }
      session drawn, rfl, hversion, ?_⟩
  · show OrderedMap.Kept s.idempotency (next.idempotency.set key _)
    rw [hwrites.idempotency]
    exact .set hkey
  · show next.audit ++ _ = s.audit ++ _
    rw [hwrites.audit]

/-- How an accepted call ends. -/
inductive Performed (services : AuthorityServices) (s s' : AuthorityPlaneSnapshot)
    (call : AuthorityCall) : Prop
  | unchanged (h : s' = s)
  | terminal (promotionId key : String) (promotion : PromotionRecord) (row : IdempotencyRecord)
      (hcall : call.operation.promotionId = some promotionId)
      (hpromotion : s.promotions.get? promotionId = some promotion)
      (hterminal : PromotionState.terminal promotion.state = true)
      (h : KeepsRow s s' key row)
  | transition (next : AuthorityPlaneSnapshot)
      (hwrites : Writes services s call.drawn call.operation next)
      (hrecords : s'.records = next.records)
      (hsteps : Steps s s' (call.drawn.opaqueId "authority-audit"))

/-- An operation on a Promotion, as the end of a call. -/
theorem PromotionEnds.performed {promotionId key : String} {result : AuthorityCommandResult}
    (h : PromotionEnds s s' promotionId key (call.drawn.opaqueId "authority-audit") result)
    (hcall : call.operation.promotionId = some promotionId)
    (hname : call.operation.name.writes = [.promotions, .targets]) :
    Performed services s s' call := by
  rcases h with rfl | ⟨promotion, hpromotion, hterminal, hkey, _, rfl⟩ |
    ⟨promotion, -, -, hkey, _, h⟩
  · exact .unchanged rfl
  · exact .terminal _ key promotion _ hcall hpromotion hterminal ⟨hkey, rfl⟩
  · refine .transition { s' with
      version := s.version, idempotency := s.idempotency, audit := s.audit }
      (.promotion hname ⟨h.realmId, rfl, rfl, rfl, fun c hc => ?_⟩ h.profiles) rfl
      ⟨h.realmId, h.version, h.idempotency ▸ .set hkey, h.audit⟩
    simp only [List.mem_cons, List.not_mem_nil, or_false, not_or] at hc
    exact h.records c hc.1 hc.2

theorem perform_ok {result : Option AuthorityCommandResult}
    (h : perform services s call = .ok (s', result)) : Performed services s s' call := by
  obtain ⟨operation, drawn⟩ := call
  cases operation with
  | execute command session =>
    obtain ⟨⟨_, _⟩, hexecute, heq⟩ := map_eq_ok.mp h
    obtain ⟨rfl, -⟩ := Prod.mk.inj heq
    rcases execute_ok hexecute with ⟨-, -, -, -, rfl⟩ |
      ⟨key, next, applied, hkey, hrow, hhandoff, happly, heq⟩
    · exact .unchanged rfl
    · obtain ⟨rfl, -⟩ := Prod.mk.inj heq
      have hnew : (AuthorityOperation.execute command session).row s = none := by
        rw [AuthorityOperation.row, hkey]
        exact hrow
      exact .transition next (.command hnew hhandoff happly) rfl
        (recordTransition_steps (apply_writes happly) hrow)
  | registerRunnerProfile profile session =>
    obtain ⟨_, hregister, heq⟩ := map_eq_ok.mp h
    obtain ⟨rfl, -⟩ := Prod.mk.inj heq
    rcases registerRunnerProfile_ok hregister with rfl | ⟨hnew, event, hid, hversion, rfl⟩
    · exact .unchanged rfl
    · exact .transition (s.put .runnerProfiles profile.id profile) (.enrollment hnew) rfl
        ⟨rfl, rfl, .refl _, event, hid, hversion, rfl⟩
  | completeRunner command session custody =>
    obtain ⟨⟨_, _⟩, hcomplete, heq⟩ := map_eq_ok.mp h
    obtain ⟨rfl, -⟩ := Prod.mk.inj heq
    rcases completeRunner_ok hcomplete with rfl | ⟨key, next, applied, -, hrow, happly, heq⟩
    · exact .unchanged rfl
    · obtain ⟨rfl, -⟩ := Prod.mk.inj heq
      have hwrites : Writes services s drawn (.completeRunner command session custody) next :=
        .completion happly
      exact .transition next hwrites rfl (recordTransition_steps hwrites.writesOnly hrow)
  | executePromotion input =>
    obtain ⟨⟨_, _⟩, hexecute, heq⟩ := map_eq_ok.mp h
    obtain ⟨rfl, -⟩ := Prod.mk.inj heq
    obtain ⟨key, hends⟩ := executePromotion_ok hexecute
    exact hends.performed rfl rfl
  | reconcilePromotion input =>
    obtain ⟨⟨_, _⟩, hreconcile, heq⟩ := map_eq_ok.mp h
    obtain ⟨rfl, -⟩ := Prod.mk.inj heq
    obtain ⟨key, hends⟩ := reconcilePromotion_ok hreconcile
    exact hends.performed rfl rfl

/-! ## The run rule -/

/-- A call throws, which changes nothing, or is accepted. -/
theorem step_cases (services : AuthorityServices) (call : AuthorityCall)
    (s : AuthorityPlaneSnapshot) :
    (∃ failure, perform services s call = .error failure ∧
        step services call s = (.error failure, s)) ∨
      ∃ s' result, perform services s call = .ok (s', result) ∧
        step services call s = (.ok result, s') := by
  unfold step
  rcases hperform : perform services s call with failure | ⟨s', result⟩
  · exact .inl ⟨failure, rfl, rfl⟩
  · exact .inr ⟨s', result, rfl, rfl⟩

/-- A call leaves the records as they are, or leaves what it wrote. -/
theorem step_records (services : AuthorityServices) (call : AuthorityCall)
    (s : AuthorityPlaneSnapshot) :
    (step services call s).2.records = s.records ∨
      ∃ next, Writes services s call.drawn call.operation next ∧
        (step services call s).2.records = next.records := by
  rcases step_cases services call s with ⟨failure, -, heq⟩ | ⟨s', result, hperform, heq⟩
  · exact .inl (by rw [heq])
  · rw [heq]
    cases perform_ok hperform with
    | unchanged h => exact .inl (congrArg _ h)
    | terminal _ _ _ _ _ _ _ h =>
      cases h.eq
      exact .inl rfl
    | transition next hwrites hrecords _ => exact .inr ⟨next, hwrites, hrecords⟩

end

/-! ## Concrete calls -/

namespace Sample

/-- No text is a credential, SHA-256 of a text is the text, and a signature is the key before the
message. -/
def services : AuthorityServices where
  text := ⟨id, id⟩
  sha256 := id
  scanReceipt _ := false
  scanCompletion _ := false
  scanExecutionResult _ := none
  profile := {
    scanCredentialMaterial := fun _ _ => none
    profileDigest := fun _ => "sha256:profile"
    contractDigest := fun _ _ => "sha256:contract" }
  planDigest _ := "sha256:plan"
  inputClosureDigest _ := "sha256:closure"
  buildDefinitionDigest _ := "sha256:build"
  mirrorObservationDigest _ := "sha256:observation"
  executionDigest _ := "sha256:execution"
  runner := {
    digest := id
    profileDigest := fun _ _ => "sha256:runner"
    requestDigest := fun _ => "sha256:request"
    cancellationDigest := fun _ _ => "sha256:cancellation"
    resultDigest := fun jobId attemptId _ => jobId ++ attemptId
    resultMessage := fun message => message.context.replayId
    verifyPublicKey := fun key => key ≠ ""
    verifyProof := fun key message signature => signature = key ++ message
    dateParse := fun _ => none
    localeCompare := fun _ _ => .eq }

def session : AuthoritySession where
  realmId := "realm:1"
  principalId := "principal:1"
  actorId := "actor:1"
  sessionId := "session:1"
  clientId := "anyam-web"
  authorizationEpoch := 1

/-- The Runner coordinator's own session. -/
def runnerSession : AuthoritySession :=
  { session with kind := some .runner, clientId := "anyam-runner-coordinator" }

/-- Every identifier a call draws has its key. -/
def drawn (key : String) : Drawn where
  uuid _ := key
  now := "2026-01-01T00:00:00.000Z"

/-- A command under its own key. -/
def call (key : String) (name : AuthorityCommandName) (fields : List (String × Json)) :
    AuthorityCall where
  operation := .execute {
    protocol := authorityCommandProtocol
    command := name
    idempotencyKey := key
    payload := .ofList fields } session
  drawn := drawn key

/-- A Project with one Source Space. -/
def createProject (key project revision space : String) : AuthorityCall :=
  call key .projectCreate [
    ("projectId", .string project),
    ("name", .string "Project"),
    ("referenceType", .string "git"),
    ("sourceSpaces", .array [.object [
      ("id", .string space),
      ("name", .string "Source"),
      ("classification", .string "internal"),
      ("snapshotId", .string "snapshot:1")]]),
    ("projectRevisionId", .string revision)]

def createWorkspace (key project revision workspace : String) : AuthorityCall :=
  call key .workspaceCreate [
    ("projectId", .string project),
    ("projectRevisionId", .string revision),
    ("classification", .string "project"),
    ("workspaceId", .string workspace)]

/-- A Run without a Target. -/
def requestRun (key project revision view : String) : AuthorityCall :=
  call key .runRequest [
    ("projectId", .string project),
    ("projectRevisionId", .string revision),
    ("projectViewId", .string view),
    ("runId", .string "run:1"),
    ("actionId", .string "action:1"),
    ("actionContractDigest", .string "sha256:action"),
    ("policyVersion", .string "policy:1"),
    ("capabilityGrantId", .string "grant:1")]

/-- A Change on a Revision of the Project. -/
def createChange (key project revision change : String) : AuthorityCall :=
  call key .changeCreate [
    ("projectId", .string project),
    ("intentId", .string "intent:1"),
    ("changeId", .string change),
    ("baseProjectRevisionId", .string revision)]

def openPullRequest (key project change pullRequest : String) : AuthorityCall :=
  call key .pullRequestOpen [
    ("projectId", .string project),
    ("changeId", .string change),
    ("pullRequestId", .string pullRequest),
    ("provider", .string "github"),
    ("externalKey", .string "42"),
    ("remoteRepository", .string "owner/repository"),
    ("headRef", .string "refs/heads/feature"),
    ("baseRef", .string "refs/heads/main"),
    ("headCommit", .string "commit:1"),
    ("baseCommit", .string "snapshot:1"),
    ("title", .string "Feature")]

def approvePullRequest (key pullRequest : String) : AuthorityCall :=
  call key .pullRequestReview [
    ("pullRequestId", .string pullRequest),
    ("reviewState", .string "approved"),
    ("reviewDigest", .string "sha256:review")]

def applyLanding (key changeRevision canonical projectRevision : String) : AuthorityCall :=
  call key .landingApply [
    ("changeRevisionId", .string changeRevision),
    ("expectedCanonicalProjectRevisionId", .string canonical),
    ("projectRevisionId", .string projectRevision)]

def configureMirror (key project space : String) : AuthorityCall :=
  call key .mirrorConfigure [
    ("projectId", .string project),
    ("sourceSpaceId", .string space),
    ("mirrorId", .string "mirror:1"),
    ("provider", .string "github"),
    ("remoteRepository", .string "owner/repository"),
    ("disclosure", .string "project"),
    ("refMappings", .array [.object [
      ("localRef", .string "refs/heads/main"), ("remoteRef", .string "refs/heads/main")]]),
    ("remoteGeneration", .string "generation:1"),
    ("receipt", .string "mirror=configured")]

/-- The session of the fixture of a Mirror. -/
def mirrorSession : AuthoritySession :=
  { session with kind := some .mirror, clientId := "anyam-mirror-fixture" }

/-- A proposal on a canonical Revision with a head and more fields. -/
def proposal (canonical view head : String) (fields : List (String × Json)) : Json :=
  .object ([
    ("sourceIdentity", .string "source:1"),
    ("remoteRepository", .string "owner/repository"),
    ("proposalKind", .string "pull-request"),
    ("proposalKey", .string "42"),
    ("latestHeadCommit", .string head),
    ("baseProjectRevisionId", .string canonical),
    ("projectViewId", .string view),
    ("receipt", .string "proposal=reported")] ++ fields)

/-- An operation of the Mirror that expects a remote generation, with more fields. -/
def synchronize (key canonical expected : String) (fields : List (String × Json)) :
    AuthorityCall where
  operation := .execute {
    protocol := authorityCommandProtocol
    command := .mirrorSync
    idempotencyKey := key
    payload := .ofList ([
      ("mirrorId", .string "mirror:1"),
      ("canonicalProjectRevisionId", .string canonical),
      ("canonicalRefs", .array []),
      ("remoteRefs", .array []),
      ("expectedRemoteGeneration", .string expected),
      ("remoteGeneration", .string "generation:1"),
      ("receipt", .string "mirror=synchronized")] ++ fields) } mirrorSession
  drawn := drawn key

/-- The transitions and the snapshot of some calls on the empty snapshot. -/
def after (calls : List AuthorityCall) : List AuthorityTransition × AuthorityPlaneSnapshot :=
  exec (step services) (emptyAuthorityPlaneSnapshot "realm:1") calls

theorem run_after {ok : AuthorityPlaneSnapshot → AuthorityCall → Prop} {calls : List AuthorityCall}
    (h : Admits (step services) ok (emptyAuthorityPlaneSnapshot "realm:1") calls) :
    AuthorityRun services ok "realm:1" (after calls).1 (after calls).2 :=
  run_exec h

end Sample

end Anyam.Authority
