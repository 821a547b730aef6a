import Anyam.Authority.Payload

/-!
# Intent commands

`AuthorityPlaneCoordinator.apply` on the Intent commands, and what the other commands share:
the lookup of the Project a payload names and the shape of an answer.

- **`intentCreate_ok`**, **`intentComment_ok`**, **`intentUpdate_ok`**: what an accepted command
  writes. Only the Intent and its comments change, and a comment is filed under a new id.
-/

namespace Anyam.Authority

open Anyam.Lib Anyam.Kernel Anyam.Execution

/-- What `apply` returns: the snapshot with the command's writes, and the answer. -/
abbrev Applied := Except AuthorityFailure (AuthorityPlaneSnapshot × AuthorityCommandResult)

/-- An answer of `apply`, with the version the snapshot had. -/
def answer (status : AuthorityStatus) (command : AuthorityCommandName)
    (next : AuthorityPlaneSnapshot) (value : List AuthorityValue) (receipt : String) :
    AuthorityCommandResult where
  command
  status
  version := next.version
  value
  receipt

abbrev success := answer .succeeded

/-- `blocked(value, receipt, recoveryAction)` and `indeterminate(…)`. -/
def unsettled (status : AuthorityStatus) (command : AuthorityCommandName)
    (next : AuthorityPlaneSnapshot) (value : List AuthorityValue)
    (receipt recoveryAction : String) : AuthorityCommandResult :=
  { answer status command next value receipt with recoveryAction := some recoveryAction }

/-- How a receipt shows `value ?? absent`. -/
def shown (value : Option Json) (absent : String) : String :=
  ((nullish value).map Json.toText).getD absent

/-- The Project `payload.projectId` names, when it is there. -/
def requestedProject (next : AuthorityPlaneSnapshot) (payload : Payload) : Option Project :=
  (optionalString (payload.get? "projectId")).bind next.projects.get?

/-- The Project of a command that needs one; the refusal names what was not made. -/
def currentProject (next : AuthorityPlaneSnapshot) (payload : Payload)
    (recoveryAction effect : String) : Except AuthorityFailure Project :=
  match requestedProject next payload with
  | some project => .ok project
  | none => do
    let id ← requiredString (payload.get? "projectId") "projectId"
    let given := shown (payload.get? "projectId") "missing"
    .error (refusal .notFound s!"Project {id} does not exist." recoveryAction
      s!"project={given}; {effect}")

theorem currentProject_ok {next : AuthorityPlaneSnapshot} {payload : Payload}
    {recoveryAction effect : String} {project : Project}
    (h : currentProject next payload recoveryAction effect = .ok project) :
    requestedProject next payload = some project := by
  unfold currentProject at h
  cases hp : requestedProject next payload with
  | some found =>
    rw [hp] at h
    exact congrArg some (Except.ok.inj h)
  | none =>
    rw [hp] at h
    obtain ⟨_, -, h⟩ := bind_eq_ok.mp h
    cases h

/-! ## The commands -/

def intentCreate (next : AuthorityPlaneSnapshot) (payload : Payload) (session : AuthoritySession)
    (drawn : Drawn) : Applied := do
  let project ← currentProject next payload
    "create or restore the Project before creating an Intent" "intent=not-created"
  let id := (optionalString (payload.get? "intentId")).getD (drawn.opaqueId "intent")
  require (next.intents.get? id = none) (refusal .conflict
    s!"Intent {id} already exists."
    "reuse the original idempotency key or choose a new Intent identity"
    s!"intent={id}; exists=true; transition=not-applied")
  let disclosure ← enumStringOr (payload.get? "disclosure") "disclosure" disclosures .project
  let assigneePrincipalIds ←
    definedStrings (payload.get? "assigneePrincipalIds") "assigneePrincipalIds"
  let labels ← definedStrings (payload.get? "labels") "labels"
  let title ← requiredString (payload.get? "title") "title"
  let intent : Intent := {
    id
    projectId := project.id
    title
    description := (optionalString (payload.get? "description")).getD ""
    status := .open
    author := actorRef session
    assigneePrincipalIds
    labels
    disclosure
    createdAt := drawn.now
    updatedAt := drawn.now
    receipt := s!"intent=created; project={project.id}; status=open; disclosure={disclosure}; canonicalWrite=false" }
  return (next.put .intents id intent, success .intentCreate next [.intent intent] intent.receipt)

/-- The Intent `payload.intentId` names. -/
def existingIntent (next : AuthorityPlaneSnapshot) (payload : Payload)
    (command : AuthorityCommandName) : Except AuthorityFailure Intent := do
  let intentId ← requiredString (payload.get? "intentId") "intentId"
  orThrow (next.intents.get? intentId) (refusal .notFound
    s!"Intent {intentId} is not available in this Realm."
    "verify the Intent identifier without probing undiscoverable resources"
    s!"intent={intentId}; operation={command}; discoverable=false")

def intentAssign (next : AuthorityPlaneSnapshot) (payload : Payload) (drawn : Drawn) :
    Applied := do
  let existing ← existingIntent next payload .intentAssign
  let intentId ← requiredString (payload.get? "intentId") "intentId"
  let projectId := optionalString (payload.get? "projectId")
  let requested := projectId.getD ""
  require (∀ id ∈ projectId, existing.projectId = id) (refusal .notFound
    s!"Intent {intentId} is not available for Project {requested}."
    "verify the Intent identifier within the requested Project"
    s!"intent={intentId}; project={requested}; operation=intent.assign; discoverable=false")
  let assigneePrincipalIds ←
    stringArray (payload.get? "assigneePrincipalIds") "assigneePrincipalIds" true true
  let assignees :=
    if assigneePrincipalIds = [] then "none" else String.intercalate "," assigneePrincipalIds
  let updated : Intent := {
    existing with
    assigneePrincipalIds
    updatedAt := drawn.now
    receipt := s!"intent=assigned; id={intentId}; assignees={assignees}; canonicalWrite=false" }
  return (next.put .intents intentId updated,
    success .intentAssign next [.intent updated] updated.receipt)

def intentComment (next : AuthorityPlaneSnapshot) (payload : Payload)
    (session : AuthoritySession) (drawn : Drawn) : Applied := do
  let existing ← existingIntent next payload .intentComment
  let intentId ← requiredString (payload.get? "intentId") "intentId"
  let disclosure ← enumStringOr (payload.get? "disclosure") "disclosure" disclosures
    existing.disclosure
  require (disclosureAllows existing.disclosure disclosure = true) (refusal .conflict
    s!"Intent comment disclosure {disclosure} exceeds Intent {intentId} disclosure {existing.disclosure}."
    "use a disclosure no broader than the Intent or create a separately governed Intent"
    s!"intent={intentId}; intentDisclosure={existing.disclosure}; commentDisclosure={disclosure}; comment=not-created")
  let commentId := (optionalString (payload.get? "commentId")).getD
    (drawn.opaqueId "intent-comment")
  require (next.intentComments.get? commentId = none) (refusal .conflict
    s!"Intent comment {commentId} already exists."
    "reuse the original idempotency key or choose a new comment identity"
    s!"comment={commentId}; exists=true; transition=not-applied")
  let body ← requiredString (payload.get? "body") "body"
  let comment : IntentComment := {
    id := commentId
    intentId
    projectId := existing.projectId
    author := actorRef session
    body
    disclosure
    createdAt := drawn.now
    receipt := s!"intent=commented; id={intentId}; comment={commentId}; disclosure={disclosure}; canonicalWrite=false" }
  let updated : Intent := {
    existing with
    updatedAt := comment.createdAt
    receipt := s!"{existing.receipt}; comments=updated; lastComment={commentId}" }
  return ((next.put .intentComments commentId comment).put .intents intentId updated,
    success .intentComment next [.intent updated, .comment comment] comment.receipt)

/-- `intent.close` and `intent.reopen`. -/
def intentStatus (desired : IntentStatus) (command : AuthorityCommandName)
    (next : AuthorityPlaneSnapshot) (payload : Payload) (session : AuthoritySession)
    (drawn : Drawn) : Applied := do
  let existing ← existingIntent next payload command
  let intentId ← requiredString (payload.get? "intentId") "intentId"
  let updated : Intent := match desired with
    | .closed => {
      existing with
      status := .closed
      closedAt := some drawn.now
      closedBy := some (actorRef session)
      updatedAt := drawn.now
      receipt := s!"intent=closed; id={intentId}; canonicalWrite=false" }
    | .open => {
      existing with
      status := .open
      closedAt := none
      closedBy := none
      updatedAt := drawn.now
      receipt := s!"intent=reopened; id={intentId}; canonicalWrite=false" }
  if existing.status = desired then
    return (next, success command next [.intent existing]
      s!"intent={desired}; id={intentId}; unchanged=true; canonicalWrite=false")
  else
    return (next.put .intents intentId updated,
      success command next [.intent updated] updated.receipt)

def intentClose := intentStatus .closed .intentClose

def intentReopen := intentStatus .open .intentReopen

/-! ## What they write -/

section

variable {next next' : AuthorityPlaneSnapshot} {payload : Payload} {session : AuthoritySession}
  {drawn : Drawn} {result : AuthorityCommandResult}

theorem intentCreate_ok (h : intentCreate next payload session drawn = .ok (next', result)) :
    ∃ id intent, next' = next.put .intents id intent := by
  simp only [intentCreate, bind_eq_ok, require_eq_ok, exists_unit, pure_eq_ok,
    Prod.mk.injEq] at h
  obtain ⟨_, -, -, _, -, _, -, _, -, _, -, rfl, -⟩ := h
  exact ⟨_, _, rfl⟩

theorem intentAssign_ok (h : intentAssign next payload drawn = .ok (next', result)) :
    ∃ id intent, next' = next.put .intents id intent := by
  simp only [intentAssign, bind_eq_ok, require_eq_ok, exists_unit, pure_eq_ok,
    Prod.mk.injEq] at h
  obtain ⟨_, -, _, -, -, _, -, rfl, -⟩ := h
  exact ⟨_, _, rfl⟩

/-- A comment is filed under an id that was free. -/
theorem intentComment_ok (h : intentComment next payload session drawn = .ok (next', result)) :
    ∃ commentId comment id intent, next.intentComments.get? commentId = none ∧
      next' = (next.put .intentComments commentId comment).put .intents id intent := by
  simp only [intentComment, bind_eq_ok, require_eq_ok, exists_unit, pure_eq_ok,
    Prod.mk.injEq] at h
  obtain ⟨_, -, _, -, _, -, -, hnew, _, -, rfl, -⟩ := h
  exact ⟨_, _, _, _, hnew, rfl⟩

theorem intentStatus_ok {desired : IntentStatus} {command : AuthorityCommandName}
    (h : intentStatus desired command next payload session drawn = .ok (next', result)) :
    next' = next ∨ ∃ id intent, next' = next.put .intents id intent := by
  simp only [intentStatus, bind_eq_ok] at h
  obtain ⟨existing, -, intentId, -, h⟩ := h
  split at h
  · exact .inl (Prod.mk.inj (Except.ok.inj h)).1.symm
  · exact .inr ⟨intentId, _, (Prod.mk.inj (Except.ok.inj h)).1.symm⟩

end

end Anyam.Authority
