import Anyam.Authority.Records
import Anyam.Lib.Dedupe

/-!
# Reading a command

The readers `authority-plane.ts` takes a field of a payload apart with. Each returns the value
or refuses with the error that names the field; an absent field is `none`.

- **`optionalString_trim`**: a text that was read is trimmed and not empty.
- **`optionalString_string`**: such a text reads back as itself.
-/

namespace Anyam.Authority

open Anyam.Lib Anyam.Kernel

/-- `typeof value === "string" && value.trim().length > 0 ? value.trim() : undefined`. -/
def optionalString (value : Option Json) : Option String :=
  truthy ((value.bind Json.asString).map trim)

def requiredString (value : Option Json) (field : String) : Except AuthorityFailure String :=
  orThrow (optionalString value) (refusal .invalidRequest
    s!"{field} is required."
    s!"provide a non-empty {field} and retry; no authority transition was accepted"
    s!"{field}=required; transition=not-applied")

def credentialMaterialScannerProtocol : String := "anyam.credential-material-scanner/v1"

def receiptString (services : AuthorityServices) (value : Option Json) (field : String) :
    Except AuthorityFailure String := do
  let receipt ← requiredString value field
  require (services.scanReceipt receipt = false) (refusal .invalidRequest
    s!"{field} contains credential-like material and cannot be persisted."
    s!"send a digest-only {field} receipt without token, secret, password, authorization, or key material; no authority transition was accepted"
    s!"{field}=credential-material-rejected; scanner={credentialMaterialScannerProtocol}; transition=not-applied")
  return receipt

/-- The trimmed entries of an array of non-empty strings. -/
def trimmedStrings : List Json → Option (List String)
  | [] => some []
  | element :: elements => do
    let entry ← optionalString (some element)
    let entries ← trimmedStrings elements
    return entry :: entries

/-- `stringArray(value, field, allowEmpty, deduplicate)`. -/
def stringArray (value : Option Json) (field : String) (allowEmpty deduplicate : Bool) :
    Except AuthorityFailure (List String) := do
  let invalid := refusal .invalidRequest
    s!"{field} must be an array of non-empty strings."
    s!"provide a valid {field} array and retry; no authority transition was accepted"
    s!"{field}=string-array-required; transition=not-applied"
  let elements ← orThrow (value.bind Json.asArray) invalid
  require (allowEmpty = true ∨ elements ≠ []) invalid
  let values ← orThrow (trimmedStrings elements) invalid
  return if deduplicate then distinct values else values

/-- `stringArray(value ?? [], field, true)`. -/
def optionalStrings (value : Option Json) (field : String) :
    Except AuthorityFailure (List String) :=
  stringArray (some ((nullish value).getD (.array []))) field true true

/-- `value === undefined ? [] : stringArray(value, field, true)`. -/
def definedStrings (value : Option Json) (field : String) :
    Except AuthorityFailure (List String) :=
  stringArray (some (value.getD (.array []))) field true true

/-- `record(value, field)`. -/
def record (value : Option Json) (field : String) : Except AuthorityFailure Payload :=
  orThrow (value.bind Json.asRecord) (refusal .invalidRequest
    s!"{field} must be an object."
    s!"provide a JSON object for {field} and retry; no authority transition was accepted"
    s!"{field}=object-required; transition=not-applied")

/-- The text of a value that is cast to a string. -/
def castText : Json → String
  | .string value => value
  | value => value.stringify

/-- `value === undefined ? undefined : read(value)`. -/
def whenDefined {α : Type} (read : Option Json → Except AuthorityFailure α) :
    Option Json → Except AuthorityFailure (Option α)
  | none => .ok none
  | some value => (read (some value)).map some

/-- `value === undefined ? undefined : safeObject(value, field)`. -/
def optionalObject (value : Option Json) (field : String) :
    Except AuthorityFailure (Option Payload) :=
  whenDefined (record · field) value

/-- The properties of a value that is cast to an object; any other value has none. -/
def castObject (value : Option Json) : Payload :=
  ((nullish value).bind Json.asRecord).getD .empty

/-- `value ? … : …` on a value of any type. -/
def isTruthy : Option Json → Bool
  | none | some .null | some (.bool false) => false
  | some (.string text) => text ≠ ""
  | some (.number literal) => literal ≠ "0"
  | some _ => true

/-- `enumString(value, field, allowed)`. -/
def enumString {α : Type} [ToString α] (value : Option Json) (field : String)
    (allowed : List α) : Except AuthorityFailure α := do
  let candidate ← requiredString value field
  let supported := String.intercalate ", " (allowed.map toString)
  orThrow (allowed.find? fun entry => toString entry = candidate) (refusal .invalidRequest
    s!"{field} must be one of {supported}."
    s!"provide a supported {field} and retry; no authority transition was accepted"
    s!"{field}=unsupported; value={candidate}; transition=not-applied")

/-- `enumString(value, field, allowed, fallback)`. -/
def enumStringOr {α : Type} [ToString α] (value : Option Json) (field : String)
    (allowed : List α) (fallback : α) : Except AuthorityFailure α :=
  match value with
  | none => .ok fallback
  | some value => enumString (some value) field allowed

/-- One entry of `gitRefs`, at its index. -/
def gitRef (field : String) (value : Json) (index : Nat) : Except AuthorityFailure GitRef := do
  let ref ← orThrow value.asRecord (refusal .invalidRequest
    s!"{field}[{index}] must be an object."
    s!"provide a Git ref object for {field}[{index}]"
    s!"{field}[{index}]=object-required; transition=not-applied")
  return {
    name := ← requiredString (ref.get? "name") s!"{field}[{index}].name"
    oid := ← requiredString (ref.get? "oid") s!"{field}[{index}].oid" }

/-- The check that no ref is named twice, after the names `names` before it. -/
def distinctRefs (field : String) : List String → List GitRef → Except AuthorityFailure Unit
  | _, [] => return ()
  | names, ref :: refs => do
    require (ref.name ∉ names) (refusal .conflict
      s!"{field} contains duplicate ref {ref.name}."
      "send one observation for each ref name; no authority transition was accepted"
      s!"{field}=duplicate-ref; ref={ref.name}; transition=not-applied")
    distinctRefs field (ref.name :: names) refs

def gitRefs (value : Option Json) (field : String) : Except AuthorityFailure (List GitRef) := do
  let elements ← orThrow (value.bind Json.asArray) (refusal .invalidRequest
    s!"{field} must be an array of Git ref objects."
    ("provide " ++ field ++ " as [\x7bname, oid\x7d] and retry; no authority transition was accepted")
    s!"{field}=git-ref-array-required; transition=not-applied")
  let refs ← elements.zipIdx.mapM fun element => gitRef field element.1 element.2
  distinctRefs field [] refs
  return refs

def sameStrings (left right : List String) : Bool := left = right

/-! ## The names of the enumerations -/

instance : ToString ChangeOriginKind where
  toString
    | .local => "local"
    | .mirror => "mirror"

instance : ToString MirrorOperationState where
  toString
    | .started => "started"
    | .succeeded => "succeeded"
    | .failed => "failed"
    | .blocked => "blocked"
    | .degraded => "degraded"

instance : ToString TargetChannel where
  toString
    | .alpha => "alpha"
    | .beta => "beta"
    | .stable => "stable"
    | .custom => "custom"

instance : ToString TargetResourceSharing where
  toString
    | .isolated => "isolated"
    | .ownerApproved => "owner-approved"

instance : ToString MigrationStrategy where
  toString
    | .none => "none"
    | .expandContract => "expand-contract"
    | .manual => "manual"
    | .custom => "custom"

instance : ToString RunStatus where
  toString
    | .queued => "queued"
    | .running => "running"
    | .succeeded => "succeeded"
    | .failed => "failed"
    | .indeterminate => "indeterminate"

instance : ToString ChangeStatus where
  toString
    | .draft => "draft"
    | .active => "active"
    | .submitted => "submitted"
    | .landed => "landed"
    | .blocked => "blocked"
    | .abandoned => "abandoned"

def disclosures : List DisclosureClassification := [.public, .project, .restricted]

/-! ## The origin of a Change -/

/-- `origin.remoteAuthor`, when there is one. -/
def remoteAuthorFromPayload (value : Option Json) :
    Except AuthorityFailure (Option RemoteAuthor) := do
  match ← optionalObject value "origin.remoteAuthor" with
  | none => return none
  | some author => return some {
      name := ← requiredString (author.get? "name") "origin.remoteAuthor.name"
      email := optionalString (author.get? "email") }

/-- `origin.externalProposalKind`, when there is one. -/
def proposalKindFromPayload (value : Option Json) :
    Except AuthorityFailure (Option ProposalKind) :=
  whenDefined (enumString · "origin.externalProposalKind" [ProposalKind.pullRequest, .ref, .commit])
    value

def changeOriginFromPayload (services : AuthorityServices) (value : Option Json) :
    Except AuthorityFailure (Option ChangeOrigin) := do
  match ← optionalObject value "origin" with
  | none => return none
  | some origin =>
    let kind ← enumString (origin.get? "kind") "origin.kind" [ChangeOriginKind.local, .mirror]
    let disclosure ← enumString (origin.get? "disclosure") "origin.disclosure" disclosures
    let remoteAuthor ← remoteAuthorFromPayload (origin.get? "remoteAuthor")
    let proposalKind ← proposalKindFromPayload (origin.get? "externalProposalKind")
    let source ← requiredString (origin.get? "source") "origin.source"
    let receipt ← receiptString services (origin.get? "receipt") "origin.receipt"
    return some {
      kind
      source
      mirrorId := optionalString (origin.get? "mirrorId")
      remoteRepository := optionalString (origin.get? "remoteRepository")
      remoteRef := optionalString (origin.get? "remoteRef")
      remoteCommit := optionalString (origin.get? "remoteCommit")
      remoteAuthor
      externalProposalKey := optionalString (origin.get? "externalProposalKey")
      externalProposalKind := proposalKind.map toString
      externalProposalHead := optionalString (origin.get? "externalProposalHead")
      externalProposalBase := optionalString (origin.get? "externalProposalBase")
      externalProposalInstallation := optionalString (origin.get? "externalProposalInstallation")
      externalProposalSourceIdentity :=
        optionalString (origin.get? "externalProposalSourceIdentity")
      externalDeliveryId := optionalString (origin.get? "externalDeliveryId")
      disclosure
      receipt }

/-! ## The fingerprint of a command -/

/-- `fingerprint(command)`. -/
def fingerprint (command : AuthorityCommand) : String :=
  (Json.object ([
    ("protocol", .string command.protocol),
    ("command", .string (toString command.command)),
    ("idempotencyKey", .string command.idempotencyKey)]
    ++ (command.expectedVersion.map fun version =>
        ("expectedVersion", Json.number (toString version))).toList
    ++ [("payload", .object command.payload.entries)])).stringify

/-! ## A payload that is put together -/

/-- The object of the fields that have a value, in their order. -/
def objectOf (fields : List (String × Option Json)) : Payload :=
  fields.foldl (fun object field =>
    match field.2 with
    | some value => object.set field.1 value
    | none => object) .empty

/-! ## What was read -/

theorem optionalString_eq_some {value : Option Json} {text : String} :
    optionalString value = some text ↔
      ∃ given, value = some (.string given) ∧ trim given = text ∧ text ≠ "" := by
  rw [optionalString, truthy_eq_some, Option.map_eq_some_iff]
  constructor
  · rintro ⟨⟨given, hgiven, rfl⟩, hne⟩
    obtain ⟨json, rfl, hjson⟩ := Option.bind_eq_some_iff.mp hgiven
    cases json <;> cases hjson
    exact ⟨given, rfl, rfl, hne⟩
  · rintro ⟨given, rfl, rfl, hne⟩
    exact ⟨⟨given, rfl, rfl⟩, hne⟩

theorem requiredString_eq_ok {value : Option Json} {field text : String} :
    requiredString value field = .ok text ↔ optionalString value = some text :=
  orThrow_eq_ok

/-- A text that was read is trimmed and not empty. -/
theorem optionalString_trim {value : Option Json} {text : String}
    (h : optionalString value = some text) : trim text = text ∧ text ≠ "" := by
  obtain ⟨given, -, rfl, hne⟩ := optionalString_eq_some.mp h
  exact ⟨trim_trim given, hne⟩

/-- A field that is put after the ones read is not read. -/
theorem foldl_fields_get? {key : String} :
    ∀ {fields : List (String × Option Json)} {object : Payload}, key ∉ fields.map Prod.fst →
      (fields.foldl (fun object field =>
        match field.2 with
        | some value => object.set field.1 value
        | none => object) object).get? key = object.get? key
  | [], _, _ => rfl
  | (_, none) :: fields, object, h => by
    rw [List.foldl_cons]
    exact foldl_fields_get? fun hmem => h (List.mem_cons_of_mem _ hmem)
  | (name, some value) :: fields, object, h => by
    have hne : key ≠ name := fun heq => h (heq ▸ List.mem_cons_self ..)
    rw [List.foldl_cons, foldl_fields_get? fun hmem => h (List.mem_cons_of_mem _ hmem),
      OrderedMap.get?_set_ne _ _ hne]

/-- A payload that is put together of fields with different names has each of them. -/
theorem objectOf_get? {fields : List (String × Option Json)} (hnodup : (fields.map Prod.fst).Nodup)
    {key : String} {value : Option Json} (h : (key, value) ∈ fields) :
    (objectOf fields).get? key = value := by
  obtain ⟨before, after, rfl⟩ := List.append_of_mem h
  rw [List.map_append, List.map_cons] at hnodup
  have hbefore : key ∉ before.map Prod.fst := fun hmem =>
    List.disjoint_of_nodup_append hnodup hmem (List.mem_cons_self ..)
  have hafter : key ∉ after.map Prod.fst :=
    (List.nodup_cons.mp (List.nodup_append.mp hnodup).2.1).1
  rw [objectOf, List.foldl_append, List.foldl_cons, foldl_fields_get? hafter]
  cases value with
  | none => exact (foldl_fields_get? hbefore).trans (OrderedMap.get?_empty key)
  | some value => exact OrderedMap.get?_set_self _ _ _

/-- It has no other field. -/
theorem objectOf_get?_eq_none {fields : List (String × Option Json)} {key : String}
    (h : key ∉ fields.map Prod.fst) : (objectOf fields).get? key = none :=
  (foldl_fields_get? h).trans (OrderedMap.get?_empty key)

end Anyam.Authority
