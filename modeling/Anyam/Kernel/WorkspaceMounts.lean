import Anyam.Kernel.Text
import Anyam.Lib.Guards

/-!
# Workspace mount validation

`validateWorkspaceMounts`: the one validator of the mapping between disclosed
Source Spaces and mount paths. Inputs are typed here, so the checks that an
argument is an array, an object or a string have no counterpart.
-/

namespace Anyam.Kernel

open Anyam.Lib

def workspaceMountValidationProtocol : String := "anyam.workspace-mount-validation/v1"

inductive WorkspaceMountValidationCode
  | sourceSpaceArrayInvalid | sourceSpaceEmpty | sourceSpaceDuplicate
  | mountArrayInvalid | mountCountMismatch | mountInvalid | mountSourceUndisclosed
  | mountSourceDuplicate | mountPathDuplicate | mountPathOverlap
deriving DecidableEq, Repr

instance : ToString WorkspaceMountValidationCode where
  toString
    | .sourceSpaceArrayInvalid => "source-space-array-invalid"
    | .sourceSpaceEmpty => "source-space-empty"
    | .sourceSpaceDuplicate => "source-space-duplicate"
    | .mountArrayInvalid => "mount-array-invalid"
    | .mountCountMismatch => "mount-count-mismatch"
    | .mountInvalid => "mount-invalid"
    | .mountSourceUndisclosed => "mount-source-undisclosed"
    | .mountSourceDuplicate => "mount-source-duplicate"
    | .mountPathDuplicate => "mount-path-duplicate"
    | .mountPathOverlap => "mount-path-overlap"

structure WorkspaceMountInput where
  sourceSpaceId : String
  mountPath : String
deriving DecidableEq, Repr

structure WorkspaceMountValidationError where
  code : WorkspaceMountValidationCode
  message : String
  sourceSpaceId : Option String := none
  mountPath : Option String := none
  conflictingSourceSpaceId : Option String := none
  conflictingMountPath : Option String := none
  recoveryAction : String
deriving DecidableEq, Repr

/-- One `name="value"` field of a receipt, absent when the value is. -/
def receiptField (name : String) : Option String → List String
  | some value => [name ++ "=" ++ jsonString value]
  | none => []

def WorkspaceMountValidationError.receipt (e : WorkspaceMountValidationError) : String :=
  "; ".intercalate (
    [s!"protocol={workspaceMountValidationProtocol}", s!"code={e.code}"]
      ++ receiptField "sourceSpaceId" e.sourceSpaceId
      ++ receiptField "mountPath" e.mountPath
      ++ receiptField "conflictingSourceSpaceId" e.conflictingSourceSpaceId
      ++ receiptField "conflictingMountPath" e.conflictingMountPath
      ++ ["transition=not-applied"])

def requiredSourceSpaceId (value : String) (index : Nat) :
    Except WorkspaceMountValidationError String := do
  require (trim value ≠ "") {
    code := .sourceSpaceEmpty
    message := s!"Source Space ID at index {index} must be a non-empty string."
    recoveryAction := "provide one non-empty Source Space ID for every disclosed Source Space" }
  return trim value

/-- `/^[A-Za-z]:/u.test(value)`. -/
def drivePath (value : String) : Bool :=
  match value.toList with
  | c :: ':' :: _ => c.isAlpha
  | _ => false

def normalizedMountPath (text : UnicodeText) (value : String) :
    Except WorkspaceMountValidationError String := do
  let replaced := text.nfkc (replaceBackslashes value)
  let segments := split '/' replaced
  let invalidSegment := segments.find? fun seg => seg = "" ∨ seg = "." ∨ seg = ".."
  require (replaced ≠ "" ∧ drivePath replaced = false ∧ replaced.toList.head? ≠ some '/' ∧
      Char.ofNat 0 ∉ replaced.toList ∧ invalidSegment = none) {
    code := .mountInvalid
    message := s!"Workspace mount path {jsonString value} is not a normalized relative path."
    mountPath := some value
    recoveryAction :=
      "use a non-empty relative mount path with no absolute, empty, dot, or traversal segment" }
  return "/".intercalate segments

def collisionKey (text : UnicodeText) (value : String) : String :=
  text.toLowerCase (text.nfkc value)

/-- The two paths collide: equal keys, or one key a path prefix of the other. -/
def overlaps (text : UnicodeText) (left right : String) : Bool :=
  let leftKey := (collisionKey text left).toList
  let rightKey := (collisionKey text right).toList
  decide (leftKey = rightKey) || (rightKey ++ ['/']).isPrefixOf leftKey ||
    (leftKey ++ ['/']).isPrefixOf rightKey

/-- The loop over the disclosed Source Space ids. -/
def collectSourceSpaceIds (values : List (String × Nat)) (seen : List String) :
    Except WorkspaceMountValidationError (List String) :=
  values.foldlM (fun seen (value, index) => do
    let sourceSpaceId ← requiredSourceSpaceId value index
    require (sourceSpaceId ∉ seen) {
      code := .sourceSpaceDuplicate
      message := s!"Source Space {sourceSpaceId} is disclosed more than once."
      sourceSpaceId := some sourceSpaceId
      recoveryAction := "include each disclosed Source Space exactly once" }
    return seen ++ [sourceSpaceId]) seen

/-- One step of the loop over the mounts: the accumulator lists the mounts
accepted so far, which is also the map from Source Space to mount. -/
def mountStep (text : UnicodeText) (sourceSpaceIds : List String)
    (mountedPaths : List WorkspaceMountInput) (value : WorkspaceMountInput) (index : Nat) :
    Except WorkspaceMountValidationError (List WorkspaceMountInput) := do
  let sourceSpaceId ← requiredSourceSpaceId value.sourceSpaceId index
  let mountPath ← normalizedMountPath text value.mountPath
  require (sourceSpaceId ∈ sourceSpaceIds) {
    code := .mountSourceUndisclosed
    message := s!"Workspace mount {mountPath} references Source Space {sourceSpaceId}, which is not disclosed by the Project View."
    sourceSpaceId := some sourceSpaceId
    mountPath := some mountPath
    recoveryAction := "mount only Source Spaces disclosed by the authorized Project View" }
  match mountedPaths.find? fun prior => prior.sourceSpaceId = sourceSpaceId with
  | some prior => throw {
      code := .mountSourceDuplicate
      message := s!"Source Space {sourceSpaceId} is assigned more than one Workspace mount."
      sourceSpaceId := some sourceSpaceId
      mountPath := some mountPath
      conflictingMountPath := some prior.mountPath
      recoveryAction := "assign exactly one mount path to each disclosed Source Space" }
  | none =>
    match mountedPaths.find? fun prior => overlaps text prior.mountPath mountPath with
    | some prior =>
      let duplicate := collisionKey text prior.mountPath = collisionKey text mountPath
      throw {
        code := if duplicate then .mountPathDuplicate else .mountPathOverlap
        message :=
          if duplicate then s!"Workspace mount path {mountPath} collides with {prior.mountPath}."
          else s!"Workspace mount path {mountPath} overlaps {prior.mountPath}."
        sourceSpaceId := some sourceSpaceId
        mountPath := some mountPath
        conflictingSourceSpaceId := some prior.sourceSpaceId
        conflictingMountPath := some prior.mountPath
        recoveryAction := "choose unique, non-overlapping mount paths; separators and case must resolve to distinct paths" }
    | none => return mountedPaths ++ [⟨sourceSpaceId, mountPath⟩]

/-- `validateWorkspaceMounts`. -/
def validateWorkspaceMounts (text : UnicodeText) (sourceSpaceIds : List String)
    (mounts : List WorkspaceMountInput) :
    Except WorkspaceMountValidationError (List WorkspaceMountInput) := do
  require (sourceSpaceIds ≠ []) {
    code := .sourceSpaceArrayInvalid
    message := "Workspace composition must disclose at least one Source Space."
    recoveryAction := "disclose at least one Source Space before creating a Workspace" }
  let ids ← collectSourceSpaceIds sourceSpaceIds.zipIdx []
  let mountedPaths ← mounts.zipIdx.foldlM
    (fun mountedPaths (value, index) => mountStep text ids mountedPaths value index) []
  require (mounts.length = ids.length) {
    code := .mountCountMismatch
    message := s!"Workspace mount count {mounts.length} does not match disclosed Source Space count {ids.length}."
    recoveryAction := "provide exactly one mount for every disclosed Source Space, with no extras" }
  forM ids fun sourceSpaceId =>
    require (∃ mount ∈ mountedPaths, mount.sourceSpaceId = sourceSpaceId) {
      code := .mountCountMismatch
      message := s!"Workspace Source Space {sourceSpaceId} has no mount."
      sourceSpaceId := some sourceSpaceId
      recoveryAction := "provide exactly one mount for every disclosed Source Space" }
  return mountedPaths

/-- `validateWorkspaceMountPaths`: the paths pair up with the Source Spaces by position. -/
def validateWorkspaceMountPaths (text : UnicodeText) (sourceSpaceIds mountPaths : List String) :
    Except WorkspaceMountValidationError (List WorkspaceMountInput) := do
  require (mountPaths.length = sourceSpaceIds.length) {
    code := .mountCountMismatch
    message := s!"Workspace mount count {mountPaths.length} does not match disclosed Source Space count {sourceSpaceIds.length}."
    recoveryAction := "provide exactly one mount path for every disclosed Source Space, with no extras" }
  validateWorkspaceMounts text sourceSpaceIds
    (sourceSpaceIds.zipWith WorkspaceMountInput.mk mountPaths)

end Anyam.Kernel
