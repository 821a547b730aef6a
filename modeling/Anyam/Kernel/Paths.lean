import Anyam.Kernel.Text

/-!
# Paths of the host file system

Node's `path.resolve`, `path.join` and `path.relative` on absolute POSIX paths, each kept
as its list of segments.
-/

namespace Anyam.Kernel

/-- An absolute path, by its segments from the root. -/
abbrev Path := List String

/-- The segments with `.`, empty segments and `..` worked out. -/
def normalizePath (segments : List String) : Path :=
  (normalizeSegments true (segments.map String.toList)).map String.ofList

def isAbsolute (candidate : String) : Bool := startsWith candidate "/"

/-- `join(base, part, …)`. A part that begins with a slash stays below the base. -/
def joinPath (base : Path) (parts : List String) : Path :=
  normalizePath (base ++ parts.flatMap (split '/'))

/-- `resolve(base, candidate)`. -/
def resolvePath (base : Path) (candidate : String) : Path :=
  if isAbsolute candidate then normalizePath (split '/' candidate) else joinPath base [candidate]

/-- `relative(base, target)`, by its segments. -/
def relativePath : Path → Path → List String
  | [], target => target
  | base, [] => base.map fun _ => ".."
  | b :: base, t :: target =>
    if b = t then relativePath base target else (b :: base).map (fun _ => "..") ++ t :: target

end Anyam.Kernel
