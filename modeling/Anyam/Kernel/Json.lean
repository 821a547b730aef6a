import Anyam.Kernel.Text
import Anyam.Lib.OrderedMap

/-!
# JSON values

The values of a parsed JSON text, with the two ways the host language turns one into a
string: `JSON.stringify` and `String(…)`. A number is kept as the literal it is printed as.
An object keeps its entries in the order they were written; of entries with one key the last
counts, as `JSON.parse` has it.

An absent property is `none` and an explicit `null` is `some .null`; `nullish` is the test
of `??`, which takes both for absent.
-/

namespace Anyam.Kernel

open Anyam.Lib

inductive Json
  | null
  | bool (value : Bool)
  | number (literal : String)
  | string (value : String)
  | array (elements : List Json)
  | object (fields : List (String × Json))

namespace Json

mutual

/-- `JSON.stringify(value)`. -/
def stringify : Json → String
  | .null => "null"
  | .bool value => if value then "true" else "false"
  | .number literal => literal
  | .string value => jsonString value
  | .array elements => "[" ++ String.intercalate "," (stringifyElements elements) ++ "]"
  | .object fields => "\x7b" ++ String.intercalate "," (stringifyFields fields) ++ "\x7d"

def stringifyElements : List Json → List String
  | [] => []
  | element :: elements => element.stringify :: stringifyElements elements

def stringifyFields : List (String × Json) → List String
  | [] => []
  | (key, value) :: fields => (jsonString key ++ ":" ++ value.stringify) :: stringifyFields fields

end

mutual

/-- `String(value)`. An absent element of an array cannot occur in JSON; `null` prints as
nothing there. -/
def toText : Json → String
  | .null => "null"
  | .bool value => if value then "true" else "false"
  | .number literal => literal
  | .string value => value
  | .array elements => String.intercalate "," (elementTexts elements)
  | .object _ => "[object Object]"

def elementTexts : List Json → List String
  | [] => []
  | .null :: elements => "" :: elementTexts elements
  | element :: elements => element.toText :: elementTexts elements

end

/-- The entries of an object; `none` for every other value. -/
def asRecord : Json → Option (OrderedMap String Json)
  | .object fields => some (.ofList fields)
  | _ => none

def asString : Json → Option String
  | .string value => some value
  | _ => none

def asArray : Json → Option (List Json)
  | .array elements => some elements
  | _ => none

/-- The value of an object for a map of texts. -/
def ofTexts (texts : OrderedMap String String) : Json :=
  .object (texts.entries.map fun entry => (entry.1, .string entry.2))

/-- The value of an array of texts. -/
def ofStrings (texts : List String) : Json := .array (texts.map .string)

end Json

/-- The left side of `??`: absent and `null` both count as absent. -/
def nullish : Option Json → Option Json
  | some .null => none
  | value => value

end Anyam.Kernel
