import MarkupAudit.Json.Basic
import MarkupAudit.Number.Shortest

namespace MarkupAudit

/-- A TOML value. The keys of a table are distinct. -/
inductive Toml where
  | string (s : String)
  | integer (n : Int)
  | float (x : Number.Binary64)
  | boolean (b : Bool)
  /-- A date, a time or both, in its normal written form. -/
  | datetime (text : String)
  | array (items : List Toml)
  | table (entries : List (String × Toml))

namespace Toml

/-- The truth value, if it is one. -/
def boolean? : Toml → Option Bool
  | .boolean b => some b
  | _ => none

/-- The text, if it is one. -/
def string? : Toml → Option String
  | .string s => some s
  | _ => none

/-- The texts of a value: a text by itself, or the texts among the items of an array. -/
def strings : Toml → List String
  | .string s => [s]
  | .array items => items.filterMap string?
  | _ => []

mutual

/-- The value as JSON. A date becomes an object that no decoder takes for anything else. -/
def toJson : Toml → Json
  | .string s => .string s
  | .integer n => .integer n
  | .float x => .real x
  | .boolean b => .bool b
  | .datetime text => .object [("datetime", .string text)]
  | .array items => .array (listToJson items)
  | .table entries => .object (entriesToJson entries)

/-- Items as JSON. -/
def listToJson : List Toml → List Json
  | [] => []
  | v :: rest => v.toJson :: listToJson rest

/-- Entries as JSON. -/
def entriesToJson : List (String × Toml) → List (String × Json)
  | [] => []
  | (key, v) :: rest => (key, v.toJson) :: entriesToJson rest

end

end Toml

end MarkupAudit
