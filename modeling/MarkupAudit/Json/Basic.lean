import MarkupAudit.Number.Binary64

namespace MarkupAudit

/-- A JSON value. Members of an object stand in source order and may repeat a key. A value that is
well formed as text and yet holds nothing that can be taken over has a constructor of its own:
whoever skips it does not notice, whoever wants it fails. -/
inductive Json where
  | null
  | bool (b : Bool)
  /-- A number written without fraction and exponent, small enough for a machine word. -/
  | integer (n : Int)
  /-- Any other number in the range of doubles. -/
  | real (x : Number.Binary64)
  | string (s : String)
  | array (items : List Json)
  | object (members : List (String × Json))
  /-- Well-formed text without a usable value: half of a surrogate pair, a number beyond the
  doubles, an array or object nested too deeply. -/
  | unreadable

namespace Json

mutual

/-- Whether the value can be taken over whole. -/
def readable : Json → Bool
  | .unreadable => false
  | .array items => readableItems items
  | .object members => readableMembers members
  | _ => true

/-- Whether all items are readable. -/
def readableItems : List Json → Bool
  | [] => true
  | j :: rest => readable j && readableItems rest

/-- Whether the values of all members are readable. -/
def readableMembers : List (String × Json) → Bool
  | [] => true
  | (_, j) :: rest => readable j && readableMembers rest

end

/-- The first member of the name, if the value is an object that has one. -/
def member? (j : Json) (name : String) : Option Json :=
  match j with
  | .object members => members.lookup name
  | _ => none

end Json

end MarkupAudit
