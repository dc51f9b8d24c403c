import MarkupAudit.Json.Basic

namespace MarkupAudit.Json

/-- A text. -/
def string? : Json → Option String
  | .string s => some s
  | _ => none

/-- A truth value. -/
def bool? : Json → Option Bool
  | .bool b => some b
  | _ => none

/-- How many machine words there are. -/
def wordCount : Nat := 0x10000000000000000

/-- A machine word: an integer that is at least zero and below `2 ^ 64`. -/
def word64? : Json → Option UInt64
  | .integer (.ofNat n) => if n < wordCount then some (.ofNat n) else none
  | _ => none

/-- A number of things: an integer that is at least zero and below `2 ^ 64`. -/
def count? : Json → Option Nat
  | .integer (.ofNat n) => if n < wordCount then some n else none
  | _ => none

/-- An array, item by item. -/
def list? {α : Type} (item? : Json → Option α) : Json → Option (List α)
  | .array items => items.mapM item?
  | _ => none

/-- An object as a dictionary, member by member. The last of several members of one name stands. -/
def dictionary? {α : Type} (value? : Json → Option α) : Json → Option (List (String × α))
  | .object members => do
    let entries ← members.mapM fun (name, j) => (value? j).map (name, ·)
    return entries.foldr (fun entry kept =>
      if (kept.lookup entry.1).isSome then kept else entry :: kept) []
  | _ => none

/-- One of several names: the name as a text, or as the only member of an object, with `null`. -/
def name? : Json → Option String
  | .string s => some s
  | .object [(s, .null)] => some s
  | _ => none

/-- The fields of a record, in declaration order. -/
structure Record where
  /-- Whether the record was written as an array. -/
  positional : Bool
  fields : List (Option Json)

/-- The member of the name, if there is one; a second one is an error. -/
def single? (members : List (String × Json)) (name : String) : Option (Option Json) :=
  match members.filter (·.1 == name) with
  | [] => some none
  | [(_, j)] => some (some j)
  | _ => none

/-- The fields of a record with the given names. It is written as an object, whose unknown members
are skipped, or as an array of its fields in order. -/
def record? (names : List String) : Json → Option Record
  | .object members => (names.mapM (single? members)).map (⟨false, ·⟩)
  | .array items =>
    if items.length ≤ names.length then
      some ⟨true, items.map some ++ List.replicate (names.length - items.length) none⟩
    else none
  | _ => none

/-- A field that must be there. -/
def required {α : Type} (value? : Json → Option α) (field : Option Json) : Option α :=
  field.bind value?

/-- A field with a value to take when it is absent. -/
def defaulting {α : Type} (value : α) (value? : Json → Option α) : Option Json → Option α
  | none => some value
  | some j => value? j

/-- A field that may be absent or `null`. -/
def optional {α : Type} (value? : Json → Option α) : Option Json → Option (Option α)
  | none => some none
  | some .null => some none
  | some j => (value? j).map some

/-- A value to write for something that may be absent. -/
def ofOption {α : Type} (write : α → Json) : Option α → Json
  | none => .null
  | some a => write a

/-- A machine word as a number. -/
def ofWord (n : UInt64) : Json :=
  .integer n.toNat

/-- A number of things as a number. -/
def ofCount (n : Nat) : Json :=
  .integer n

/-- A list as an array. -/
def ofList {α : Type} (write : α → Json) (items : List α) : Json :=
  .array (items.map write)

/-- A machine word survives being written and read again. -/
@[simp]
theorem word64?_ofWord (n : UInt64) : word64? (ofWord n) = some n := by
  have h : n.toNat < wordCount := n.toNat_lt
  change (if n.toNat < wordCount then some (UInt64.ofNat n.toNat) else none) = some n
  rw [if_pos h, UInt64.ofNat_toNat]

@[simp]
theorem string?_string (s : String) : string? (.string s) = some s := rfl

end MarkupAudit.Json
