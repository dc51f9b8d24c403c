import MarkupAudit.Toml.Value

namespace MarkupAudit.Toml

/-- How a table came about: by a header or braces of its own; as the parent of a table with a
header; or by a dotted key. -/
inductive Origin where
  | defined
  | parent
  | dotted
  deriving DecidableEq, Repr

/-- What stands under a key. A table remembers how it came about, since that decides what may still
be added to it. -/
inductive Item where
  | value (v : Toml)
  | table (origin : Origin) (entries : List (String × Item))
  /-- Tables with a common header in double brackets. -/
  | tables (elements : List (List (String × Item)))

/-- The entries of a table, in the order in which their keys came up. -/
abbrev Entries := List (String × Item)

/-- Puts an item under a key, in place of what stands there. -/
def Entries.put (key : String) (item : Item) : Entries → Entries
  | [] => [(key, item)]
  | (k, old) :: rest => if k = key then (k, item) :: rest else (k, old) :: put key item rest

/-- A change of a table: its origin and entries become new entries, unless the change is refused. -/
abbrev Change := Origin → Entries → Option Entries

/-- Follows a path of keys and changes the table at its end. Tables that are missing are made, with
the given origin. A dotted key goes through no table with a header of its own, and a path into an
array of tables goes on in its last one. -/
def descend (made : Origin) (change : Change) : List String → Change
  | [], origin, entries => change origin entries
  | key :: path, _, entries =>
    match entries.lookup key with
    | none => do
      return Entries.put key (.table made (← descend made change path made [])) entries
    | some (.value _) => none
    | some (.table origin inner) =>
      if made = .dotted ∧ origin = .defined then none
      else do
        return Entries.put key (.table origin (← descend made change path origin inner)) entries
    | some (.tables elements) =>
      match elements.getLast? with
      | none => none
      | some last => do
        let changed ← descend made change path .defined last
        return Entries.put key (.tables (elements.dropLast ++ [changed])) entries

/-- Adds an item under a key that is new. A dotted key only extends tables made by dotted keys. -/
def addNew (isDotted : Bool) (key : String) (item : Item) : Change := fun origin entries =>
  if (origin = .dotted) ≠ isDotted ∨ (entries.lookup key).isSome then none
  else some (Entries.put key item entries)

/-- Adds a value under a dotted key. -/
def addValue (key : List String) (v : Toml) : Change :=
  descend .dotted (addNew (1 < key.length) (key.getLastD "") (.value v)) key.dropLast

/-- Opens the table of a header: a new one, or one that so far was only a parent. -/
def openTable (key : List String) : Entries → Option Entries :=
  descend .parent (fun _ entries =>
    match entries.lookup (key.getLastD "") with
    | none => some (Entries.put (key.getLastD "") (.table .defined []) entries)
    | some (.table .parent inner) =>
      some (Entries.put (key.getLastD "") (.table .defined inner) entries)
    | _ => none) key.dropLast .defined

/-- Opens one more table under a header in double brackets. -/
def openElement (key : List String) : Entries → Option Entries :=
  descend .parent (fun _ entries =>
    match entries.lookup (key.getLastD "") with
    | none => some (Entries.put (key.getLastD "") (.tables [[]]) entries)
    | some (.tables elements) =>
      some (Entries.put (key.getLastD "") (.tables (elements ++ [[]])) entries)
    | _ => none) key.dropLast .defined

mutual

/-- The finished value of an item. -/
def Item.toValue : Item → Toml
  | .value v => v
  | .table _ entries => .table (entriesToValues entries)
  | .tables elements => .array (elementsToValues elements)

/-- The finished entries of a table. -/
def entriesToValues : List (String × Item) → List (String × Toml)
  | [] => []
  | (key, item) :: rest => (key, item.toValue) :: entriesToValues rest

/-- The finished tables of an array. -/
def elementsToValues : List (List (String × Item)) → List Toml
  | [] => []
  | entries :: rest => .table (entriesToValues entries) :: elementsToValues rest

end

end MarkupAudit.Toml
