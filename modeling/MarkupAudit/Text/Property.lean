import MarkupAudit.Text.RangeTable
import MarkupAudit.Text.Property.Binary
import MarkupAudit.Text.Property.Category
import MarkupAudit.Text.Property.Script

namespace MarkupAudit.Text.Property

/-- A name as the tables spell it, without case, blanks, hyphens and underscores. A leading `is`
belongs to the name only where nothing but a `c` follows it. -/
def normalize (name : String) : String :=
  let cs := name.toList
  let startsWithIs := (cs.take 2).map Char.toLower == ['i', 's']
  let kept := (if startsWithIs then cs.drop 2 else cs).filter fun c =>
    c.toNat < 128 && c != ' ' && c != '_' && c != '-'
  let kept := kept.map Char.toLower
  String.ofList (if startsWithIs && kept == ['c'] then ['i', 's', 'c'] else kept)

/-- The table of a name. -/
def find? (tables : List NamedRanges) (name : String) : Option RangeTable :=
  (tables.find? (·.names.contains name)).map fun t => RangeTable.ofLines t.ranges

/-- The tables of several names together. -/
def collect (tables : List NamedRanges) (names : List String) : RangeTable :=
  names.flatMap fun name => (find? tables name).getD []

/-- A general category or a group of them. -/
def category? (name : String) : Option RangeTable :=
  if name = "any" then some [(0, 0x10FFFF)]
  else if name = "ascii" then some [(0, 0x7F)]
  else if name = "assigned" then
    some ((categories.filter (!·.names.contains "cn")).flatMap fun t => RangeTable.ofLines t.ranges)
  else
    match categoryGroups.find? (·.1.contains name) with
    | some (_, members) => some (collect categories members)
    | none => find? categories name

/-- The characters of a script. -/
def script? (name : String) : Option RangeTable :=
  (scripts.find? (·.names.contains name)).map fun s => RangeTable.ofLines s.ranges

/-- The characters that a script uses. -/
def scriptExtensions? (name : String) : Option RangeTable :=
  (scripts.find? (·.names.contains name)).map fun s =>
    RangeTable.ofLines (if s.extensions.isEmpty then s.ranges else s.extensions)

/-- The characters of a property, a general category or a script. -/
def named? (name : String) : Option RangeTable :=
  let name := normalize name
  find? binaries name <|> category? name <|> script? name

/-- The characters for which a property has a value. -/
def valued? (property value : String) : Option RangeTable :=
  let property := normalize property
  let value := normalize value
  if property = "gc" ∨ property = "generalcategory" then category? value
  else if property = "sc" ∨ property = "script" then script? value
  else if property = "scx" ∨ property = "scriptextensions" then scriptExtensions? value
  else none

/-- The property `Alphabetic`. -/
def alphabetic : RangeTable :=
  collect binaries ["alphabetic"]

/-- Decimal digits of all scripts. -/
def decimal : RangeTable :=
  collect categories ["nd"]

/-- Numbers of all kinds. -/
def numeric : RangeTable :=
  collect categories ["nd", "nl", "no"]

/-- The characters of words: letters, marks, decimal digits, connectors and joiners. -/
def word : RangeTable :=
  alphabetic ++ collect categories ["mn", "mc", "me", "nd", "pc"] ++
    collect binaries ["joincontrol"]

end MarkupAudit.Text.Property
