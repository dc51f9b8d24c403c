import MarkupAudit.Source.Node

namespace MarkupAudit

namespace Node

/-- The members of a node read so far. The fields of its span stand among them, and unknown members
are taken over before they are dropped: they must be readable, though they may repeat. -/
structure Fields where
  kind : Option NodeKind := none
  name : Option String := none
  value : Option String := none
  attributes : Option (List Attribute) := none
  children : Option (List Node) := none
  line : Option UInt64 := none
  column : Option UInt64 := none
  offset : Option UInt64 := none
  raw : Option String := none

/-- Fills a field that was empty so far. -/
def fill? {α : Type} (old new : Option α) : Option (Option α) :=
  if old.isSome then none else new.map some

/-- Adds a member other than the children. -/
def Fields.add? (f : Fields) (name : String) (j : Json) : Option Fields :=
  match name with
  | "type" => do return { f with kind := ← fill? f.kind (NodeKind.ofJson? j) }
  | "name" => do return { f with name := ← fill? f.name j.string? }
  | "value" => do return { f with value := ← fill? f.value j.string? }
  | "attributes" => do
    return { f with attributes := ← fill? f.attributes (j.list? Attribute.ofJson?) }
  | "line" => do return { f with line := ← fill? f.line j.word64? }
  | "column" => do return { f with column := ← fill? f.column j.word64? }
  | "offset" => do return { f with offset := ← fill? f.offset j.word64? }
  | "raw" => do return { f with raw := ← fill? f.raw j.string? }
  | _ => if j.readable then some f else none

/-- The node that the members make; only its kind has to be there. -/
def Fields.node? (f : Fields) : Option Node := do
  let kind ← f.kind
  let span : Span :=
    { line := f.line.getD 0, column := f.column.getD 0, offset := f.offset.getD 0,
      raw := f.raw.getD "" }
  let info : NodeInfo :=
    { kind, name := f.name.getD "", value := f.value.getD "",
      attributes := f.attributes.getD [], span }
  return .mk info (f.children.getD [])

mutual

/-- Reads a node. -/
def ofJson? : Json → Option Node
  | .object members => do (← fieldsOfJson? members).node?
  | _ => none

/-- Reads the members of a node. -/
def fieldsOfJson? : List (String × Json) → Option Fields
  | [] => some {}
  | (name, j) :: rest => do
    let fields ← fieldsOfJson? rest
    if name = "children" then
      return { fields with children := ← fill? fields.children (childrenOfJson? j) }
    else fields.add? name j

/-- Reads the children of a node. -/
def childrenOfJson? : Json → Option (List Node)
  | .array items => listOfJson? items
  | _ => none

/-- Reads nodes. -/
def listOfJson? : List Json → Option (List Node)
  | [] => some []
  | j :: rest => do return (← ofJson? j) :: (← listOfJson? rest)

end

mutual

/-- Writes a node. -/
def toJson : Node → Json
  | .mk info children =>
    .object (
      [("type", .string info.kind.name), ("name", .string info.name),
        ("value", .string info.value),
        ("attributes", Json.ofList Attribute.toJson info.attributes),
        ("children", .array (listToJson children))] ++ info.span.members)

/-- Writes nodes. -/
def listToJson : List Node → List Json
  | [] => []
  | n :: rest => n.toJson :: listToJson rest

end

end Node

end MarkupAudit
