import MarkupAudit.Guarded
import MarkupAudit.Source.Span
import MarkupAudit.Text.Ascii

namespace MarkupAudit

/-- An attribute. A dynamic one gets its value only when the page is made. -/
structure Attribute where
  name : String
  value : String := ""
  raw : String := ""
  dynamic : Bool := false
  nameSpan : Span := {}
  valueSpan : Option Span := none
  deriving DecidableEq, Repr

namespace Attribute

/-- The attribute written `name="value"`, at no particular place. -/
def written (name value : String) : Attribute where
  name := name
  value := value
  raw := name ++ "=\"" ++ value ++ "\""
  nameSpan := { raw := name }
  valueSpan := some { raw := value }

/-- The attribute with its name at a place. The value stands behind the name, an equals sign and a
quote. -/
def movedTo (a : Attribute) (line column : UInt64) : Guarded Attribute := do
  let moved := { a with nameSpan := { a.nameSpan with line, column } }
  match a.valueSpan with
  | none => return moved
  | some s =>
    let behind ← Guarded.sum column (a.name.length + 2)
    return { moved with valueSpan := some { s with line, column := behind } }

/-- The place of the value, or of the name if the value has none. -/
def valueOrNameSpan (a : Attribute) : Span :=
  a.valueSpan.getD a.nameSpan

/-- Whether the attribute has the name, in any ASCII case. -/
def hasName (a : Attribute) (name : String) : Bool :=
  Text.sameName a.name name

/-- Reads an attribute. -/
def ofJson? (j : Json) : Option Attribute := do
  let names := ["name", "value", "raw", "isDynamicValue", "nameSpan", "valueSpan"]
  match (← j.record? names).fields with
  | [name, value, raw, dynamic, nameSpan, valueSpan] =>
    return {
      name := ← Json.required Json.string? name
      value := ← Json.defaulting "" Json.string? value
      raw := ← Json.defaulting "" Json.string? raw
      dynamic := ← Json.defaulting false Json.bool? dynamic
      nameSpan := ← Json.defaulting {} Span.ofJson? nameSpan
      valueSpan := ← Json.optional Span.ofJson? valueSpan }
  | _ => none

/-- Writes an attribute. -/
def toJson (a : Attribute) : Json :=
  .object [("name", .string a.name), ("value", .string a.value), ("raw", .string a.raw),
    ("isDynamicValue", .bool a.dynamic), ("nameSpan", a.nameSpan.toJson),
    ("valueSpan", Json.ofOption Span.toJson a.valueSpan)]

end Attribute

end MarkupAudit
