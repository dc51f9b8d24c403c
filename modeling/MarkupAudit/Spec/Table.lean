import MarkupAudit.Spec.ValueType

namespace MarkupAudit

/-- The declaration of an attribute. Its name is in lower case. -/
structure AttributeDecl where
  name : String
  type : ValueType
  description : Option String := none
  deprecated : Bool := false
  deriving DecidableEq, Repr

/-- The declaration of an element: its own attributes, and whether it takes the global ones. -/
structure ElementDecl where
  attributes : List AttributeDecl := []
  globalAttributes : Bool := true
  deriving DecidableEq, Repr

/-- What a rule may ask about elements and attributes. -/
structure SpecLookup where
  /-- The declaration of an attribute on an element. -/
  attribute? : String → String → Option AttributeDecl
  /-- Whether the element is declared. -/
  hasElement : String → Bool

/-- Global attributes, and elements by name. -/
structure SpecTable where
  global : List AttributeDecl := []
  elements : List (String × ElementDecl) := []
  deriving DecidableEq, Repr

namespace SpecTable

/-- The declaration of an element, in any ASCII case. -/
def element? (t : SpecTable) (element : String) : Option ElementDecl :=
  t.elements.lookup (Text.foldCase element)

/-- Whether the element is declared. -/
def hasElement (t : SpecTable) (element : String) : Bool :=
  (t.element? element).isSome

/-- The declaration of an attribute on an element, both in any ASCII case: the first among the
element's own, else the first among the global ones, if the element takes them. -/
def attribute? (t : SpecTable) (element attr : String) : Option AttributeDecl := do
  let decl ← t.element? element
  let name := Text.foldCase attr
  match decl.attributes.find? (·.name == name) with
  | some found => some found
  | none => if decl.globalAttributes then t.global.find? (·.name == name) else none

/-- An attribute is searched among those of the element, then among the global ones. -/
theorem attribute?_eq_bind (t : SpecTable) (element attr : String) :
    t.attribute? element attr = (t.element? element).bind fun decl =>
      (decl.attributes.find? (·.name == Text.foldCase attr)).or
        (if decl.globalAttributes then t.global.find? (·.name == Text.foldCase attr)
          else none) := by
  rw [attribute?]
  refine congrArg (Option.bind _) (funext fun decl => ?_)
  dsimp only
  cases decl.attributes.find? (·.name == Text.foldCase attr) with
  | none => rfl
  | some found => rfl

/-- The table as rules see it. -/
def lookup (t : SpecTable) : SpecLookup where
  attribute? := t.attribute?
  hasElement := t.hasElement

/-- Declares an element, in place of an earlier declaration under the same name. -/
def withElement (t : SpecTable) (name : String) (decl : ElementDecl) : SpecTable :=
  { t with elements := t.elements.filter (·.1 != name) ++ [(name, decl)] }

/-- Adds a global attribute behind the others. -/
def withGlobal (t : SpecTable) (decl : AttributeDecl) : SpecTable :=
  { t with global := t.global ++ [decl] }

end SpecTable

/-- Reads the declaration of an attribute. -/
def AttributeDecl.ofJson? (j : Json) : Option AttributeDecl := do
  match (← j.record? ["name", "type", "description", "deprecated"]).fields with
  | [name, type, description, deprecated] =>
    return {
      name := ← Json.required Json.string? name
      type := ← Json.required ValueType.ofJson? type
      description := ← Json.optional Json.string? description
      deprecated := ← Json.defaulting false Json.bool? deprecated }
  | _ => none

/-- Writes the declaration of an attribute, without what is absent or false. -/
def AttributeDecl.toJson (a : AttributeDecl) : Json :=
  .object (
    [("name", .string a.name), ("type", a.type.toJson)] ++
    (a.description.map fun s => ("description", Json.string s)).toList ++
    if a.deprecated then [("deprecated", .bool true)] else [])

/-- Reads the declaration of an element. -/
def ElementDecl.ofJson? (j : Json) : Option ElementDecl := do
  match (← j.record? ["attributes", "globalAttrs"]).fields with
  | [attributes, globalAttributes] =>
    return {
      attributes := ← Json.defaulting [] (Json.list? AttributeDecl.ofJson?) attributes
      globalAttributes := ← Json.defaulting true Json.bool? globalAttributes }
  | _ => none

/-- Writes the declaration of an element. -/
def ElementDecl.toJson (e : ElementDecl) : Json :=
  .object [("attributes", Json.ofList AttributeDecl.toJson e.attributes),
    ("globalAttrs", .bool e.globalAttributes)]

/-- Reads a table. -/
def SpecTable.ofJson? (j : Json) : Option SpecTable := do
  match (← j.record? ["global", "elements"]).fields with
  | [global, elements] =>
    return {
      global := ← Json.defaulting [] (Json.list? AttributeDecl.ofJson?) global
      elements := ← Json.defaulting [] (Json.dictionary? ElementDecl.ofJson?) elements }
  | _ => none

/-- Writes a table. -/
def SpecTable.toJson (t : SpecTable) : Json :=
  .object [("global", Json.ofList AttributeDecl.toJson t.global),
    ("elements", .object (t.elements.map fun (name, e) => (name, e.toJson)))]

end MarkupAudit
