import MarkupAudit.Document.Json
import MarkupAudit.Proofs.Document.Faithful
import MarkupAudit.Proofs.Json.Decode

namespace MarkupAudit

/-- An attribute survives being written and read again. -/
@[simp]
theorem Attribute.ofJson?_toJson (a : Attribute) : ofJson? a.toJson = some a := by
  have hspan : Json.optional Span.ofJson? (some (Json.ofOption Span.toJson a.valueSpan)) =
      some a.valueSpan := by
    cases a.valueSpan with
    | none => rfl
    | some s =>
      have hwritten : s.toJson ≠ .null := nofun
      rw [Json.ofOption, Json.optional_of_ne_null _ hwritten, Span.ofJson?_toJson, Option.map_some]
  simp [ofJson?, toJson, Json.record?, Json.single?, Json.required, Json.defaulting, Json.bool?,
    hspan]

@[simp]
theorem NodeKind.ofName?_name (k : NodeKind) : ofName? k.name = some k := by
  cases k <;> decide

namespace Node

/-- The members that stand last in a node are those of its span. -/
theorem fieldsOfJson?_span (s : Span) :
    fieldsOfJson? s.members =
      some
        { line := some s.line, column := some s.column, offset := some s.offset,
          raw := some s.raw } := by
  simp [Span.members, fieldsOfJson?, Fields.add?, fill?]

/-- A node can be read again if its children can. -/
theorem ofJson?_toJson_mk (info : NodeInfo) {children : List Node}
    (hchildren : listOfJson? (listToJson children) = some children) :
    ofJson? (Node.mk info children).toJson = some (.mk info children) := by
  have hattributes : Json.list? Attribute.ofJson? (Json.ofList Attribute.toJson info.attributes) =
      some info.attributes :=
    Json.list?_ofList_of_mem fun a _ => a.ofJson?_toJson
  simp [toJson, ofJson?, fieldsOfJson?, fieldsOfJson?_span, Fields.add?, Fields.node?, fill?,
    childrenOfJson?, NodeKind.ofJson?, Json.name?, hchildren, hattributes]

/-- So do nodes, with all that is below them. -/
theorem listOfJson?_listToJson (nodes : List Node) :
    listOfJson? (listToJson nodes) = some nodes := by
  induction nodes using forest_induction with
  | nil => simp [listToJson, listOfJson?]
  | cons info children rest ihChildren ihRest =>
    simp [listToJson, listOfJson?, ofJson?_toJson_mk info ihChildren, ihRest]

end Node

namespace Document

/-- Reading trees off a document does not look at its path. -/
theorem treeWithin_with_path (d : Document) (path : Option String) (depth : Nat) :
    ({ d with path } : Document).treeWithin depth = d.treeWithin depth := by
  induction depth with
  | zero => rfl
  | succ depth ih =>
    funext id
    rw [treeWithin, treeWithin, ih]
    rfl

theorem forest?_with_path (d : Document) (path : Option String) :
    ({ d with path } : Document).forest? = d.forest? := by
  rw [forest?, treeWithin_with_path]
  rfl

/-- Whatever source is written as JSON, reading it gives the path and the document of the nodes, and
the nodes can be read off that document as they were, with every field of theirs and of their
attributes. -/
theorem ofJson?_sourceToJson (path : Option String) (nodes : List Node) :
    ofJson? (sourceToJson path nodes) = some { ofForest nodes with path } ∧
      ({ ofForest nodes with path } : Document).forest? = some nodes := by
  have hpath : Json.optional Json.string? (some (Json.ofOption Json.string path)) = some path := by
    cases path <;> rfl
  have hnodes : Node.childrenOfJson? (.array (Node.listToJson nodes)) = some nodes := by
    rw [Node.childrenOfJson?, Node.listOfJson?_listToJson]
  constructor
  · simp [ofJson?, sourceToJson, Json.record?, Json.single?, Json.required, hpath, hnodes]
  · rw [forest?_with_path, forest?_ofForest]

end Document

end MarkupAudit
