import MarkupAudit.Document.Basic
import MarkupAudit.Source.NodeJson
import MarkupAudit.Json.Reader

namespace MarkupAudit.Document

/-- Reads a document. -/
def ofJson? (j : Json) : Option Document := do
  match (← j.record? ["path", "nodes"]).fields with
  | [path, nodes] =>
    let path ← Json.optional Json.string? path
    let nodes ← Json.required Node.childrenOfJson? nodes
    return { ofForest nodes with path }
  | _ => none

/-- Writes the source of a document. -/
def sourceToJson (path : Option String) (nodes : List Node) : Json :=
  .object [("path", Json.ofOption Json.string path), ("nodes", .array (Node.listToJson nodes))]

/-- Reads the text of a document. -/
def ofText? (text : String) : Option Document := do
  ofJson? (← Json.read? text)

end MarkupAudit.Document
