import MarkupAudit.Source.Attribute
import MarkupAudit.Text.WhiteSpace

namespace MarkupAudit

/-- The kinds of nodes. -/
inductive NodeKind where
  | element
  | text
  | comment
  | doctype
  deriving DecidableEq, Repr

namespace NodeKind

/-- The name of a kind. -/
def name : NodeKind → String
  | .element => "element"
  | .text => "text"
  | .comment => "comment"
  | .doctype => "doctype"

/-- The kind of a name. -/
def ofName? (s : String) : Option NodeKind :=
  [element, text, comment, doctype].find? (·.name == s)

/-- Reads a kind. -/
def ofJson? (j : Json) : Option NodeKind :=
  j.name?.bind ofName?

end NodeKind

/-- What a node is by itself, without its children. -/
structure NodeInfo where
  kind : NodeKind
  name : String := ""
  value : String := ""
  attributes : List Attribute := []
  span : Span := {}
  deriving DecidableEq, Repr

namespace NodeInfo

/-- The attributes of a name, in any ASCII case. -/
def attributesNamed (n : NodeInfo) (name : String) : List Attribute :=
  n.attributes.filter (·.hasName name)

/-- The value of the first attribute of a name, in any ASCII case. -/
def attribute? (n : NodeInfo) (name : String) : Option String :=
  (n.attributes.find? (·.hasName name)).map (·.value)

/-- Whether there is an attribute of the name, in any ASCII case. -/
def hasAttribute (n : NodeInfo) (name : String) : Bool :=
  (n.attribute? name).isSome

/-- Whether the node is a text of nothing but white space. -/
def isWhiteSpace (n : NodeInfo) : Bool :=
  n.kind == .text && n.value.toList.all Text.isWhiteSpace

end NodeInfo

/-- A node with its children, in source order. -/
inductive Node where
  | mk (info : NodeInfo) (children : List Node)

namespace Node

/-- What the node is by itself. -/
def info : Node → NodeInfo
  | .mk info _ => info

/-- The children, in source order. -/
def children : Node → List Node
  | .mk _ children => children

/-- A node without attributes and children at the start of a file. -/
def leaf (kind : NodeKind) (name value raw : String) : Node :=
  .mk { kind, name, value, span := { line := 1, column := 1, raw } } []

/-- An empty element. -/
def element (name : String) : Node :=
  leaf .element name "" ("<" ++ name ++ ">")

/-- A text. -/
def text (value : String) : Node :=
  leaf .text "#text" value value

/-- A comment. -/
def comment (value : String) : Node :=
  leaf .comment "#comment" value ""

/-- A document type. -/
def doctype (value : String) : Node :=
  leaf .doctype "#doctype" value ""

/-- The node with one more attribute. -/
def withAttribute (n : Node) (a : Attribute) : Node :=
  .mk { n.info with attributes := n.info.attributes ++ [a] } n.children

/-- The node with one more child. -/
def withChild (n child : Node) : Node :=
  .mk n.info (n.children ++ [child])

/-- The node at another place. -/
def movedTo (n : Node) (line column : UInt64) : Node :=
  .mk { n.info with span := { n.info.span with line, column } } n.children

mutual

/-- How many nodes the tree has. -/
def size : Node → Nat
  | .mk _ children => 1 + sizeAll children

/-- How many nodes a forest has. -/
def sizeAll : List Node → Nat
  | [] => 0
  | n :: rest => n.size + sizeAll rest

end

end Node

end MarkupAudit
