import MarkupAudit.Rule.Basic

namespace MarkupAudit

/-- The rule that no attribute is written twice on an element, in whatever ASCII case. Every
attribute but the first of a name is reported. -/
structure DuplicateAttribute where
  severity : Severity := .error

namespace DuplicateAttribute

def name : String := "attr-duplication"

def code : String := "ML004"

/-- The attributes whose name occurs before, among the given names or further left. -/
def repeated (seen : List String) : List Attribute → List Attribute
  | [] => []
  | a :: rest =>
    let name := Text.foldCase a.name
    if seen.contains name then a :: repeated seen rest else repeated (name :: seen) rest

/-- The report on an attribute whose name occurs before. -/
def attributeReport (l : Locale) (a : Attribute) : Report where
  span := a.nameSpan
  message := l.expand Message.Phrase.duplicated [l.expand Message.Phrase.theAttribute [a.name]]
  suggestion := some "Remove the duplicate attribute"

/-- The reports on an element. -/
def check (l : Locale) (n : NodeInfo) (_ : List NodeInfo) : List Report :=
  (repeated [] n.attributes).map (attributeReport l)

/-- The rule. -/
def rule (r : DuplicateAttribute) : Rule where
  name := name
  code := code
  description := "Forbids duplicate attributes on an element"
  severity := r.severity
  run := fun _ locale d =>
    Except.ok <$> inspect (fun n children => pure (check locale n children)) d

end DuplicateAttribute

end MarkupAudit
