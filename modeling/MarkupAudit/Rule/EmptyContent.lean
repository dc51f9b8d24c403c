import MarkupAudit.Config.Basic
import MarkupAudit.Rule.Basic

namespace MarkupAudit

/-- The rule that elements with palpable content are not empty. An element is empty if its children
are only comments, document types and white space. -/
structure EmptyContent where
  /-- Whether elements that expose their text are looked at too. -/
  exposable : Bool := true
  /-- Whether an element that is still being loaded may be empty. -/
  busyExempt : Bool := true
  severity : Severity := .warning

namespace EmptyContent

def name : String := "no-empty-palpable-content"

def code : String := "ML003"

/-- Elements that are palpable content, whatever their children are. -/
def palpableElements : List String :=
  ["a", "abbr", "address", "article", "aside", "b", "bdi", "bdo", "blockquote", "button", "cite",
    "code", "data", "details", "dfn", "div", "em", "fieldset", "figure", "footer", "form", "h1",
    "h2", "h3", "h4", "h5", "h6", "header", "hgroup", "i", "ins", "kbd", "label", "main", "mark",
    "meter", "nav", "output", "p", "pre", "progress", "q", "ruby", "s", "samp", "search", "section",
    "small", "span", "strong", "sub", "sup", "table", "time", "u", "var"]

/-- Elements outside of palpable content that expose their text. -/
def exposableElements : List String :=
  ["caption", "dd", "dt", "figcaption", "legend", "li", "option", "summary", "td", "th", "title"]

/-- Whether an element is looked at. -/
def isPalpable (r : EmptyContent) (n : NodeInfo) : Bool :=
  let name := Text.foldCase n.name
  palpableElements.contains name || (r.exposable && exposableElements.contains name)

/-- Whether the first attribute of a name is set to true. -/
def isTrue (n : NodeInfo) (attr : String) : Bool :=
  (n.attribute? attr).any fun value => Text.sameName (Text.trim value) "true"

/-- Whether an element may be empty: it is hidden, or still being loaded. -/
def isExempt (r : EmptyContent) (n : NodeInfo) : Bool :=
  n.hasAttribute "hidden" || isTrue n "aria-hidden" || (r.busyExempt && isTrue n "aria-busy")

/-- Whether a child is content. -/
def isContent (child : NodeInfo) : Bool :=
  match child.kind with
  | .element => true
  | .text => !child.isWhiteSpace
  | .comment => false
  | .doctype => false

/-- The reports on an element. -/
def check (r : EmptyContent) (l : Locale) (n : NodeInfo) (children : List NodeInfo) : List Report :=
  if !r.isPalpable n || r.isExempt n || children.any isContent then []
  else [{ span := n.span, message := l.expand Message.Phrase.require ["content"] }]

/-- The rule. -/
def rule (r : EmptyContent) : Rule where
  name := name
  code := code
  description := "Requires palpable-content elements to have content"
  severity := r.severity
  options :=
    [⟨"extends_exposable_elements", .boolean true,
        "Also check exposable elements such as li and td"⟩,
     ⟨"ignore_if_aria_busy", .boolean true, "Skip elements marked aria-busy=\"true\""⟩]
  run := fun _ locale d =>
    Except.ok <$> inspect (fun n children => pure (r.check locale n children)) d

/-- The rule with the given settings. -/
def ofSettings (s : RuleSettings) : EmptyContent where
  exposable := s.bool "extends_exposable_elements" true
  busyExempt := s.bool "ignore_if_aria_busy" true

end EmptyContent

end MarkupAudit
