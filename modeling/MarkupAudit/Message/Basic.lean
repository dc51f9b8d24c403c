import MarkupAudit.Message.Locale
import MarkupAudit.Message.Template
import MarkupAudit.Text.Case

namespace MarkupAudit

namespace Message

/-- The text with its first character upper-cased, if that is a lower-case one. -/
def capitalize (s : String) : String :=
  match s.toList with
  | [] => s
  | c :: cs => if Text.isLowercase c then String.ofList (Text.upperChar c ++ cs) else s

/-- The text with its first character lower-cased, if that is an upper-case one and the second is
not: an abbreviation keeps its capitals. -/
def decapitalize (s : String) : String :=
  match s.toList with
  | [] => s
  | [c] => if Text.isUppercase c then String.ofList (Text.lowerChar c) else s
  | c :: d :: cs =>
    if Text.isUppercase c && !Text.isUppercase d then String.ofList (Text.lowerChar c ++ d :: cs)
    else s

end Message

namespace Locale

open Message

/-- The word for a keyword: looked up as written, then in lower case, else the keyword. -/
def keyword (l : Locale) (word : String) : String :=
  match l.keywords.lookup word with
  | some s => s
  | none => (l.keywords.lookup (Text.lowercase word)).getD word

/-- The sentence for a template. -/
def sentence (l : Locale) (template : String) : String :=
  (l.sentences.lookup template).getD template

/-- An argument in the style that its placeholder asks for. -/
def argument (l : Locale) (style : Style) (arg : String) : String :=
  match style with
  | .keyword => l.keyword arg
  | .verbatim => arg
  | .clause => decapitalize (l.keyword arg)

/-- The text of a piece of a template. -/
def piece (l : Locale) (args : List String) : Piece → List Char
  | .char c => [c]
  | .argument p => (l.argument p.style (args.getD p.index "")).toList

/-- The sentence for a template, its placeholders replaced by the arguments, and its first character
upper-cased. What replaces a placeholder is not searched for placeholders again. -/
def expand (l : Locale) (template : String) (args : List String) : String :=
  capitalize (String.ofList ((pieces args.length (l.sentence template)).flatMap (l.piece args)))

/-- A text in double quotes. -/
def quote (s : String) : String :=
  "\"" ++ s ++ "\""

/-- Joins quoted alternatives. -/
def joinAlternatives (l : Locale) : List String → String
  | [] => ""
  | [only] => only
  | [first, second] => l.expand Phrase.pair [first, second]
  | first :: rest =>
    let start :=
      rest.dropLast.foldl (fun start item => l.expand Phrase.listNext [start, item]) first
    l.expand Phrase.listEnd [start, rest.getLastD ""]

/-- The alternatives, each in double quotes, as one text. -/
def list (l : Locale) (items : List String) : String :=
  l.joinAlternatives (items.map quote)

end Locale

end MarkupAudit
