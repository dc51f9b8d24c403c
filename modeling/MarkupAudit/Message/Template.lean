import MarkupAudit.Text.Ascii
import MarkupAudit.Text.Split

namespace MarkupAudit.Message

/-- How an argument enters a message: as a keyword, which a locale may replace; as it is; or as a
keyword that goes on inside a sentence. -/
inductive Style where
  | keyword
  | verbatim
  | clause
  deriving DecidableEq, Repr

/-- A placeholder: which argument, and how it enters. It is written as a pair of braces around the
decimal number of the argument, which a star or `:c` may follow. -/
structure Placeholder where
  index : Nat
  style : Style
  deriving DecidableEq, Repr

/-- The digits and the style of the text between two braces. -/
def Placeholder.parts (inner : List Char) : List Char × Style :=
  match inner.reverse with
  | '*' :: digits => (digits.reverse, .verbatim)
  | 'c' :: ':' :: digits => (digits.reverse, .clause)
  | _ => (inner, .keyword)

/-- Reads the text between two braces. -/
def Placeholder.ofInner? (inner : List Char) : Option Placeholder :=
  let (digits, style) := Placeholder.parts inner
  if !digits.isEmpty && digits.all Char.isDigit then some ⟨Text.numeral 10 digits, style⟩
  else none

/-- Looks for a placeholder of one of `count` arguments right behind an opening brace: the
placeholder, and how many characters it takes up, the closing brace included. -/
def Placeholder.behindBrace? (count : Nat) (cs : List Char) : Option (Placeholder × Nat) :=
  match Text.cut (· == '\x7d') cs with
  | (_, none) => none
  | (inner, some _) =>
    match Placeholder.ofInner? inner with
    | some p => if p.index < count then some (p, inner.length + 1) else none
    | none => none

/-- A piece of a template. -/
inductive Piece where
  | char (c : Char)
  | argument (p : Placeholder)
  deriving DecidableEq, Repr

/-- The pieces of a template for `count` arguments. The first `skip` characters have been read as
part of a placeholder. -/
def piecesFrom (count : Nat) : Nat → List Char → List Piece
  | _, [] => []
  | skip + 1, _ :: cs => piecesFrom count skip cs
  | 0, c :: cs =>
    if c = '\x7b' then
      match Placeholder.behindBrace? count cs with
      | some (p, length) => .argument p :: piecesFrom count length cs
      | none => .char c :: piecesFrom count 0 cs
    else .char c :: piecesFrom count 0 cs

/-- The pieces of a template for `count` arguments. What is no placeholder is copied, stray braces
included. -/
def pieces (count : Nat) (template : String) : List Piece :=
  piecesFrom count 0 template.toList

end MarkupAudit.Message
