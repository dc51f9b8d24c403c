import MarkupAudit.Pattern.Regex
import MarkupAudit.Text.Case
import MarkupAudit.Text.WhiteSpace

namespace MarkupAudit.Pattern

/-- The flags in force at a place of a pattern. -/
structure Flags where
  /-- `i`: letters match in either case. -/
  ignoreCase : Bool := false
  /-- `m`: anchors hold at every line. -/
  multiLine : Bool := false
  /-- `s`: the dot matches a line end too. -/
  dotAll : Bool := false
  /-- `u`: sets are sets of Unicode characters; without it they hold ASCII characters only. -/
  unicode : Bool := true
  /-- `R`: a carriage return ends a line too. -/
  anyLineEnd : Bool := false
  /-- `x`: blanks and comments in the pattern are skipped. -/
  ignoreSpace : Bool := false

namespace Flags

/-- Sets or clears the flag of a letter. The letter `U`, which swaps greedy and lazy repetition,
changes nothing about what a pattern matches. -/
def set? (f : Flags) (letter : Char) (on : Bool) : Option Flags :=
  match letter with
  | 'i' => some { f with ignoreCase := on }
  | 'm' => some { f with multiLine := on }
  | 's' => some { f with dotAll := on }
  | 'u' => some { f with unicode := on }
  | 'R' => some { f with anyLineEnd := on }
  | 'x' => some { f with ignoreSpace := on }
  | 'U' => some f
  | _ => none

/-- A group's flags, up to the colon or the parenthesis that ends them; that character comes back
with what follows it. Each letter may stand once, and so may the minus, which clears the letters
behind it. -/
def read? (f : Flags) (seen : List Char) : List Char → Option (Flags × List Char)
  | [] => none
  | c :: rest =>
    if c == ':' || c == ')' then
      if seen.head? == some '-' then none else some (f, c :: rest)
    else if seen.contains c then none
    else if c == '-' then f.read? (c :: seen) rest
    else do (← f.set? c (!seen.contains '-')).read? (c :: seen) rest

/-- Skips blanks and comments; `comment` says whether the text starts inside a comment. -/
def dropSpace (comment : Bool) : List Char → List Char
  | [] => []
  | c :: rest =>
    if comment then dropSpace (c != '\n') rest
    else if Text.isWhiteSpace c then dropSpace false rest
    else if c == '#' then dropSpace true rest
    else c :: rest

/-- Skips what the flags say is to be skipped. -/
def skip (f : Flags) (cs : List Char) : List Char :=
  if f.ignoreSpace then dropSpace false cs else cs

/-- The set with the other cases of its letters, where case is ignored. -/
def fold (f : Flags) (p : Char → Bool) : Char → Bool :=
  if !f.ignoreCase then p
  else if f.unicode then fun c => p c || (Text.foldMates c).any p
  else fun c => p c || (c.isAlpha && p (if c.isUpper then c.toLower else c.toUpper))

/-- The characters that are not in the set. Sets of ASCII characters have no complement. -/
def complement? (f : Flags) (p : Char → Bool) : Option (Char → Bool) :=
  if f.unicode then some fun c => !p c else none

/-- The set or its complement, after the other cases of its letters were added. -/
def close? (f : Flags) (negated : Bool) (p : Char → Bool) : Option (Char → Bool) :=
  if negated then f.complement? (f.fold p) else some (f.fold p)

/-- The set of a single character. -/
def single (f : Flags) (c : Char) : Char → Bool :=
  f.fold (· == c)

/-- The set of the dot. -/
def dot? (f : Flags) : Option (Char → Bool) :=
  if !f.unicode then none
  else if f.dotAll then some fun _ => true
  else if f.anyLineEnd then some fun c => c != '\n' && c != '\r'
  else some fun c => c != '\n'

/-- What the caret asks for. -/
def caret (f : Flags) : Look :=
  if !f.multiLine then .textStart else if f.anyLineEnd then .lineStartAny else .lineStart

/-- What the dollar sign asks for. -/
def dollar (f : Flags) : Look :=
  if !f.multiLine then .textEnd else if f.anyLineEnd then .lineEndAny else .lineEnd

/-- Decimal digits. -/
def digit (f : Flags) : Char → Bool :=
  if f.unicode then fun c => Text.RangeTable.contains Text.Property.decimal c.toNat
  else Char.isDigit

/-- White space. -/
def space (f : Flags) : Char → Bool :=
  if f.unicode then Text.isWhiteSpace
  else fun c => Text.isBlank c || c == '\x0b'

/-- The characters of words. -/
def word (f : Flags) : Char → Bool :=
  if f.unicode then fun c =>
    if c.toNat < 128 then c.isAlphanum || c == '_'
    else Text.RangeTable.contains Text.Property.word c.toNat
  else fun c => c.isAlphanum || c == '_'

end Flags

end MarkupAudit.Pattern
