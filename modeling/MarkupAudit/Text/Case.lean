import MarkupAudit.Text.Ascii
import MarkupAudit.Text.RangeTable
import MarkupAudit.Text.Case.Table

namespace MarkupAudit.Text

namespace Case

/-- The image of a code point that the run covers. -/
def Run.image? (r : Run) (n : Nat) : Option Nat :=
  if r.first ≤ n ∧ n ≤ r.last ∧ (n - r.first) % r.stride = 0 then some (r.image + (n - r.first))
  else none

/-- The code point that the run sends to `n`. -/
def Run.preimage? (r : Run) (n : Nat) : Option Nat :=
  let m := r.first + (n - r.image)
  if r.image ≤ n ∧ r.image? m = some n then some m else none

/-- The image of a character under a table of special images and a table of runs. A character in
neither is its own image. -/
def image (specials : List (Nat × Nat × List Nat)) (runs : List Run) (c : Char) : List Char :=
  match specials.lookup c.toNat with
  | some (n, ns) => Char.ofNat n :: ns.map Char.ofNat
  | none =>
    match runs.findSome? (·.image? c.toNat) with
    | some n => [Char.ofNat n]
    | none => [c]

/-- No character vanishes. -/
theorem image_ne_nil (specials : List (Nat × Nat × List Nat)) (runs : List Run) (c : Char) :
    image specials runs c ≠ [] := by
  unfold image
  split <;> try split
  all_goals simp

end Case

/-- The lower-case image of a character; it may be several characters. ASCII characters are decided
before any table is consulted. -/
def lowerChar (c : Char) : List Char :=
  if c.toNat < 128 then [c.toLower] else Case.image Case.Table.lowerSpecials Case.Table.lowerRuns c

/-- The upper-case image of a character; it may be several characters. -/
def upperChar (c : Char) : List Char :=
  if c.toNat < 128 then [c.toUpper] else Case.image Case.Table.upperSpecials Case.Table.upperRuns c

theorem upperChar_ne_nil (c : Char) : upperChar c ≠ [] := by
  unfold upperChar
  split
  · simp
  · exact Case.image_ne_nil _ _ c

theorem lowerChar_ne_nil (c : Char) : lowerChar c ≠ [] := by
  unfold lowerChar
  split
  · simp
  · exact Case.image_ne_nil _ _ c

/-- The property `Lowercase`. -/
def isLowercase (c : Char) : Bool :=
  if c.toNat < 128 then c.isLower else Case.Table.lowercase.contains c.toNat

/-- The property `Uppercase`. -/
def isUppercase (c : Char) : Bool :=
  if c.toNat < 128 then c.isUpper else Case.Table.uppercase.contains c.toNat

/-- The property `Cased`. -/
def isCased (c : Char) : Bool :=
  if c.toNat < 128 then c.isAlpha else Case.Table.cased.contains c.toNat

/-- The property `Case_Ignorable`. -/
def isCaseIgnorable (c : Char) : Bool :=
  if c.toNat < 128 then c == '\x27' || c == '.' || c == ':' || c == '^' || c == '\x60'
  else Case.Table.caseIgnorable.contains c.toNat

/-- Whether the first character that is not case-ignorable exists and is cased. -/
def startsCased (cs : List Char) : Bool :=
  match cs.dropWhile isCaseIgnorable with
  | [] => false
  | c :: _ => isCased c

/-- Lower-cases characters after the given ones, which stand nearest first. A capital sigma is
final, hence lower-cased to the final form, when a cased letter precedes it and none follows, in
both directions up to case-ignorable characters. -/
def lowerAfter (before : List Char) : List Char → List Char
  | [] => []
  | c :: rest =>
    let image :=
      if c = 'Σ' then [if startsCased before && !startsCased rest then 'ς' else 'σ']
      else lowerChar c
    image ++ lowerAfter (c :: before) rest

/-- The lower-case image of a text. -/
def lowercase (s : String) : String :=
  String.ofList (lowerAfter [] s.toList)

/-- The other characters that simple case folding identifies with `c`. -/
def foldMates (c : Char) : List Char :=
  match Case.Table.foldClasses.find? (·.contains c.toNat) with
  | some ns => (ns.map Char.ofNat).filter (· != c)
  | none =>
    if c.isAlpha then [if c.isUpper then c.toLower else c.toUpper]
    else
      match Case.Table.foldPairs.findSome? fun r => r.image? c.toNat <|> r.preimage? c.toNat with
      | some n => [Char.ofNat n]
      | none => []

end MarkupAudit.Text
