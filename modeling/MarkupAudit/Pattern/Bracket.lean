import MarkupAudit.Pattern.Escape

namespace MarkupAudit.Pattern

/-- The operations between two sets, `&&`, `--` and `~~`. They bind equally, and to the left. -/
inductive SetOp where
  | intersection
  | difference
  | symmetricDifference

/-- Applies an operation. -/
def SetOp.apply (op : SetOp) (p q : Char → Bool) : Char → Bool :=
  match op with
  | .intersection => fun c => p c && q c
  | .difference => fun c => p c && !q c
  | .symmetricDifference => fun c => p c != q c

namespace Bracket

/-- The set that is being read: what stands before the last operation, with that operation, and the
items read since. -/
structure Part where
  before : Option ((Char → Bool) × SetOp) := none
  items : List (Char → Bool) := []

/-- The set read so far. Where case is ignored, both sides of an operation take in the other cases
of their letters first. -/
def Part.set (f : Flags) (part : Part) : Char → Bool :=
  let items := part.items
  let current := fun c => items.any fun p => p c
  match part.before with
  | none => current
  | some (p, op) => op.apply (f.fold p) (f.fold current)

/-- Adds an item. -/
def Part.add (part : Part) (p : Char → Bool) : Part :=
  { part with items := p :: part.items }

/-- Starts the right-hand side of an operation. -/
def Part.operate (f : Flags) (part : Part) (op : SetOp) : Part :=
  { before := some (part.set f, op) }

/-- The named sets of ASCII characters. -/
def named? (name : List Char) : Option (Char → Bool) :=
  let within := fun (lo hi : Nat) (c : Char) => lo ≤ c.toNat && c.toNat ≤ hi
  match String.ofList name with
  | "alnum" => some Char.isAlphanum
  | "alpha" => some Char.isAlpha
  | "ascii" => some (within 0 0x7F)
  | "blank" => some fun c => c == ' ' || c == '\t'
  | "cntrl" => some fun c => within 0 0x1F c || c.toNat == 0x7F
  | "digit" => some Char.isDigit
  | "graph" => some (within 0x21 0x7E)
  | "lower" => some Char.isLower
  | "print" => some (within 0x20 0x7E)
  | "punct" => some fun c => within 0x21 0x7E c && !c.isAlphanum
  | "space" => some fun c => Text.isBlank c || c == '\x0b'
  | "upper" => some Char.isUpper
  | "word" => some fun c => c.isAlphanum || c == '_'
  | "xdigit" => some fun c => (Text.hexDigit? c).isSome
  | _ => none

/-- A named set: whether it is negated, the set, and what follows it. The text starts behind the
opening bracket. -/
def readNamed? : List Char → Option (Bool × (Char → Bool) × List Char)
  | ':' :: cs => do
    let (negated, cs) := match cs with
      | '^' :: rest => (true, rest)
      | cs => (false, cs)
    let (name, rest) := (cs.takeWhile (· != ':'), cs.dropWhile (· != ':'))
    match rest with
    | ':' :: ']' :: rest => some (negated, ← named? name, rest)
    | _ => none
  | _ => none

/-- A character or an escape. -/
def readItem? (f : Flags) : List Char → Option (Escape × List Char)
  | [] => none
  | '\\' :: rest => Escape.read? f rest
  | c :: rest => some (.char c false, rest)

/-- The character, unless it is outside of ASCII where sets hold ASCII characters only. -/
def bound? (f : Flags) : Escape → Option Char
  | .char c _ => if f.unicode || c.toNat < 128 then some c else none
  | _ => none

/-- The set of an item that stands alone. -/
def alone? (f : Flags) : Escape → Option (Char → Bool)
  | .set p => some p
  | e => do
    let c ← bound? f e
    some (· == c)

/-- A single item or a range. A hyphen before the closing bracket or before another hyphen makes no
range. -/
def readRange? (f : Flags) (cs : List Char) : Option ((Char → Bool) × List Char) := do
  let (first, rest) ← readItem? f cs
  match f.skip rest with
  | [] => none
  | '-' :: rest' =>
    let behind := f.skip rest'
    if behind.head? == some ']' || behind.head? == some '-' then
      some (← alone? f first, '-' :: rest')
    else do
      let (last, rest) ← readItem? f behind
      let lo ← bound? f first
      let hi ← bound? f last
      if lo ≤ hi then some (fun c => lo ≤ c && c ≤ hi, rest) else none
  | rest => some (← alone? f first, rest)

/-- The hyphens that open a set stand for themselves. -/
def leadingHyphens (f : Flags) : Nat → List Char → Bool × List Char
  | 0, cs => (false, cs)
  | fuel + 1, cs =>
    match cs with
    | '-' :: rest => (true, (leadingHyphens f fuel (f.skip rest)).2)
    | cs => (false, cs)

/-- What opens a set, behind the bracket: whether it is negated, and its first items. A closing
bracket in the first place stands for itself. -/
def start (f : Flags) (cs : List Char) : Bool × Part × List Char :=
  let (negated, cs) := match f.skip cs with
    | '^' :: rest => (true, f.skip rest)
    | cs => (false, cs)
  let (hyphen, cs) := leadingHyphens f cs.length cs
  if hyphen then (negated, { items := [(· == '-')] }, cs)
  else
    match cs with
    | ']' :: rest => (negated, { items := [(· == ']')] }, rest)
    | cs => (negated, {}, cs)

/-- Reads a set up to its closing bracket. Every step reads a character at least, so that the length
of the text is fuel enough. -/
def read? (f : Flags) : Nat → Part → List Char → Option ((Char → Bool) × List Char)
  | 0, _, _ => none
  | fuel + 1, part, cs =>
    match f.skip cs with
    | [] => none
    | ']' :: rest => some (part.set f, rest)
    | '&' :: '&' :: rest => read? f fuel (part.operate f .intersection) rest
    | '-' :: '-' :: rest => read? f fuel (part.operate f .difference) rest
    | '~' :: '~' :: rest => read? f fuel (part.operate f .symmetricDifference) rest
    | '[' :: rest =>
      match readNamed? rest with
      | some (negated, p, rest) => do read? f fuel (part.add (← f.close? negated p)) rest
      | none => do
        let (negated, inner, rest) := start f rest
        let (p, rest) ← read? f fuel inner rest
        read? f fuel (part.add (← f.close? negated p)) rest
    | cs => do
      let (p, rest) ← readRange? f cs
      read? f fuel (part.add p) rest

/-- Reads a set, from behind its opening bracket. -/
def readAll? (f : Flags) (cs : List Char) : Option ((Char → Bool) × List Char) := do
  let (negated, part, rest) := start f cs
  let (p, rest) ← read? f (cs.length + 1) part rest
  some (← f.close? negated p, rest)

end Bracket

end MarkupAudit.Pattern
