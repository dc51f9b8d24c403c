import MarkupAudit.Pattern.Flags

namespace MarkupAudit.Pattern

/-- What an escape stands for. -/
inductive Escape where
  /-- A character; `isByte` if it was written as two hexadecimal digits. -/
  | char (c : Char) (isByte : Bool)
  | set (p : Char → Bool)
  | look (l : Look)

namespace Escape

/-- Whether a backslash before the character leaves the character. -/
def standsForItself (c : Char) : Bool :=
  c.toNat < 128 && !c.isAlphanum && c != '<' && c != '>'

/-- The character of a code. -/
def scalar? (digits : List Char) : Option Char :=
  let n := Text.numeral 16 digits
  if n < 0xD800 ∨ (0xDFFF < n ∧ n < 0x110000) then some (Char.ofNat n) else none

/-- So many hexadecimal digits. -/
def digits? (f : Flags) : Nat → List Char → Option (List Char × List Char)
  | 0, cs => some ([], cs)
  | n + 1, cs =>
    match cs with
    | [] => none
    | c :: rest =>
      if (Text.hexDigit? c).isSome then do
        let (ds, rest) ← digits? f n (f.skip rest)
        some (c :: ds, rest)
      else none

/-- The text up to a closing brace, which is dropped. Blanks are left out where they are skipped. -/
def braced? (f : Flags) (cs : List Char) : Option (List Char × List Char) :=
  go cs.length cs
where
  go : Nat → List Char → Option (List Char × List Char)
    | 0, _ => none
    | fuel + 1, cs =>
      match f.skip cs with
      | [] => none
      | '\x7d' :: rest => some ([], rest)
      | c :: rest => (go fuel rest).map fun (text, rest) => (c :: text, rest)

/-- A character by its code: so many digits, or any number of them in braces. -/
def hex? (f : Flags) (count : Nat) (cs : List Char) : Option (Escape × List Char) :=
  match f.skip cs with
  | '\x7b' :: rest => do
    let (ds, rest) ← braced? f rest
    if ds.isEmpty || ds.any fun c => (Text.hexDigit? c).isNone then none
    else some (.char (← scalar? ds) false, f.skip rest)
  | cs => do
    let (ds, rest) ← digits? f count cs
    some (.char (← scalar? ds) (count == 2), rest)

/-- Cuts a list at the first place where the given characters stand, and drops those. -/
def cutAt? (mark : List Char) : List Char → Option (List Char × List Char)
  | [] => none
  | c :: rest =>
    if mark.isPrefixOf (c :: rest) then some ([], (c :: rest).drop mark.length)
    else (cutAt? mark rest).map fun (before, after) => (c :: before, after)

/-- The set that a property query asks for, and whether its complement is meant. -/
def query? (query : List Char) : Option (Text.RangeTable × Bool) :=
  let named := String.ofList
  match cutAt? ['!', '='] query, cutAt? [':'] query, cutAt? ['='] query with
  | some (name, value), _, _ => do some (← Text.Property.valued? (named name) (named value), true)
  | none, some (name, value), _ => do
    some (← Text.Property.valued? (named name) (named value), false)
  | none, none, some (name, value) => do
    some (← Text.Property.valued? (named name) (named value), false)
  | none, none, none => do some (← Text.Property.named? (named query), false)

/-- The set of a property: one letter, or a query in braces. -/
def property? (f : Flags) (negated : Bool) (cs : List Char) : Option (Escape × List Char) := do
  let (query, rest) ← match f.skip cs with
    | [] => none
    | '\\' :: _ => none
    | '\x7b' :: rest => braced? f rest
    | c :: rest => some ([c], f.skip rest)
  let (table, inverted) ← query? query
  if !f.unicode then none
  else
    let p ← f.close? (negated != inverted) fun c => Text.RangeTable.contains table c.toNat
    some (.set p, rest)

/-- The kinds of word boundary by name. -/
def boundary? (name : List Char) : Option Look :=
  if name = "start".toList then some .wordStart
  else if name = "end".toList then some .wordEnd
  else if name = "start-half".toList then some .noWordBefore
  else if name = "end-half".toList then some .noWordAfter
  else none

/-- What follows an escaped `b`: the name of a kind of boundary in braces, unless the braces hold a
count. -/
def wordBoundary? (f : Flags) (cs : List Char) : Option (Escape × List Char) :=
  match cs with
  | '\x7b' :: rest =>
    match f.skip rest with
    | [] => none
    | c :: _ =>
      if c.isAlpha || c == '-' then do
        let (name, rest) ← braced? f rest
        some (.look (← boundary? name), rest)
      else some (.look .wordBoundary, cs)
  | cs => some (.look .wordBoundary, cs)

/-- A set or its complement. -/
def setOf (f : Flags) (negated : Bool) (p : Char → Bool) (rest : List Char) :
    Option (Escape × List Char) :=
  if negated then do some (.set (← f.complement? p), rest) else some (.set p, rest)

/-- Reads what follows a backslash. -/
def read? (f : Flags) : List Char → Option (Escape × List Char)
  | [] => none
  | c :: rest =>
    match c with
    | 'x' => hex? f 2 rest
    | 'u' => hex? f 4 rest
    | 'U' => hex? f 8 rest
    | 'p' => property? f false rest
    | 'P' => property? f true rest
    | 'd' => setOf f false f.digit rest
    | 'D' => setOf f true f.digit rest
    | 's' => setOf f false f.space rest
    | 'S' => setOf f true f.space rest
    | 'w' => setOf f false f.word rest
    | 'W' => setOf f true f.word rest
    | 'a' => some (.char '\x07' false, rest)
    | 'f' => some (.char '\x0c' false, rest)
    | 't' => some (.char '\t' false, rest)
    | 'n' => some (.char '\n' false, rest)
    | 'r' => some (.char '\r' false, rest)
    | 'v' => some (.char '\x0b' false, rest)
    | 'A' => some (.look .textStart, rest)
    | 'z' => some (.look .textEnd, rest)
    | 'b' => wordBoundary? f rest
    | 'B' => some (.look .noWordBoundary, rest)
    | '<' => some (.look .wordStart, rest)
    | '>' => some (.look .wordEnd, rest)
    | c => if standsForItself c then some (.char c false, rest) else none

end Escape

end MarkupAudit.Pattern
