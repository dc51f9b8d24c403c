import MarkupAudit.Pattern.Bracket

namespace MarkupAudit.Pattern

/-- A token. The flags in force are known at every token, so it carries sets of characters and
places rather than what was written for them. -/
inductive Token where
  | atom (a : Atom)
  | groupStart
  | groupEnd
  | bar
  | repeat (min : Nat) (max : Option Nat)
  /-- A change of flags: an item that matches the empty text and cannot be repeated. -/
  | flagChange

/-- What the tokens that follow depend on: the flags in force, the flags outside of each open group,
and the names of groups so far. -/
structure Scope where
  flags : Flags := {}
  outer : List Flags := []
  names : List String := []

namespace Token

/-- A count: the largest one is `2 ^ 32 - 1`. -/
def count? (f : Flags) (cs : List Char) : Option (Nat × List Char) :=
  let (ds, rest) := digits f cs.length (cs.dropWhile Text.isWhiteSpace)
  let n := Text.numeral 10 ds
  if ds.isEmpty || 0x100000000 ≤ n then none
  else some (n, f.skip (rest.dropWhile Text.isWhiteSpace))
where
  digits (f : Flags) : Nat → List Char → List Char × List Char
    | 0, cs => ([], cs)
    | fuel + 1, cs =>
      match cs with
      | c :: rest =>
        if c.isDigit then
          let (ds, rest) := digits f fuel (f.skip rest)
          (c :: ds, rest)
        else ([], cs)
      | [] => ([], [])

/-- The mark that makes a repetition lazy, which changes nothing about what a pattern matches. -/
def dropLazy : List Char → List Char
  | '?' :: rest => rest
  | cs => cs

/-- A counted repetition, behind its opening brace. -/
def counted? (f : Flags) (cs : List Char) : Option (Token × List Char) := do
  let (min, rest) ← count? f (f.skip cs)
  let (max, rest) ← match rest with
    | ',' :: rest =>
      match f.skip rest with
      | '\x7d' :: rest => some (none, '\x7d' :: rest)
      | rest => do
        let (max, rest) ← count? f rest
        some (some max, rest)
    | rest => some (some min, rest)
  match rest with
  | '\x7d' :: rest =>
    if max.any (· < min) then none else some (.repeat min max, dropLazy (f.skip rest))
  | _ => none

/-- Whether a name of a group may start with the character. -/
def startsName (c : Char) : Bool :=
  c == '_' || Text.RangeTable.contains Text.Property.alphabetic c.toNat

/-- Whether the character may stand in a name of a group behind the first place. -/
def continuesName (c : Char) : Bool :=
  startsName c || c == '.' || c == '[' || c == ']' ||
    Text.RangeTable.contains Text.Property.numeric c.toNat

/-- The name of a group, up to the closing angle bracket, which is dropped. -/
def groupName? (cs : List Char) : Option (String × List Char) :=
  let name := cs.takeWhile (· != '>')
  match name, cs.dropWhile (· != '>') with
  | c :: more, '>' :: rest =>
    if startsName c && more.all continuesName then some (String.ofList name, rest) else none
  | _, _ => none

/-- Opens a group. -/
def enter (scope : Scope) (flags : Flags) : Scope :=
  { scope with flags, outer := scope.flags :: scope.outer }

/-- Opens a group with a name, which no other group may have. -/
def enterNamed? (scope : Scope) (cs : List Char) : Option (Token × Scope × List Char) := do
  let (name, rest) ← groupName? cs
  if scope.names.contains name then none
  else
    let scope := enter scope scope.flags
    some (.groupStart, { scope with names := name :: scope.names }, rest)

/-- What an opening parenthesis starts: a group, with or without a name or flags, or a change of
flags for the rest of the group around it. There is no looking around. -/
def group? (scope : Scope) (cs : List Char) : Option (Token × Scope × List Char) :=
  match scope.flags.skip cs with
  | '?' :: 'P' :: '<' :: rest => enterNamed? scope rest
  | '?' :: '<' :: rest => enterNamed? scope rest
  | '?' :: rest => do
    let (flags, rest') ← scope.flags.read? [] rest
    match rest' with
    | ':' :: rest => some (.groupStart, enter scope flags, rest)
    | ')' :: rest'' =>
      if rest.head? == some ')' then none else some (.flagChange, { scope with flags }, rest'')
    | _ => none
  | cs => some (.groupStart, enter scope scope.flags, cs)

/-- The atom of an escape. A byte outside of ASCII is no character. -/
def ofEscape? (f : Flags) : Escape → Option Atom
  | .char c isByte =>
    if isByte && !f.unicode && 128 ≤ c.toNat then none else some (.set (f.single c))
  | .set p => some (.set p)
  | .look l => some (.look l f.word)

/-- Reads one token. The text is not empty and starts with nothing to be skipped. -/
def next? (scope : Scope) : List Char → Option (Token × Scope × List Char)
  | [] => none
  | c :: rest =>
    let f := scope.flags
    match c with
    | '(' => group? scope rest
    | ')' =>
      match scope.outer with
      | [] => none
      | flags :: outer => some (.groupEnd, { scope with flags, outer }, rest)
    | '|' => some (.bar, scope, rest)
    | '?' => some (.repeat 0 (some 1), scope, dropLazy rest)
    | '*' => some (.repeat 0 none, scope, dropLazy rest)
    | '+' => some (.repeat 1 none, scope, dropLazy rest)
    | '\x7b' => do
      let (token, rest) ← counted? f rest
      some (token, scope, rest)
    | '[' => do
      let (p, rest) ← Bracket.readAll? f rest
      some (.atom (.set p), scope, rest)
    | '\\' => do
      let (e, rest) ← Escape.read? f rest
      some (.atom (← ofEscape? f e), scope, rest)
    | '.' => do some (.atom (.set (← f.dot?)), scope, rest)
    | '^' => some (.atom (.look f.caret f.word), scope, rest)
    | '$' => some (.atom (.look f.dollar f.word), scope, rest)
    | c => some (.atom (.set (f.single c)), scope, rest)

/-- Reads all tokens. Every token has a character at least, so that the length of the text is fuel
enough. -/
def readAll? : Nat → Scope → List Char → Option (List Token)
  | 0, _, _ => some []
  | fuel + 1, scope, cs =>
    match scope.flags.skip cs with
    | [] => some []
    | cs => do
      let (token, scope, rest) ← next? scope cs
      let tokens ← readAll? fuel scope rest
      some (token :: tokens)

/-- The tokens of a pattern. -/
def tokens? (source : String) : Option (List Token) :=
  readAll? source.toList.length {} source.toList

end Token

end MarkupAudit.Pattern
