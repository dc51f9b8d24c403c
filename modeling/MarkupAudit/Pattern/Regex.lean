import MarkupAudit.Text.Property

namespace MarkupAudit.Pattern

/-- A regular expression over atoms, which match a single character or a place between two. -/
inductive Regex (α : Type) where
  | empty
  | atom (a : α)
  | concat (r s : Regex α)
  | alternate (r s : Regex α)
  | repeat (r : Regex α) (min : Nat) (max : Option Nat)

/-- What a place between two characters can be asked for. -/
inductive Look where
  | textStart
  | textEnd
  | lineStart
  | lineEnd
  /-- Lines that may also end in a carriage return, alone or before a line feed. -/
  | lineStartAny
  | lineEndAny
  | wordBoundary
  | noWordBoundary
  | wordStart
  | wordEnd
  | noWordBefore
  | noWordAfter
  deriving DecidableEq, Repr

/-- An atom of a pattern: a set of characters; or a place, with the set of word characters that it
goes by. -/
inductive Atom where
  | set (p : Char → Bool)
  | look (l : Look) (isWord : Char → Bool)

/-- Whether a place is as asked for, by the characters before and after it. -/
def Look.holds (l : Look) (isWord : Char → Bool) (before after : Option Char) : Bool :=
  let wordBefore := before.any isWord
  let wordAfter := after.any isWord
  match l with
  | .textStart => before.isNone
  | .textEnd => after.isNone
  | .lineStart => before.isNone || before == some '\n'
  | .lineEnd => after.isNone || after == some '\n'
  | .lineStartAny =>
    before.isNone || before == some '\n' || (before == some '\r' && after != some '\n')
  | .lineEndAny =>
    after.isNone || after == some '\r' || (after == some '\n' && before != some '\r')
  | .wordBoundary => wordBefore != wordAfter
  | .noWordBoundary => wordBefore == wordAfter
  | .wordStart => !wordBefore && wordAfter
  | .wordEnd => wordBefore && !wordAfter
  | .noWordBefore => !wordBefore
  | .noWordAfter => !wordAfter

/-- An atom on a subject: it goes one position on from a position of the set, or stays there. -/
inductive Move where
  | onward (positions : Nat)
  | stay (positions : Nat)

/-- The set of the positions whose flag is set. A set of positions of a subject with `n` characters
is a number with `n + 1` bits. -/
def positions (flags : List Bool) : Nat :=
  flags.foldr (fun flag rest => 2 * rest + flag.toNat) 0

/-- What stands before and after each position of a subject. -/
def places : Option Char → List Char → List (Option Char × Option Char)
  | before, [] => [(before, none)]
  | before, c :: rest => (before, some c) :: places (some c) rest

/-- An atom on a subject. -/
def Atom.on (subject : List Char) : Atom → Move
  | .set p => .onward (positions (subject.map p))
  | .look l isWord =>
    .stay (positions ((places none subject).map fun (before, after) => l.holds isWord before after))

/-- An expression on a subject. -/
def Regex.on (subject : List Char) : Regex Atom → Regex Move
  | .empty => .empty
  | .atom a => .atom (a.on subject)
  | .concat r s => .concat (r.on subject) (s.on subject)
  | .alternate r s => .alternate (r.on subject) (s.on subject)
  | .repeat r min max => .repeat (r.on subject) min max

/-- Applies a function so many times. -/
def times (f : Nat → Nat) : Nat → Nat → Nat
  | 0, s => s
  | k + 1, s => times f k (f s)

/-- All positions reached by applying a function at most so many times. -/
def upTo (f : Nat → Nat) : Nat → Nat → Nat
  | 0, s => s
  | k + 1, s => s ||| upTo f k (f s)

/-- The positions where a match may end that starts at one of the given positions. A subject with
`n` characters leaves room for `n` rounds of a repetition that go on; a further round stays where
it is, so that `n + 1` rounds are as good as any larger number. -/
def Regex.reach (n : Nat) : Regex Move → Nat → Nat
  | .empty, s => s
  | .atom (.onward p), s => (s &&& p) <<< 1
  | .atom (.stay p), s => s &&& p
  | .concat r t, s => t.reach n (r.reach n s)
  | .alternate r t, s => r.reach n s ||| t.reach n s
  | .repeat r min max, s =>
    let more := match max with
      | some max => Nat.min (max - min) (n + 1)
      | none => n + 1
    upTo (r.reach n) more (times (r.reach n) (Nat.min min (n + 1)) s)

/-- Whether the expression matches somewhere in the subject. -/
def Regex.occursIn (r : Regex Atom) (subject : List Char) : Bool :=
  let n := subject.length
  (r.on subject).reach n (Nat.pow 2 (n + 1) - 1) != 0

end MarkupAudit.Pattern
