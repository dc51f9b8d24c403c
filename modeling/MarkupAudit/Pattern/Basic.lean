import MarkupAudit.Pattern.Token

namespace MarkupAudit

namespace Pattern

/-- An open group: the alternatives that are finished and the items of the one that is being read,
both last first. An item that cannot be repeated is marked as fixed. -/
structure Group where
  finished : List (Regex Atom) := []
  items : List (Regex Atom × Bool) := []

namespace Group

/-- The alternative that is being read. -/
def current (g : Group) : Regex Atom :=
  g.items.foldl (fun r item => match r with
    | .empty => item.1
    | r => .concat item.1 r) .empty

/-- The whole group. -/
def regex (g : Group) : Regex Atom :=
  g.finished.foldl (fun r alternative => .alternate alternative r) g.current

/-- Adds an item. -/
def add (g : Group) (r : Regex Atom) (fixed : Bool) : Group :=
  { g with items := (r, fixed) :: g.items }

/-- Repeats the last item. -/
def repeatLast? (g : Group) (min : Nat) (max : Option Nat) : Option Group :=
  match g.items with
  | (r, false) :: items => some { g with items := (.repeat r min max, false) :: items }
  | _ => none

/-- Starts the next alternative. -/
def next (g : Group) : Group :=
  { finished := g.current :: g.finished }

end Group

/-- One token, on the innermost group and the groups around it. -/
def step : Group × List Group → Token → Option (Group × List Group)
  | (g, around), .atom a => some (g.add (.atom a) false, around)
  | (g, around), .groupStart => some ({}, g :: around)
  | (g, outer :: around), .groupEnd => some (outer.add g.regex false, around)
  | (_, []), .groupEnd => none
  | (g, around), .bar => some (g.next, around)
  | (g, around), .repeat min max => do some (← g.repeatLast? min max, around)
  | (g, around), .flagChange => some (g.add .empty true, around)

/-- The expression that the tokens make up, unless a group stays open. -/
def ofTokens? (tokens : List Token) : Option (Regex Atom) := do
  match ← tokens.foldlM step ({}, []) with
  | (g, []) => some g.regex
  | _ => none

/-- How many steps an expression takes when its repetitions are written out. -/
def Regex.size : Regex Atom → Nat
  | .empty => 1
  | .atom _ => 1
  | .concat r s => r.size + s.size
  | .alternate r s => r.size + s.size + 2
  | .repeat r min none => r.size * Nat.max min 1 + 1
  | .repeat r _ (some max) => r.size * max + 1

/-- The largest size of an expression. -/
def maxSize : Nat :=
  327680

end Pattern

/-- A pattern. A text matches if some part of it does. -/
structure Pattern where
  source : String
  accepts : String → Bool

/-- The pattern of a source text, unless it is malformed or too large. -/
def Pattern.ofSource? (source : String) : Option Pattern := do
  let r ← ofTokens? (← Token.tokens? source)
  if maxSize < r.size then none else some { source, accepts := fun s => r.occursIn s.toList }

end MarkupAudit
