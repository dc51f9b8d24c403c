import MarkupAudit.Text.Ascii

namespace MarkupAudit.Toml

/-- A number of exactly so many digits at the start, within bounds. -/
def digits? (count low high : Nat) (cs : List Char) : Option (Nat × List Char) :=
  let ds := cs.take count
  let n := Text.numeral 10 ds
  if ds.length = count ∧ ds.all Char.isDigit ∧ low ≤ n ∧ n ≤ high then some (n, cs.drop count)
  else none

/-- A given character at the start. -/
def expect? (c : Char) : List Char → Option (List Char)
  | d :: rest => if c = d then some rest else none
  | [] => none

/-- A number with leading zeros up to a width. -/
def padded (width n : Nat) : String :=
  let ds := Nat.toDigits 10 n
  String.ofList (List.replicate (width - ds.length) '0' ++ ds)

/-- How many days a month has. -/
def daysIn (year month : Nat) : Nat :=
  if month = 2 then
    if year % 4 = 0 ∧ (year % 100 ≠ 0 ∨ year % 400 = 0) then 29 else 28
  else if month = 4 ∨ month = 6 ∨ month = 9 ∨ month = 11 then 30
  else 31

/-- A date, which must be one of the calendar. -/
def date? (cs : List Char) : Option (String × List Char) := do
  let (year, cs) ← digits? 4 0 9999 cs
  let (month, cs) ← digits? 2 1 12 (← expect? '-' cs)
  let (day, cs) ← digits? 2 1 31 (← expect? '-' cs)
  if day ≤ daysIn year month then
    some (padded 4 year ++ "-" ++ padded 2 month ++ "-" ++ padded 2 day, cs)
  else none

/-- The fraction of a second, of which nine digits count, without idle zeros at its end. -/
def fraction? (cs : List Char) : Option (String × List Char) :=
  match cs with
  | '.' :: rest =>
    let ds := rest.takeWhile Char.isDigit
    let kept := ((ds.take 9).reverse.dropWhile (· == '0')).reverse
    if ds.isEmpty then none
    else some (if kept.isEmpty then "" else "." ++ String.ofList kept, rest.dropWhile Char.isDigit)
  | _ => some ("", cs)

/-- A time of day. -/
def time? (cs : List Char) : Option (String × List Char) := do
  let (hour, cs) ← digits? 2 0 23 cs
  let (minute, cs) ← digits? 2 0 59 (← expect? ':' cs)
  let (second, cs) ← digits? 2 0 60 (← expect? ':' cs)
  let (fraction, cs) ← fraction? cs
  return (padded 2 hour ++ ":" ++ padded 2 minute ++ ":" ++ padded 2 second ++ fraction, cs)

/-- The offset from universal time, if there is one. -/
def offset? (cs : List Char) : Option (String × List Char) :=
  match cs with
  | 'Z' :: rest => some ("Z", rest)
  | 'z' :: rest => some ("Z", rest)
  | '+' :: rest => hours "+" rest
  | '-' :: rest => hours "-" rest
  | _ => some ("", cs)
where
  hours (sign : String) (cs : List Char) : Option (String × List Char) := do
    let (hour, cs) ← digits? 2 0 23 cs
    let (minute, cs) ← digits? 2 0 59 (← expect? ':' cs)
    let sign := if hour = 0 ∧ minute = 0 then "+" else sign
    return (sign ++ padded 2 hour ++ ":" ++ padded 2 minute, cs)

/-- Whether a character divides date and time. -/
def isDivider (c : Char) : Bool :=
  c == 'T' || c == 't' || c == ' '

/-- A date, a time, or a date and a time with an optional offset, and nothing else. It is kept in a
normal written form, with `T` between date and time. -/
def datetime? (cs : List Char) : Option String :=
  match time? cs with
  | some (time, []) => some time
  | _ => do
    match ← date? cs with
    | (date, []) => some date
    | (date, c :: cs) =>
      if isDivider c then
        let (time, cs) ← time? cs
        match ← offset? cs with
        | (offset, []) => some (date ++ "T" ++ time ++ offset)
        | _ => none
      else none

end MarkupAudit.Toml
