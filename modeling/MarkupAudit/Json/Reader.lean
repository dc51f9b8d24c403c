import MarkupAudit.Json.Token

namespace MarkupAudit.Json

/-- An array or object that is still open. What it holds stands newest first. The depth of a text is
the height of the stack of these. -/
inductive Frame where
  | array (items : List Json)
  | object (members : List (Option String × Json)) (name : Option String)

/-- What the reader waits for, under the open frames, innermost first. -/
inductive Read where
  /-- A value; right after an opening bracket also the end of its array. -/
  | value (frames : List Frame) (mayClose : Bool)
  /-- A key; right after an opening brace also the end of its object. -/
  | key (frames : List Frame) (members : List (Option String × Json)) (mayClose : Bool)
  /-- The colon after a key. -/
  | colon (frames : List Frame) (members : List (Option String × Json)) (name : Option String)
  /-- A comma or an end, after a value in an array or object. -/
  | separator (frames : List Frame)
  /-- Nothing more. -/
  | done (j : Json)

/-- How many arrays and objects may stand inside each other. -/
def depthLimit : Nat := 127

/-- Closes an array or object under the frames that stay open, which leave room for it if there are
fewer of them than the limit. -/
def nested (frames : List Frame) (j : Json) : Json :=
  if (frames.drop (depthLimit - 1)).isEmpty then j else .unreadable

/-- The object with these members, given newest first; a key without a value spoils it. -/
def objectOf (members : List (Option String × Json)) : Json :=
  match members.reverse.mapM fun (name, j) => name.map (·, j) with
  | some members => .object members
  | none => .unreadable

/-- A value is complete. -/
def Read.complete (j : Json) : List Frame → Read
  | [] => .done j
  | .array items :: rest => .separator (.array (j :: items) :: rest)
  | .object members name :: rest => .separator (.object ((name, j) :: members) none :: rest)

/-- Reads one token. -/
def Read.step? (r : Read) (t : Token) : Option Read :=
  match r, t with
  | .value frames _, .scalar j => some (complete j frames)
  | .value frames _, .text s => some (complete ((s.map Json.string).getD .unreadable) frames)
  | .value frames _, .openArray => some (.value (.array [] :: frames) true)
  | .value frames _, .openObject => some (.key frames [] true)
  | .value (.array items :: rest) true, .closeArray =>
    some (complete (nested rest (.array items.reverse)) rest)
  | .key frames members _, .text s => some (.colon frames members s)
  | .key frames members true, .closeObject =>
    some (complete (nested frames (objectOf members)) frames)
  | .colon frames members name, .colon => some (.value (.object members name :: frames) false)
  | .separator (.array items :: rest), .comma => some (.value (.array items :: rest) false)
  | .separator (.array items :: rest), .closeArray =>
    some (complete (nested rest (.array items.reverse)) rest)
  | .separator (.object members _ :: rest), .comma => some (.key rest members false)
  | .separator (.object members _ :: rest), .closeObject =>
    some (complete (nested rest (objectOf members)) rest)
  | _, _ => none

/-- Reads a text that holds one value and nothing else but blanks. -/
def read? (text : String) : Option Json := do
  let tokens ← tokens? text
  match ← tokens.foldlM Read.step? (.value [] false) with
  | .done j => some j
  | _ => none

end MarkupAudit.Json
