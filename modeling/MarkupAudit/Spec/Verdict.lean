import MarkupAudit.Guarded
import MarkupAudit.Message.Basic
import MarkupAudit.Number.Range
import MarkupAudit.Source.Attribute
import MarkupAudit.Spec.Table
import MarkupAudit.Text.Split

namespace MarkupAudit

/-- What is wrong with an attribute: there is no such attribute, or its value is wrong. -/
inductive Fault where
  | nonExistent
  | invalidValue
  deriving DecidableEq, Repr

/-- A verdict on an attribute. -/
inductive Verdict where
  | valid
  | invalid (fault : Fault) (message : String)
  deriving DecidableEq, Repr

namespace Verdict

open Message

/-- The verdict that rejects an attribute. It is checked that it says why. -/
def reject (fault : Fault) (message : String) : Guarded Verdict := do
  Guarded.insist (message != "") .emptyMessage
  return .invalid fault message

/-- The subject of a complaint: the attribute by its name. -/
def subject (l : Locale) (name : String) : String :=
  l.expand Phrase.theAttribute [name]

/-- The complaint that an attribute should be something. -/
def shouldBe (l : Locale) (name expected : String) : String :=
  l.expand Phrase.shouldBe [subject l name, expected]

/-- No complaint if the value is as expected. -/
def expect (l : Locale) (ok : Bool) (name expected : String) : Option String :=
  if ok then none else some (shouldBe l name expected)

/-- The values of a referrer policy. -/
def referrerPolicies : List String :=
  ["", "no-referrer", "no-referrer-when-downgrade", "same-origin", "origin", "strict-origin",
    "origin-when-cross-origin", "strict-origin-when-cross-origin", "unsafe-url"]

/-- The modes of blending. -/
def blendModes : List String :=
  ["normal", "multiply", "screen", "overlay", "darken", "lighten", "color-dodge", "color-burn",
    "hard-light", "soft-light", "difference", "exclusion", "hue", "saturation", "color",
    "luminosity"]

/-- The units of angles. -/
def angleUnits : List String := ["deg", "grad", "rad", "turn"]

/-- The value must be one of the literals, which are in lower case. -/
def oneOf? (l : Locale) (name value : String) (literals : List String) : Option String :=
  expect l (literals.contains (Text.lowercase value)) name
    (l.expand Phrase.either [l.list literals])

/-- The value must be an integer from zero to a bound. -/
def boundedInteger? (l : Locale) (name value : String) (max : Nat) : Option String :=
  if Number.isInteger value then
    expect l (Number.textInRange value 0 max) name
      (l.expand Phrase.integerBetween ["0", toString max])
  else some (shouldBe l name (l.expand Phrase.integer []))

/-- The greatest number of columns that a table cell can span. -/
def maxColumnSpan : Nat := 1000

/-- The greatest number of rows that a table cell can span. -/
def maxRowSpan : Nat := 65534

/-- The value must be an integer, and not below minus one. -/
def tabIndex? (l : Locale) (name value : String) : Option String :=
  if Number.isInteger value then
    let two : Number.Binary64 := .finite true (2 * Number.Binary64.one)
    if Number.inRange (.text value) (.infinite true) two then
      some (l.expand Phrase.sameBelow [subject l name, "-1"])
    else none
  else some (shouldBe l name (l.expand Phrase.integer []))

/-- A number from zero to one, or a percentage from zero to a hundred. -/
def isOpacity (value : String) : Bool :=
  let q := Number.splitUnit value
  if q.unit = "%" then Number.textInRange q.number 0 100
  else if q.unit = "" then Number.textInRange q.number 0 1
  else false

/-- What is wrong with a value of a named type. A type without a check accepts every value. -/
def namedComplaint? (l : Locale) (name value : String) : NamedType → Option String
  | .nonEmptyString => expect l (!value.isEmpty) name (l.expand Phrase.nonEmptyString [])
  | .integer => expect l (Number.isInteger value) name (l.expand Phrase.integer [])
  | .nonNegative =>
    expect l (Number.isNonNegative value) name (l.expand Phrase.nonNegativeInteger [])
  | .float => expect l (Number.isFloat value) name (l.expand Phrase.floatingPoint [])
  | .positive => expect l (Number.isPositive value) name (l.expand Phrase.positiveInteger [])
  | .zeroToOne =>
    expect l (Number.textInRange value 0 1) name (l.expand Phrase.numberBetween ["0", "1"])
  | .columnSpan => boundedInteger? l name value maxColumnSpan
  | .rowSpan => boundedInteger? l name value maxRowSpan
  | .tabIndex => tabIndex? l name value
  | .referrerPolicy => oneOf? l name value referrerPolicies
  | .blendMode => oneOf? l name value blendModes
  | .angle =>
    expect l (Number.hasUnit value angleUnits) name
      (l.expand Phrase.angle [l.list angleUnits])
  | .opacity =>
    expect l (isOpacity value) name
      (l.expand Phrase.orElse
        [l.expand Phrase.numberBetween ["0", "1"],
          l.expand Phrase.percentageBetween ["0%", "100%"]])
  | .fragment =>
    expect l (value.toList.head? == some '#') name (l.expand Phrase.fragment ["\"#\""])
  | _ => none

/-- What is wrong with a value of a type. -/
def complaint? (l : Locale) (name value : String) : ValueType → Option String
  | .oneOf values => oneOf? l name value values
  | .named type => namedComplaint? l name value type

/-- Whether something follows `start` in the text. -/
def continues (start text : String) : Bool :=
  match Text.dropStart? start.toList text.toList with
  | some (_ :: _) => true
  | _ => false

/-- Attributes that are left to others: data and accessibility attributes, and the role. -/
def isDelegated (name : String) : Bool :=
  let name := Text.foldCase name
  continues "data-" name || continues "aria-" name || name == "role"

/-- The verdict on an attribute by its declaration. In custom mode no attribute is delegated. -/
def ofAttribute (l : Locale) (name value : String) (custom : Bool) (decl : Option AttributeDecl) :
    Guarded Verdict :=
  if !custom && isDelegated name then pure .valid
  else
    match decl with
    | none => reject .nonExistent (l.expand Phrase.disallowed [name])
    | some decl =>
      match complaint? l name value decl.type with
      | some message => reject .invalidValue message
      | none => pure .valid

/-- The verdict on an attribute in a source file. A dynamic value is always valid. -/
def ofToken (l : Locale) (a : Attribute) (custom : Bool) (decl : Option AttributeDecl) :
    Guarded Verdict :=
  if a.dynamic then pure .valid else ofAttribute l a.name a.value custom decl

end Verdict

end MarkupAudit
