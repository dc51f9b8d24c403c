import MarkupAudit.Config.Basic
import MarkupAudit.Rule.Basic
import MarkupAudit.Spec.Verdict

namespace MarkupAudit

/-- The rule that attributes exist on their element and hold values of the declared type. Custom
declarations replace those of the table, and attributes whose name starts in a given way are left
alone. -/
structure InvalidAttribute where
  /-- Custom declarations by name in lower case. -/
  custom : List (String × AttributeDecl) := []
  /-- Attributes whose name starts with one of these are left alone. -/
  ignoredStarts : List String := []
  severity : Severity := .error

namespace InvalidAttribute

def name : String := "invalid-attr"

def code : String := "ML001"

/-- Adds a custom declaration, in place of an earlier one of the same name. -/
def declare (r : InvalidAttribute) (decl : AttributeDecl) : InvalidAttribute :=
  let key := Text.foldCase decl.name
  { r with custom := (key, decl) :: r.custom.filter (·.1 != key) }

/-- The custom declaration of an attribute, in any ASCII case. -/
def custom? (r : InvalidAttribute) (attr : String) : Option AttributeDecl :=
  r.custom.lookup (Text.foldCase attr)

/-- Whether an attribute is left alone. -/
def isIgnored (r : InvalidAttribute) (attr : String) : Bool :=
  r.ignoredStarts.any fun start => (Text.dropStart? start.toList attr.toList).isSome

/-- Whether an attribute cannot be judged: its element is not declared, and there is no custom
declaration. -/
def isUnknown (r : InvalidAttribute) (specs : SpecLookup) (n : NodeInfo) (a : Attribute) : Bool :=
  !specs.hasElement n.name && (r.custom? a.name).isNone

/-- The verdict on an attribute. -/
def verdict (r : InvalidAttribute) (specs : SpecLookup) (l : Locale) (n : NodeInfo)
    (a : Attribute) : Guarded Verdict :=
  match r.custom? a.name with
  | some decl => Verdict.ofToken l a true (some decl)
  | none => Verdict.ofToken l a false (specs.attribute? n.name a.name)

/-- The report that a verdict on an attribute asks for. A missing attribute is reported at its name,
a wrong value at the value. -/
def reportOf (a : Attribute) : Verdict → List Report
  | .valid => []
  | .invalid .nonExistent message => [{ span := a.nameSpan, message }]
  | .invalid .invalidValue message => [{ span := a.valueOrNameSpan, message }]

/-- The report on an attribute, if there is one. -/
def attributeReport (r : InvalidAttribute) (specs : SpecLookup) (l : Locale) (n : NodeInfo)
    (a : Attribute) : Guarded (List Report) :=
  if r.isIgnored a.name || r.isUnknown specs n a then pure []
  else reportOf a <$> r.verdict specs l n a

/-- The reports on an element. -/
def check (r : InvalidAttribute) (specs : SpecLookup) (l : Locale) (n : NodeInfo)
    (_ : List NodeInfo) : Guarded (List Report) :=
  Guarded.collect (r.attributeReport specs l n) n.attributes

/-- A line for each attribute that cannot be judged. -/
def notes (r : InvalidAttribute) (specs : SpecLookup) (d : Document) : List String :=
  d.elements.flatMap fun e =>
    (e.info.attributes.filter fun a => !r.isIgnored a.name && r.isUnknown specs e.info a).map
      fun _ => "Skipping attribute on unknown element <" ++ e.info.name ++ ">"

/-- The rule. -/
def rule (r : InvalidAttribute) : Rule where
  name := name
  code := code
  description := "Checks that attributes exist on their element and hold valid values"
  severity := r.severity
  options :=
    [⟨"attrs", .table [], "Custom attribute types, checked instead of the specification table"⟩,
     ⟨"ignore_attr_name_prefix", .array [], "Attribute name prefixes to skip"⟩]
  run := fun specs locale d => Except.ok <$> inspect (r.check specs locale) d
  notes := r.notes

/-- The type of a custom attribute: the field `type` of a record. -/
def typeOfJson? (j : Json) : Option ValueType := do
  match (← j.record? ["type"]).fields with
  | [type] => Json.required ValueType.ofJson? type
  | _ => none

/-- Custom declarations: a table of types by name. -/
def customOfToml? : Toml → Option (List AttributeDecl)
  | .table entries => entries.mapM fun (name, v) => do
    return { name, type := ← typeOfJson? v.toJson }
  | _ => none

/-- The rule with the given settings. Of custom declarations whose names differ only in ASCII case
the last one counts. A table has no order of its own, so which one that is depends on the order in
which its entries are listed here; results about rules that are made twice from the same settings
take that order to be the same both times. -/
def ofSettings (s : RuleSettings) : Except RuleError InvalidAttribute :=
  let ignoredStarts := s.strings "ignore_attr_name_prefix"
  match s.options.lookup "attrs" with
  | none => .ok { ignoredStarts }
  | some v =>
    match customOfToml? v with
    | some decls => .ok { decls.foldl declare {} with ignoredStarts }
    | none => .error (.invalidOption "attrs" "not a table of attribute types")

end InvalidAttribute

end MarkupAudit
