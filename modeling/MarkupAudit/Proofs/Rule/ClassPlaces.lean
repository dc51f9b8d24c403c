import Mathlib.Data.List.DropRight
import Mathlib.Data.List.Forall2
import MarkupAudit.Proofs.Rule.ClassRuns

namespace MarkupAudit

/-- The bytes of a source from an offset on. -/
def bytesAt (source : String) (offset length : Nat) : ByteArray :=
  source.toByteArray.extract offset (offset + length)

/-- A part of a text stands in the source as far behind the whole as bytes are before it. -/
theorem bytesAt_middle {source before middle after : String} {offset : Nat}
    (hwhole : bytesAt source offset (before ++ (middle ++ after)).utf8ByteSize =
      (before ++ (middle ++ after)).toByteArray) :
    bytesAt source (offset + before.utf8ByteSize) middle.utf8ByteSize = middle.toByteArray := by
  have hmiddle : (before ++ (middle ++ after)).toByteArray.extract before.utf8ByteSize
      (before.utf8ByteSize + middle.utf8ByteSize) = middle.toByteArray := by
    have hskip := @ByteArray.extract_append_size_add before.toByteArray
      (middle.toByteArray ++ after.toByteArray) 0 middle.utf8ByteSize
    rw [String.toByteArray_append, String.toByteArray_append, ← String.size_toByteArray]
    rw [Nat.add_zero] at hskip
    rw [hskip, ByteArray.extract_append_eq_left String.size_toByteArray.symm]
  rw [← hwhole, bytesAt, ByteArray.extract_extract] at hmiddle
  simp only [String.utf8ByteSize_append] at hmiddle
  rwa [Nat.min_eq_left (by omega), ← Nat.add_assoc] at hmiddle

/-- A class that an attribute lists. -/
structure ListedClass where
  attr : Attribute
  run : ClassRun attr.value.toList

/-- Whether the attribute lists classes that can be judged: its name is `class` in any ASCII case,
and its value is known. -/
def Attribute.listsClasses (a : Attribute) : Bool :=
  a.name.toLower == "class" && !a.dynamic

/-- The classes that the attribute lists, from left to right. -/
def Attribute.classes (a : Attribute) : List ListedClass :=
  (ClassRun.all a.value.toList).map fun run => ⟨a, run⟩

/-- The classes that the elements of a document list, in the order of the source. -/
def Document.listedClasses (d : Document) : List ListedClass :=
  (d.entries.toList.filter (·.info.kind == .element)).flatMap fun e =>
    (e.info.attributes.filter Attribute.listsClasses).flatMap Attribute.classes

namespace ListedClass

/-- The class. -/
def name (c : ListedClass) : String :=
  String.ofList c.run.name

/-- How many bytes of the list stand before the class. -/
def byteOffset (c : ListedClass) : Nat :=
  (String.ofList c.run.before).utf8ByteSize

/-- How many line feeds of the list stand before the class. -/
def lineFeeds (c : ListedClass) : Nat :=
  c.run.before.count '\n'

/-- The line of the class, if the list starts at a place. -/
def lineFrom (c : ListedClass) (span : Span) : Nat :=
  span.line.toNat + c.lineFeeds

/-- The column of the class, if the list starts at a place: on a later line only what stands between
the last line feed and the class counts. -/
def columnFrom (c : ListedClass) (span : Span) : Nat :=
  if c.lineFeeds = 0 then span.column.toNat + c.run.start
  else 1 + (c.run.before.rtakeWhile (· != '\n')).length

/-- The column to report the class at, whether or not there is a word for it. -/
def column (c : ListedClass) : Nat :=
  match c.attr.valueSpan with
  | some span => span.column.toNat + c.run.start
  | none => c.attr.nameSpan.column.toNat

/-- The column of the class is a machine word. -/
def Fits (c : ListedClass) : Prop :=
  c.column < UInt64.size

instance (c : ListedClass) : Decidable c.Fits :=
  inferInstanceAs (Decidable (_ < _))

/-- Nothing stands before a class at the very start of its list. -/
theorem byteOffset_eq_zero_iff (c : ListedClass) : c.byteOffset = 0 ↔ c.run.before = [] := by
  rw [byteOffset, String.utf8ByteSize_eq_zero_iff, String.ofList_eq_empty_iff]

/-- Behind a line feed a class has a smaller column than its place in the list. -/
theorem columnFrom_le_start (c : ListedClass) (hfeeds : 0 < c.lineFeeds) (span : Span) :
    c.columnFrom span ≤ c.run.start := by
  have hmem : '\n' ∈ c.run.before := List.count_pos_iff.mp hfeeds
  have hsuffix := List.rtakeWhile_suffix (· != '\n') c.run.before
  have hshorter : (c.run.before.rtakeWhile (· != '\n')).length ≠ c.run.before.length := by
    intro hlength
    rw [← hsuffix.eq_of_length hlength] at hmem
    simpa using List.mem_rtakeWhile_imp hmem
  have hle := hsuffix.length_le
  rw [columnFrom, if_neg (by omega), ClassRun.start]
  omega

/-- In a source that has the list at an offset, the class stands behind what the list has before
it. -/
theorem bytesAt_class (c : ListedClass) {source : String} {offset : Nat}
    (hvalue : bytesAt source offset c.attr.value.utf8ByteSize = c.attr.value.toByteArray) :
    bytesAt source (offset + c.byteOffset) c.name.utf8ByteSize = c.name.toByteArray := by
  have hlist : c.attr.value =
      String.ofList c.run.before ++ (c.name ++ String.ofList c.run.after) := by
    rw [name, ← String.ofList_append, ← String.ofList_append, ← List.append_assoc, c.run.text_eq,
      String.ofList_toList]
  rw [hlist] at hvalue
  exact bytesAt_middle hvalue

end ListedClass

theorem Attribute.hasName_class (a : Attribute) :
    a.hasName "class" = (a.name.toLower == "class") := by
  have hfolded : Text.foldCase a.name = a.name.toLower := by
    apply String.toList_injective
    exact (Text.toList_foldCase a.name).trans String.toList_map.symm
  have hclass : Text.foldCase "class" = "class" := by decide
  rw [hasName, Text.sameName, hfolded, hclass]

namespace ClassNaming

/-- The classes of a document that the rule does not let pass: there are patterns, and none accepts
the class. -/
def badClasses (r : ClassNaming) (d : Document) : List ListedClass :=
  d.listedClasses.filter fun c => !r.patterns.isEmpty && r.patterns.all (!·.accepts c.name)

/-- The check that fails at a document: a bad class has a column that is no machine word. -/
def overflow? (r : ClassNaming) (d : Document) : Option Defect :=
  if ∀ c ∈ r.badClasses d, c.Fits then none else some .overflow

/-- The report on a class. -/
def report (r : ClassNaming) (l : Locale) (c : ListedClass) : Report where
  span := (place c.attr c.run.start c.name).value
  message := r.complaint l c.name

/-- The report on a class, with the check of its column. -/
def checkedReport (r : ClassNaming) (l : Locale) (c : ListedClass) : Guarded (List Report) where
  value := [r.report l c]
  defect? := if c.Fits then none else some .overflow

/-- The violation that a class is. -/
def violation (r : ClassNaming) (l : Locale) (d : Document) (c : ListedClass) : Violation :=
  (r.report l c).violation code name r.severity (Report.file d)

section

variable (r : ClassNaming) (l : Locale)

/-- The column of a class is checked for being a machine word. -/
theorem defect?_place (c : ListedClass) :
    (place c.attr c.run.start c.name).defect? = if c.Fits then none else some .overflow := by
  cases hspan : c.attr.valueSpan with
  | none =>
    have hfits : c.Fits := by
      rw [ListedClass.Fits, ListedClass.column, hspan]
      exact c.attr.nameSpan.column.toNat_lt
    simp [place, hspan, hfits]
  | some span =>
    have hfits : c.Fits ↔ span.column.toNat + c.run.start < UInt64.size := by
      rw [ListedClass.Fits, ListedClass.column, hspan]
    simp [place, hspan, hfits, Guarded.defect?_sum]

/-- A class is reported, with the check on its column, unless a pattern accepts it. -/
theorem classReport_eq (c : ListedClass) :
    r.classReport l c.attr c.run.start c.name =
      if !r.accepts c.name then r.checkedReport l c else pure [] := by
  unfold classReport
  cases r.accepts c.name with
  | true => rfl
  | false =>
    refine Guarded.ext rfl ?_
    exact Option.or_none.trans (defect?_place c)

/-- A list of classes is reported class by class. -/
theorem attributeReports_eq (a : Attribute) :
    r.attributeReports l a =
      Guarded.collect (r.checkedReport l) (a.classes.filter fun c => !r.accepts c.name) := by
  rw [attributeReports, classNames_eq_map_all, Guarded.collect_map, Guarded.collect_filter,
    Attribute.classes, Guarded.collect_map]
  exact congrArg (Guarded.collect · _) (funext fun run => r.classReport_eq l ⟨a, run⟩)

/-- An element is reported through all its lists of classes. -/
theorem check_eq (n : NodeInfo) (children : List NodeInfo) :
    r.check l n children =
      Guarded.collect (r.checkedReport l)
        (((n.attributes.filter Attribute.listsClasses).flatMap Attribute.classes).filter
          fun c => !r.accepts c.name) := by
  have hlists : (n.attributesNamed "class").filter (!·.dynamic) =
      n.attributes.filter Attribute.listsClasses := by
    rw [NodeInfo.attributesNamed, List.filter_filter]
    refine List.filter_congr fun a _ => ?_
    rw [Attribute.hasName_class, Attribute.listsClasses, Bool.and_comm]
  rw [check, hlists, List.filter_flatMap, Guarded.collect_flatMap]
  exact congrArg (Guarded.collect · _) (funext (r.attributeReports_eq l))

/-- The reports on some classes are stopped if the column of one of them is no machine word. -/
theorem collect_checkedReport (classes : List ListedClass) :
    Guarded.collect (r.checkedReport l) classes =
      { value := classes.map (r.report l)
        defect? := if ∀ c ∈ classes, c.Fits then none else some .overflow } := by
  refine Guarded.ext ?_ ?_
  · rw [Guarded.value_collect]
    exact List.flatMap_pure_eq_map ..
  · rw [Guarded.defect?_collect]
    induction classes with
    | nil => rfl
    | cons c rest ih =>
      rw [List.findSome?_cons, ih]
      by_cases hc : c.Fits
      · simp [checkedReport, hc]
      · simp [checkedReport, hc]

/-- The reports of the rule are those on the classes that it does not let pass, in order. -/
theorem run_rule (specs : SpecLookup) (d : Document) :
    r.rule.run specs l d =
      { value := .ok ((r.badClasses d).map (r.report l)), defect? := r.overflow? d } := by
  by_cases hempty : r.patterns.isEmpty = true
  · have hnone : r.badClasses d = [] := by simp [badClasses, hempty]
    simp only [rule, hempty, if_true, overflow?, hnone]
    rfl
  · have hbad : r.badClasses d = d.listedClasses.filter fun c => !r.accepts c.name := by
      refine List.filter_congr fun c _ => ?_
      rw [accepts, List.not_any_eq_all_not]
      simp [hempty]
    have hinspect : inspect (r.check l) d =
        Guarded.collect (r.checkedReport l) (r.badClasses d) := by
      rw [hbad, Document.listedClasses, List.filter_flatMap, Guarded.collect_flatMap, inspect,
        Document.elements]
      exact congrArg (Guarded.collect · _)
        (funext fun e => r.check_eq l e.info (d.childInfos e))
    simp only [rule, hempty, Bool.false_eq_true, if_false, hinspect, collect_checkedReport]
    exact Guarded.ext rfl (Guarded.defect?_map ..)

/-- The violations of the rule are the classes that it does not let pass, in order. -/
theorem violations_rule (specs : SpecLookup) (d : Document) :
    r.rule.violations specs l d =
      { value := .ok ((r.badClasses d).map (r.violation l d)), defect? := r.overflow? d } := by
  rw [Rule.violations, run_rule]
  refine Guarded.ext ?_ (Guarded.defect?_map ..)
  rw [Guarded.value_map, Except.map, List.map_map]
  rfl

/-- A class in a list with a known place is reported at its own place. -/
theorem location_violation (d : Document) {c : ListedClass} {span : Span}
    (hspan : c.attr.valueSpan = some span) :
    (r.violation l d c).location =
      { file := Report.file d, line := span.line, column := span.column + .ofNat c.run.start,
        offset := span.offset, length := c.name.utf8ByteSize, raw := c.name } := by
  simp [violation, Report.violation, report, place, hspan, Location.ofSpan]

/-- Otherwise it is reported at the name of the attribute. -/
theorem location_violation_of_none (d : Document) {c : ListedClass}
    (hspan : c.attr.valueSpan = none) :
    (r.violation l d c).location = .ofSpan (Report.file d) c.attr.nameSpan := by
  simp [violation, Report.violation, report, place, hspan]

/-- Without checks the column of a violation is the remainder of the column of the class. -/
theorem toNat_column_violation_eq_mod (d : Document) (c : ListedClass) :
    (r.violation l d c).location.column.toNat = c.column % UInt64.size := by
  rw [ListedClass.column]
  cases hspan : c.attr.valueSpan with
  | none =>
    rw [r.location_violation_of_none l d hspan]
    exact (Nat.mod_eq_of_lt c.attr.nameSpan.column.toNat_lt).symm
  | some span =>
    rw [r.location_violation l d hspan]
    dsimp only
    rw [UInt64.toNat_add, UInt64.toNat_ofNat', Nat.add_mod_mod]

/-- A column that fits is counted along the list. -/
theorem toNat_column_violation (d : Document) {c : ListedClass} {span : Span}
    (hspan : c.attr.valueSpan = some span) (hfits : span.column.toNat + c.run.start < UInt64.size) :
    (r.violation l d c).location.column.toNat = span.column.toNat + c.run.start := by
  have hcolumn : c.column = span.column.toNat + c.run.start := by
    rw [ListedClass.column, hspan]
  rw [toNat_column_violation_eq_mod, hcolumn, Nat.mod_eq_of_lt hfits]

/-- What holds of every bad class and the violation that it is holds of the two lists. -/
theorem forall₂_violation {d : Document} {relation : ListedClass → Violation → Prop}
    (hrelation : ∀ c ∈ r.badClasses d, relation c (r.violation l d c)) :
    List.Forall₂ relation (r.badClasses d) ((r.badClasses d).map (r.violation l d)) := by
  rw [List.forall₂_map_right_iff, List.forall₂_same]
  exact hrelation

/-- To show something of every bad class and the violation that it is, it is enough to show it of
a class and what the rule says about it. -/
theorem exists_violations_forall₂ (specs : SpecLookup) (d : Document)
    {relation : ListedClass → Violation → Prop} (hrelation : ∀ c, relation c (r.violation l d c)) :
    ∃ violations,
      r.rule.violations specs l d = { value := .ok violations, defect? := r.overflow? d } ∧
      List.Forall₂ relation (r.badClasses d) violations :=
  ⟨_, r.violations_rule l specs d, r.forall₂_violation l fun c _ => hrelation c⟩

end

/-- What a violation says about the place of a class: if the place of the list is known, the class
as it is written, and on the first line of the list its line and column; else the place of the
attribute's name. -/
structure PointsAt (d : Document) (c : ListedClass) (v : Violation) : Prop where
  text : ∀ span, c.attr.valueSpan = some span →
    v.location.raw = c.name ∧ v.location.length = c.name.utf8ByteSize
  firstLine : ∀ span, c.attr.valueSpan = some span → '\n' ∉ c.run.before →
    v.location.line = span.line ∧
      (span.column.toNat + c.run.start < UInt64.size →
        v.location.column.toNat = span.column.toNat + c.run.start)
  noSpan : c.attr.valueSpan = none → v.location = .ofSpan (Report.file d) c.attr.nameSpan

/-- The rule reports exactly the bad classes. There is one violation for each class that no pattern
accepts, element by element in document order, attribute by attribute, and from left to right in a
list of classes, where no class is missing and none comes twice. -/
theorem violations_match_badClasses (r : ClassNaming) (specs : SpecLookup) (l : Locale)
    (d : Document) :
    (∀ text, (∀ run : ClassRun text, run ∈ ClassRun.all text) ∧
      (ClassRun.all text).Pairwise fun run next => run.start < next.start) ∧
    ∃ violations,
      r.rule.violations specs l d = { value := .ok violations, defect? := r.overflow? d } ∧
      List.Forall₂ (PointsAt d) (r.badClasses d) violations := by
  refine ⟨fun text => ⟨ClassRun.mem_all, ClassRun.pairwise_all text⟩, ?_⟩
  refine r.exists_violations_forall₂ l specs d fun c => ⟨?_, ?_, ?_⟩
  · intro span hspan
    rw [r.location_violation l d hspan]
    exact ⟨rfl, rfl⟩
  · intro span hspan _
    refine ⟨?_, r.toNat_column_violation l d hspan⟩
    rw [r.location_violation l d hspan]
  · exact r.location_violation_of_none l d

/-- The byte offset of a violation is that of the list of classes, while the class itself stands
behind the bytes that come before it in the list. So the offset is right for a class with which the
list starts, and for no other. -/
theorem offset_right_iff_first (r : ClassNaming) (specs : SpecLookup) (l : Locale)
    (d : Document) :
    ∃ violations,
      r.rule.violations specs l d = { value := .ok violations, defect? := r.overflow? d } ∧
      List.Forall₂ (fun c v => ∀ span, c.attr.valueSpan = some span →
        v.location.offset = span.offset ∧
        (∀ source, bytesAt source span.offset.toNat c.attr.value.utf8ByteSize =
            c.attr.value.toByteArray →
          bytesAt source (span.offset.toNat + c.byteOffset) v.location.length =
            v.location.raw.toByteArray) ∧
        (v.location.offset.toNat = span.offset.toNat + c.byteOffset ↔ c.run.before = []))
        (r.badClasses d) violations := by
  refine r.exists_violations_forall₂ l specs d fun c span hspan => ?_
  rw [r.location_violation l d hspan]
  refine ⟨rfl, fun source hvalue => c.bytesAt_class hvalue, ?_⟩
  dsimp only
  rw [← c.byteOffset_eq_zero_iff]
  omega

/-- The line of a violation is that on which the list of classes starts, and the column counts all
that stands before the class in the list. So a class is reported where it stands if no line feed
comes before it, and is not if one does: then the line is too small, and the column too large. -/
theorem place_right_iff_first_line (r : ClassNaming) (specs : SpecLookup) (l : Locale)
    (d : Document) :
    ∃ violations,
      r.rule.violations specs l d = { value := .ok violations, defect? := r.overflow? d } ∧
      List.Forall₂ (fun c v => ∀ span, c.attr.valueSpan = some span →
        v.location.line = span.line ∧
        (v.location.line.toNat = c.lineFrom span ↔ c.lineFeeds = 0) ∧
        (span.column.toNat + c.run.start < UInt64.size →
          v.location.column.toNat = span.column.toNat + c.run.start ∧
          (v.location.line.toNat = c.lineFrom span ∧
            v.location.column.toNat = c.columnFrom span ↔ c.lineFeeds = 0) ∧
          (0 < c.lineFeeds → 0 < span.column.toNat →
            c.columnFrom span < v.location.column.toNat)))
        (r.badClasses d) violations := by
  refine r.exists_violations_forall₂ l specs d fun c span hspan => ?_
  have hline : (r.violation l d c).location.line = span.line := by
    rw [r.location_violation l d hspan]
  have hlineFrom : (r.violation l d c).location.line.toNat = c.lineFrom span ↔
      c.lineFeeds = 0 := by
    rw [hline, ListedClass.lineFrom]
    omega
  refine ⟨hline, hlineFrom, fun hfits => ?_⟩
  have hcolumn := r.toNat_column_violation l d hspan hfits
  refine ⟨hcolumn, ⟨fun hplace => hlineFrom.mp hplace.1, fun hfeeds => ?_⟩, ?_⟩
  · refine ⟨hlineFrom.mpr hfeeds, ?_⟩
    rw [hcolumn, ListedClass.columnFrom, if_pos hfeeds]
  · intro hfeeds hpositive
    have hle := c.columnFrom_le_start hfeeds span
    omega

-- The class on the second line of a list that starts at 1:11 and byte 10.
example :
    let list : Attribute :=
      { name := "class", value := "c-a\n  Foo",
        valueSpan := some { line := 1, column := 11, offset := 10 } }
    let d : Document := .ofForest [.mk { kind := .element, attributes := [list] } []]
    let r : ClassNaming :=
      { patterns := [{ source := "^c-", accepts := fun s => s.toList.take 2 == ['c', '-'] }] }
    (r.badClasses d).map (fun c => (c.name, c.lineFrom { line := 1, column := 11 },
        c.columnFrom { line := 1, column := 11 }, c.byteOffset)) = [("Foo", 2, 3, 6)] ∧
      (r.rule.violations ⟨fun _ _ => none, fun _ => false⟩ .english d).value.toOption.map
          (·.map fun v => (v.location.line, v.location.column, v.location.offset)) =
        some [(1, 17, 10)] := by
  decide +kernel

end ClassNaming

end MarkupAudit
