import MarkupAudit.Proofs.Linter.Wording
import MarkupAudit.Proofs.Rule.Attributes
import MarkupAudit.Proofs.Text.Lowercase

namespace MarkupAudit

open Text

/-- The attribute with its name in lower case. -/
def Attribute.foldName (a : Attribute) : Attribute :=
  { a with name := foldCase a.name }

/-- What a node is, with its name and those of its attributes in lower case. -/
def NodeInfo.foldNames (n : NodeInfo) : NodeInfo :=
  { n.mapAttributes Attribute.foldName with name := foldCase n.name }

/-- The document with all names of nodes and attributes in lower case. -/
def Document.foldNames (d : Document) : Document :=
  { d with entries := d.entries.map fun e => { e with info := e.info.foldNames } }

theorem Attribute.foldCase_name_foldName (a : Attribute) :
    foldCase a.foldName.name = foldCase a.name :=
  foldCase_foldCase a.name

namespace SpecTable

theorem element?_foldCase (t : SpecTable) (element : String) :
    t.element? (foldCase element) = t.element? element := by
  rw [element?, foldCase_foldCase]
  rfl

theorem hasElement_foldCase (t : SpecTable) (element : String) :
    t.hasElement (foldCase element) = t.hasElement element := by
  rw [hasElement, element?_foldCase]
  rfl

/-- The table is asked by folded names, so it gives the same answer in any case. -/
theorem attribute?_foldCase (t : SpecTable) (element attr : String) :
    t.attribute? (foldCase element) (foldCase attr) = t.attribute? element attr := by
  rw [attribute?, element?_foldCase, foldCase_foldCase]
  rfl

end SpecTable

namespace Verdict

/-- Names that are left to others are so in any case. -/
theorem isDelegated_foldCase (name : String) : isDelegated (foldCase name) = isDelegated name := by
  rw [isDelegated, foldCase_foldCase]
  rfl

/-- An attribute is judged alike in any case. -/
theorem fault?_ofToken_foldName (l : Locale) (a : Attribute) (custom : Bool)
    (decl : Option AttributeDecl) :
    (ofToken l a.foldName custom decl).value.fault? = (ofToken l a custom decl).value.fault? := by
  have hdynamic : a.foldName.dynamic = a.dynamic := rfl
  rw [ofToken, ofToken, hdynamic]
  split
  · rfl
  · simp only [Attribute.foldName, fault?_ofAttribute_eq, isDelegated_foldCase,
      isSome_complaint? l l a.name (foldCase a.name)]

end Verdict

namespace InvalidAttribute

/-- An attribute is reported at the same place in any case. -/
theorem reportOf_foldName (a : Attribute) (v : Verdict) : reportOf a.foldName v = reportOf a v := by
  cases v with
  | valid => rfl
  | invalid fault message =>
    cases fault with
    | nonExistent => rfl
    | invalidValue => rfl

/-- Custom declarations are found in any case. -/
theorem custom?_foldCase (r : InvalidAttribute) (attr : String) :
    r.custom? (foldCase attr) = r.custom? attr := by
  rw [custom?, foldCase_foldCase]
  rfl

/-- The fault that is found with an attribute does not depend on case. -/
theorem fault?_verdict_foldNames (r : InvalidAttribute) (t : SpecTable) (l : Locale) (n : NodeInfo)
    (a : Attribute) :
    (r.verdict t.lookup l n.foldNames a.foldName).value.fault? =
      (r.verdict t.lookup l n a).value.fault? := by
  have hcustom : r.custom? a.foldName.name = r.custom? a.name := r.custom?_foldCase a.name
  have htable : t.lookup.attribute? n.foldNames.name a.foldName.name =
      t.lookup.attribute? n.name a.name := t.attribute?_foldCase n.name a.name
  rw [verdict, verdict, hcustom, htable]
  cases r.custom? a.name with
  | none => exact Verdict.fault?_ofToken_foldName l a false _
  | some decl => exact Verdict.fault?_ofToken_foldName l a true _

/-- Nor does whether the element and the attribute are known. -/
theorem isUnknown_foldNames (r : InvalidAttribute) (t : SpecTable) (n : NodeInfo) (a : Attribute) :
    r.isUnknown t.lookup n.foldNames a.foldName = r.isUnknown t.lookup n a := by
  have helement : t.lookup.hasElement n.foldNames.name = t.lookup.hasElement n.name :=
    t.hasElement_foldCase n.name
  have hcustom : r.custom? a.foldName.name = r.custom? a.name := r.custom?_foldCase a.name
  rw [isUnknown, helement, hcustom]
  rfl

/-- What is reported about an attribute does not depend on the case of names, but for the message,
unless starts of names are taken literally. -/
theorem map_unworded_attributeReport_foldNames {r : InvalidAttribute}
    (hstarts : r.ignoredStarts = []) (t : SpecTable) (l : Locale) (n : NodeInfo) (a : Attribute) :
    (r.attributeReport t.lookup l n.foldNames a.foldName).value.map Report.unworded =
      (r.attributeReport t.lookup l n a).value.map Report.unworded := by
  have hignored : ∀ name, r.isIgnored name = false := by
    intro name
    rw [isIgnored, hstarts]
    rfl
  rw [attributeReport, attributeReport, hignored, hignored, isUnknown_foldNames]
  split
  · rfl
  · rw [Guarded.value_map, Guarded.value_map, reportOf_foldName]
    exact map_unworded_reportOf (r.fault?_verdict_foldNames t l n a)

end InvalidAttribute

/-- The rule on class names finds its attribute in any case and quotes no name. -/
theorem ClassNaming.check_foldNames (r : ClassNaming) (l : Locale) (n : NodeInfo)
    (children : List NodeInfo) :
    r.check l n.foldNames (children.map NodeInfo.foldNames) = r.check l n children := by
  have hnamed : n.foldNames.attributesNamed "class" =
      (n.attributesNamed "class").map Attribute.foldName :=
    n.attributesNamed_mapAttributes Attribute.foldCase_name_foldName "class"
  rw [check, check, hnamed, List.filter_map, Guarded.collect_map]
  rfl

namespace EmptyContent

/-- Whether an element has palpable content does not depend on case. -/
theorem isPalpable_foldNames (r : EmptyContent) (n : NodeInfo) :
    r.isPalpable n.foldNames = r.isPalpable n := by
  simp only [isPalpable, NodeInfo.foldNames, foldCase_foldCase]

/-- The rule on empty content reports the same elements in the same words. -/
theorem check_foldNames (r : EmptyContent) (l : Locale) (n : NodeInfo) (children : List NodeInfo) :
    r.check l n.foldNames (children.map NodeInfo.foldNames) = r.check l n children := by
  have hcontent : (children.map NodeInfo.foldNames).any isContent = children.any isContent := by
    rw [List.any_map]
    rfl
  have hexempt : r.isExempt n.foldNames = r.isExempt n :=
    isExempt_mapAttributes Attribute.foldCase_name_foldName (fun _ => rfl) r n
  have hspan : n.foldNames.span = n.span := rfl
  rw [check, hexempt, isPalpable_foldNames, hcontent, hspan, check]

end EmptyContent

namespace DuplicateAttribute

/-- A repeated attribute is quoted as it is written, so only the place stays the same. -/
theorem unworded_attributeReport_foldName (l : Locale) (a : Attribute) :
    (attributeReport l a.foldName).unworded = (attributeReport l a).unworded := by
  simp only [attributeReport, Report.unworded, Attribute.foldName]

/-- The rule on repeated attributes reports at the same places. -/
theorem map_unworded_check_foldNames (l : Locale) (n : NodeInfo) (children : List NodeInfo) :
    (check l n.foldNames (children.map NodeInfo.foldNames)).map Report.unworded =
      (check l n children).map Report.unworded := by
  rw [check, check, NodeInfo.foldNames, NodeInfo.mapAttributes,
    repeated_map Attribute.foldCase_name_foldName]
  simp only [List.map_map, Function.comp_def, unworded_attributeReport_foldName]

end DuplicateAttribute

/-- No built-in rule distinguishes names by case, unless it takes starts of names literally. -/
theorem BuiltInRule.map_unworded_found_foldNames {r : BuiltInRule}
    (hstarts : ∀ options, r = .invalidAttribute options → options.ignoredStarts = [])
    (t : SpecTable) (l : Locale) (n : NodeInfo) (children : List NodeInfo) :
    (r.found t.lookup l n.foldNames (children.map NodeInfo.foldNames)).map Report.unworded =
      (r.found t.lookup l n children).map Report.unworded := by
  cases r with
  | invalidAttribute options =>
    have hattribute := InvalidAttribute.map_unworded_attributeReport_foldNames
      (hstarts options rfl) t l n
    have hattributes : n.foldNames.attributes = n.attributes.map Attribute.foldName := rfl
    simp only [found, check, InvalidAttribute.check, Guarded.value_collect, List.map_flatMap,
      hattributes, List.flatMap_map, hattribute]
  | classNaming options =>
    simp only [found, check, options.check_foldNames]
  | emptyContent options =>
    simp only [found, check, options.check_foldNames]
  | duplicateAttribute options =>
    exact DuplicateAttribute.map_unworded_check_foldNames l n children

/-- In a locale that has words for every complaint a built-in rule is stopped at the same elements
in any case. -/
theorem BuiltInRule.defect?_check_foldNames {l : Locale} (hworded : Verdict.Worded l)
    (r : BuiltInRule) (t : SpecTable) (n : NodeInfo) (children : List NodeInfo) :
    (r.check t.lookup l n.foldNames (children.map NodeInfo.foldNames)).defect? =
      (r.check t.lookup l n children).defect? := by
  cases r with
  | invalidAttribute options =>
    simp only [check, options.defect?_check hworded]
  | classNaming options => simp only [check, options.check_foldNames]
  | emptyContent options => rfl
  | duplicateAttribute options => rfl

namespace Document

theorem toList_entries_foldNames (d : Document) :
    d.foldNames.entries.toList =
      d.entries.toList.map fun e => { e with info := e.info.foldNames } :=
  Array.toList_map

/-- Folding changes what nodes are called, not which number they have. -/
theorem info?_foldNames (d : Document) (id : Nat) :
    d.foldNames.info? id = (d.info? id).map NodeInfo.foldNames := by
  simp only [info?, entry?, foldNames, Array.getElem?_map, Option.map_map, Function.comp_def]

theorem childInfos_foldNames (d : Document) (e : Entry) :
    d.foldNames.childInfos { e with info := e.info.foldNames } =
      (d.childInfos e).map NodeInfo.foldNames := by
  simp only [childInfos, info?_foldNames, List.map_filterMap]

/-- A document with folded names shows the same nodes and children, with folded names. -/
theorem map_view_foldNames (d : Document) :
    (d.foldNames.entries.toList.map fun e => (e.info, d.foldNames.childInfos e)) =
      (d.entries.toList.map fun e => (e.info, d.childInfos e)).map fun view =>
        (view.1.foldNames, view.2.map NodeInfo.foldNames) := by
  rw [toList_entries_foldNames, List.map_map, List.map_map]
  refine List.map_congr_left fun e _ => ?_
  simp only [Function.comp_apply, childInfos_foldNames]

end Document

/-- A rule that reports at the same places of each element does so in the whole document. -/
theorem map_unworded_findings_foldNames {check : NodeInfo → List NodeInfo → List Report}
    (hcheck : ∀ n children,
      (check n.foldNames (children.map NodeInfo.foldNames)).map Report.unworded =
        (check n children).map Report.unworded) (d : Document) :
    (findings check d.foldNames).map Report.unworded =
      (findings check d).map Report.unworded := by
  rw [findings_eq_flatMap, findings_eq_flatMap, d.map_view_foldNames, List.flatMap_map,
    List.map_flatMap, List.map_flatMap]
  refine List.flatMap_congr fun view _ => ?_
  have hkind : view.1.foldNames.kind = view.1.kind := rfl
  simp only [hkind]
  split
  · exact hcheck view.1 view.2
  · rfl

/-- A rule that is stopped at the same elements is stopped at the same documents. -/
theorem defect?_inspect_foldNames {check : NodeInfo → List NodeInfo → Guarded (List Report)}
    (hcheck : ∀ n children, (check n.foldNames (children.map NodeInfo.foldNames)).defect? =
      (check n children).defect?) (d : Document) :
    (inspect check d.foldNames).defect? = (inspect check d).defect? := by
  rw [inspect_eq_collect, inspect_eq_collect, d.map_view_foldNames, Guarded.collect_map,
    Guarded.defect?_collect, Guarded.defect?_collect]
  refine congrArg (List.findSome? · _) (funext fun view => ?_)
  have hkind : view.1.foldNames.kind = view.1.kind := rfl
  simp only [hkind]
  split
  · exact hcheck view.1 view.2
  · rfl

/-- Names are compared up to ASCII case throughout. If two documents differ in the case of ASCII
letters in names of nodes and attributes only, then under every table, configuration and locale they
have the same outcome but for the messages. No rule may be told to leave alone attributes by the
start of their names. In a locale that has words for every complaint they are stopped alike. -/
theorem Linter.verify_name_case (rules : List BuiltInRule) (config : Config) (locale : Locale)
    (t : SpecTable)
    (hstarts : ∀ options, .invalidAttribute options ∈ rules → options.ignoredStarts = [])
    {d d' : Document} (hnames : d'.foldNames = d.foldNames) :
    (∃ result result', ((ofBuiltIn rules config locale t.lookup).verify d).value = .ok result ∧
      ((ofBuiltIn rules config locale t.lookup).verify d').value = .ok result' ∧
      result'.unworded = result.unworded) ∧
    (Verdict.Worded locale →
      ((ofBuiltIn rules config locale t.lookup).verify d').defect? =
        ((ofBuiltIn rules config locale t.lookup).verify d).defect?) := by
  have hpath : d'.path = d.path := congrArg (·.path) hnames
  -- Both documents are compared with the one that has all names in lower case.
  constructor
  · refine verify_unworded_congr config locale locale hpath fun r hr => ?_
    have hrule : ∀ options, r = .invalidAttribute options → options.ignoredStarts = [] := by
      rintro options rfl
      exact hstarts options hr
    have hcheck := BuiltInRule.map_unworded_found_foldNames hrule t locale
    rw [← map_unworded_findings_foldNames hcheck d', hnames,
      map_unworded_findings_foldNames hcheck d]
  · intro hworded
    refine defect?_verify_congr config locale locale fun r => ?_
    have hcheck := r.defect?_check_foldNames hworded t
    rw [← defect?_inspect_foldNames hcheck d', hnames, defect?_inspect_foldNames hcheck d]

/-- A table that knows paragraphs, but no attribute. -/
def SpecTable.paragraphs : SpecTable where
  elements := [("p", {})]

/-- The paragraph of `Linter.repeating` with its name and its attributes in other case. -/
def Linter.shouting : Document :=
  .ofForest [.mk
    { kind := .element, name := "P", span := { line := 2, column := 1 },
      attributes := [{ ((Attribute.written "id" "a").movedTo 2 4).value with name := "Id" },
        { ((Attribute.written "ID" "b").movedTo 2 11).value with name := "id" }] } []]

theorem Linter.verify_name_case_shouting :
    ∃ result result',
      ((ofBuiltIn [.invalidAttribute {}, .emptyContent {}, .duplicateAttribute {}] {} .japanese
        SpecTable.paragraphs.lookup).verify repeating).value = .ok result ∧
      ((ofBuiltIn [.invalidAttribute {}, .emptyContent {}, .duplicateAttribute {}] {} .japanese
        SpecTable.paragraphs.lookup).verify shouting).value = .ok result' ∧
      result'.unworded = result.unworded ∧ result.violations.length = 4 := by
  have hstarts : ∀ options : InvalidAttribute, .invalidAttribute options ∈
      [BuiltInRule.invalidAttribute {}, .emptyContent {}, .duplicateAttribute {}] →
      options.ignoredStarts = [] := by
    intro options hmem
    simp only [List.mem_cons, BuiltInRule.invalidAttribute.injEq, reduceCtorEq, List.not_mem_nil,
      or_false] at hmem
    rw [hmem]
  -- Arrays do not reduce, so the entries are compared as lists.
  have hentries : shouting.foldNames.entries.toList = repeating.foldNames.entries.toList := by
    rw [Document.toList_entries_foldNames, Document.toList_entries_foldNames]
    decide
  have hnames : shouting.foldNames = repeating.foldNames :=
    congrArg (fun entries => (⟨none, entries, [0]⟩ : Document)) (Array.toList_inj.mp hentries)
  obtain ⟨⟨result, result', hresult, hresult', hsame⟩, _⟩ :=
    verify_name_case _ {} .japanese SpecTable.paragraphs hstarts hnames
  refine ⟨result, result', hresult, hresult', hsame, ?_⟩
  obtain ⟨_, rfl⟩ := verify_eq_ok_iff.mp hresult
  rw [List.length_mergeSort]
  rfl

end MarkupAudit
