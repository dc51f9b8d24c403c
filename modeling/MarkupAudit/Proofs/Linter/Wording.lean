import MarkupAudit.Proofs.Linter.Configured
import MarkupAudit.Proofs.Spec.Silence

namespace MarkupAudit

/-- The violation without its message. -/
def Violation.unworded (v : Violation) : Violation :=
  { v with message := "" }

/-- The outcome without the messages of its violations. -/
def LintResult.unworded (r : LintResult) : LintResult :=
  { r with violations := r.violations.map Violation.unworded }

/-- The report without its message. -/
def Report.unworded (r : Report) : Report :=
  { r with message := "" }

namespace Verdict

/-- What is wrong with an attribute. -/
def fault? : Verdict → Option Fault
  | .valid => none
  | .invalid fault _ => some fault

/-- The verdict itself has the fault and the message, whatever is checked about them. -/
@[simp]
theorem value_reject (fault : Fault) (message : String) :
    (reject fault message).value = .invalid fault message :=
  rfl

/-- A complaint is raised exactly if the value is not as expected. -/
theorem isSome_expect (l : Locale) (ok : Bool) (name expected : String) :
    (expect l ok name expected).isSome = !ok := by
  cases ok with
  | true => rfl
  | false => rfl

/-- Whether a bounded integer is complained about depends on the value and the bound only. -/
theorem isSome_boundedInteger? (l : Locale) (name value : String) (max : Nat) :
    (boundedInteger? l name value max).isSome =
      !(Number.isInteger value && Number.textInRange value 0 max) := by
  unfold boundedInteger?
  cases Number.isInteger value with
  | true => simp [isSome_expect]
  | false => simp

/-- Whether a tab index is complained about depends on the value only. -/
theorem isSome_tabIndex? (l l' : Locale) (name name' value : String) :
    (tabIndex? l' name' value).isSome = (tabIndex? l name value).isSome := by
  unfold tabIndex?
  cases Number.isInteger value with
  | true => simp only [if_true, apply_ite Option.isSome, Option.isSome_some]
  | false => simp only [Bool.false_eq_true, if_false, Option.isSome_some]

/-- Neither the locale nor the name of the attribute decides whether a value of a named type is
complained about. -/
theorem isSome_namedComplaint? (l l' : Locale) (name name' value : String) (type : NamedType) :
    (namedComplaint? l' name' value type).isSome = (namedComplaint? l name value type).isSome := by
  cases type with
  | columnSpan => simp only [namedComplaint?, isSome_boundedInteger?]
  | rowSpan => simp only [namedComplaint?, isSome_boundedInteger?]
  | tabIndex => exact isSome_tabIndex? l l' name name' value
  | _ => simp only [namedComplaint?, oneOf?, isSome_expect]

/-- Neither the locale nor the name of the attribute decides whether a value is complained about. -/
theorem isSome_complaint? (l l' : Locale) (name name' value : String) (type : ValueType) :
    (complaint? l' name' value type).isSome = (complaint? l name value type).isSome := by
  cases type with
  | oneOf values => simp only [complaint?, oneOf?, isSome_expect]
  | named type => exact isSome_namedComplaint? l l' name name' value type

/-- What is wrong with an attribute: whether it is delegated, declared, and complained about. -/
theorem fault?_ofAttribute_eq (l : Locale) (name value : String) (custom : Bool)
    (decl : Option AttributeDecl) :
    (ofAttribute l name value custom decl).value.fault? =
      if !custom && isDelegated name then none
      else decl.elim (some .nonExistent) fun decl =>
        if (complaint? l name value decl.type).isSome then some .invalidValue else none := by
  unfold ofAttribute
  split
  · rfl
  · cases decl with
    | none => simp only [value_reject, fault?, Option.elim_none]
    | some decl =>
      simp only [Option.elim_some]
      cases complaint? l name value decl.type with
      | none => rfl
      | some message => simp only [value_reject, fault?, Option.isSome_some, if_true]

/-- What is wrong with an attribute does not depend on the locale. -/
theorem fault?_ofAttribute (l l' : Locale) (name value : String) (custom : Bool)
    (decl : Option AttributeDecl) :
    (ofAttribute l' name value custom decl).value.fault? =
      (ofAttribute l name value custom decl).value.fault? := by
  simp only [fault?_ofAttribute_eq, isSome_complaint? l l' name name]

/-- What is wrong with an attribute in a source file does not depend on the locale. -/
theorem fault?_ofToken (l l' : Locale) (a : Attribute) (custom : Bool)
    (decl : Option AttributeDecl) :
    (ofToken l' a custom decl).value.fault? = (ofToken l a custom decl).value.fault? := by
  unfold ofToken
  split
  · rfl
  · exact fault?_ofAttribute l l' a.name a.value custom decl

end Verdict

/-- Where a verdict is reported depends on what is wrong only. -/
theorem InvalidAttribute.map_unworded_reportOf {a : Attribute} {v w : Verdict}
    (hfault : w.fault? = v.fault?) :
    (reportOf a w).map Report.unworded = (reportOf a v).map Report.unworded := by
  cases v with
  | valid =>
    cases w with
    | valid => rfl
    | invalid fault message => cases hfault
  | invalid fault message =>
    cases w with
    | valid => cases hfault
    | invalid fault' message' =>
      obtain rfl : fault' = fault := Option.some.inj hfault
      cases fault' with
      | nonExistent => rfl
      | invalidValue => rfl

/-- What the rule on invalid attributes reports about an attribute does not depend on the locale,
but for the message. -/
theorem InvalidAttribute.map_unworded_attributeReport (r : InvalidAttribute) (specs : SpecLookup)
    (t u : Locale) (n : NodeInfo) (a : Attribute) :
    (r.attributeReport specs u n a).value.map Report.unworded =
      (r.attributeReport specs t n a).value.map Report.unworded := by
  unfold attributeReport
  split
  · rfl
  · simp only [Guarded.value_map]
    apply map_unworded_reportOf
    unfold verdict
    cases r.custom? a.name with
    | none => exact Verdict.fault?_ofToken t u a _ _
    | some decl => exact Verdict.fault?_ofToken t u a _ _

/-- What the rule on class names reports about a class does not depend on the locale, but for the
message. -/
theorem ClassNaming.map_unworded_classReport (r : ClassNaming) (t u : Locale) (a : Attribute)
    (start : Nat) (className : String) :
    (r.classReport u a start className).value.map Report.unworded =
      (r.classReport t a start className).value.map Report.unworded := by
  unfold classReport
  split
  · rfl
  · simp only [Guarded.value_bind, Guarded.value_pure, List.map_cons, List.map_nil, Report.unworded]

/-- What a built-in rule finds about an element does not depend on the locale, but for the
messages. -/
theorem BuiltInRule.map_unworded_found (r : BuiltInRule) (specs : SpecLookup) (t u : Locale)
    (n : NodeInfo) (children : List NodeInfo) :
    (r.found specs u n children).map Report.unworded =
      (r.found specs t n children).map Report.unworded := by
  cases r with
  | invalidAttribute options =>
    simp only [found, check, InvalidAttribute.check, Guarded.value_collect, List.map_flatMap,
      options.map_unworded_attributeReport specs t u n]
  | classNaming options =>
    simp only [found, check]
    split
    · rfl
    · simp only [ClassNaming.check, ClassNaming.attributeReports, Guarded.value_collect,
        List.map_flatMap, options.map_unworded_classReport t u]
  | emptyContent options =>
    simp only [found, check, EmptyContent.check, Guarded.value_pure]
    split
    · rfl
    · simp only [List.map_cons, List.map_nil, Report.unworded]
  | duplicateAttribute options =>
    simp only [found, check, DuplicateAttribute.check, DuplicateAttribute.attributeReport,
      Guarded.value_pure, List.map_map, Function.comp_def, Report.unworded]

/-- In a locale that has words for every complaint the rule on invalid attributes is not stopped. -/
theorem InvalidAttribute.defect?_check {l : Locale} (hworded : Verdict.Worded l)
    (r : InvalidAttribute) (specs : SpecLookup) (n : NodeInfo) (children : List NodeInfo) :
    (r.check specs l n children).defect? = none := by
  have htoken (a : Attribute) (custom : Bool) (decl : Option AttributeDecl) :
      (Verdict.ofToken l a custom decl).defect? = none := by
    unfold Verdict.ofToken
    split
    · rfl
    · exact hworded.defect?_ofAttribute a.name a.value custom decl
  rw [check, Guarded.defect?_collect, List.findSome?_eq_none_iff]
  intro a _
  unfold attributeReport
  split
  · rfl
  · rw [Guarded.defect?_map]
    unfold verdict
    split
    · exact htoken a true _
    · exact htoken a false _

/-- The rule on class names is stopped at the same elements in every locale. -/
theorem ClassNaming.defect?_check (r : ClassNaming) (t u : Locale) (n : NodeInfo)
    (children : List NodeInfo) :
    (r.check u n children).defect? = (r.check t n children).defect? := by
  have hclass (a : Attribute) (start : Nat) (className : String) :
      (r.classReport u a start className).defect? =
        (r.classReport t a start className).defect? := by
    unfold classReport
    split
    · rfl
    · simp only [Guarded.defect?_bind, Guarded.defect?_pure, Option.or_none]
  simp only [check, attributeReports, Guarded.defect?_collect, hclass]

/-- In locales that have words for every complaint a built-in rule is stopped at the same
elements. -/
theorem BuiltInRule.defect?_check {t u : Locale} (ht : Verdict.Worded t) (hu : Verdict.Worded u)
    (r : BuiltInRule) (specs : SpecLookup) (n : NodeInfo) (children : List NodeInfo) :
    (r.check specs u n children).defect? = (r.check specs t n children).defect? := by
  cases r with
  | invalidAttribute options =>
    simp only [check, options.defect?_check ht, options.defect?_check hu]
  | classNaming options =>
    simp only [check]
    split
    · rfl
    · exact options.defect?_check t u n children
  | emptyContent options => rfl
  | duplicateAttribute options => rfl

namespace Linter

/-- The linter that has built-in rules and no others. -/
def ofBuiltIn (rules : List BuiltInRule) (config : Config) (locale : Locale) (specs : SpecLookup) :
    Linter where
  rules := rules.map (·.rule)
  config := config
  locale := locale
  specs := specs

section

variable (rules : List BuiltInRule) (config : Config) (locale : Locale) (specs : SpecLookup)

/-- A linter of built-in rules sorts what they find, and only a check of its own work stops it. -/
theorem verify_ofBuiltIn (d : Document) :
    (ofBuiltIn rules config locale specs).verify d =
      { value := .ok
          { violations := ((ofBuiltIn rules config locale specs).collected d).mergeSort
              Violation.noLater,
            documentsChecked := 1 },
        defect? := (ofBuiltIn rules config locale specs).firstDefect? d } := by
  refine verify_of_builtIn (fun r hr => ?_) d
  obtain ⟨q, _, rfl⟩ := List.mem_map.mp hr
  exact ⟨q, rfl⟩

theorem enabledRules_ofBuiltIn :
    (ofBuiltIn rules config locale specs).enabledRules =
      (rules.filter fun r => config.isEnabled r.rule.name r.rule.code).map (·.rule) :=
  List.filter_map

/-- Built-in rules are stopped at the elements of a document, rule by rule. -/
theorem firstDefect?_ofBuiltIn (d : Document) :
    (ofBuiltIn rules config locale specs).firstDefect? d =
      (rules.filter fun r => config.isEnabled r.rule.name r.rule.code).findSome? fun r =>
        (inspect (r.check specs locale) d).defect? := by
  have hrule : ∀ r : BuiltInRule, (r.rule.run specs locale d).defect? =
      (inspect (r.check specs locale) d).defect? := by
    intro r
    rw [r.run_rule, Guarded.defect?_map]
  rw [firstDefect?, enabledRules_ofBuiltIn, List.findSome?_map]
  exact congrArg (List.findSome? · _) (funext hrule)

/-- What built-in rules report comes from their findings, rule by rule. -/
theorem collected_ofBuiltIn (d : Document) :
    (ofBuiltIn rules config locale specs).collected d =
      (rules.filter fun r => config.isEnabled r.rule.name r.rule.code).flatMap fun r =>
        (findings (r.found specs locale) d).map
          ((ofBuiltIn rules config locale specs).reported d r.rule) := by
  rw [collected_eq_flatMap, enabledRules_ofBuiltIn, List.flatMap_map]
  refine List.flatMap_congr fun r _ => ?_
  have hreports : r.rule.reportsOn specs locale d = findings (r.found specs locale) d := by
    rw [Rule.reportsOn, r.value_run_rule]
  change (r.rule.reportsOn specs locale d).map _ = _
  rw [hreports]

end

section

variable {rules : List BuiltInRule} {specs : SpecLookup} {d d' : Document}

/-- Documents about which the same is found but for words have the same outcome but for words. -/
theorem verify_unworded_congr (config : Config) (t u : Locale) (hpath : d'.path = d.path)
    (hfound : ∀ r ∈ rules, (findings (r.found specs u) d').map Report.unworded =
      (findings (r.found specs t) d).map Report.unworded) :
    ∃ result result', ((ofBuiltIn rules config t specs).verify d).value = .ok result ∧
      ((ofBuiltIn rules config u specs).verify d').value = .ok result' ∧
      result'.unworded = result.unworded := by
  -- Without messages every violation is the one reported under the first locale.
  have hpart : ∀ (locale : Locale) (e : Document), e.path = d.path →
      ((ofBuiltIn rules config locale specs).collected e).map Violation.unworded =
        (rules.filter fun r => config.isEnabled r.rule.name r.rule.code).flatMap fun r =>
          ((findings (r.found specs locale) e).map Report.unworded).map
            ((ofBuiltIn rules config t specs).reported d r.rule) := by
    intro locale e he
    rw [collected_ofBuiltIn, List.map_flatMap]
    refine List.flatMap_congr fun r _ => ?_
    rw [List.map_map, List.map_map]
    refine List.map_congr_left fun report _ => ?_
    simp only [Function.comp_apply, reported, he]
    rfl
  have hcollected : ((ofBuiltIn rules config u specs).collected d').map Violation.unworded =
      ((ofBuiltIn rules config t specs).collected d).map Violation.unworded := by
    rw [hpart u d' hpath, hpart t d rfl]
    refine List.flatMap_congr fun r hr => ?_
    rw [hfound r (List.mem_filter.mp hr).1]
  rw [verify_ofBuiltIn, verify_ofBuiltIn]
  refine ⟨_, _, rfl, rfl, ?_⟩
  -- The order looks at locations only, so messages may be erased before sorting.
  have hplace : ∀ v : Violation, v.unworded.location = v.location := fun _ => rfl
  simp only [LintResult.unworded, Violation.map_mergeSort_of_location _ hplace, hcollected]

/-- Documents at which the rules are stopped alike stop the linter alike. -/
theorem defect?_verify_congr (config : Config) (t u : Locale)
    (hdefect : ∀ r : BuiltInRule, (inspect (r.check specs u) d').defect? =
      (inspect (r.check specs t) d).defect?) :
    ((ofBuiltIn rules config u specs).verify d').defect? =
      ((ofBuiltIn rules config t specs).verify d).defect? := by
  simp only [verify_ofBuiltIn, firstDefect?_ofBuiltIn, hdefect]

end

/-- The locale never decides a finding. The rules and the verdicts on attributes ask the locale for
every sentence while they work, but no branch depends on what it answers: under any two locales,
without checks of its own work, the linter returns the same for every document but for the messages,
as many violations, in the same order, each of the same rule and severity and with the same location
and suggestion. Likewise every attribute is judged valid or not, and if not for the same reason.
Between locales that have words for every complaint, checks make no difference either. -/
theorem verify_locale (rules : List BuiltInRule) (config : Config) (specs : SpecLookup)
    (t u : Locale) :
    (∀ d : Document, ∃ result result',
      ((ofBuiltIn rules config t specs).verify d).run .unchecked = .ok (.ok result) ∧
      ((ofBuiltIn rules config u specs).verify d).run .unchecked = .ok (.ok result') ∧
      result'.unworded = result.unworded) ∧
    (∀ (name value : String) (custom : Bool) (decl : Option AttributeDecl),
      (Verdict.ofAttribute u name value custom decl).value.fault? =
        (Verdict.ofAttribute t name value custom decl).value.fault?) ∧
    (Verdict.Worded t → Verdict.Worded u → ∀ d : Document,
      ((ofBuiltIn rules config u specs).verify d).defect? =
        ((ofBuiltIn rules config t specs).verify d).defect?) := by
  refine ⟨fun d => ?_, Verdict.fault?_ofAttribute t u, fun ht hu d => ?_⟩
  · have hfound : ∀ r ∈ rules, (findings (r.found specs u) d).map Report.unworded =
        (findings (r.found specs t) d).map Report.unworded := by
      intro r _
      simp only [findings, List.map_flatMap, r.map_unworded_found specs t u]
    obtain ⟨result, result', ht, hu, hsame⟩ := verify_unworded_congr config t u rfl hfound
    exact ⟨result, result', congrArg Except.ok ht, congrArg Except.ok hu, hsame⟩
  · refine defect?_verify_congr config t u fun r => ?_
    simp only [defect?_inspect, r.defect?_check ht hu]

end Linter

end MarkupAudit
