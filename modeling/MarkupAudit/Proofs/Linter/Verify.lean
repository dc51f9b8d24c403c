import MarkupAudit.Linter.Basic
import MarkupAudit.Proofs.Guarded
import MarkupAudit.Proofs.Report.StableSort

namespace MarkupAudit

/-- The reports of a rule on a document, none if it fails. -/
def Rule.reportsOn (r : Rule) (specs : SpecLookup) (locale : Locale) (d : Document) : List Report :=
  match (r.run specs locale d).value with
  | .ok reports => reports
  | .error _ => []

namespace Linter

/-- A rule fails on a document. -/
def Fails (l : Linter) (d : Document) (r : Rule) (cause : RuleError) : Prop :=
  (r.run l.specs l.locale d).value = .error cause

/-- A check of its own work fails while a rule is at a document. -/
def Stops (l : Linter) (d : Document) (r : Rule) (defect : Defect) : Prop :=
  (r.run l.specs l.locale d).defect? = some defect

/-- A rule is the first enabled one, in the order of the linter, that fails on a document. -/
def FailsFirst (l : Linter) (d : Document) (r : Rule) (cause : RuleError) : Prop :=
  ∃ before after, l.rules = before ++ r :: after ∧ l.isEnabled r = true ∧ l.Fails d r cause ∧
    ∀ q ∈ before, l.isEnabled q = true → ∀ other, ¬ l.Fails d q other

/-- A rule is the first enabled one at which a check fails, and none before it fails. -/
def StopsFirst (l : Linter) (d : Document) (r : Rule) (defect : Defect) : Prop :=
  ∃ before after, l.rules = before ++ r :: after ∧ l.isEnabled r = true ∧ l.Stops d r defect ∧
    ∀ q ∈ before, l.isEnabled q = true →
      (∀ other, ¬ l.Stops d q other) ∧ ∀ cause, ¬ l.Fails d q cause

/-- The violation that a report of a rule stands for. Its severity is the configured one, if there
is one; all else is from the rule, the report and the document. -/
def reported (l : Linter) (d : Document) (r : Rule) (report : Report) : Violation where
  code := r.code
  rule := r.name
  severity := (l.config.severity? r.name r.code).getD r.severity
  location := .ofSpan (d.path.getD "<input>") report.span
  message := report.message
  suggestion := report.suggestion

/-- All that the enabled rules report, rule by rule in the order of the linter. -/
def collected (l : Linter) (d : Document) : List Violation :=
  (l.rules.filter fun r => l.config.isEnabled r.name r.code).flatMap fun r =>
    (r.reportsOn l.specs l.locale d).map (l.reported d r)

/-- The first check that fails at an enabled rule, whether or not a rule before it fails. -/
def firstDefect? (l : Linter) (d : Document) : Option Defect :=
  l.enabledRules.findSome? fun r => (r.run l.specs l.locale d).defect?

theorem override_violation (l : Linter) (d : Document) (r : Rule) (report : Report) :
    l.override r (report.violation r.code r.name r.severity (Report.file d)) =
      l.reported d r report := by
  unfold override reported
  cases l.config.severity? r.name r.code with
  | none => rfl
  | some severity => rfl

/-- What goes wrong in a rule is reported with the name of the rule. -/
theorem found_eq_error_iff {l : Linter} {d : Document} {r : Rule} {e : LintError} :
    (l.found d r).value = .error e ↔ ∃ cause, l.Fails d r cause ∧ e = .rule r.name cause := by
  simp only [found, Rule.violations, Guarded.value_map, Fails]
  cases (r.run l.specs l.locale d).value with
  | error cause => simp [Except.map, eq_comm]
  | ok reports => simp [Except.map]

/-- A rule that does not fail contributes all its reports. -/
theorem found_eq_ok_iff {l : Linter} {d : Document} {r : Rule} {violations : List Violation} :
    (l.found d r).value = .ok violations ↔ (∀ cause, ¬ l.Fails d r cause) ∧
      violations = (r.reportsOn l.specs l.locale d).map (l.reported d r) := by
  simp only [found, Rule.violations, Guarded.value_map, Fails, Rule.reportsOn]
  cases (r.run l.specs l.locale d).value with
  | error cause => simp [Except.map]
  | ok reports => simp [Except.map, Function.comp_def, override_violation, eq_comm]

/-- What a rule reports is put in other words and other severities without any check. -/
theorem defect?_found (l : Linter) (d : Document) (r : Rule) :
    (l.found d r).defect? = (r.run l.specs l.locale d).defect? := by
  rw [found, Rule.violations, Guarded.defect?_map, Guarded.defect?_map]

/-- What comes before an enabled rule among the enabled ones are the enabled rules before it. -/
theorem enabledRules_split_iff {l : Linter} {r : Rule} {p : Rule → Prop} :
    (∃ first last, l.enabledRules = first ++ r :: last ∧ ∀ q ∈ first, p q) ↔
      ∃ before after, l.rules = before ++ r :: after ∧ l.isEnabled r = true ∧
        ∀ q ∈ before, l.isEnabled q = true → p q := by
  constructor
  · rintro ⟨first, last, hsplit, hfirst⟩
    obtain ⟨before, rest, hrules, rfl, hrest⟩ := List.filter_eq_append_iff.mp hsplit
    obtain ⟨skipped, after, rfl, hskipped, henabled, _⟩ := List.filter_eq_cons_iff.mp hrest
    refine ⟨before ++ skipped, after, by simp [hrules], henabled, ?_⟩
    intro q hq hq'
    rcases List.mem_append.mp hq with hbefore | hskip
    · exact hfirst q (List.mem_filter.mpr ⟨hbefore, hq'⟩)
    · exact absurd hq' (hskipped q hskip)
  · rintro ⟨before, after, hrules, henabled, hbefore⟩
    refine ⟨before.filter l.isEnabled, after.filter l.isEnabled, ?_, ?_⟩
    · rw [enabledRules, hrules, List.filter_append, List.filter_cons_of_pos henabled]
    · intro q hq
      obtain ⟨hmem, hq'⟩ := List.mem_filter.mp hq
      exact hbefore q hmem hq'

/-- A rule finds something exactly if it does not fail. -/
theorem exists_found_eq_ok_iff {l : Linter} {d : Document} {r : Rule} :
    (∃ violations, (l.found d r).value = .ok violations) ↔ ∀ cause, ¬ l.Fails d r cause := by
  simp only [found_eq_ok_iff, exists_and_left, exists_eq, and_true]

/-- The enabled rules fail together as the first of them that fails. -/
theorem mapM_found_eq_error_iff {l : Linter} {d : Document} {e : LintError} :
    (l.enabledRules.mapM fun r => (l.found d r).value) = .error e ↔
      ∃ r cause, l.FailsFirst d r cause ∧ e = .rule r.name cause := by
  rw [mapM_eq_error_iff]
  simp only [exists_found_eq_ok_iff]
  constructor
  · rintro ⟨first, r, last, hsplit, hfails, hok⟩
    obtain ⟨cause, hcause, rfl⟩ := found_eq_error_iff.mp hfails
    obtain ⟨before, after, hrules, henabled, hbefore⟩ :=
      enabledRules_split_iff.mp ⟨first, last, hsplit, hok⟩
    exact ⟨r, cause, ⟨before, after, hrules, henabled, hcause, hbefore⟩, rfl⟩
  · rintro ⟨r, cause, ⟨before, after, hrules, henabled, hcause, hbefore⟩, rfl⟩
    obtain ⟨first, last, hsplit, hok⟩ :=
      enabledRules_split_iff.mpr ⟨before, after, hrules, henabled, hbefore⟩
    exact ⟨first, r, last, hsplit, found_eq_error_iff.mpr ⟨cause, hcause, rfl⟩, hok⟩

/-- All rules contribute unless one of them fails. -/
theorem mapM_found_eq_ok_iff {l : Linter} {d : Document} {parts : List (List Violation)} :
    (l.enabledRules.mapM fun r => (l.found d r).value) = .ok parts ↔
      (∀ r ∈ l.enabledRules, ∀ cause, ¬ l.Fails d r cause) ∧
        parts = l.enabledRules.map fun r =>
          (r.reportsOn l.specs l.locale d).map (l.reported d r) := by
  rw [mapM_eq_ok_iff]
  induction l.enabledRules generalizing parts with
  | nil => simp
  | cons r rest ih =>
    cases parts with
    | nil => simp
    | cons part parts =>
      rw [List.forall₂_cons, found_eq_ok_iff, ih]
      simp only [List.mem_cons, forall_eq_or_imp, List.map_cons, List.cons.injEq]
      tauto

/-- Without checks, checking a document puts together what the enabled rules find. -/
theorem value_verify (l : Linter) (d : Document) :
    (l.verify d).value =
      (l.enabledRules.mapM fun r => (l.found d r).value).map fun violations =>
        { violations := violations.flatten.mergeSort Violation.noLater,
          documentsChecked := 1 } := by
  rw [verify, Guarded.value_run_bind, Guarded.value_run_mapM]
  rfl

/-- The outcome is an error exactly if an enabled rule fails, and then that of the first one. -/
theorem verify_eq_error_iff {l : Linter} {d : Document} {e : LintError} :
    (l.verify d).value = .error e ↔ ∃ r cause, l.FailsFirst d r cause ∧ e = .rule r.name cause := by
  rw [value_verify, map_eq_error_iff, mapM_found_eq_error_iff]

/-- If no enabled rule fails, checking sorts what they report. -/
theorem verify_eq_ok {l : Linter} {d : Document}
    (hnone : ∀ r ∈ l.enabledRules, ∀ cause, ¬ l.Fails d r cause) :
    (l.verify d).value =
      .ok { violations := (l.collected d).mergeSort Violation.noLater, documentsChecked := 1 } := by
  rw [value_verify, map_eq_ok_iff]
  refine ⟨_, mapM_found_eq_ok_iff.mpr ⟨hnone, rfl⟩, ?_⟩
  rw [← List.flatMap_def]
  rfl

/-- Checking fails exactly if some enabled rule fails. -/
theorem exists_verify_eq_error_iff {l : Linter} {d : Document} :
    (∃ e, (l.verify d).value = .error e) ↔ ∃ r ∈ l.enabledRules, ∃ cause, l.Fails d r cause := by
  constructor
  · rintro ⟨e, herror⟩
    obtain ⟨r, cause, ⟨before, after, hrules, henabled, hcause, _⟩, _⟩ :=
      verify_eq_error_iff.mp herror
    exact ⟨r, List.mem_filter.mpr ⟨by simp [hrules], henabled⟩, cause, hcause⟩
  · rintro ⟨r, hr, cause, hcause⟩
    cases hrun : l.enabledRules.mapM fun r => (l.found d r).value with
    | error e =>
      refine ⟨e, ?_⟩
      rw [value_verify, hrun]
      rfl
    | ok parts => exact absurd hcause ((mapM_found_eq_ok_iff.mp hrun).1 r hr cause)

/-- Sorting needs no check, so the rules alone can be stopped. -/
theorem defect?_verify (l : Linter) (d : Document) :
    (l.verify d).defect? =
      (l.enabledRules.mapM fun r => ExceptT.mk (l.found d r)).run.defect? := by
  rw [verify, Guarded.defect?_run_bind]
  cases (l.enabledRules.mapM fun r => ExceptT.mk (l.found d r)).run.value with
  | error e => exact Option.or_none
  | ok parts => exact Option.or_none

/-- If no enabled rule fails, the first one at which a check fails stops the program. -/
theorem defect?_verify_of_ok {l : Linter} {d : Document}
    (hnone : ∀ r ∈ l.enabledRules, ∀ cause, ¬ l.Fails d r cause) :
    (l.verify d).defect? = l.firstDefect? d := by
  have hok : ∀ r ∈ l.enabledRules, ∃ violations,
      (ExceptT.mk (l.found d r)).run.value = .ok violations :=
    fun r hr => exists_found_eq_ok_iff.mpr (hnone r hr)
  rw [defect?_verify, Guarded.defect?_run_mapM_of_ok hok]
  simp only [ExceptT.run_mk, defect?_found]
  rfl

/-- A check of its own work stops the program at the first enabled rule where one fails, unless a
rule before it fails by itself. -/
theorem defect?_verify_eq_some_iff {l : Linter} {d : Document} {defect : Defect} :
    (l.verify d).defect? = some defect ↔ ∃ r, l.StopsFirst d r defect := by
  rw [defect?_verify, Guarded.defect?_run_mapM_eq_some_iff]
  simp only [ExceptT.run_mk, defect?_found, exists_found_eq_ok_iff]
  have hnone : ∀ q, (q.run l.specs l.locale d).defect? = none ↔ ∀ other, ¬ l.Stops d q other :=
    fun q => Option.eq_none_iff_forall_ne_some
  simp only [hnone]
  constructor
  · rintro ⟨first, r, last, hsplit, hstops, hfirst⟩
    obtain ⟨before, after, hrules, henabled, hbefore⟩ :=
      enabledRules_split_iff.mp ⟨first, last, hsplit, hfirst⟩
    exact ⟨r, before, after, hrules, henabled, hstops, hbefore⟩
  · rintro ⟨r, before, after, hrules, henabled, hstops, hbefore⟩
    obtain ⟨first, last, hsplit, hfirst⟩ :=
      enabledRules_split_iff.mpr ⟨before, after, hrules, henabled, hbefore⟩
    exact ⟨first, r, last, hsplit, hstops, hfirst⟩

/-- Checking looks at the enabled rules only. -/
theorem verify_with_rules (l : Linter) (d : Document) {rules : List Rule}
    (hrules : rules.filter l.isEnabled = l.enabledRules) :
    ({ l with rules } : Linter).verify d = l.verify d := by
  have henabled : ({ l with rules } : Linter).enabledRules = l.enabledRules := hrules
  unfold verify
  rw [henabled]
  rfl

/-- The outcome of checking a document with arbitrary rules. It is an error exactly if an enabled
rule fails, and then that of the first one in the order of the linter. Otherwise it holds what the
enabled rules report, with the configured severities, as the only stable sort by place. A build with
checks does not come to the outcome exactly if a check fails at an enabled rule before any such rule
fails by itself. Disabled rules, whatever they would report and whether they would fail or be
stopped, may be exchanged for others. -/
theorem verify_outcome (l : Linter) (d : Document) :
    ((∃ e, (l.verify d).value = .error e) ↔
      ∃ r ∈ l.rules, l.config.isEnabled r.name r.code = true ∧ ∃ cause, l.Fails d r cause) ∧
    (∀ e, (l.verify d).value = .error e ↔
      ∃ r cause, l.FailsFirst d r cause ∧ e = .rule r.name cause) ∧
    ((∀ r ∈ l.rules, l.config.isEnabled r.name r.code = true → ∀ cause, ¬ l.Fails d r cause) →
      ∃ violations, (l.verify d).value = .ok { violations, documentsChecked := 1 } ∧
        Violation.IsStableSort (l.collected d) violations ∧
        ∀ other, Violation.IsStableSort (l.collected d) other → other = violations) ∧
    (∀ b defect, (l.verify d).run b = .error defect ↔
      b = .checked ∧ ∃ r, l.StopsFirst d r defect) ∧
    ∀ rules : List Rule,
      (rules.filter fun r => l.config.isEnabled r.name r.code) =
        (l.rules.filter fun r => l.config.isEnabled r.name r.code) →
      ({ l with rules } : Linter).verify d = l.verify d := by
  refine ⟨?_, fun e => verify_eq_error_iff, ?_, fun b defect => ?_,
    fun rules hrules => l.verify_with_rules d hrules⟩
  · rw [exists_verify_eq_error_iff]
    constructor
    · rintro ⟨r, hr, hfails⟩
      obtain ⟨hmem, henabled⟩ := List.mem_filter.mp hr
      exact ⟨r, hmem, henabled, hfails⟩
    · rintro ⟨r, hmem, henabled, hfails⟩
      exact ⟨r, List.mem_filter.mpr ⟨hmem, henabled⟩, hfails⟩
  · intro hnone
    have hsort := Violation.isStableSort_mergeSort (l.collected d)
    refine ⟨_, verify_eq_ok fun r hr => ?_, hsort, fun other hother => hother.unique hsort⟩
    obtain ⟨hmem, henabled⟩ := List.mem_filter.mp hr
    exact hnone r hmem henabled
  · rw [Guarded.run_eq_error_iff, defect?_verify_eq_some_iff]

end Linter

end MarkupAudit
