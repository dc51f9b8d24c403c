import MarkupAudit.Proofs.Linter.SeverityTable
import MarkupAudit.Proofs.Report.MarkedSort

namespace MarkupAudit

namespace EmptyContent

/-- The first attribute that says whether an element is being loaded decides. -/
theorem isBusy_iff (n : NodeInfo) :
    isBusy n = true ↔ ∃ before a after, n.attributes = before ++ a :: after ∧
      (∀ b ∈ before, ¬ b.hasName "aria-busy" = true) ∧ a.hasName "aria-busy" = true ∧
      Text.foldCase (Text.trim a.value) = "true" := by
  have hword : ∀ value, Text.sameName (Text.trim value) "true" = true ↔
      Text.foldCase (Text.trim value) = "true" := by
    intro value
    have htrue : Text.foldCase "true" = "true" := by decide
    rw [Text.sameName, htrue, beq_iff_eq]
  simp only [isBusy, isTrue, NodeInfo.attribute?, Option.any_map, Option.any_eq_true,
    hword, List.find?_eq_some_iff_append]
  constructor
  · rintro ⟨a, ⟨hname, before, after, hattributes, hbefore⟩, hvalue⟩
    refine ⟨before, a, after, hattributes, fun b hb => ?_, hname, hvalue⟩
    simpa using hbefore b hb
  · rintro ⟨before, a, after, hattributes, hbefore, hname, hvalue⟩
    refine ⟨a, ⟨hname, before, after, hattributes, fun b hb => ?_⟩, hvalue⟩
    simpa using hbefore b hb

/-- The violations of the strict rule, each marked by whether its element is being loaded. -/
def markedViolations (locale : Locale) (d : Document) : List (Bool × Violation) :=
  d.elements.flatMap fun e =>
    (strict.check locale e.info (d.childInfos e)).map fun r =>
      (isBusy e.info, r.violation code name .warning (Report.file d))

theorem map_snd_markedViolations (locale : Locale) (d : Document) :
    (markedViolations locale d).map (·.2) = violationsAt (fun _ => true) .warning locale d := by
  rw [violationsAt, findingsAt_true, findings, markedViolations, List.map_flatMap,
    List.map_flatMap]
  refine List.flatMap_congr fun e _ => ?_
  rw [List.map_map]
  rfl

/-- A mark tells whether an element is being loaded. -/
theorem filter_markedViolations (locale : Locale) (d : Document) (mark : Bool) :
    ((markedViolations locale d).filter (·.1 == mark)).map (·.2) =
      violationsAt (fun n => isBusy n == mark) .warning locale d := by
  rw [violationsAt, findingsAt, markedViolations]
  induction d.elements with
  | nil => rfl
  | cons e rest ih =>
    rw [List.flatMap_cons, List.filter_append, List.map_append, ih]
    by_cases hmark : (isBusy e.info == mark) = true
    · simp [List.filter_map, Function.comp_def, hmark]
    · simp [List.filter_map, Function.comp_def, hmark]

end EmptyContent

namespace Preset

/-- The linter of a preset, without configuration. -/
def linter (p : Preset) (locale : Locale) (specs : SpecLookup) : Linter where
  rules := p.rules
  locale := locale
  specs := specs

section

variable (locale : Locale) (specs : SpecLookup) (d : Document)

theorem contribution_standard :
    (recommended.linter locale specs).contribution d ({} : EmptyContent).rule =
      EmptyContent.violationsAt (fun n => !EmptyContent.isBusy n) .warning locale d :=
  (recommended.linter locale specs).rated_standard d .warning

theorem contribution_strict :
    (strict.linter locale specs).contribution d EmptyContent.strict.rule =
      EmptyContent.violationsAt (fun _ => true) .warning locale d :=
  (strict.linter locale specs).rated_strict d .warning

/-- The recommended and the strict preset differ in what their rules on empty content find. -/
theorem exists_collected :
    ∃ before after : List Violation,
      (recommended.linter locale specs).collected d =
        before ++ EmptyContent.violationsAt (fun n => !EmptyContent.isBusy n) .warning locale d ++
          after ∧
      (strict.linter locale specs).collected d =
        before ++ EmptyContent.violationsAt (fun _ => true) .warning locale d ++ after := by
  have hrecommended : (recommended.linter locale specs).rules =
      [({} : InvalidAttribute).rule] ++ ({} : EmptyContent).rule ::
        [({} : DuplicateAttribute).rule] := rfl
  have hstrict : (strict.linter locale specs).rules =
      [({} : InvalidAttribute).rule] ++ EmptyContent.strict.rule ::
        [({} : DuplicateAttribute).rule] := rfl
  have hstandard := Linter.collected_split d hrecommended rfl
  have hspecial := Linter.collected_split d hstrict rfl
  rw [contribution_standard] at hstandard
  rw [contribution_strict] at hspecial
  exact ⟨_, _, hstandard, hspecial⟩

/-- The outcome of a preset: what its rules report, sorted. -/
theorem verify_linter (p : Preset) :
    (p.linter locale specs).verify d =
      { value := .ok
          { violations := ((p.linter locale specs).collected d).mergeSort Violation.noLater,
            documentsChecked := 1 },
        defect? := (p.linter locale specs).firstDefect? d } := by
  refine Linter.verify_of_builtIn (fun r hr => ?_) d
  have hmember : r ∈ p.members.map p.variant := by
    rw [← p.rules_eq_map_variant]
    exact hr
  obtain ⟨b, _, rfl⟩ := List.mem_map.mp hmember
  exact p.exists_rule_variant b

/-- All presets are stopped at the same check: only their common rule makes any. -/
theorem firstDefect?_linter (p : Preset) :
    (p.linter locale specs).firstDefect? d =
      (({} : InvalidAttribute).rule.run specs locale d).defect? := by
  have hempty : ∀ r : EmptyContent, (r.rule.run specs locale d).defect? = none := by
    intro r
    rw [EmptyContent.run_rule]
    rfl
  have hduplicate : ∀ r : DuplicateAttribute, (r.rule.run specs locale d).defect? = none := by
    intro r
    rw [DuplicateAttribute.run_rule]
    rfl
  have henabled : (p.linter locale specs).enabledRules = p.rules := List.filter_true _
  have hfirst : ∀ others : List Rule, (∀ r ∈ others, (r.run specs locale d).defect? = none) →
      (({} : InvalidAttribute).rule :: others).findSome?
        (fun r => (r.run specs locale d).defect?) =
          (({} : InvalidAttribute).rule.run specs locale d).defect? := by
    intro others hothers
    rw [List.findSome?_cons, List.findSome?_eq_none_iff.mpr hothers]
    cases (({} : InvalidAttribute).rule.run specs locale d).defect? with
    | none => rfl
    | some defect => rfl
  rw [Linter.firstDefect?, henabled]
  cases p with
  | recommended => exact hfirst _ (by simp [hempty, hduplicate])
  | strict => exact hfirst _ (by simp [hempty, hduplicate])
  | minimal => exact hfirst _ (by simp)

/-- The strict outcome, marked by what the recommended preset would not report. -/
theorem exists_marked :
    ∃ marked : List (Bool × Violation),
      marked.map (·.2) =
        ((strict.linter locale specs).collected d).mergeSort Violation.noLater ∧
      (marked.filter (·.1 == false)).map (·.2) =
        ((recommended.linter locale specs).collected d).mergeSort Violation.noLater ∧
      (marked.filter (·.1 == true)).map (·.2) =
        (EmptyContent.violationsAt EmptyContent.isBusy .warning locale d).mergeSort
          Violation.noLater := by
  obtain ⟨before, after, hrecommended, hstrict⟩ := exists_collected locale specs d
  -- What the two presets share is unmarked; the marks tell the rest apart through the sort.
  let unmarked (v : Violation) : Bool × Violation := (false, v)
  let marked := before.map unmarked ++ EmptyContent.markedViolations locale d ++ after.map unmarked
  have hall : marked.map (·.2) = (strict.linter locale specs).collected d := by
    rw [hstrict, ← EmptyContent.map_snd_markedViolations]
    simp [marked, unmarked, Function.comp_def]
  have hkept : (marked.filter (·.1 == false)).map (·.2) =
      (recommended.linter locale specs).collected d := by
    have hfree := EmptyContent.filter_markedViolations locale d false
    simp only [beq_false] at hfree ⊢
    rw [hrecommended, ← hfree]
    simp [marked, unmarked, List.filter_map, Function.comp_def]
  have hlost : (marked.filter (·.1 == true)).map (·.2) =
      EmptyContent.violationsAt EmptyContent.isBusy .warning locale d := by
    have hbusy := EmptyContent.filter_markedViolations locale d true
    simp only [beq_true] at hbusy ⊢
    rw [← hbusy]
    simp [marked, unmarked, List.filter_map, Function.comp_def]
  refine ⟨Violation.sortMarked marked, ?_, ?_, ?_⟩
  · rw [Violation.map_snd_sortMarked, hall]
  · rw [Violation.filter_sortMarked, Violation.map_snd_sortMarked, hkept]
  · rw [Violation.filter_sortMarked, Violation.map_snd_sortMarked, hlost]

/-- The presets are nested. On every document the violations of the minimal preset are those of the
recommended one that are about invalid attributes, and the violations of the recommended one are, in
their order, among those of the strict one. What the strict one has besides are the violations about
empty content at elements whose first attribute `aria-busy` is true. All three return, unless a
check of their own work stops them, and then the same one stops all. -/
theorem verify_nested :
    ∃ (defect? : Option Defect) (least usual most : LintResult),
      (minimal.linter locale specs).verify d = { value := .ok least, defect? } ∧
      (recommended.linter locale specs).verify d = { value := .ok usual, defect? } ∧
      (strict.linter locale specs).verify d = { value := .ok most, defect? } ∧
      least.violations.Sublist usual.violations ∧ usual.violations.Sublist most.violations ∧
      least.violations = usual.byRule InvalidAttribute.name ∧
      (∃ marked : List (Bool × Violation),
        most.violations = marked.map (·.2) ∧
        usual.violations = (marked.filter (·.1 == false)).map (·.2) ∧
        (EmptyContent.violationsAt EmptyContent.isBusy .warning locale d).mergeSort
          Violation.noLater = (marked.filter (·.1 == true)).map (·.2)) ∧
      ∀ n, EmptyContent.isBusy n = true ↔
        ∃ before a after, n.attributes = before ++ a :: after ∧
          (∀ b ∈ before, ¬ b.hasName "aria-busy" = true) ∧ a.hasName "aria-busy" = true ∧
          Text.foldCase (Text.trim a.value) = "true" := by
  obtain ⟨marked, hmost, husual, hbusy⟩ := exists_marked locale specs d
  have hverify := verify_linter locale specs d
  simp only [firstDefect?_linter] at hverify
  have hleast := Linter.verify_alone recommended.nodup_names
    (congrArg Guarded.value (hverify recommended))
    (show ({} : InvalidAttribute).rule ∈ recommended.rules from List.mem_cons_self) rfl
  have hdefect : ((minimal.linter locale specs).verify d).defect? =
      (({} : InvalidAttribute).rule.run specs locale d).defect? := by
    rw [hverify minimal]
  refine ⟨_, _, _, _, Guarded.ext hleast hdefect, hverify recommended, hverify strict,
    List.filter_sublist, ?_, rfl, ⟨marked, hmost.symm, husual.symm, hbusy.symm⟩,
    EmptyContent.isBusy_iff⟩
  rw [← hmost, ← husual]
  exact List.filter_sublist.map _

end

end Preset

end MarkupAudit
