import Mathlib.Data.List.Nodup
import MarkupAudit.Proofs.Linter.Verify

namespace MarkupAudit.Linter

/-- What a rule contributes to the outcome of checking a document. -/
def contribution (l : Linter) (d : Document) (r : Rule) : List Violation :=
  (r.reportsOn l.specs l.locale d).map (l.reported d r)

theorem collected_eq_flatMap (l : Linter) (d : Document) :
    l.collected d = l.enabledRules.flatMap (l.contribution d) :=
  rfl

/-- A rule signs its violations. -/
theorem rule_of_mem_contribution {l : Linter} {d : Document} {r : Rule} {v : Violation}
    (hv : v ∈ l.contribution d r) : v.rule = r.name := by
  obtain ⟨report, _, rfl⟩ := List.mem_map.mp hv
  rfl

/-- Every violation is signed by a rule of the linter. -/
theorem rule_of_mem_collected {l : Linter} {d : Document} {v : Violation}
    (hv : v ∈ l.collected d) : ∃ r ∈ l.rules, v.rule = r.name := by
  obtain ⟨r, hr, hv⟩ := List.mem_flatMap.mp hv
  exact ⟨r, (List.mem_filter.mp hr).1, rule_of_mem_contribution hv⟩

/-- What comes from an enabled rule stands between what comes from the rules before and after it. -/
theorem collected_split {l : Linter} {before after : List Rule} {r : Rule} (d : Document)
    (hrules : l.rules = before ++ r :: after) (henabled : l.isEnabled r = true) :
    l.collected d =
      ({ l with rules := before } : Linter).collected d ++ l.contribution d r ++
        ({ l with rules := after } : Linter).collected d := by
  rw [collected_eq_flatMap, enabledRules, hrules, List.filter_append,
    List.filter_cons_of_pos henabled, List.flatMap_append, List.flatMap_cons, List.append_assoc]
  rfl

/-- A check fails at the rules before an enabled one, at it, or at the rules after it. -/
theorem firstDefect?_split {l : Linter} {before after : List Rule} {r : Rule} (d : Document)
    (hrules : l.rules = before ++ r :: after) (henabled : l.isEnabled r = true) :
    l.firstDefect? d =
      ((({ l with rules := before } : Linter).firstDefect? d).or
        (r.run l.specs l.locale d).defect?).or
          (({ l with rules := after } : Linter).firstDefect? d) := by
  rw [firstDefect?, enabledRules, hrules, List.filter_append, List.filter_cons_of_pos henabled,
    List.findSome?_append, List.findSome?_cons, Option.or_assoc]
  cases hdefect : (r.run l.specs l.locale d).defect? with
  | none => rfl
  | some defect => rfl

/-- Where names are distinct, no other rule has the name of a given one. -/
theorem exists_split_of_nodup {rules : List Rule} {r : Rule}
    (hnames : (rules.map (·.name)).Nodup) (hr : r ∈ rules) :
    ∃ before after, rules = before ++ r :: after ∧
      (∀ q ∈ before, q.name ≠ r.name) ∧ ∀ q ∈ after, q.name ≠ r.name := by
  obtain ⟨before, after, rfl⟩ := List.append_of_mem hr
  rw [List.map_append, List.map_cons, List.nodup_append, List.nodup_cons] at hnames
  obtain ⟨_, ⟨hafter, _⟩, hbefore⟩ := hnames
  refine ⟨before, after, rfl, ?_, ?_⟩
  · intro q hq
    exact hbefore q.name (List.mem_map_of_mem hq) r.name List.mem_cons_self
  · intro q hq heq
    exact hafter (heq ▸ List.mem_map_of_mem hq)

/-- A rule that is not there has no violations. -/
theorem filter_rule_collected_eq_nil {l : Linter} {name : String} (d : Document)
    (hother : ∀ r ∈ l.rules, r.name ≠ name) :
    (l.collected d).filter (·.rule == name) = [] := by
  refine List.filter_eq_nil_iff.mpr fun v hv hname => ?_
  obtain ⟨r, hr, hrule⟩ := rule_of_mem_collected hv
  exact hother r hr (hrule.symm.trans (beq_iff_eq.mp hname))

/-- The violations that carry the name of a rule are what this rule contributes. -/
theorem filter_rule_collected {l : Linter} {r : Rule} (d : Document)
    (hnames : (l.rules.map (·.name)).Nodup) (hr : r ∈ l.rules) (henabled : l.isEnabled r = true) :
    (l.collected d).filter (·.rule == r.name) = l.contribution d r := by
  obtain ⟨before, after, hrules, hbefore, hafter⟩ := exists_split_of_nodup hnames hr
  have hown : (l.contribution d r).filter (·.rule == r.name) = l.contribution d r := by
    refine List.filter_eq_self.mpr fun v hv => ?_
    exact beq_iff_eq.mpr (rule_of_mem_contribution hv)
  rw [collected_split d hrules henabled, List.filter_append, List.filter_append, hown,
    filter_rule_collected_eq_nil d hbefore, filter_rule_collected_eq_nil d hafter,
    List.nil_append, List.append_nil]

/-- A check that succeeds gives the sorted violations, and no enabled rule has failed. -/
theorem verify_eq_ok_iff {l : Linter} {d : Document} {result : LintResult} :
    (l.verify d).value = .ok result ↔ (∀ r ∈ l.enabledRules, ∀ cause, ¬ l.Fails d r cause) ∧
      result =
        { violations := (l.collected d).mergeSort Violation.noLater, documentsChecked := 1 } := by
  constructor
  · intro hok
    have hnone : ∀ r ∈ l.enabledRules, ∀ cause, ¬ l.Fails d r cause := by
      intro r hr cause hfails
      obtain ⟨e, herror⟩ := exists_verify_eq_error_iff.mpr ⟨r, hr, cause, hfails⟩
      rw [hok] at herror
      cases herror
    rw [verify_eq_ok hnone] at hok
    exact ⟨hnone, (Except.ok.inj hok).symm⟩
  · rintro ⟨hnone, rfl⟩
    exact verify_eq_ok hnone

/-- The violations of a rule in the outcome are those of the linter that has only this rule. -/
theorem verify_alone {l : Linter} {d : Document} {r : Rule} {result : LintResult}
    (hnames : (l.rules.map (·.name)).Nodup) (hok : (l.verify d).value = .ok result)
    (hr : r ∈ l.rules) (henabled : l.isEnabled r = true) :
    (({ l with rules := [r] } : Linter).verify d).value =
      .ok { violations := result.byRule r.name, documentsChecked := 1 } := by
  obtain ⟨hnone, rfl⟩ := verify_eq_ok_iff.mp hok
  have hone : ({ l with rules := [r] } : Linter).enabledRules = [r] :=
    List.filter_cons_of_pos henabled
  have hcollected : ({ l with rules := [r] } : Linter).collected d = l.contribution d r := by
    rw [collected_eq_flatMap, hone, List.flatMap_singleton]
    rfl
  rw [verify_eq_ok_iff]
  constructor
  · intro q hq
    rw [hone, List.mem_singleton] at hq
    subst hq
    exact hnone q (List.mem_filter.mpr ⟨hr, henabled⟩)
  · rw [hcollected, LintResult.byRule, Violation.filter_mergeSort_noLater,
      filter_rule_collected d hnames hr henabled]

/-- A rule that does not stop among others does not stop alone. -/
theorem defect?_verify_alone {l : Linter} {d : Document} {r : Rule} {result : LintResult}
    (hok : (l.verify d).value = .ok result) (hdefect : (l.verify d).defect? = none)
    (hr : r ∈ l.rules) (henabled : l.isEnabled r = true) :
    (({ l with rules := [r] } : Linter).verify d).defect? = none := by
  have hnone := (verify_eq_ok_iff.mp hok).1
  have hmem : r ∈ l.enabledRules := List.mem_filter.mpr ⟨hr, henabled⟩
  rw [defect?_verify_of_ok hnone, firstDefect?, List.findSome?_eq_none_iff] at hdefect
  refine Option.eq_none_iff_forall_ne_some.mpr fun defect hsome => ?_
  obtain ⟨q, before, after, hrules, _, hstops, _⟩ := defect?_verify_eq_some_iff.mp hsome
  obtain rfl : q = r := by
    have hq : q ∈ before ++ q :: after := by simp
    rw [← hrules] at hq
    exact List.mem_singleton.mp hq
  exact Option.some_ne_none defect (hstops.symm.trans (hdefect q hmem))

/-- A disabled rule might as well not be there. -/
theorem verify_without_disabled {l : Linter} {before after : List Rule} {r : Rule} (d : Document)
    (hrules : l.rules = before ++ r :: after) (hdisabled : l.isEnabled r = false) :
    ({ l with rules := before ++ after } : Linter).verify d = l.verify d := by
  refine l.verify_with_rules d ?_
  rw [enabledRules, hrules, List.filter_append, List.filter_append,
    List.filter_cons_of_neg (by simp [hdisabled])]

/-- Rules do not interfere. If the rules of a linter have different names and a document can be
checked, then the violations of each enabled rule are, in their order, all that the linter with
this rule alone finds, in the same build. A rule that the configuration disables can be taken out of
a linter, and every document has the same outcome, be it a result, an error or a check that
fails. -/
theorem verify_independent (l : Linter) (d : Document) :
    ((l.rules.map (·.name)).Nodup → ∀ b result, (l.verify d).Gives b result →
      ∀ r ∈ l.rules, l.config.isEnabled r.name r.code = true →
        ∃ alone, (({ l with rules := [r] } : Linter).verify d).Gives b alone ∧
          result.byRule r.name = alone.violations) ∧
    ∀ before r after, l.rules = before ++ r :: after →
      l.config.isEnabled r.name r.code = false →
      l.verify d = ({ l with rules := before ++ after } : Linter).verify d := by
  constructor
  · intro hnames b result hgives r hr henabled
    obtain ⟨hok, hdefect⟩ := Guarded.gives_iff.mp hgives
    refine ⟨_, Guarded.gives_iff.mpr ⟨verify_alone hnames hok hr henabled, fun hb => ?_⟩, rfl⟩
    exact defect?_verify_alone hok (hdefect hb) hr henabled
  · intro before r after hrules hdisabled
    exact (verify_without_disabled d hrules hdisabled).symm

/-- A rule that fails on every document. -/
def failing : Rule where
  name := "failing"
  code := "T002"
  run := fun _ _ _ => pure (.error (.failed "cannot be checked"))

/-- Two rules with a failing one between them, which is disabled by its code. -/
def disabling : Linter where
  rules := [({} : DuplicateAttribute).rule, failing, ({} : EmptyContent).rule]
  config := { rules := [("T002", { enabled := some false })], distinct := by decide }

/-- An empty paragraph with an attribute written twice. -/
def repeating : Document :=
  .ofForest [.mk
    { kind := .element, name := "p", span := { line := 2, column := 1 },
      attributes := [((Attribute.written "id" "a").movedTo 2 4).value,
        ((Attribute.written "ID" "b").movedTo 2 11).value] } []]

theorem verify_independent_disabling :
    ∃ result alone, (disabling.verify repeating).Gives .checked result ∧
      result.violations.length = 2 ∧
      (({ disabling with rules := [({} : EmptyContent).rule] } : Linter).verify repeating).Gives
        .checked alone ∧
      alone.violations.length = 1 ∧ result.byRule EmptyContent.name = alone.violations ∧
      disabling.verify repeating =
        ({ disabling with rules := [({} : DuplicateAttribute).rule, ({} : EmptyContent).rule] } :
          Linter).verify repeating := by
  have hnone : ∀ r ∈ disabling.enabledRules, ∀ cause, ¬ disabling.Fails repeating r cause := by
    have henabled : disabling.enabledRules =
        [({} : DuplicateAttribute).rule, ({} : EmptyContent).rule] := rfl
    simp [henabled, Fails, DuplicateAttribute.rule, EmptyContent.rule]
  have hok : (disabling.verify repeating).Gives .checked
      { violations := (disabling.collected repeating).mergeSort Violation.noLater,
        documentsChecked := 1 } := by
    refine Guarded.gives_iff.mpr ⟨verify_eq_ok hnone, fun _ => ?_⟩
    rw [defect?_verify_of_ok hnone]
    rfl
  obtain ⟨alone, halone, hsame⟩ := (verify_independent disabling repeating).1 (by decide) _ _ hok
    ({} : EmptyContent).rule (by simp [disabling]) rfl
  refine ⟨_, alone, hok, ?_, halone, ?_, hsame, ?_⟩
  · rw [List.length_mergeSort]
    rfl
  · obtain ⟨_, rfl⟩ := verify_eq_ok_iff.mp (Guarded.gives_iff.mp halone).1
    rw [List.length_mergeSort]
    rfl
  · exact (verify_independent disabling repeating).2 [_] failing [_] rfl rfl

end MarkupAudit.Linter
