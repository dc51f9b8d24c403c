import Mathlib.Data.List.Flatten
import MarkupAudit.Proofs.Rule.Compositional
import MarkupAudit.Proofs.Rule.Configured

namespace MarkupAudit

/-- What a check finds about the elements of a document that meet a condition. -/
def findingsAt (keep : NodeInfo → Bool) (check : NodeInfo → List NodeInfo → List Report)
    (d : Document) : List Report :=
  (d.elements.filter fun e => keep e.info).flatMap fun e => check e.info (d.childInfos e)

/-- A check that passes over some elements finds what there is at the others. -/
theorem findings_eq_findingsAt {keep : NodeInfo → Bool}
    {check partly : NodeInfo → List NodeInfo → List Report}
    (hpartly : ∀ n children, partly n children = if keep n then check n children else [])
    (d : Document) : findings partly d = findingsAt keep check d := by
  unfold findings findingsAt
  induction d.elements with
  | nil => rfl
  | cons e rest ih =>
    rw [List.flatMap_cons, ih, hpartly]
    cases hkeep : keep e.info with
    | true => simp [hkeep]
    | false => simp [hkeep]

theorem findingsAt_true (check : NodeInfo → List NodeInfo → List Report) (d : Document) :
    findingsAt (fun _ => true) check d = findings check d := by
  rw [findingsAt, List.filter_true]
  rfl

theorem findingsAt_sublist (keep : NodeInfo → Bool)
    (check : NodeInfo → List NodeInfo → List Report) (d : Document) :
    (findingsAt keep check d).Sublist (findings check d) :=
  List.filter_sublist.flatMap _

/-- Every finding is at an element that meets a condition or at one that does not. -/
theorem findingsAt_append_perm (keep : NodeInfo → Bool)
    (check : NodeInfo → List NodeInfo → List Report) (d : Document) :
    (findingsAt keep check d ++ findingsAt (fun n => !keep n) check d).Perm (findings check d) := by
  rw [findingsAt, findingsAt, ← List.flatMap_append]
  exact (List.filter_append_perm (fun e : Entry => keep e.info) d.elements).flatMap_right _

namespace EmptyContent

/-- The options that the strict preset gives to the rule. -/
def strict : EmptyContent :=
  { busyExempt := false }

/-- Whether an element is marked as being loaded. -/
def isBusy (n : NodeInfo) : Bool :=
  isTrue n "aria-busy"

/-- An exempt element is hidden, hidden from accessibility, or being loaded where that counts. -/
theorem isExempt_eq (r : EmptyContent) (n : NodeInfo) :
    r.isExempt n =
      (n.hasAttribute "hidden" || isTrue n "aria-hidden" || (r.busyExempt && isBusy n)) :=
  rfl

/-- Without settings the rule passes over the elements that are being loaded. -/
theorem check_standard (l : Locale) (n : NodeInfo) (children : List NodeInfo) :
    ({} : EmptyContent).check l n children =
      if !isBusy n then strict.check l n children else [] := by
  cases hbusy : isBusy n with
  | true =>
    have hexempt : ({} : EmptyContent).isExempt n = true := by
      simp [isExempt_eq, hbusy]
    simp [check, hexempt]
  | false =>
    have hexempt : ({} : EmptyContent).isExempt n = strict.isExempt n := by
      simp [isExempt_eq, hbusy]
    rw [check, hexempt]
    rfl

/-- What the strict rule finds at the elements that meet a condition, as violations. -/
def violationsAt (keep : NodeInfo → Bool) (severity : Severity) (locale : Locale) (d : Document) :
    List Violation :=
  (findingsAt keep (strict.check locale) d).map fun r =>
    r.violation code name severity (Report.file d)

/-- Keeping fewer elements keeps fewer violations, in the same order. -/
theorem violationsAt_sublist (keep : NodeInfo → Bool) (severity : Severity) (locale : Locale)
    (d : Document) :
    (violationsAt keep severity locale d).Sublist
      (violationsAt (fun _ => true) severity locale d) := by
  rw [violationsAt, violationsAt, findingsAt_true]
  exact (findingsAt_sublist keep (strict.check locale) d).map _

/-- The violations at the elements that are kept and at all others are all there are. -/
theorem violationsAt_append_perm (keep : NodeInfo → Bool) (severity : Severity) (locale : Locale)
    (d : Document) :
    (violationsAt keep severity locale d ++
      violationsAt (fun n => !keep n) severity locale d).Perm
        (violationsAt (fun _ => true) severity locale d) := by
  rw [violationsAt, violationsAt, violationsAt, ← List.map_append, findingsAt_true]
  exact (findingsAt_append_perm keep (strict.check locale) d).map _

/-- The strict rule reports empty elements whether they are being loaded or not. -/
theorem violations_strict (specs : SpecLookup) (locale : Locale) (d : Document) :
    strict.rule.violations specs locale d =
      pure (.ok (violationsAt (fun _ => true) .warning locale d)) := by
  rw [violationsAt, findingsAt_true, Rule.violations, run_rule, map_pure]
  rfl

/-- The rule without settings passes over elements that are being loaded. -/
theorem violations_standard (specs : SpecLookup) (locale : Locale) (d : Document) :
    ({} : EmptyContent).rule.violations specs locale d =
      pure (.ok (violationsAt (fun n => !isBusy n) .warning locale d)) := by
  rw [violationsAt, ← findings_eq_findingsAt (check_standard locale), Rule.violations, run_rule,
    map_pure]
  rfl

end EmptyContent

namespace BuiltIn

/-- A table without value and options makes the rule as it is without settings. -/
theorem create_bare {b : BuiltIn} {s : RuleSettings} (hvalue : s.value = none)
    (hoptions : s.options = []) : b.create s = .ok b.standard := by
  cases b with
  | invalidAttribute =>
    simp [create, standard, InvalidAttribute.ofSettings, RuleSettings.strings, hoptions, Except.map]
  | classNaming =>
    simp [create, standard, ClassNaming.ofSettings, ClassNaming.ofSources,
      RuleSettings.valueStrings, hvalue, Except.map]
  | emptyContent =>
    simp [create, standard, EmptyContent.ofSettings, RuleSettings.bool, hoptions]
  | duplicateAttribute => rfl

/-- A rule keeps its name and code without settings. -/
theorem standard_ids (b : BuiltIn) : b.standard.name = b.name ∧ b.standard.code = b.code :=
  create_ids (create_bare (s := {}) rfl rfl)

/-- Whatever the settings are, what is made is a built-in rule. -/
theorem exists_rule_of_create {b : BuiltIn} {s : RuleSettings} {r : Rule}
    (hcreate : b.create s = .ok r) : ∃ q : BuiltInRule, q.rule = r := by
  cases b with
  | invalidAttribute =>
    obtain ⟨options, _, rfl⟩ := map_eq_ok_iff.mp hcreate
    exact ⟨.invalidAttribute options, rfl⟩
  | classNaming =>
    obtain ⟨options, _, rfl⟩ := map_eq_ok_iff.mp hcreate
    exact ⟨.classNaming options, rfl⟩
  | emptyContent =>
    obtain rfl := Except.ok.inj hcreate
    exact ⟨.emptyContent _, rfl⟩
  | duplicateAttribute =>
    obtain rfl := Except.ok.inj hcreate
    exact ⟨.duplicateAttribute {}, rfl⟩

end BuiltIn

namespace Preset

/-- The rule of a kind as a preset has it. -/
def variant : Preset → BuiltIn → Rule
  | .strict, .emptyContent => EmptyContent.strict.rule
  | _, b => b.standard

/-- A preset has its own variant of each of its members. -/
theorem rules_eq_map_variant (p : Preset) : p.rules = p.members.map p.variant := by
  cases p <;> rfl

/-- There is one variant that differs from the rule without settings. -/
theorem variant_eq_standard {p : Preset} {b : BuiltIn} (hne : ¬ (p = .strict ∧ b = .emptyContent)) :
    p.variant b = b.standard := by
  unfold variant
  split
  · exact absurd ⟨rfl, rfl⟩ hne
  · rfl

theorem exists_rule_variant (p : Preset) (b : BuiltIn) :
    ∃ q : BuiltInRule, q.rule = p.variant b := by
  by_cases hstrict : p = .strict ∧ b = .emptyContent
  · obtain ⟨rfl, rfl⟩ := hstrict
    exact ⟨.emptyContent .strict, rfl⟩
  · rw [variant_eq_standard hstrict]
    exact BuiltIn.exists_rule_of_create (BuiltIn.create_bare (s := {}) rfl rfl)

/-- A variant keeps the name and the code of the rule. -/
theorem variant_ids (p : Preset) (b : BuiltIn) :
    (p.variant b).name = b.name ∧ (p.variant b).code = b.code := by
  cases p <;> cases b <;> exact ⟨rfl, rfl⟩

end Preset

namespace Config

/-- A configuration that names no preset does not mean the strict one. -/
theorem eq_strict_iff {c : Config} {p : Preset} (hp : p.name = c.preset.getD "recommended") :
    p = .strict ↔ c.preset = some "strict" := by
  cases hpreset : c.preset with
  | none =>
    rw [hpreset] at hp
    constructor
    · rintro rfl
      exact absurd hp (by decide)
    · intro h
      cases h
  | some name =>
    rw [hpreset] at hp
    obtain rfl : p.name = name := hp
    cases p <;> decide

/-- A rule is made from its table or, where there is none, is the one of the preset. -/
def Makes (c : Config) (p : Preset) (b : BuiltIn) (r : Rule) : Prop :=
  (∃ s, b.settings? c = some s ∧ b.create s = .ok r) ∨ b.settings? c = none ∧ r = p.variant b

/-- A rule that is made from a configuration keeps its name and code. -/
theorem Makes.ids {c : Config} {p : Preset} {b : BuiltIn} {r : Rule} (hr : c.Makes p b r) :
    r.name = b.name ∧ r.code = b.code := by
  rcases hr with ⟨s, _, hcreate⟩ | ⟨_, rfl⟩
  · exact BuiltIn.create_ids hcreate
  · exact p.variant_ids b

/-- Making a variant anew is making a rule of the preset by its table. -/
theorem rebuilds_variant_iff {c : Config} {p : Preset} {b : BuiltIn} {r : Rule} :
    c.Rebuilds (p.variant b) r ↔ c.Makes p b r := by
  obtain ⟨hname, hcode⟩ := p.variant_ids b
  rw [Rebuilds, Makes, hname, hcode, BuiltIn.settings?, settings?_eq_none_iff]
  simp only [settings?_eq_some_iff, BuiltIn.createRule_name_eq_ok_iff]

/-- Rebuilding a preset makes its rules one after the other. -/
theorem forall₂_rebuilds_iff {c : Config} {p : Preset} {base : List Rule} :
    List.Forall₂ c.Rebuilds p.rules base ↔ List.Forall₂ (c.Makes p) p.members base := by
  rw [p.rules_eq_map_variant, List.forall₂_map_left_iff]
  simp only [rebuilds_variant_iff]

/-- Every configured rule is made from its table or comes from the preset. -/
theorem AsksFor.exists_makes {c : Config} {p : Preset} {rules : List Rule} {r : Rule}
    (hrules : c.AsksFor p rules) (hr : r ∈ rules) : ∃ b : BuiltIn, c.Makes p b r := by
  obtain ⟨base, extras, added, rfl, hbase, _, hextras, hadded⟩ := hrules
  rcases List.mem_append.mp hr with hr | hr
  · obtain ⟨b, _, hmakes⟩ := exists_mem_of_forall₂ (forall₂_rebuilds_iff.mp hbase) hr
    exact ⟨b, hmakes⟩
  · obtain ⟨⟨b, s⟩, hb, hcreate⟩ := exists_mem_of_forall₂ hadded hr
    obtain ⟨_, htable, _⟩ := (hextras b s).mp hb
    refine ⟨b, .inl ⟨s, settings?_eq_some_iff.mpr htable, ?_⟩⟩
    exact BuiltIn.createRule_name_eq_ok_iff.mp hcreate

/-- All configured rules are built-in ones with some options. -/
theorem AsksFor.exists_rule {c : Config} {p : Preset} {rules : List Rule} {r : Rule}
    (hrules : c.AsksFor p rules) (hr : r ∈ rules) : ∃ q : BuiltInRule, q.rule = r := by
  obtain ⟨b, ⟨s, _, hcreate⟩ | ⟨_, rfl⟩⟩ := hrules.exists_makes hr
  · exact BuiltIn.exists_rule_of_create hcreate
  · exact p.exists_rule_variant b

/-- A rule of the preset that has no table is among the configured ones. -/
theorem AsksFor.variant_mem {c : Config} {p : Preset} {rules : List Rule} {b : BuiltIn}
    (hrules : c.AsksFor p rules) (hb : b ∈ p.members) (hfree : b.settings? c = none) :
    p.variant b ∈ rules := by
  obtain ⟨base, extras, added, rfl, hbase, _⟩ := hrules
  have hmade : List.Forall₂ (flip (c.Makes p)) base p.members :=
    List.Forall₂.flip (forall₂_rebuilds_iff.mp hbase)
  obtain ⟨r, hr, ⟨s, hs, _⟩ | ⟨_, rfl⟩⟩ := exists_mem_of_forall₂ hmade hb
  · rw [hfree] at hs
    cases hs
  · exact List.mem_append_left added hr

/-- Without tables the configured rules are those of the preset. -/
theorem configuredRules_of_rules_eq_nil {c : Config} {p : Preset} (hnone : c.rules = [])
    (hp : p.name = c.preset.getD "recommended") : c.configuredRules = .ok p.rules := by
  have hholds : ∀ key s, ¬ c.Holds key s := by
    intro key s
    rw [Holds, hnone]
    exact List.not_mem_nil
  have htable : ∀ name code s, ¬ c.TableOf name code s := by
    intro name code s hs
    rcases hs.holds with hs | hs
    · exact hholds name s hs
    · exact hholds code s hs
  refine configuredRules_eq_ok_iff.mpr ⟨fun key s hs => absurd hs (hholds key s), p, hp, ?_⟩
  refine ⟨p.rules, [], [], (List.append_nil _).symm, ?_, .nil, ?_, .nil⟩
  · exact List.forall₂_same.mpr fun r _ => .inr ⟨htable r.name r.code, rfl⟩
  · intro b s
    simp [IsExtra, htable]

/-- A configuration that asks for the strict preset and has no tables. -/
def strictOnly : Config where
  preset := some "strict"

/-- An empty paragraph that is marked as being loaded. -/
def loading : Document :=
  .ofForest [.mk
    { kind := .element, name := "p", span := { line := 1, column := 1, raw := "<p>" },
      attributes := [((Attribute.written "aria-busy" "true").movedTo 1 4).value] } []]

end Config

end MarkupAudit
