import MarkupAudit.Proofs.Linter.Configured
import MarkupAudit.Proofs.Rule.Retabled

namespace MarkupAudit

/-- The violation with another severity if it is one of the given rule. -/
def Violation.withSeverity (rule : String) (severity : Severity) (v : Violation) : Violation :=
  if v.rule = rule then { v with severity } else v

/-- Another severity moves no violation. -/
theorem Violation.location_withSeverity (rule : String) (severity : Severity) (v : Violation) :
    (v.withSeverity rule severity).location = v.location := by
  unfold withSeverity
  split
  · rfl
  · rfl

/-- The outcome with another severity for the violations of a rule. -/
def LintResult.withSeverity (r : LintResult) (rule : String) (severity : Severity) : LintResult :=
  { r with violations := r.violations.map (Violation.withSeverity rule severity) }

namespace Linter

/-- The violations that a rule has under a given severity. -/
def rated (l : Linter) (d : Document) (r : Rule) (severity : Severity) : List Violation :=
  (r.reportsOn l.specs l.locale d).map fun report =>
    report.violation r.code r.name severity (Report.file d)

/-- A severity in the configuration is the one that counts. -/
theorem contribution_eq_rated {l : Linter} {r : Rule} {s : Severity} (d : Document)
    (hseverity : l.config.severity? r.name r.code = some s) :
    l.contribution d r = l.rated d r s := by
  refine List.map_congr_left fun report _ => ?_
  rw [reported, hseverity]
  rfl

/-- Giving a severity to what a rule contributes is having it contribute with that severity. -/
theorem map_withSeverity_contribution (l : Linter) (d : Document) (r : Rule) (s : Severity) :
    (l.contribution d r).map (Violation.withSeverity r.name s) = l.rated d r s := by
  rw [contribution, List.map_map]
  refine List.map_congr_left fun report _ => ?_
  exact if_pos rfl

/-- A severity for a rule that does not run changes nothing. -/
theorem map_withSeverity_collected {l : Linter} {name : String} (d : Document) (s : Severity)
    (hother : ∀ r ∈ l.rules, r.name ≠ name) :
    (l.collected d).map (Violation.withSeverity name s) = l.collected d := by
  have hsame : ∀ v ∈ l.collected d, v.withSeverity name s = id v := by
    intro v hv
    obtain ⟨r, hr, hrule⟩ := rule_of_mem_collected hv
    refine if_neg ?_
    rw [hrule]
    exact hother r hr
  rw [List.map_congr_left hsame, List.map_id]

/-- The linter after a severity table for a rule was put under a key. -/
def retabled (l : Linter) (b : BuiltIn) (key : String) (s : Severity) : Linter :=
  { l with
    rules := l.rules.map b.reset
    config := l.config.insert key { severity := some s } }

section

variable {l : Linter} {p : Preset} {b : BuiltIn} {key : String}

/-- A linter made from a configuration has the rules that its own configuration asks for. -/
theorem asksFor_of_ofConfig {c : Config} (hl : ofConfig c = .ok l) (hp : c.presetOf = .ok p) :
    l.config = c ∧ l.config.AsksFor p l.rules := by
  obtain ⟨rules, locale, hrules, _, rfl⟩ := ofConfig_eq_ok_iff.mp hl
  obtain ⟨_, q, hq, hasks⟩ := Config.configuredRules_eq_ok_iff.mp hrules
  obtain rfl : q = p := by
    rw [← Preset.name_inj, hq, Preset.ofName_eq_ok_iff.mp hp]
  exact ⟨rfl, hasks⟩

/-- With the new table the same linter is made, but for the one rule. -/
theorem ofConfig_insert {c : Config} (s : Severity) (hl : ofConfig c = .ok l)
    (hp : c.presetOf = .ok p) (hb : b ∈ p.members) (hkey : BuiltIn.ofKey? key = some b)
    (hfree : b.settings? c = none) :
    ofConfig (c.insert key { severity := some s }) = .ok (l.retabled b key s) := by
  obtain ⟨_, hasks⟩ := asksFor_of_ofConfig hl hp
  obtain ⟨rules, locale, hrules, hlocale, rfl⟩ := ofConfig_eq_ok_iff.mp hl
  obtain ⟨hknown, _⟩ := Config.configuredRules_eq_ok_iff.mp hrules
  refine ofConfig_eq_ok_iff.mpr ⟨rules.map b.reset, locale, ?_, hlocale, rfl⟩
  refine Config.configuredRules_eq_ok_iff.mpr
    ⟨Config.keysKnown_insert hkey hknown, p, Preset.ofName_eq_ok_iff.mp hp, ?_⟩
  exact hasks.insert hb hkey hfree (BuiltIn.create_bare rfl rfl)

/-- Other rules contribute the same. -/
theorem collected_retabled_of_name_ne {rules : List Rule} (d : Document) (s : Severity)
    (hasks : l.config.AsksFor p l.rules) (hkey : BuiltIn.ofKey? key = some b)
    (hsub : rules ⊆ l.rules) (hother : ∀ r ∈ rules, r.name ≠ b.name) :
    ({ l.retabled b key s with rules } : Linter).collected d =
      ({ l with rules } : Linter).collected d :=
  collected_with_config (l := { l with rules }) d fun r hr =>
    hasks.settings?_insert hkey (hsub hr) (hother r hr)

/-- Checks at other rules fail as before. -/
theorem firstDefect?_retabled_of_name_ne {rules : List Rule} (d : Document) (s : Severity)
    (hasks : l.config.AsksFor p l.rules) (hkey : BuiltIn.ofKey? key = some b)
    (hsub : rules ⊆ l.rules) (hother : ∀ r ∈ rules, r.name ≠ b.name) :
    ({ l.retabled b key s with rules } : Linter).firstDefect? d =
      ({ l with rules } : Linter).firstDefect? d :=
  firstDefect?_with_config (l := { l with rules }) d fun r hr =>
    hasks.settings?_insert hkey (hsub hr) (hother r hr)

/-- The new table is the one that holds for the rule. -/
theorem settings?_retabled (s : Severity) (hkey : BuiltIn.ofKey? key = some b)
    (hfree : b.settings? l.config = none) :
    (l.retabled b key s).config.settings? b.standard.name b.standard.code =
      some { severity := some s } := by
  rw [b.standard_ids.1, b.standard_ids.2]
  exact Config.settings?_insert _ (BuiltIn.ofKey?_eq_some_iff.mp hkey) (b.name_ne_code b) hfree

/-- Without a table the rule of the preset runs. -/
theorem isEnabled_variant (hfree : b.settings? l.config = none) :
    l.isEnabled (p.variant b) = true := by
  obtain ⟨hname, hcode⟩ := p.variant_ids b
  rw [BuiltIn.settings?] at hfree
  rw [isEnabled, Config.isEnabled, hname, hcode, hfree]
  rfl

/-- With the severity table the rule runs too. -/
theorem isEnabled_standard_retabled (s : Severity) (hkey : BuiltIn.ofKey? key = some b)
    (hfree : b.settings? l.config = none) :
    (l.retabled b key s).isEnabled b.standard = true := by
  rw [isEnabled, Config.isEnabled, settings?_retabled s hkey hfree]
  rfl

/-- The rule without settings stands where the one of the preset was. -/
theorem rules_retabled_split {before after : List Rule} (s : Severity)
    (hrules : l.rules = before ++ p.variant b :: after) (hbefore : ∀ r ∈ before, r.name ≠ b.name)
    (hafter : ∀ r ∈ after, r.name ≠ b.name) :
    (l.retabled b key s).rules = before ++ b.standard :: after := by
  rw [retabled, hrules, List.map_append, List.map_cons,
    BuiltIn.reset_of_name_eq (p.variant_ids b).1, BuiltIn.map_reset_of_name_ne hbefore,
    BuiltIn.map_reset_of_name_ne hafter]

/-- The rule of the preset stands between rules of other names. -/
theorem exists_split_variant (hasks : l.config.AsksFor p l.rules) (hb : b ∈ p.members)
    (hfree : b.settings? l.config = none) :
    ∃ before after, l.rules = before ++ p.variant b :: after ∧
      (∀ r ∈ before, r.name ≠ b.name) ∧ ∀ r ∈ after, r.name ≠ b.name := by
  obtain ⟨before, after, hrules, hbefore, hafter⟩ :=
    exists_split_of_nodup hasks.nodup_names (hasks.variant_mem hb hfree)
  rw [(p.variant_ids b).1] at hbefore hafter
  exact ⟨before, after, hrules, hbefore, hafter⟩

/-- A severity table changes what comes from its rule. All else that is collected stays where it
is, before and after it. -/
theorem collected_retabled (d : Document) (s : Severity) (hasks : l.config.AsksFor p l.rules)
    (hb : b ∈ p.members) (hkey : BuiltIn.ofKey? key = some b)
    (hfree : b.settings? l.config = none) :
    ∃ before after,
      (l.collected d).map (Violation.withSeverity b.name s) =
        before ++ l.rated d (p.variant b) s ++ after ∧
      (l.retabled b key s).collected d = before ++ l.rated d b.standard s ++ after := by
  obtain ⟨hname, hcode⟩ := p.variant_ids b
  obtain ⟨before, after, hrules, hbefore, hafter⟩ := exists_split_variant hasks hb hfree
  refine ⟨({ l with rules := before } : Linter).collected d,
    ({ l with rules := after } : Linter).collected d, ?_, ?_⟩
  · rw [collected_split d hrules (isEnabled_variant hfree), List.map_append, List.map_append,
      map_withSeverity_collected d s hbefore, map_withSeverity_collected d s hafter, ← hname,
      map_withSeverity_contribution]
  · have hseverity :
        (l.retabled b key s).config.severity? b.standard.name b.standard.code = some s := by
      rw [Config.severity?, settings?_retabled s hkey hfree]
      rfl
    rw [collected_split d (rules_retabled_split s hrules hbefore hafter)
        (isEnabled_standard_retabled s hkey hfree), contribution_eq_rated d hseverity,
      collected_retabled_of_name_ne d s hasks hkey (by simp [hrules]) hbefore,
      collected_retabled_of_name_ne d s hasks hkey (by simp [hrules]) hafter]
    rfl

/-- The rule without settings is stopped where the one of the preset is: the one rule in which they
differ makes no check of its own work. -/
theorem defect?_run_variant (p : Preset) (b : BuiltIn) (specs : SpecLookup) (locale : Locale)
    (d : Document) :
    ((p.variant b).run specs locale d).defect? = (b.standard.run specs locale d).defect? := by
  by_cases hstrict : p = .strict ∧ b = .emptyContent
  · obtain ⟨rfl, rfl⟩ := hstrict
    change (EmptyContent.strict.rule.run specs locale d).defect? =
      (({} : EmptyContent).rule.run specs locale d).defect?
    rw [EmptyContent.run_rule, EmptyContent.run_rule]
    rfl
  · rw [Preset.variant_eq_standard hstrict]

/-- A severity table does not change at which check the program stops. -/
theorem firstDefect?_retabled (d : Document) (s : Severity) (hasks : l.config.AsksFor p l.rules)
    (hb : b ∈ p.members) (hkey : BuiltIn.ofKey? key = some b)
    (hfree : b.settings? l.config = none) :
    (l.retabled b key s).firstDefect? d = l.firstDefect? d := by
  obtain ⟨before, after, hrules, hbefore, hafter⟩ := exists_split_variant hasks hb hfree
  rw [firstDefect?_split d hrules (isEnabled_variant hfree),
    firstDefect?_split d (rules_retabled_split s hrules hbefore hafter)
      (isEnabled_standard_retabled s hkey hfree), defect?_run_variant,
    firstDefect?_retabled_of_name_ne d s hasks hkey (by simp [hrules]) hbefore,
    firstDefect?_retabled_of_name_ne d s hasks hkey (by simp [hrules]) hafter]
  rfl

/-- What the strict rule on empty content contributes with a severity. -/
theorem rated_strict (l : Linter) (d : Document) (s : Severity) :
    l.rated d EmptyContent.strict.rule s =
      EmptyContent.violationsAt (fun _ => true) s l.locale d := by
  rw [EmptyContent.violationsAt, findingsAt_true, rated, Rule.reportsOn, EmptyContent.run_rule]
  rfl

/-- Without the options of the strict preset, elements that are being loaded are passed over. -/
theorem rated_standard (l : Linter) (d : Document) (s : Severity) :
    l.rated d ({} : EmptyContent).rule s =
      EmptyContent.violationsAt (fun n => !EmptyContent.isBusy n) s l.locale d := by
  rw [EmptyContent.violationsAt, ← findings_eq_findingsAt (EmptyContent.check_standard l.locale),
    rated, Rule.reportsOn, EmptyContent.run_rule]
  rfl

/-- A severity changes no location, so it does not matter whether it is given before sorting. -/
theorem map_withSeverity_mergeSort (found : List Violation) (rule : String) (s : Severity) :
    (found.mergeSort Violation.noLater).map (Violation.withSeverity rule s) =
      (found.map (Violation.withSeverity rule s)).mergeSort Violation.noLater :=
  Violation.map_mergeSort_of_location found (Violation.location_withSeverity rule s)

/-- The built-in rules never fail, so checking comes to what they report, sorted. -/
theorem verify_of_asksFor (d : Document) (hasks : l.config.AsksFor p l.rules) :
    l.verify d =
      { value :=
          .ok { violations := (l.collected d).mergeSort Violation.noLater, documentsChecked := 1 },
        defect? := l.firstDefect? d } :=
  verify_of_builtIn (fun _ hr => hasks.exists_rule hr) d

/-- The same for the linter with the new table. -/
theorem verify_retabled (d : Document) (s : Severity) (hasks : l.config.AsksFor p l.rules)
    (hb : b ∈ p.members) (hkey : BuiltIn.ofKey? key = some b)
    (hfree : b.settings? l.config = none) :
    (l.retabled b key s).verify d =
      { value := .ok
          { violations := ((l.retabled b key s).collected d).mergeSort Violation.noLater,
            documentsChecked := 1 },
        defect? := l.firstDefect? d } := by
  rw [← firstDefect?_retabled d s hasks hb hkey hfree]
  exact verify_of_asksFor (l := l.retabled b key s) d
    (hasks.insert hb hkey hfree (BuiltIn.create_bare rfl rfl))

/-- Unless the rule is the strict one, the new table changes its severity and nothing else. -/
theorem map_withSeverity_eq_collected (d : Document) (s : Severity)
    (hasks : l.config.AsksFor p l.rules) (hb : b ∈ p.members)
    (hkey : BuiltIn.ofKey? key = some b) (hfree : b.settings? l.config = none)
    (hnot : ¬ (p = .strict ∧ b = .emptyContent)) :
    (l.collected d).map (Violation.withSeverity b.name s) = (l.retabled b key s).collected d := by
  obtain ⟨before, after, hold, hnew⟩ := collected_retabled d s hasks hb hkey hfree
  rw [hold, hnew, Preset.variant_eq_standard hnot]

/-- The strict rule on empty content loses its violations at elements that are being loaded. -/
theorem collected_retabled_strict (d : Document) (s : Severity)
    (hasks : l.config.AsksFor .strict l.rules)
    (hkey : BuiltIn.ofKey? key = some .emptyContent)
    (hfree : BuiltIn.emptyContent.settings? l.config = none) :
    ((l.retabled .emptyContent key s).collected d).Sublist
      ((l.collected d).map (Violation.withSeverity EmptyContent.name s)) ∧
    ((l.retabled .emptyContent key s).collected d ++
      EmptyContent.violationsAt EmptyContent.isBusy s l.locale d).Perm
        ((l.collected d).map (Violation.withSeverity EmptyContent.name s)) := by
  have hb : BuiltIn.emptyContent ∈ Preset.strict.members := by decide
  obtain ⟨before, after, hold, hnew⟩ := collected_retabled d s hasks hb hkey hfree
  replace hold : (l.collected d).map (Violation.withSeverity EmptyContent.name s) =
      before ++ EmptyContent.violationsAt (fun _ => true) s l.locale d ++ after := by
    rw [← rated_strict]
    exact hold
  replace hnew : (l.retabled .emptyContent key s).collected d =
      before ++ EmptyContent.violationsAt (fun n => !EmptyContent.isBusy n) s l.locale d ++
        after := by
    rw [← rated_standard]
    exact hnew
  rw [hold, hnew]
  constructor
  · have hsub := EmptyContent.violationsAt_sublist (fun n => !EmptyContent.isBusy n) s l.locale d
    exact ((List.Sublist.refl before).append hsub).append (List.Sublist.refl after)
  · have hparts := EmptyContent.violationsAt_append_perm EmptyContent.isBusy s l.locale d
    -- The lost violations stand at the end, so occurrences are counted.
    rw [List.perm_iff_count] at hparts ⊢
    intro v
    have hcount := hparts v
    simp only [List.count_append] at hcount ⊢
    omega

end

/-- Giving a severity to a rule of the preset by a table of its own, under its name or its code.
The new linter finds the same violations in the same order, those of the rule with the new severity.
There is one exception: in the strict preset the rule on empty content is made anew without the
options of the preset, and of its violations those at elements that are being loaded are lost. Both
linters return, unless a check of their own work stops them, and then the same one stops both. -/
theorem verify_insert_severity {c : Config} {l : Linter} {p : Preset} {r : Rule} {key : String}
    (hl : ofConfig c = .ok l) (hp : c.presetOf = .ok p) (hr : r ∈ p.rules)
    (hfree : c.settings? r.name r.code = none) (hkey : key = r.name ∨ key = r.code)
    (s : Severity) :
    ∃ l', ofConfig (c.insert key { severity := some s }) = .ok l' ∧
      ∀ d, ∃ defect? result result', l.verify d = { value := .ok result, defect? } ∧
        l'.verify d = { value := .ok result', defect? } ∧
        result'.documentsChecked = result.documentsChecked ∧
        (¬ (p = .strict ∧ r.name = EmptyContent.name) →
          result' = result.withSeverity r.name s) ∧
        (p = .strict ∧ r.name = EmptyContent.name →
          result'.violations.Sublist (result.withSeverity r.name s).violations ∧
          (result'.violations ++ EmptyContent.violationsAt EmptyContent.isBusy s l.locale d).Perm
            (result.withSeverity r.name s).violations) := by
  rw [p.rules_eq_map_variant] at hr
  obtain ⟨b, hb, rfl⟩ := List.mem_map.mp hr
  obtain ⟨hname, hcode⟩ := p.variant_ids b
  rw [hname, hcode] at hfree hkey
  rw [hname]
  replace hkey := BuiltIn.ofKey?_eq_some_iff.mpr hkey
  obtain ⟨rfl, hasks⟩ := asksFor_of_ofConfig hl hp
  refine ⟨_, ofConfig_insert s hl hp hb hkey hfree, fun d => ?_⟩
  refine ⟨_, _, _, verify_of_asksFor d hasks, verify_retabled d s hasks hb hkey hfree, rfl, ?_, ?_⟩
  · intro hnot
    have hnot' : ¬ (p = .strict ∧ b = .emptyContent) := by
      rintro ⟨rfl, rfl⟩
      exact hnot ⟨rfl, rfl⟩
    rw [LintResult.withSeverity, map_withSeverity_mergeSort,
      map_withSeverity_eq_collected d s hasks hb hkey hfree hnot']
  · rintro ⟨rfl, hempty⟩
    obtain rfl : b = .emptyContent := BuiltIn.name_injective hempty
    obtain ⟨hsub, hperm⟩ := collected_retabled_strict d s hasks hkey hfree
    rw [LintResult.withSeverity, map_withSeverity_mergeSort]
    have hnew := Violation.isStableSort_mergeSort ((l.retabled .emptyContent key s).collected d)
    have hold := Violation.isStableSort_mergeSort
      ((l.collected d).map (Violation.withSeverity EmptyContent.name s))
    refine ⟨hnew.sublist hold hsub, ?_⟩
    exact ((hnew.perm.append_right _).trans hperm).trans hold.perm.symm

/-- The strict preset without tables makes its rules as they are. -/
theorem ofConfig_strictOnly :
    ofConfig .strictOnly = .ok { rules := Preset.strict.rules, config := .strictOnly } :=
  ofConfig_eq_ok_iff.mpr
    ⟨_, .english, Config.configuredRules_of_rules_eq_nil (p := .strict) rfl rfl, rfl, rfl⟩

theorem verify_insert_severity_strictOnly :
    ∃ l l', ofConfig .strictOnly = .ok l ∧
      ofConfig (Config.strictOnly.insert "ML004" { severity := some .info }) = .ok l' ∧
      ∃ result, l.verify repeating = pure (.ok result) ∧ result.violations.length = 2 ∧
        l'.verify repeating = pure (.ok (result.withSeverity "attr-duplication" .info)) := by
  obtain ⟨l', hl', hverify⟩ := verify_insert_severity (r := ({} : DuplicateAttribute).rule)
    ofConfig_strictOnly (p := .strict) rfl (by simp [Preset.rules]) rfl (.inr rfl) .info
  obtain ⟨defect?, result, result', hresult, hresult', _, hsame, _⟩ := hverify repeating
  obtain rfl := hsame (by decide)
  have hnone : defect? = none := by
    have hdefect := congrArg Guarded.defect? hresult
    obtain ⟨_, hasks⟩ := asksFor_of_ofConfig ofConfig_strictOnly (p := .strict) rfl
    rw [verify_of_asksFor _ hasks] at hdefect
    exact hdefect.symm
  subst hnone
  refine ⟨_, l', ofConfig_strictOnly, hl', result, hresult, ?_, hresult'⟩
  obtain ⟨_, rfl⟩ := verify_eq_ok_iff.mp (congrArg Guarded.value hresult)
  rw [List.length_mergeSort]
  rfl

/-- A severity for the strict rule on empty content does not only change severities. -/
theorem severity_resets_strict :
    ∃ l l', ofConfig .strictOnly = .ok l ∧ EmptyContent.strict.rule ∈ Preset.strict.rules ∧
      Config.strictOnly.settings? EmptyContent.name EmptyContent.code = none ∧
      ofConfig (Config.strictOnly.insert EmptyContent.name { severity := some .error }) = .ok l' ∧
      ∃ result result', l.verify Config.loading = pure (.ok result) ∧
        l'.verify Config.loading = pure (.ok result') ∧
        result' ≠ result.withSeverity EmptyContent.name .error := by
  have hl := ofConfig_strictOnly
  have hp : Config.strictOnly.presetOf = .ok .strict := rfl
  have hb : BuiltIn.emptyContent ∈ Preset.strict.members := by decide
  have hkey : BuiltIn.ofKey? EmptyContent.name = some .emptyContent :=
    BuiltIn.emptyContent.ofKey?_name
  obtain ⟨_, hasks⟩ := asksFor_of_ofConfig hl hp
  have hnone : ({ rules := Preset.strict.rules, config := .strictOnly } : Linter).firstDefect?
      Config.loading = none := rfl
  have hverify := verify_of_asksFor Config.loading hasks
  have hverify' := verify_retabled Config.loading .error hasks hb hkey rfl
  rw [hnone] at hverify hverify'
  refine ⟨_, _, hl, by simp [Preset.rules, EmptyContent.strict], rfl,
    ofConfig_insert .error hl hp hb hkey rfl, _, _, hverify, hverify', ?_⟩
  intro heq
  have hlength := congrArg (fun r : LintResult => r.violations.length) heq
  simp only [LintResult.withSeverity, List.length_map, List.length_mergeSort] at hlength
  exact absurd hlength (by decide)

end Linter

end MarkupAudit
