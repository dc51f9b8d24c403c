import MarkupAudit.Proofs.Linter.Independence
import MarkupAudit.Proofs.Rule.Compositional

namespace MarkupAudit.Linter

section

variable {l : Linter} {config : Config}

/-- The same rules run in another configuration with the same tables for them. -/
theorem enabledRules_with_config (hsettings : ∀ r ∈ l.rules,
      config.settings? r.name r.code = l.config.settings? r.name r.code) :
    ({ l with config } : Linter).enabledRules = l.enabledRules := by
  refine List.filter_congr fun r hr => ?_
  simp only [isEnabled, Config.isEnabled, hsettings r hr]

/-- They find the same violations there. -/
theorem collected_with_config (d : Document) (hsettings : ∀ r ∈ l.rules,
      config.settings? r.name r.code = l.config.settings? r.name r.code) :
    ({ l with config } : Linter).collected d = l.collected d := by
  rw [collected_eq_flatMap, collected_eq_flatMap, enabledRules_with_config hsettings]
  refine List.flatMap_congr fun r hr => List.map_congr_left fun report _ => ?_
  simp only [reported, Config.severity?, hsettings r (List.mem_filter.mp hr).1]

/-- They are stopped at the same documents. -/
theorem firstDefect?_with_config (d : Document) (hsettings : ∀ r ∈ l.rules,
      config.settings? r.name r.code = l.config.settings? r.name r.code) :
    ({ l with config } : Linter).firstDefect? d = l.firstDefect? d := by
  rw [firstDefect?, firstDefect?, enabledRules_with_config hsettings]

/-- Checking looks only at the tables that hold for the rules of the linter. -/
theorem verify_with_config (d : Document) (hsettings : ∀ r ∈ l.rules,
      config.settings? r.name r.code = l.config.settings? r.name r.code) :
    ({ l with config } : Linter).verify d = l.verify d := by
  have hfound : ∀ r ∈ l.enabledRules,
      ExceptT.mk (({ l with config } : Linter).found d r) = ExceptT.mk (l.found d r) := by
    intro r hr
    have hoverride : ({ l with config } : Linter).override r = l.override r := by
      funext v
      simp only [override, Config.severity?, hsettings r (List.mem_filter.mp hr).1]
    rw [found, found, hoverride]
  unfold verify
  rw [enabledRules_with_config hsettings, mapM_congr hfound]

end

/-- Built-in rules do not fail, so a linter that has no others checks every document, and only a
check of its own work can stop it. -/
theorem verify_of_builtIn {l : Linter} (hrules : ∀ r ∈ l.rules, ∃ q : BuiltInRule, q.rule = r)
    (d : Document) :
    l.verify d =
      { value :=
          .ok { violations := (l.collected d).mergeSort Violation.noLater, documentsChecked := 1 },
        defect? := l.firstDefect? d } := by
  have hnone : ∀ r ∈ l.enabledRules, ∀ cause, ¬ l.Fails d r cause := by
    intro r hr cause hfails
    obtain ⟨q, rfl⟩ := hrules r (List.mem_filter.mp hr).1
    rw [Fails, q.value_run_rule] at hfails
    cases hfails
  exact Guarded.ext (verify_eq_ok hnone) (defect?_verify_of_ok hnone)

/-- Making a linter from a configuration takes the configured rules and a locale. -/
theorem ofConfig_eq_ok_iff {c : Config} {l : Linter} :
    ofConfig c = .ok l ↔ ∃ rules locale, c.configuredRules = .ok rules ∧
      chooseLocale c none none = .ok locale ∧ l = { rules, config := c, locale } := by
  unfold ofConfig build
  cases c.configuredRules with
  | error e => simp
  | ok rules =>
    cases chooseLocale c none none with
    | error e => simp [bind, Except.bind]
    | ok locale => simp [bind, Except.bind, pure, Except.pure, eq_comm]

end MarkupAudit.Linter
