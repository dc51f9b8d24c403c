import MarkupAudit.Proofs.Linter.Configured
import MarkupAudit.Proofs.Rule.Equivalent

namespace MarkupAudit

/-- A built-in rule has the name and the code of its kind, whatever its options are. -/
theorem BuiltInRule.exists_ids (r : BuiltInRule) :
    ∃ b : BuiltIn, r.rule.name = b.name ∧ r.rule.code = b.code := by
  cases r with
  | invalidAttribute options => exact ⟨.invalidAttribute, rfl, rfl⟩
  | classNaming options => exact ⟨.classNaming, rfl, rfl⟩
  | emptyContent options => exact ⟨.emptyContent, rfl, rfl⟩
  | duplicateAttribute options => exact ⟨.duplicateAttribute, rfl, rfl⟩

namespace Linter

/-- Checking documents with built-in rules comes to the same under equivalent configurations, from
the choice of the locale on. -/
theorem build_verify_equivalent {c c' : Config} (h : c.Equivalent c')
    (hlocale : c'.locale = c.locale) (rules : List BuiltInRule) (given : Option Locale)
    (tag : Option String) (specs : SpecLookup) (d : Document) :
    (build (rules.map (·.rule)) c' given tag specs).map (·.verify d) =
      (build (rules.map (·.rule)) c given tag specs).map (·.verify d) := by
  have hchoice : chooseLocale c' given tag = chooseLocale c given tag := by
    unfold chooseLocale
    rw [hlocale]
  unfold build
  rw [hchoice]
  cases chooseLocale c given tag with
  | error e => rfl
  | ok locale =>
    refine congrArg Except.ok ?_
    refine verify_with_config (l := ⟨rules.map (·.rule), c, locale, specs⟩) d fun r hr => ?_
    obtain ⟨q, _, rfl⟩ := List.mem_map.mp hr
    obtain ⟨b, hname, hcode⟩ := q.exists_ids
    rw [hname, hcode]
    exact h.settings b

end Linter

/-- A shadowed table is inert. If a configuration has a table under the name of a built-in rule,
then without the table under its code, and with the other tables in any order, it has the same
configured rules or fails alike, the same selected rules or the same failure for every selection,
and linters over any built-in rules have the same outcome on every document, in every build. -/
theorem Config.shadowed_inert (c : Config) (b : BuiltIn) {s : RuleSettings}
    (hs : c.Holds b.name s) (order : List (String × RuleSettings))
    (horder : order.Perm (c.erase b.code).rules) :
    Agree c.configuredRules ((c.erase b.code).reordered order horder).configuredRules ∧
    (∀ keys, ((c.erase b.code).reordered order horder).selectedRules keys =
      c.selectedRules keys) ∧
    ∀ (rules : List BuiltInRule) (given : Option Locale) (tag : Option String)
      (specs : SpecLookup) (d : Document),
      (Linter.build (rules.map (·.rule)) ((c.erase b.code).reordered order horder) given tag
          specs).map (·.verify d) =
        (Linter.build (rules.map (·.rule)) c given tag specs).map (·.verify d) := by
  have h : c.Equivalent ((c.erase b.code).reordered order horder) :=
    (equivalent_erase_code hs).trans (equivalent_reordered _ order horder)
  refine ⟨h.agree_configuredRules, h.selectedRules_eq, ?_⟩
  intro rules given tag specs d
  exact Linter.build_verify_equivalent h rfl rules given tag specs d

theorem Config.shadowed_inert_shadowing :
    shadowing.Holds "attr-duplication" { enabled := some false } ∧ shadowing.Holds "ML004" {} ∧
      ∃ c' : Config, c'.rules = [("ML003", {}), ("attr-duplication", { enabled := some false })] ∧
        Agree shadowing.configuredRules c'.configuredRules ∧
        c'.selectedRules ["ML004", "ML001"] = shadowing.selectedRules ["ML004", "ML001"] := by
  have hs : shadowing.Holds "attr-duplication" { enabled := some false } := List.mem_cons_self
  have horder : [("ML003", {}), ("attr-duplication", { enabled := some false })].Perm
      (shadowing.erase "ML004").rules := List.Perm.swap _ _ _
  obtain ⟨hconfigured, hselected, _⟩ := shadowing.shadowed_inert .duplicateAttribute hs _ horder
  refine ⟨hs, ?_, _, rfl, hconfigured, hselected _⟩
  exact List.mem_cons_of_mem _ List.mem_cons_self

end MarkupAudit
