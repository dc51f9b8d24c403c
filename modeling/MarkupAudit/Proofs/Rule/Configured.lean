import MarkupAudit.Proofs.Rule.Extras

namespace MarkupAudit.Config

/-- A rule of a preset becomes the one made from its table, and stays as it is without one. -/
def Rebuilds (c : Config) (r made : Rule) : Prop :=
  (∃ s, c.TableOf r.name r.code s ∧ createRule r.name s = .ok made) ∨
    (∀ s, ¬ c.TableOf r.name r.code s) ∧ made = r

/-- A rule of a preset is made anew as described. -/
theorem rebuild_eq_ok_iff {c : Config} {r made : Rule} :
    c.rebuild r = .ok made ↔ c.Rebuilds r made := by
  unfold rebuild Rebuilds
  cases hsettings : c.settings? r.name r.code with
  | none =>
    have hnone := settings?_eq_none_iff.mp hsettings
    simp [hnone, eq_comm]
  | some s =>
    have htable := settings?_eq_some_iff.mp hsettings
    constructor
    · intro hcreate
      exact .inl ⟨s, htable, hcreate⟩
    · rintro (⟨t, ht, hcreate⟩ | ⟨hnone, _⟩)
      · rwa [htable.unique ht]
      · exact absurd htable (hnone s)

theorem Rebuilds.name_eq {c : Config} {p : Preset} {r made : Rule} (hr : r ∈ p.rules)
    (hmade : c.Rebuilds r made) : made.name = r.name := by
  rcases hmade with ⟨s, _, hcreate⟩ | ⟨_, rfl⟩
  · obtain ⟨b, hname, _⟩ := Preset.exists_builtIn_of_mem hr
    rw [hname] at hcreate
    rw [hname, (BuiltIn.createRule_ids hcreate).1]
  · rfl

/-- The rules that a configuration asks for on top of a preset: the rules of the preset in their
order, each from its table if it has one, and behind them, in the order of their names, the rules
outside of the preset whose table is enabled, each from its table. -/
def AsksFor (c : Config) (p : Preset) (rules : List Rule) : Prop :=
  ∃ base extras added, rules = base ++ added ∧
    List.Forall₂ c.Rebuilds p.rules base ∧
    extras.Pairwise (fun a b => a.1.name < b.1.name) ∧
    (∀ b s, (b, s) ∈ extras ↔ c.IsExtra (p.rules.map (·.name)) b s) ∧
    List.Forall₂ (fun x r => createRule x.1.name x.2 = .ok r) extras added

/-- Rules that are made anew keep their names, so no rule is lost. -/
theorem map_name_of_rebuilds {c : Config} {p : Preset} {base : List Rule}
    (hbase : List.Forall₂ c.Rebuilds p.rules base) :
    base.map (·.name) = p.rules.map (·.name) := by
  have hnames : ∀ {rs base : List Rule}, (∀ r ∈ rs, r ∈ p.rules) →
      List.Forall₂ c.Rebuilds rs base → base.map (·.name) = rs.map (·.name) := by
    intro rs base hrs hbase
    induction hbase with
    | nil => rfl
    | cons hmade _ ih =>
      rw [List.forall_mem_cons] at hrs
      rw [List.map_cons, List.map_cons, hmade.name_eq hrs.1, ih hrs.2]
  exact hnames (fun r hr => hr) hbase

/-- The configured rules are those that the configuration asks for on top of its preset. -/
theorem configuredRules_eq_ok_iff {c : Config} {rules : List Rule} :
    c.configuredRules = .ok rules ↔
      c.KeysKnown ∧ ∃ p : Preset, p.name = c.preset.getD "recommended" ∧ c.AsksFor p rules := by
  simp only [configuredRules, bind_eq_ok_iff, presetOf, Preset.ofName_eq_ok_iff, mapM_eq_ok_iff,
    rebuild_eq_ok_iff, extras_eq_ok_iff]
  constructor
  · rintro ⟨p, hp, base, hbase, extras, ⟨hknown, hsorted, hmem⟩, added, hadded, hrules⟩
    obtain rfl := Except.ok.inj hrules
    rw [map_name_of_rebuilds hbase] at hmem
    exact ⟨hknown, p, hp, base, extras, added, rfl, hbase, hsorted, hmem, hadded⟩
  · rintro ⟨hknown, p, hp, base, extras, added, rfl, hbase, hsorted, hmem, hadded⟩
    rw [← map_name_of_rebuilds hbase] at hmem
    exact ⟨p, hp, base, hbase, extras, ⟨hknown, hsorted, hmem⟩, added, hadded, rfl⟩

/-- No two of the rules have the same name. -/
theorem AsksFor.nodup_names {c : Config} {p : Preset} {rules : List Rule}
    (hrules : c.AsksFor p rules) : (rules.map (·.name)).Nodup := by
  obtain ⟨base, extras, added, rfl, hbase, hsorted, hmem, hadded⟩ := hrules
  have hnames : added.map (·.name) = extras.map (·.1.name) := by
    clear hsorted hmem
    induction hadded with
    | nil => rfl
    | cons hcreate _ ih =>
      rw [List.map_cons, List.map_cons, ih, (BuiltIn.createRule_ids hcreate).1]
  rw [List.map_append, map_name_of_rebuilds hbase, hnames]
  refine List.nodup_append.mpr ⟨p.nodup_names, ?_, ?_⟩
  · exact List.pairwise_map.mpr (hsorted.imp fun hlt => ne_of_lt hlt)
  · rintro name hpreset other hextra rfl
    obtain ⟨⟨b, s⟩, hb, rfl⟩ := List.mem_map.mp hextra
    exact ((hmem b s).mp hb).1 hpreset

/-- The configured rules can be made if preset and keys are known and every table is accepted that a
rule has to be made from. -/
theorem exists_configuredRules_iff (c : Config) :
    (∃ rules, c.configuredRules = .ok rules) ↔
      c.KeysKnown ∧ ∃ p : Preset, p.name = c.preset.getD "recommended" ∧
        (∀ r ∈ p.rules, ∀ s, c.TableOf r.name r.code s → ∃ made, createRule r.name s = .ok made) ∧
        ∀ b s, c.IsExtra (p.rules.map (·.name)) b s → ∃ made, createRule b.name s = .ok made := by
  simp only [configuredRules_eq_ok_iff]
  constructor
  · rintro ⟨rules, hknown, p, hp, base, extras, added, _, hbase, _, hmem, hadded⟩
    refine ⟨hknown, p, hp, ?_, ?_⟩
    · intro r hr s hs
      obtain ⟨made, ⟨t, ht, hcreate⟩ | ⟨hnone, _⟩⟩ := exists_forall₂_iff.mp ⟨base, hbase⟩ r hr
      · exact ⟨made, by rwa [hs.unique ht]⟩
      · exact absurd hs (hnone s)
    · intro b s hextra
      exact exists_forall₂_iff.mp ⟨added, hadded⟩ (b, s) ((hmem b s).mpr hextra)
  · rintro ⟨hknown, p, hp, hpreset, hextras⟩
    obtain ⟨base, hbase⟩ : ∃ base, List.Forall₂ c.Rebuilds p.rules base := by
      refine exists_forall₂_iff.mpr fun r hr => ?_
      by_cases htable : ∃ s, c.TableOf r.name r.code s
      · obtain ⟨s, hs⟩ := htable
        obtain ⟨made, hcreate⟩ := hpreset r hr s hs
        exact ⟨made, .inl ⟨s, hs, hcreate⟩⟩
      · exact ⟨r, .inr ⟨not_exists.mp htable, rfl⟩⟩
    obtain ⟨extras, hfound⟩ := (c.exists_extras_iff (p.rules.map (·.name))).mpr hknown
    obtain ⟨_, hsorted, hmem⟩ := extras_eq_ok_iff.mp hfound
    obtain ⟨added, hadded⟩ : ∃ added,
        List.Forall₂ (fun x r => createRule x.1.name x.2 = .ok r) extras added := by
      refine exists_forall₂_iff.mpr fun (b, s) hb => ?_
      exact hextras b s ((hmem b s).mp hb)
    exact ⟨base ++ added, hknown, p, hp, base, extras, added, rfl, hbase, hsorted, hmem, hadded⟩

section

variable (c : Config) (order : List (String × RuleSettings)) (horder : order.Perm c.rules)

theorem keysKnown_reordered : (c.reordered order horder).KeysKnown ↔ c.KeysKnown := by
  unfold KeysKnown
  rw [holds_reordered]

theorem isExtra_reordered : (c.reordered order horder).IsExtra = c.IsExtra := by
  unfold IsExtra
  rw [tableOf_reordered]

/-- What a configuration asks for does not depend on the order of its tables. -/
theorem asksFor_reordered : (c.reordered order horder).AsksFor = c.AsksFor := by
  have hrebuilds : (c.reordered order horder).Rebuilds = c.Rebuilds := by
    unfold Rebuilds
    rw [tableOf_reordered]
  unfold AsksFor
  rw [hrebuilds, isExtra_reordered]

end

/-- In whatever order the tables of a configuration are enumerated, the configured rules can be
made under the same conditions and are the same: those that the configuration asks for on top of
its preset, which are all of different names. -/
theorem configuredRules_reordered (c : Config) (order : List (String × RuleSettings))
    (horder : order.Perm c.rules) :
    ((∃ rules, (c.reordered order horder).configuredRules = .ok rules) ↔
      c.KeysKnown ∧ ∃ p : Preset, p.name = c.preset.getD "recommended" ∧
        (∀ r ∈ p.rules, ∀ s, c.TableOf r.name r.code s → ∃ made, createRule r.name s = .ok made) ∧
        ∀ b s, c.IsExtra (p.rules.map (·.name)) b s → ∃ made, createRule b.name s = .ok made) ∧
    ∀ rules, (c.reordered order horder).configuredRules = .ok rules →
      c.configuredRules = .ok rules ∧ (rules.map (·.name)).Nodup ∧
      ∃ p : Preset, p.name = c.preset.getD "recommended" ∧ c.AsksFor p rules := by
  constructor
  · rw [exists_configuredRules_iff, keysKnown_reordered, tableOf_reordered, isExtra_reordered]
    rfl
  · intro rules hrules
    rw [configuredRules_eq_ok_iff, keysKnown_reordered, asksFor_reordered] at hrules
    obtain ⟨hknown, p, hp, hasks⟩ := hrules
    exact ⟨configuredRules_eq_ok_iff.mpr ⟨hknown, p, hp, hasks⟩, hasks.nodup_names, p, hp, hasks⟩

/-- A configuration that disables a rule under its name and enables it under its code, and enables
another under its code. -/
def shadowing : Config where
  preset := some "minimal"
  rules := [("attr-duplication", { enabled := some false }), ("ML004", {}), ("ML003", {})]
  distinct := by decide

theorem configuredRules_reordered_shadowing :
    shadowing.rules.reverse.Perm shadowing.rules ∧
      ∃ rules, rules = [({} : InvalidAttribute).rule, (EmptyContent.ofSettings {}).rule] ∧
        shadowing.configuredRules = .ok rules ∧ (rules.map (·.name)).Nodup := by
  have horder : shadowing.rules.reverse.Perm shadowing.rules := List.reverse_perm _
  have hextras : (shadowing.reordered _ horder).extras ["invalid-attr"] =
      .ok [(.emptyContent, {})] := by
    refine bind_eq_ok_iff.mpr ⟨[(.emptyContent, {})], rfl, ?_⟩
    rw [List.mergeSort_singleton]
    rfl
  have hrules : (shadowing.reordered _ horder).configuredRules =
      .ok [({} : InvalidAttribute).rule, (EmptyContent.ofSettings {}).rule] := by
    refine bind_eq_ok_iff.mpr ⟨.minimal, rfl, bind_eq_ok_iff.mpr ⟨_, rfl, ?_⟩⟩
    exact bind_eq_ok_iff.mpr ⟨_, hextras, rfl⟩
  obtain ⟨hsame, hnodup, _⟩ := (configuredRules_reordered shadowing _ horder).2 _ hrules
  exact ⟨horder, _, rfl, hsame, hnodup⟩

end MarkupAudit.Config
