import MarkupAudit.Proofs.Config.Edits
import MarkupAudit.Proofs.Rule.Configured

namespace MarkupAudit

/-- Two attempts to make rules agree: both give the same rules, or both fail in the same way. If
keys are unknown, each may name another one of them. -/
inductive Agree {α : Type} : Except RegistryError α → Except RegistryError α → Prop
  | same (x : Except RegistryError α) : Agree x x
  | unknownRule (key other : String) :
    Agree (.error (.unknownRule key)) (.error (.unknownRule other))

/-- Steps that agree can be put together. -/
theorem Agree.bind {α β : Type} {x y : Except RegistryError α} {f g : α → Except RegistryError β}
    (hxy : Agree x y) (hfg : ∀ a, Agree (f a) (g a)) : Agree (x >>= f) (y >>= g) := by
  cases hxy with
  | same =>
    cases x with
    | error e => exact .same _
    | ok a => exact hfg a
  | unknownRule key other => exact .unknownRule key other

namespace Config

/-- Two configurations start from the same preset, hold the same table for each built-in rule, and
both or neither of them enable a table under an unknown key. -/
structure Equivalent (c c' : Config) : Prop where
  preset : c'.preset = c.preset
  settings : ∀ b : BuiltIn, b.settings? c' = b.settings? c
  known : c'.KeysKnown ↔ c.KeysKnown

theorem Equivalent.trans {a b c : Config} (hab : a.Equivalent b) (hbc : b.Equivalent c) :
    a.Equivalent c where
  preset := hbc.preset.trans hab.preset
  settings r := (hbc.settings r).trans (hab.settings r)
  known := hbc.known.trans hab.known

/-- Configurations that differ in the order of tables are equivalent. -/
theorem equivalent_reordered (c : Config) (order : List (String × RuleSettings))
    (horder : order.Perm c.rules) : c.Equivalent (c.reordered order horder) where
  preset := rfl
  settings b := by
    refine Option.ext fun s => ?_
    simp only [BuiltIn.settings?, settings?_eq_some_iff, tableOf_reordered]
  known := c.keysKnown_reordered order horder

/-- A table under the code of a rule goes unnoticed if there is one under its name. -/
theorem equivalent_erase_code {c : Config} {b : BuiltIn} {s : RuleSettings}
    (hs : c.Holds b.name s) : c.Equivalent (c.erase b.code) where
  preset := rfl
  settings a := by
    by_cases hab : a = b
    · subst hab
      exact settings?_erase_code hs (a.name_ne_code a)
    · refine settings?_erase_of_ne (a.name_ne_code b) fun hcode => ?_
      exact hab (BuiltIn.code_injective hcode)
  known := by
    constructor
    · intro hknown key t ht henabled
      by_cases hkey : key = b.code
      · exact ⟨b, .inr hkey⟩
      · exact hknown key t (holds_erase_iff.mpr ⟨ht, hkey⟩) henabled
    · intro hknown key t ht henabled
      exact hknown key t (holds_erase_iff.mp ht).1 henabled

/-- The search for further rules fails only because of an unknown key. -/
theorem extras_eq_error {c : Config} {present : List String} {e : RegistryError}
    (herror : c.extras present = .error e) : ∃ key, e = .unknownRule key := by
  rw [Config.extras, bind_eq_error_iff] at herror
  rcases herror with herror | ⟨found, _, hsort⟩
  · obtain ⟨t, _, extras, hstep⟩ := exists_step_of_foldlM_eq_error herror
    exact ⟨t.1, (addExtra_eq_error_iff.mp hstep).2.2⟩
  · cases hsort

namespace Equivalent

variable {c c' : Config}

/-- Equivalent configurations add the same rules. -/
theorem isExtra_iff (h : c.Equivalent c') {present : List String} {b : BuiltIn}
    {s : RuleSettings} : c'.IsExtra present b s ↔ c.IsExtra present b s := by
  have hsettings := h.settings b
  simp only [BuiltIn.settings?] at hsettings
  simp only [IsExtra, ← settings?_eq_some_iff, hsettings]

/-- The search for further rules agrees in both. -/
theorem agree_extras (h : c.Equivalent c') (present : List String) :
    Agree (c.extras present) (c'.extras present) := by
  cases hc : c.extras present with
  | ok extras =>
    obtain ⟨hknown, hsorted, hmem⟩ := extras_eq_ok_iff.mp hc
    have hc' : c'.extras present = .ok extras := by
      refine extras_eq_ok_iff.mpr ⟨h.known.mpr hknown, hsorted, fun b s => ?_⟩
      rw [hmem, h.isExtra_iff]
    rw [hc']
    exact .same _
  | error e =>
    obtain ⟨key, rfl⟩ := extras_eq_error hc
    cases hc' : c'.extras present with
    | ok extras =>
      obtain ⟨found, hfound⟩ :=
        (c.exists_extras_iff present).mpr (h.known.mp (extras_eq_ok_iff.mp hc').1)
      rw [hc] at hfound
      cases hfound
    | error e' =>
      obtain ⟨other, rfl⟩ := extras_eq_error hc'
      exact .unknownRule key other

/-- A rule of a preset is made anew alike in both. -/
theorem rebuild_eq (h : c.Equivalent c') {p : Preset} {r : Rule} (hr : r ∈ p.rules) :
    c'.rebuild r = c.rebuild r := by
  obtain ⟨b, hname, hcode⟩ := Preset.exists_builtIn_of_mem hr
  have hsettings := h.settings b
  simp only [BuiltIn.settings?] at hsettings
  rw [rebuild, rebuild, hname, hcode, hsettings]

/-- The configured rules of equivalent configurations are the same. -/
theorem agree_configuredRules (h : c.Equivalent c') :
    Agree c.configuredRules c'.configuredRules := by
  have hpreset : c'.presetOf = c.presetOf := by
    rw [presetOf, presetOf, h.preset]
  have hbase : ∀ p : Preset, p.rules.mapM c'.rebuild = p.rules.mapM c.rebuild := by
    intro p
    exact mapM_congr fun r hr => h.rebuild_eq hr
  unfold configuredRules
  rw [hpreset]
  refine (Agree.same _).bind fun p => ?_
  rw [hbase]
  refine (Agree.same _).bind fun base => ?_
  exact (h.agree_extras _).bind fun extras => .same _

/-- The selected rules of equivalent configurations are the same, and so are the failures. -/
theorem selectedRules_eq (h : c.Equivalent c') (keys : List String) :
    c'.selectedRules keys = c.selectedRules keys := by
  unfold selectedRules
  simp only [h.settings]

end Equivalent

end Config

end MarkupAudit
