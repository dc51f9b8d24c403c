import MarkupAudit.Proofs.Config.Edits
import MarkupAudit.Proofs.Rule.Presets

namespace MarkupAudit

namespace BuiltIn

/-- The rule without settings in place of a rule of its name. -/
def reset (b : BuiltIn) (r : Rule) : Rule :=
  if r.name = b.name then b.standard else r

theorem reset_of_name_eq {b : BuiltIn} {r : Rule} (heq : r.name = b.name) :
    b.reset r = b.standard :=
  if_pos heq

theorem reset_of_name_ne {b : BuiltIn} {r : Rule} (hne : r.name ≠ b.name) : b.reset r = r :=
  if_neg hne

theorem map_reset_of_name_ne {b : BuiltIn} {rules : List Rule}
    (hother : ∀ r ∈ rules, r.name ≠ b.name) : rules.map b.reset = rules := by
  have hsame : ∀ r ∈ rules, b.reset r = id r := by
    intro r hr
    exact reset_of_name_ne (hother r hr)
  rw [List.map_congr_left hsame, List.map_id]

end BuiltIn

namespace Config

section

variable {c : Config} {p : Preset} {b : BuiltIn} {key : String} {t : RuleSettings}

/-- A rule does not notice a table under a key of another rule. -/
theorem settings?_insert_other {a : BuiltIn} (hkey : BuiltIn.ofKey? key = some b) (hne : a ≠ b) :
    a.settings? (c.insert key t) = a.settings? c := by
  refine settings?_insert_of_ne ?_ ?_
  · rintro rfl
    rw [BuiltIn.ofKey?_name] at hkey
    exact hne (Option.some.inj hkey)
  · rintro rfl
    rw [BuiltIn.ofKey?_code] at hkey
    exact hne (Option.some.inj hkey)

/-- A table under a known key leaves all keys known. -/
theorem keysKnown_insert (hkey : BuiltIn.ofKey? key = some b) (hknown : c.KeysKnown) :
    (c.insert key t).KeysKnown := by
  intro k s hs henabled
  rcases holds_insert_iff.mp hs with ⟨rfl, _⟩ | ⟨hs, _⟩
  · exact ⟨b, BuiltIn.ofKey?_eq_some_iff.mp hkey⟩
  · exact hknown k s hs henabled

/-- A table for a rule that is present adds nothing. -/
theorem isExtra_insert_iff {present : List String} {a : BuiltIn} {s : RuleSettings}
    (hkey : BuiltIn.ofKey? key = some b) (hpresent : b.name ∈ present) :
    (c.insert key t).IsExtra present a s ↔ c.IsExtra present a s := by
  by_cases hab : a = b
  · subst hab
    simp [IsExtra, hpresent]
  · have hsame := settings?_insert_other (c := c) (t := t) hkey hab
    simp only [BuiltIn.settings?] at hsame
    simp only [IsExtra, ← settings?_eq_some_iff, hsame]

/-- What becomes of one rule. -/
theorem Makes.insert {a : BuiltIn} {r : Rule} (hr : c.Makes p a r)
    (hkey : BuiltIn.ofKey? key = some b) (hfree : b.settings? c = none)
    (hbare : b.create t = .ok b.standard) :
    (c.insert key t).Makes p a (b.reset r) := by
  by_cases hab : a = b
  · subst hab
    rw [BuiltIn.reset_of_name_eq hr.ids.1]
    refine .inl ⟨t, ?_, hbare⟩
    exact settings?_insert t (BuiltIn.ofKey?_eq_some_iff.mp hkey) (a.name_ne_code a) hfree
  · have hne : r.name ≠ b.name := by
      rw [hr.ids.1]
      exact fun hname => hab (BuiltIn.name_injective hname)
    rw [BuiltIn.reset_of_name_ne hne, Makes, settings?_insert_other hkey hab]
    exact hr

/-- What becomes of all configured rules. -/
theorem AsksFor.insert {rules : List Rule} (hrules : c.AsksFor p rules) (hb : b ∈ p.members)
    (hkey : BuiltIn.ofKey? key = some b) (hfree : b.settings? c = none)
    (hbare : b.create t = .ok b.standard) :
    (c.insert key t).AsksFor p (rules.map b.reset) := by
  obtain ⟨base, extras, added, rfl, hbase, hsorted, hextras, hadded⟩ := hrules
  have hpresent : b.name ∈ p.rules.map (·.name) := by
    rw [p.rules_eq_map_variant, List.map_map]
    exact List.mem_map.mpr ⟨b, hb, (p.variant_ids b).1⟩
  have hother : ∀ r ∈ added, r.name ≠ b.name := by
    intro r hr hname
    obtain ⟨⟨a, s⟩, ha, hcreate⟩ := exists_mem_of_forall₂ hadded hr
    refine ((hextras a s).mp ha).1 ?_
    rwa [← (BuiltIn.createRule_ids hcreate).1, hname]
  refine ⟨base.map b.reset, extras, added, ?_, ?_, hsorted, ?_, hadded⟩
  · rw [List.map_append, BuiltIn.map_reset_of_name_ne hother]
  · rw [forall₂_rebuilds_iff] at hbase ⊢
    rw [List.forall₂_map_right_iff]
    exact hbase.imp fun a r hr => hr.insert hkey hfree hbare
  · intro a s
    rw [hextras, isExtra_insert_iff hkey hpresent]

/-- The tables of the other configured rules are the same as before. -/
theorem AsksFor.settings?_insert {rules : List Rule} {r : Rule} (hrules : c.AsksFor p rules)
    (hkey : BuiltIn.ofKey? key = some b) (hr : r ∈ rules) (hne : r.name ≠ b.name) :
    (c.insert key t).settings? r.name r.code = c.settings? r.name r.code := by
  obtain ⟨a, hmakes⟩ := hrules.exists_makes hr
  obtain ⟨hname, hcode⟩ := hmakes.ids
  rw [hname] at hne
  rw [hname, hcode]
  exact settings?_insert_other hkey fun hab => hne (congrArg BuiltIn.name hab)

end

end Config

end MarkupAudit
