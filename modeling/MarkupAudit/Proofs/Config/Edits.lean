import MarkupAudit.Proofs.Config.Tables

namespace MarkupAudit.Config

/-- The configuration without the table under a key. -/
def erase (c : Config) (key : String) : Config :=
  { c with
    rules := c.rules.filter (·.1 ≠ key)
    distinct := List.Sublist.nodup (List.filter_sublist.map _) c.distinct }

/-- Without a table all others are left. -/
theorem holds_erase_iff {c : Config} {key k : String} {s : RuleSettings} :
    (c.erase key).Holds k s ↔ c.Holds k s ∧ k ≠ key := by
  simp [Holds, erase]

theorem lookup_erase_of_ne {c : Config} {key k : String} (hne : k ≠ key) :
    (c.erase key).rules.lookup k = c.rules.lookup k := by
  refine Option.ext fun s => ?_
  rw [lookup_eq_some_iff, lookup_eq_some_iff, holds_erase_iff]
  simp [hne]

/-- The configuration with a table under a key, in place of the one that may be there. -/
def insert (c : Config) (key : String) (s : RuleSettings) : Config :=
  { c with
    rules := (key, s) :: (c.erase key).rules
    distinct := by
      refine List.nodup_cons.mpr ⟨fun hmem => ?_, (c.erase key).distinct⟩
      obtain ⟨⟨k, t⟩, ht, hk⟩ := List.mem_map.mp hmem
      exact (holds_erase_iff.mp ht).2 hk }

/-- A new table takes the place of one under the same key. -/
theorem holds_insert_iff {c : Config} {key k : String} {s t : RuleSettings} :
    (c.insert key s).Holds k t ↔ (k = key ∧ t = s) ∨ c.Holds k t ∧ k ≠ key := by
  rw [← holds_erase_iff, Holds, insert, List.mem_cons, Prod.mk.injEq]
  rfl

theorem lookup_insert_of_ne {c : Config} {key k : String} {s : RuleSettings} (hne : k ≠ key) :
    (c.insert key s).rules.lookup k = c.rules.lookup k := by
  refine Option.ext fun t => ?_
  rw [lookup_eq_some_iff, lookup_eq_some_iff, holds_insert_iff]
  simp [hne]

/-- A rule does not notice the removal of a table that is under neither of its keys. -/
theorem settings?_erase_of_ne {c : Config} {key name code : String} (hname : name ≠ key)
    (hcode : code ≠ key) : (c.erase key).settings? name code = c.settings? name code := by
  rw [settings?, settings?, lookup_erase_of_ne hname, lookup_erase_of_ne hcode]

/-- A table under the code is not looked at if there is one under the name. -/
theorem settings?_erase_code {c : Config} {name code : String} {s : RuleSettings}
    (hs : c.Holds name s) (hne : name ≠ code) :
    (c.erase code).settings? name code = c.settings? name code := by
  rw [settings?, settings?, lookup_erase_of_ne hne, lookup_eq_some_iff.mpr hs]

/-- Nor does it notice such a table when it is added. -/
theorem settings?_insert_of_ne {c : Config} {key name code : String} {s : RuleSettings}
    (hname : name ≠ key) (hcode : code ≠ key) :
    (c.insert key s).settings? name code = c.settings? name code := by
  rw [settings?, settings?, lookup_insert_of_ne hname, lookup_insert_of_ne hcode]

/-- A rule without a table gets the one that is put under its name or its code. -/
theorem settings?_insert {c : Config} {key name code : String} (s : RuleSettings)
    (hkey : key = name ∨ key = code) (hne : name ≠ code) (hfree : c.settings? name code = none) :
    (c.insert key s).settings? name code = some s := by
  have hput : (c.insert key s).Holds key s := holds_insert_iff.mpr (.inl ⟨rfl, rfl⟩)
  refine settings?_eq_some_iff.mpr ?_
  rcases hkey with rfl | rfl
  · exact .inl hput
  · refine .inr ⟨fun other hother => ?_, hput⟩
    rcases holds_insert_iff.mp hother with ⟨hsame, _⟩ | ⟨hother, _⟩
    · exact hne hsame
    · exact settings?_eq_none_iff.mp hfree other (.inl hother)

end MarkupAudit.Config
