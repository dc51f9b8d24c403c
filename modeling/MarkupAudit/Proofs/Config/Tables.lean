import MarkupAudit.Config.Basic
import MarkupAudit.Proofs.Dictionary

namespace MarkupAudit.Config

/-- A configuration has a table under a key. -/
def Holds (c : Config) (key : String) (s : RuleSettings) : Prop :=
  (key, s) ∈ c.rules

/-- The table of a rule is the one under its name or, where there is none, the one under its code.
-/
def TableOf (c : Config) (name code : String) (s : RuleSettings) : Prop :=
  c.Holds name s ∨ (∀ other, ¬ c.Holds name other) ∧ c.Holds code s

/-- There is one table to a key. -/
theorem Holds.unique {c : Config} {key : String} {s t : RuleSettings} (hs : c.Holds key s)
    (ht : c.Holds key t) : s = t := by
  have hsame : (key, s) = (key, t) := List.inj_on_of_nodup_map c.distinct hs ht rfl
  exact (Prod.mk.inj hsame).2

/-- Keys are distinct, so looking a key up finds the table under it. -/
theorem lookup_eq_some_iff {c : Config} {key : String} {s : RuleSettings} :
    c.rules.lookup key = some s ↔ c.Holds key s :=
  lookup_eq_some_iff_mem c.distinct

theorem lookup_eq_none_iff {c : Config} {key : String} :
    c.rules.lookup key = none ↔ ∀ s, ¬ c.Holds key s := by
  simp only [← lookup_eq_some_iff]
  exact Option.eq_none_iff_forall_ne_some

/-- The table of a rule is the one under its name, or else under its code. -/
theorem settings?_eq_some_iff {c : Config} {name code : String} {s : RuleSettings} :
    c.settings? name code = some s ↔ c.TableOf name code s := by
  unfold settings? TableOf
  cases hname : c.rules.lookup name with
  | some t =>
    have ht := lookup_eq_some_iff.mp hname
    constructor
    · intro heq
      obtain rfl : t = s := Option.some.inj heq
      exact .inl ht
    · rintro (hs | ⟨hnone, _⟩)
      · rw [ht.unique hs]
      · exact absurd ht (hnone t)
  | none =>
    have hnone := lookup_eq_none_iff.mp hname
    rw [lookup_eq_some_iff]
    constructor
    · intro hs
      exact .inr ⟨hnone, hs⟩
    · rintro (hs | ⟨_, hs⟩)
      · exact absurd hs (hnone s)
      · exact hs

/-- A rule has no table if there is none under its name or its code. -/
theorem settings?_eq_none_iff {c : Config} {name code : String} :
    c.settings? name code = none ↔ ∀ s, ¬ c.TableOf name code s := by
  simp only [← settings?_eq_some_iff]
  exact Option.eq_none_iff_forall_ne_some

/-- A rule has one table at most. -/
theorem TableOf.unique {c : Config} {name code : String} {s t : RuleSettings}
    (hs : c.TableOf name code s) (ht : c.TableOf name code t) : s = t := by
  rw [← settings?_eq_some_iff] at hs ht
  exact Option.some.inj (hs.symm.trans ht)

/-- The table of a rule stands under its name or its code. -/
theorem TableOf.holds {c : Config} {name code : String} {s : RuleSettings}
    (hs : c.TableOf name code s) : c.Holds name s ∨ c.Holds code s := by
  rcases hs with hs | ⟨_, hs⟩
  · exact .inl hs
  · exact .inr hs

/-- The configuration with its tables in another order. -/
def reordered (c : Config) (order : List (String × RuleSettings)) (horder : order.Perm c.rules) :
    Config :=
  { c with
    rules := order
    distinct := (horder.map (·.1)).nodup_iff.mpr c.distinct }

/-- Which tables there are does not depend on their order. -/
theorem holds_reordered (c : Config) (order : List (String × RuleSettings))
    (horder : order.Perm c.rules) : (c.reordered order horder).Holds = c.Holds := by
  funext key s
  exact propext horder.mem_iff

theorem tableOf_reordered (c : Config) (order : List (String × RuleSettings))
    (horder : order.Perm c.rules) : (c.reordered order horder).TableOf = c.TableOf := by
  unfold TableOf
  rw [holds_reordered]

end MarkupAudit.Config
