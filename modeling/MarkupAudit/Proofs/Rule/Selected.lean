import Mathlib.Data.List.Induction
import MarkupAudit.Proofs.Rule.Configured
import MarkupAudit.Proofs.Rule.Presets
import MarkupAudit.Spec.Html

namespace MarkupAudit

namespace Config

/-- The rules that keys mention, each once. -/
def mentioned (keys : List String) : List BuiltIn :=
  (keys.filterMap BuiltIn.ofKey?).eraseDups

/-- The place of the first key that is the name or the code of a rule. -/
def firstMention (keys : List String) (b : BuiltIn) : Nat :=
  keys.findIdx fun key => key == b.name || key == b.code

/-- A rule is mentioned by name or by code. -/
theorem mem_mentioned_iff {keys : List String} {b : BuiltIn} :
    b ∈ mentioned keys ↔ ∃ key ∈ keys, key = b.name ∨ key = b.code := by
  simp only [mentioned, List.mem_eraseDups, List.mem_filterMap, BuiltIn.ofKey?_eq_some_iff]

/-- A further mention of a rule makes no difference. -/
theorem eraseDups_append_singleton (bs : List BuiltIn) (b : BuiltIn) :
    (bs ++ [b]).eraseDups = if b ∈ bs then bs.eraseDups else bs.eraseDups ++ [b] := by
  rw [List.eraseDups_append, List.removeAll, List.filter_cons, List.filter_nil]
  by_cases hb : b ∈ bs
  · simp [hb]
  · simp [hb, List.eraseDups_cons]

/-- One more key adds the rule that it mentions, unless an earlier key does. -/
theorem mentioned_append_singleton (keys : List String) (key : String) :
    mentioned (keys ++ [key]) = mentioned keys ∨
      ∃ b, (key = b.name ∨ key = b.code) ∧ b ∉ mentioned keys ∧
        mentioned (keys ++ [key]) = mentioned keys ++ [b] := by
  cases hkey : BuiltIn.ofKey? key with
  | none =>
    left
    rw [mentioned, List.filterMap_append, List.filterMap_cons_none hkey, List.filterMap_nil,
      List.append_nil]
    rfl
  | some b =>
    have happend : mentioned (keys ++ [key]) =
        if b ∈ mentioned keys then mentioned keys else mentioned keys ++ [b] := by
      rw [mentioned, List.filterMap_append, List.filterMap_cons_some hkey, List.filterMap_nil,
        eraseDups_append_singleton]
      simp only [mentioned, List.mem_eraseDups]
    rw [happend]
    by_cases hb : b ∈ mentioned keys
    · rw [if_pos hb]
      exact .inl rfl
    · rw [if_neg hb]
      exact .inr ⟨b, BuiltIn.ofKey?_eq_some_iff.mp hkey, hb, rfl⟩

/-- A rule has a first mention if it is mentioned. -/
theorem firstMention_lt_length_iff {keys : List String} {b : BuiltIn} :
    firstMention keys b < keys.length ↔ b ∈ mentioned keys := by
  rw [firstMention, List.findIdx_lt_length, mem_mentioned_iff]
  simp only [Bool.or_eq_true, beq_iff_eq]

/-- The first mention among more keys is the one that was first before, if there was one. -/
theorem firstMention_append (keys more : List String) (b : BuiltIn) :
    firstMention (keys ++ more) b =
      if firstMention keys b < keys.length then firstMention keys b
      else firstMention more b + keys.length :=
  List.findIdx_append

theorem firstMention_append_of_mem {keys : List String} {b : BuiltIn} (hb : b ∈ mentioned keys)
    (more : List String) : firstMention (keys ++ more) b = firstMention keys b := by
  rw [firstMention_append, if_pos (firstMention_lt_length_iff.mpr hb)]

theorem length_le_firstMention_append {keys : List String} {b : BuiltIn}
    (hb : b ∉ mentioned keys) (more : List String) :
    keys.length ≤ firstMention (keys ++ more) b := by
  rw [firstMention_append, if_neg (mt firstMention_lt_length_iff.mp hb)]
  exact Nat.le_add_left _ _

/-- The rules that keys mention are in the order of first mention. -/
theorem pairwise_mentioned (keys : List String) :
    (mentioned keys).Pairwise fun a b => firstMention keys a < firstMention keys b := by
  induction keys using List.reverseRecOn with
  | nil => exact .nil
  | append_singleton keys key ih =>
    -- One more key leaves the places of those mentioned before as they are.
    have hbefore : (mentioned keys).Pairwise fun a b =>
        firstMention (keys ++ [key]) a < firstMention (keys ++ [key]) b := by
      refine ih.imp_of_mem fun ha hb hab => ?_
      rwa [firstMention_append_of_mem ha, firstMention_append_of_mem hb]
    rcases mentioned_append_singleton keys key with hsame | ⟨b, _, hb, hmore⟩
    · rwa [hsame]
    · rw [hmore, List.pairwise_append]
      refine ⟨hbefore, List.pairwise_singleton _ b, fun a ha b' hb' => ?_⟩
      obtain rfl := List.mem_singleton.mp hb'
      rw [firstMention_append_of_mem ha]
      exact (firstMention_lt_length_iff.mpr ha).trans_le (length_le_firstMention_append hb [key])

/-- The selected rules are the mentioned ones, each made from its own table. -/
theorem selectedRules_eq_ok_iff {c : Config} {keys : List String} {picked : List Rule} :
    c.selectedRules keys = .ok picked ↔
      List.Forall₂ (fun b q => b.create ((b.settings? c).getD {}) = .ok q)
        (mentioned keys) picked := by
  rw [selectedRules, mapM_eq_ok_iff]
  simp only [BuiltIn.createRule_name_eq_ok_iff]
  rfl

/-- The selected rules keep names and codes. -/
theorem map_ids_selected {c : Config} {bs : List BuiltIn} {picked : List Rule}
    (hpicked : List.Forall₂ (fun b q => b.create ((b.settings? c).getD {}) = .ok q) bs picked) :
    (picked.map fun q => (q.name, q.code)) = bs.map fun b => (b.name, b.code) := by
  induction hpicked with
  | nil => rfl
  | cons hcreate _ ih =>
    obtain ⟨hname, hcode⟩ := BuiltIn.create_ids hcreate
    rw [List.map_cons, List.map_cons, ih, hname, hcode]

/-- The strict preset is asked for, and its rule on empty content has no table. -/
def KeepsStrict (c : Config) : Prop :=
  c.preset = some "strict" ∧ BuiltIn.emptyContent.settings? c = none

/-- Selected or configured, a rule is made alike, but for one rule of one preset. -/
theorem Makes.eq_selected {c : Config} {p : Preset} {b : BuiltIn} {q r : Rule}
    (hp : p.name = c.preset.getD "recommended") (hr : c.Makes p b r)
    (hq : b.create ((b.settings? c).getD {}) = .ok q)
    (hnot : ¬ (c.KeepsStrict ∧ b = .emptyContent)) : q = r := by
  rcases hr with ⟨s, hs, hcreate⟩ | ⟨hnone, rfl⟩
  · rw [hs, Option.getD_some, hcreate] at hq
    exact (Except.ok.inj hq).symm
  · rw [hnone, Option.getD_none, BuiltIn.create_bare rfl rfl] at hq
    rw [← Except.ok.inj hq, Preset.variant_eq_standard]
    rintro ⟨hstrict, rfl⟩
    exact hnot ⟨⟨(eq_strict_iff hp).mp hstrict, hnone⟩, rfl⟩

/-- The rule on empty content is selected without settings where the strict preset keeps its own. -/
theorem Makes.keepsStrict {c : Config} {p : Preset} {q r : Rule}
    (hp : p.name = c.preset.getD "recommended") (hr : c.Makes p .emptyContent r)
    (hq : BuiltIn.emptyContent.create ((BuiltIn.emptyContent.settings? c).getD {}) = .ok q)
    (hkeeps : c.KeepsStrict) : r = EmptyContent.strict.rule ∧ q = ({} : EmptyContent).rule := by
  obtain ⟨hpreset, hnone⟩ := hkeeps
  obtain rfl := (eq_strict_iff hp).mpr hpreset
  rw [hnone] at hq
  rcases hr with ⟨s, hs, _⟩ | ⟨_, rfl⟩
  · rw [hnone] at hs
    cases hs
  · exact ⟨rfl, (Except.ok.inj hq).symm⟩

/-- Selected and configured rules agree where they meet. A selection has each built-in rule that the
keys mention once, in the order of first mention. A rule that is both selected and configured finds
the same violations, with one exception: in the strict preset, as long as it has no table, the
configured rule on empty content reports elements that are being loaded, and the selected one finds
the same violations without those. -/
theorem selectedRules_agree {c : Config} {keys : List String} {rules picked : List Rule}
    (hrules : c.configuredRules = .ok rules) (hpicked : c.selectedRules keys = .ok picked) :
    (∃ bs : List BuiltIn,
      ((picked.map fun q => (q.name, q.code)) = bs.map fun b => (b.name, b.code)) ∧
      (∀ b, b ∈ bs ↔ ∃ key ∈ keys, key = b.name ∨ key = b.code) ∧
      bs.Pairwise fun a b => firstMention keys a < firstMention keys b) ∧
    ∀ q ∈ picked, ∀ r ∈ rules, q.name = r.name → ∀ specs locale d,
      (¬ (c.KeepsStrict ∧ r.name = EmptyContent.name) →
        q.violations specs locale d = r.violations specs locale d) ∧
      (c.KeepsStrict ∧ r.name = EmptyContent.name →
        r.violations specs locale d =
          pure (.ok (EmptyContent.violationsAt (fun _ => true) .warning locale d)) ∧
        q.violations specs locale d = pure (.ok
          (EmptyContent.violationsAt (fun n => !EmptyContent.isBusy n) .warning locale d))) := by
  rw [selectedRules_eq_ok_iff] at hpicked
  refine ⟨⟨mentioned keys, map_ids_selected hpicked, fun b => mem_mentioned_iff,
    pairwise_mentioned keys⟩, ?_⟩
  intro q hq r hr hsame specs locale d
  obtain ⟨_, p, hp, hasks⟩ := configuredRules_eq_ok_iff.mp hrules
  obtain ⟨b, hmakes⟩ := hasks.exists_makes hr
  obtain ⟨b', _, hcreate⟩ := exists_mem_of_forall₂ hpicked hq
  obtain rfl : b' = b := by
    refine BuiltIn.name_injective ?_
    rw [← (BuiltIn.create_ids hcreate).1, hsame, hmakes.ids.1]
  have hempty : r.name = EmptyContent.name ↔ b' = .emptyContent := by
    rw [hmakes.ids.1]
    exact BuiltIn.name_injective.eq_iff (b := .emptyContent)
  rw [hempty]
  constructor
  · intro hnot
    rw [hmakes.eq_selected hp hcreate hnot]
  · rintro ⟨hkeeps, rfl⟩
    obtain ⟨rfl, rfl⟩ := hmakes.keepsStrict hp hcreate hkeeps
    exact ⟨EmptyContent.violations_strict specs locale d,
      EmptyContent.violations_standard specs locale d⟩

theorem selectedRules_agree_strictOnly :
    ∃ rules picked, strictOnly.configuredRules = .ok rules ∧
      strictOnly.selectedRules ["ML004", "unknown", "invalid-attr", "attr-duplication"] =
        .ok picked ∧
      picked.map (·.name) = ["attr-duplication", "invalid-attr"] ∧
      ∀ q ∈ picked, ∀ r ∈ rules, q.name = r.name → ∀ specs locale d,
        q.violations specs locale d = r.violations specs locale d := by
  have hrules : strictOnly.configuredRules = .ok Preset.strict.rules :=
    configuredRules_of_rules_eq_nil rfl rfl
  have hpicked : strictOnly.selectedRules
      ["ML004", "unknown", "invalid-attr", "attr-duplication"] =
        .ok [({} : DuplicateAttribute).rule, ({} : InvalidAttribute).rule] := rfl
  refine ⟨_, _, hrules, hpicked, rfl, fun q hq r hr hsame specs locale d => ?_⟩
  refine ((selectedRules_agree hrules hpicked).2 q hq r hr hsame specs locale d).1 ?_
  rintro ⟨_, hname⟩
  rw [← hsame] at hname
  simp only [List.mem_cons, List.not_mem_nil, or_false] at hq
  rcases hq with rfl | rfl
  · exact absurd hname (by decide)
  · exact absurd hname (by decide)

/-- Selected and configured rules do not always find the same. -/
theorem selectedRules_disagree :
    ∃ rules picked, strictOnly.configuredRules = .ok rules ∧
      strictOnly.selectedRules ["no-empty-palpable-content"] = .ok picked ∧
      ∃ q ∈ picked, ∃ r ∈ rules, q.name = r.name ∧
        q.violations SpecTable.html.lookup .english loading ≠
          r.violations SpecTable.html.lookup .english loading := by
  refine ⟨_, [({} : EmptyContent).rule], configuredRules_of_rules_eq_nil (p := .strict) rfl rfl,
    rfl, ({} : EmptyContent).rule, List.mem_singleton_self _, EmptyContent.strict.rule, ?_, rfl, ?_⟩
  · exact List.mem_cons_of_mem _ List.mem_cons_self
  · rw [EmptyContent.violations_strict, EmptyContent.violations_standard]
    intro heq
    have hlength := congrArg List.length (Except.ok.inj (congrArg Guarded.value heq))
    exact absurd hlength (by decide)

end Config

end MarkupAudit
