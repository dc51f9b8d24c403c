import MarkupAudit.Proofs.Linter.Wording
import MarkupAudit.Proofs.Report.MarkedSort
import MarkupAudit.Proofs.Rule.Traced

namespace MarkupAudit

/-- Two rules judge attributes by their values. -/
theorem BuiltInRule.judgesAttributes_iff (r : BuiltInRule) :
    r.judgesAttributes = true ↔
      r.rule.name = InvalidAttribute.name ∨ r.rule.name = ClassNaming.name := by
  cases r with
  | invalidAttribute options => exact iff_of_true rfl (.inl rfl)
  | classNaming options => exact iff_of_true rfl (.inr rfl)
  | emptyContent options =>
    have hother : ¬ (EmptyContent.name = InvalidAttribute.name ∨
        EmptyContent.name = ClassNaming.name) := by decide
    exact iff_of_false Bool.false_ne_true hother
  | duplicateAttribute options =>
    have hother : ¬ (DuplicateAttribute.name = InvalidAttribute.name ∨
        DuplicateAttribute.name = ClassNaming.name) := by decide
    exact iff_of_false Bool.false_ne_true hother

/-- What is found about an attribute is found because it is there and not dynamic. -/
theorem BuiltInRule.exists_of_mem_findingsAbout {r : BuiltInRule} {specs : SpecLookup} {l : Locale}
    {d : Document} {k : Occurrence} {f : Report} (hf : f ∈ r.findingsAbout specs l d k) :
    ∃ a, d.attributeAt? k = some a ∧ a.dynamic = false := by
  rw [findingsAbout] at hf
  rw [Document.attributeAt?]
  cases hinfo : d.info? k.node with
  | none => simp [hinfo] at hf
  | some n =>
    rw [hinfo, Option.elim_some] at hf
    split at hf
    case isFalse => cases hf
    case isTrue hboth =>
      obtain ⟨hjudges, _⟩ := Bool.and_eq_true_iff.mp hboth
      cases hattribute : n.attributes[k.index]? with
      | none => simp [hattribute] at hf
      | some a =>
        rw [hattribute, Option.elim_some] at hf
        refine ⟨a, hattribute, ?_⟩
        by_contra hdynamic
        rw [foundAttribute_of_dynamic specs l n hjudges
          (Bool.eq_true_of_not_eq_false hdynamic)] at hf
        cases hf

/-- A check that a rule passes on a document is passed with an attribute made dynamic. -/
theorem BuiltInRule.defect?_inspect_makeDynamic {r : BuiltInRule} {specs : SpecLookup} {l : Locale}
    {d : Document} (k : Occurrence) (hnone : (inspect (r.check specs l) d).defect? = none) :
    (inspect (r.check specs l) (d.makeDynamic k)).defect? = none := by
  rw [defect?_inspect, List.findSome?_eq_none_iff] at hnone ⊢
  -- The children are seen in outline only, so a node can be looked at as it was among them.
  have hchildren : ∀ (n : NodeInfo) (e : Entry),
      r.check specs l n ((d.makeDynamic k).childInfos e) = r.check specs l n (d.childInfos e) := by
    intro n e
    rw [r.check_outline specs l n, d.map_outline_childInfos_makeDynamic k e,
      ← r.check_outline specs l n]
  intro e he
  obtain ⟨hentry, hkind⟩ := List.mem_filter.mp he
  obtain ⟨id, hid⟩ := List.mem_iff_getElem?.mp hentry
  rw [d.toList_entries_makeDynamic k, List.getElem?_modify] at hid
  obtain ⟨original, horiginal, rfl⟩ := Option.map_eq_some_iff.mp hid
  have hmem : original ∈ d.entries.toList := List.mem_iff_getElem?.mpr ⟨id, horiginal⟩
  by_cases hnode : k.node = id
  · rw [if_pos hnode] at hkind ⊢
    rw [hchildren]
    exact defect?_check_makeDynamic specs l _ _ k.index
      (hnone original (List.mem_filter.mpr ⟨hmem, hkind⟩))
  · rw [if_neg hnode] at hkind ⊢
    rw [hchildren]
    exact hnone original (List.mem_filter.mpr ⟨hmem, hkind⟩)

namespace Linter

section

variable (rules : List BuiltInRule) (config : Config) (locale : Locale) (specs : SpecLookup)
  (d : Document)

/-- What the enabled rules report, rule by rule, each violation with the attribute that it judges
by its value. -/
def traced : List (Option Occurrence × Violation) :=
  (rules.filter fun r => config.isEnabled r.rule.name r.rule.code).flatMap fun r =>
    (r.trace specs locale d).map fun t =>
      (t.1, (ofBuiltIn rules config locale specs).reported d r.rule t.2)

/-- The violations of the enabled rules that judge an attribute by its value. -/
def reportedAbout (k : Occurrence) : List Violation :=
  (rules.filter fun r => config.isEnabled r.rule.name r.rule.code).flatMap fun r =>
    (r.findingsAbout specs locale d k).map
      ((ofBuiltIn rules config locale specs).reported d r.rule)

/-- Without their marks, traced violations are those that a linter collects. -/
theorem map_snd_traced :
    (traced rules config locale specs d).map (·.2) =
      (ofBuiltIn rules config locale specs).collected d := by
  rw [traced, collected_ofBuiltIn, List.map_flatMap]
  refine List.flatMap_congr fun r _ => ?_
  rw [← r.map_snd_trace, List.map_map, List.map_map]
  rfl

/-- The violations marked with an attribute are those about it. -/
theorem filter_traced (k : Occurrence) :
    ((traced rules config locale specs d).filter (·.1 = some k)).map (·.2) =
      reportedAbout rules config locale specs d k := by
  rw [traced, reportedAbout, List.filter_flatMap, List.map_flatMap]
  refine List.flatMap_congr fun r _ => ?_
  rw [← r.filter_trace, List.filter_map, List.map_map, List.map_map]
  rfl

/-- An attribute that becomes dynamic takes the violations marked with it out, and no others. -/
theorem traced_makeDynamic (k : Occurrence) :
    traced rules config locale specs (d.makeDynamic k) =
      (traced rules config locale specs d).filter (·.1 ≠ some k) := by
  rw [traced, traced, List.filter_flatMap]
  refine List.flatMap_congr fun r _ => ?_
  rw [r.trace_makeDynamic, List.filter_map]
  rfl

/-- Marks do not take part in sorting, so they can be carried to the outcome. -/
theorem verify_eq_sortMarked :
    ((ofBuiltIn rules config locale specs).verify d).value = .ok
      { violations := (Violation.sortMarked (traced rules config locale specs d)).map (·.2),
        documentsChecked := 1 } := by
  rw [verify_ofBuiltIn, Violation.map_snd_sortMarked, map_snd_traced]

/-- The linter is stopped at no check if none of its enabled rules is. -/
theorem defect?_verify_ofBuiltIn_eq_none_iff :
    ((ofBuiltIn rules config locale specs).verify d).defect? = none ↔
      ∀ r ∈ rules, config.isEnabled r.rule.name r.rule.code = true →
        (inspect (r.check specs locale) d).defect? = none := by
  rw [verify_ofBuiltIn, firstDefect?_ofBuiltIn]
  simp only [List.findSome?_eq_none_iff, List.mem_filter, and_imp]

end

section

variable {rules : List BuiltInRule} {config : Config} {locale : Locale} {specs : SpecLookup}
  {d : Document} {t : Option Occurrence × Violation}

/-- Exactly the violations of the rules that judge attributes are marked. -/
theorem fst_eq_none_iff (ht : t ∈ traced rules config locale specs d) :
    t.1 = none ↔ t.2.rule ≠ InvalidAttribute.name ∧ t.2.rule ≠ ClassNaming.name := by
  obtain ⟨r, _, ht⟩ := List.mem_flatMap.mp ht
  obtain ⟨u, hu, rfl⟩ := List.mem_map.mp ht
  have hmark := (r.isSome_of_mem_trace specs locale d hu).symm
  rw [← not_or]
  change u.1 = none ↔ ¬ (r.rule.name = InvalidAttribute.name ∨ r.rule.name = ClassNaming.name)
  rw [← r.judgesAttributes_iff, hmark, Option.isSome_iff_ne_none, not_not]

/-- A mark stands for an attribute that is not dynamic. -/
theorem exists_attribute_of_fst_eq_some {k : Occurrence}
    (ht : t ∈ traced rules config locale specs d) (hk : t.1 = some k) :
    ∃ a, d.attributeAt? k = some a ∧ a.dynamic = false := by
  have hmem : t.2 ∈ reportedAbout rules config locale specs d k := by
    rw [← filter_traced]
    exact List.mem_map_of_mem (List.mem_filter.mpr ⟨ht, decide_eq_true hk⟩)
  obtain ⟨r, _, hmem⟩ := List.mem_flatMap.mp hmem
  obtain ⟨f, hf, _⟩ := List.mem_map.mp hmem
  exact BuiltInRule.exists_of_mem_findingsAbout hf

end

/-- Dynamic values are never flagged and affect nothing else. Every violation on a document can be
marked, in the order of the outcome, with the attribute that it judges by its value: those of the
rules on invalid attributes and on class names are, each with one that is not dynamic, and no others
are. If any attribute is made dynamic, then the outcome loses exactly the violations marked with it;
all others stay as they are and in their order. A linter that passes all checks of its own work
still does with an attribute made dynamic. -/
theorem verify_makeDynamic (rules : List BuiltInRule) (config : Config) (locale : Locale)
    (specs : SpecLookup) (d : Document) :
    ∃ marked : List (Option Occurrence × Violation),
      ((ofBuiltIn rules config locale specs).verify d).value =
        .ok { violations := marked.map (·.2), documentsChecked := 1 } ∧
      (∀ t ∈ marked,
        (t.1 = none ↔ t.2.rule ≠ InvalidAttribute.name ∧ t.2.rule ≠ ClassNaming.name) ∧
        ∀ k, t.1 = some k → ∃ a, d.attributeAt? k = some a ∧ a.dynamic = false) ∧
      ∀ k : Occurrence,
        (marked.filter (·.1 = some k)).map (·.2) =
          (reportedAbout rules config locale specs d k).mergeSort Violation.noLater ∧
        ((ofBuiltIn rules config locale specs).verify (d.makeDynamic k)).value =
          .ok { violations := (marked.filter (·.1 ≠ some k)).map (·.2),
                documentsChecked := 1 } ∧
        (((ofBuiltIn rules config locale specs).verify d).defect? = none →
          ((ofBuiltIn rules config locale specs).verify (d.makeDynamic k)).defect? = none) := by
  refine ⟨_, verify_eq_sortMarked rules config locale specs d, ?_, fun k => ⟨?_, ?_, ?_⟩⟩
  · intro t ht
    rw [Violation.mem_sortMarked] at ht
    exact ⟨fst_eq_none_iff ht, fun k hk => exists_attribute_of_fst_eq_some ht hk⟩
  · rw [Violation.filter_sortMarked, Violation.map_snd_sortMarked, filter_traced]
  · rw [verify_eq_sortMarked, traced_makeDynamic, Violation.filter_sortMarked]
  · rw [defect?_verify_ofBuiltIn_eq_none_iff, defect?_verify_ofBuiltIn_eq_none_iff]
    intro hnone r hr henabled
    exact BuiltInRule.defect?_inspect_makeDynamic k (hnone r hr henabled)

end Linter

end MarkupAudit
