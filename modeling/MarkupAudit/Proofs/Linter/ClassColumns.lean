import MarkupAudit.Proofs.Document.Encoded
import MarkupAudit.Proofs.Linter.Verify
import MarkupAudit.Proofs.Rule.ClassPlaces

namespace MarkupAudit

/-- A text that can be a class. -/
def IsClassName (name : String) : Prop :=
  name ≠ "" ∧ ∀ c ∈ name.toList, Text.isBlank c = false

namespace ListedClass

/-- The line to report the class on. -/
def line (c : ListedClass) : Nat :=
  c.attr.valueOrNameSpan.line.toNat

/-- Whether the class is on an earlier line than another, or no further right on the same line. -/
def noLater (c next : ListedClass) : Bool :=
  c.line < next.line || (c.line == next.line && c.column ≤ next.column)

/-- What stands in a list of classes is the name of a class. -/
theorem isClassName_name (c : ListedClass) : IsClassName c.name := by
  refine ⟨?_, ?_⟩
  · rw [name, Ne, String.ofList_eq_empty_iff]
    exact c.run.name_ne_nil
  · rw [name, String.toList_ofList]
    exact c.run.not_blank

/-- Fewer characters stand before a class than its list has. -/
theorem start_lt_length (c : ListedClass) : c.run.start < c.attr.value.length := by
  have hname := List.length_pos_iff.mpr c.run.name_ne_nil
  have htext := congrArg List.length c.run.text_eq
  rw [List.length_append, List.length_append, String.length_toList] at htext
  rw [ClassRun.start]
  omega

end ListedClass

namespace ClassNaming

section

variable (r : ClassNaming) (locale : Locale) (d : Document) (c : ListedClass)

/-- The line is always that of the class. -/
theorem toNat_line_violation : (r.violation locale d c).location.line.toNat = c.line := by
  rw [ListedClass.line, Attribute.valueOrNameSpan]
  cases hspan : c.attr.valueSpan with
  | none => rw [r.location_violation_of_none locale d hspan]; rfl
  | some span => rw [r.location_violation locale d hspan]; rfl

/-- The column is that of the class exactly if it fits into a machine word. -/
theorem toNat_column_violation_iff :
    (r.violation locale d c).location.column.toNat = c.column ↔ c.Fits := by
  rw [toNat_column_violation_eq_mod]
  exact Nat.mod_eq_iff_lt (by decide)

end

section

variable {r : ClassNaming} {d : Document}

/-- Nothing overflows if every bad class fits. -/
theorem overflow?_eq_none_iff : r.overflow? d = none ↔ ∀ c ∈ r.badClasses d, c.Fits := by
  simp [overflow?]

/-- An overflow is owed to a bad class that does not fit, and to nothing else. -/
theorem overflow?_eq_some_iff {defect : Defect} :
    r.overflow? d = some defect ↔ defect = .overflow ∧ ∃ c ∈ r.badClasses d, ¬c.Fits := by
  simp [overflow?, eq_comm, and_comm]

/-- With checks the rule stops at a column that is no machine word, and at nothing else. -/
theorem run_violations_eq_error_iff {specs : SpecLookup} {locale : Locale} {defect : Defect} :
    (r.rule.violations specs locale d).run .checked = .error defect ↔
      defect = .overflow ∧ ∃ c ∈ r.badClasses d, ¬c.Fits := by
  rw [Guarded.run_eq_error_iff, violations_rule, overflow?_eq_some_iff]
  exact and_iff_right rfl

/-- With checks the rule has violations to give exactly if all columns are machine words. -/
theorem gives_violations_iff {specs : SpecLookup} {locale : Locale} {violations : List Violation} :
    (r.rule.violations specs locale d).Gives .checked violations ↔
      (∀ c ∈ r.badClasses d, c.Fits) ∧
        violations = (r.badClasses d).map (r.violation locale d) := by
  rw [Guarded.gives_iff, violations_rule, overflow?_eq_none_iff]
  simp [eq_comm, and_comm]

/-- A checked build reports on a document exactly if every bad class in it fits. -/
theorem exists_gives_iff {specs : SpecLookup} {locale : Locale} :
    (∃ violations, (r.rule.violations specs locale d).Gives .checked violations) ↔
      ∀ c ∈ r.badClasses d, c.Fits := by
  simp only [gives_violations_iff, exists_and_left, exists_eq, and_true]

end

/-- The violation that a class is in the outcome of a linter, which may give it another severity. -/
def outcome (r : ClassNaming) (l : Linter) (d : Document) (c : ListedClass) : Violation :=
  l.override r.rule (r.violation l.locale d c)

section

variable {r : ClassNaming} {l : Linter} {d : Document} {c next : ListedClass}

theorem location_outcome :
    (r.outcome l d c).location = (r.violation l.locale d c).location := by
  rw [outcome, Linter.override]
  split <;> rfl

/-- Violations are put in the order of the columns they report, wrapped or not. -/
theorem noLater_outcome :
    (r.outcome l d c).noLater (r.outcome l d next) = (decide (c.line < next.line) ||
      (c.line == next.line && decide (c.column % UInt64.size ≤ next.column % UInt64.size))) := by
  simp only [Violation.noLater, location_outcome, UInt64.lt_iff_toNat_lt, UInt64.le_iff_toNat_le,
    toNat_line_violation, toNat_column_violation_eq_mod]
  congr 2
  rw [Bool.eq_iff_iff, beq_iff_eq, beq_iff_eq, ← UInt64.toNat_inj, toNat_line_violation,
    toNat_line_violation]

/-- Classes whose columns are words are sorted by their own places. -/
theorem noLater_outcome_of_fits (hc : c.Fits) (hnext : next.Fits) :
    (r.outcome l d c).noLater (r.outcome l d next) = c.noLater next := by
  rw [noLater_outcome, Nat.mod_eq_of_lt hc, Nat.mod_eq_of_lt hnext, ListedClass.noLater]

/-- In one list, a class is taken to stand behind a later one exactly if the column of the later one
alone is too large. -/
theorem noLater_outcome_iff (hattr : c.attr = next.attr) (hstart : c.run.start < next.run.start)
    (hlength : next.attr.value.length ≤ UInt64.size) :
    (r.outcome l d c).noLater (r.outcome l d next) = true ↔ ¬ (c.Fits ∧ ¬ next.Fits) := by
  have hline : c.line = next.line := by rw [ListedClass.line, ListedClass.line, hattr]
  have hshort := next.start_lt_length
  rw [noLater_outcome, hline]
  simp only [Nat.lt_irrefl, decide_false, Bool.false_or, beq_self_eq_true, Bool.true_and,
    decide_eq_true_eq, ListedClass.Fits, ListedClass.column, hattr]
  cases next.attr.valueSpan with
  | none =>
    have hword := next.attr.nameSpan.column.toNat_lt
    dsimp only [UInt64.size] at *
    omega
  | some span =>
    -- Both sums are below twice the number of words, so a sum that does not fit loses it once.
    have hword := span.column.toNat_lt
    dsimp only [UInt64.size] at *
    omega

end

/-- No rule fails in a linter that has an outcome. -/
theorem forall_not_fails {l : Linter} {d : Document} {result : LintResult}
    (hverify : (l.verify d).value = .ok result) :
    ∀ q ∈ l.enabledRules, ∀ cause, ¬ l.Fails d q cause := by
  intro q hq cause hfails
  obtain ⟨e, he⟩ := Linter.exists_verify_eq_error_iff.mpr ⟨q, hq, cause, hfails⟩
  rw [hverify] at he
  cases he

/-- With checks a linter has an outcome only if the columns of all bad classes are words. -/
theorem fits_of_gives {r : ClassNaming} {d : Document} {l : Linter} {result : LintResult}
    (hrule : r.rule ∈ l.enabledRules) (hverify : (l.verify d).Gives .checked result) :
    ∀ c ∈ r.badClasses d, c.Fits := by
  obtain ⟨hvalue, hdefect⟩ := Guarded.gives_iff.mp hverify
  have hfirst : l.firstDefect? d = none := by
    rw [← Linter.defect?_verify_of_ok (forall_not_fails hvalue)]
    exact hdefect rfl
  have hrun := List.findSome?_eq_none_iff.mp hfirst _ hrule
  rw [r.run_rule] at hrun
  exact overflow?_eq_none_iff.mp hrun

/-- The outcome of a linter has the bad classes of a rule that runs in the order of the reported
places. -/
theorem mergeSort_outcome_sublist {r : ClassNaming} {d : Document} {l : Linter}
    {result : LintResult} (hrule : r.rule ∈ l.enabledRules)
    (hverify : (l.verify d).value = .ok result) {classes : List ListedClass}
    (hclasses : classes.Sublist (r.badClasses d)) :
    ((classes.map (r.outcome l d)).mergeSort Violation.noLater).Sublist result.violations := by
  have hnone := forall_not_fails hverify
  have hfound : (l.found d r.rule).value = .ok ((r.badClasses d).map (r.outcome l d)) := by
    rw [Linter.found, Guarded.value_map, r.violations_rule]
    exact congrArg Except.ok (List.map_map ..)
  have hcollected : ((r.badClasses d).map (r.outcome l d)).Sublist (l.collected d) := by
    rw [(Linter.found_eq_ok_iff.mp hfound).2, Linter.collected, List.flatMap_def]
    exact List.sublist_flatten_of_mem (List.mem_map_of_mem hrule)
  have hresult : result.violations = (l.collected d).mergeSort Violation.noLater := by
    rw [Linter.verify_eq_ok hnone] at hverify
    exact (congrArg LintResult.violations (Except.ok.inj hverify)).symm
  rw [hresult]
  exact (Violation.isStableSort_mergeSort _).sublist (Violation.isStableSort_mergeSort _)
    ((hclasses.map _).trans hcollected)

end ClassNaming

/-- Every class of a list is among the classes of a document that has the list. -/
theorem Document.mem_listedClasses {d : Document} {e : Entry} {c : ListedClass}
    (he : e ∈ d.entries.toList) (hkind : e.info.kind = .element)
    (hattr : c.attr ∈ e.info.attributes) (hlists : c.attr.listsClasses = true) :
    c ∈ d.listedClasses := by
  refine List.mem_flatMap.mpr ⟨e, List.mem_filter.mpr ⟨he, beq_iff_eq.mpr hkind⟩, ?_⟩
  refine List.mem_flatMap.mpr ⟨c.attr, List.mem_filter.mpr ⟨hattr, hlists⟩, ?_⟩
  exact List.mem_map_of_mem (ClassRun.mem_all c.run)

/-- Every forest is that of some document that can be read. -/
theorem Document.exists_ofJson?_eq (nodes : List Node) :
    ∃ j, ofJson? j = some { ofForest nodes with path := none } := by
  have hnodes : Node.childrenOfJson? (.array (Node.listToJson nodes)) = some nodes := by
    rw [Node.childrenOfJson?, Node.listOfJson?_listToJson]
  refine ⟨.object [("nodes", .array (Node.listToJson nodes))], ?_⟩
  simp [ofJson?, Json.record?, Json.single?, Json.required, Json.optional, hnodes]

/-- A list that starts in the last column, with a blank before its only class. -/
def Attribute.edge (name : String) : Attribute where
  name := "class"
  value := " " ++ name
  valueSpan := some { line := 1, column := -1 }

/-- The class behind the last column. -/
def ListedClass.edge {name : String} (hname : IsClassName name) : ListedClass where
  attr := .edge name
  run :=
    { before := [' ']
      name := name.toList
      after := []
      text_eq := by simp [Attribute.edge]
      name_ne_nil := by simpa using hname.1
      not_blank := hname.2
      blank_before := by simp [Text.isBlank]
      blank_after := by simp }

/-- An element with such a list. -/
def Node.edge (name : String) : Node :=
  .mk { kind := .element, name := "p", attributes := [.edge name] } []

namespace ClassNaming

/-- With patterns, a bad class is a listed one that no pattern accepts. -/
theorem mem_badClasses {r : ClassNaming} (hpatterns : r.patterns ≠ []) {d : Document}
    {c : ListedClass} : c ∈ r.badClasses d ↔ c ∈ d.listedClasses ∧ r.accepts c.name = false := by
  rw [badClasses, List.mem_filter, accepts, ← List.not_any_eq_all_not]
  simp [hpatterns]

/-- A bad class can stand at the edge of what columns can count. -/
theorem edge_mem_badClasses {r : ClassNaming} (hpatterns : r.patterns ≠ []) {name : String}
    (hname : IsClassName name) (hbad : r.accepts name = false) :
    .edge hname ∈ r.badClasses (.ofForest [.edge name]) := by
  have hlisted : ListedClass.edge hname ∈ (Document.ofForest [.edge name]).listedClasses := by
    refine Document.mem_listedClasses (e := ⟨(Node.edge name).info, none, []⟩) ?_ ?_ ?_ ?_
    · exact List.mem_singleton_self _
    · rfl
    · exact List.mem_singleton_self _
    · rw [Attribute.listsClasses, ← Attribute.hasName_class]
      change (Text.sameName "class" "class" && !false) = true
      decide
  refine (mem_badClasses hpatterns).mpr ⟨hlisted, ?_⟩
  rwa [show (ListedClass.edge hname).name = name from String.ofList_toList]

/-- There its column does not fit. -/
theorem edge_not_fits {name : String} (hname : IsClassName name) :
    ¬ (ListedClass.edge hname).Fits := by
  change ¬ ((-1 : UInt64).toNat + 1 < UInt64.size)
  decide

/-- The order in which bad classes come in an outcome without checks. -/
structure OrdersClasses (r : ClassNaming) (l : Linter) (d : Document) (result : LintResult) :
    Prop where
  /-- If all columns are words, it is that of the places of the classes, and of the source where
  places are the same. -/
  byPlace : (∀ c ∈ r.badClasses d, c.Fits) →
    (((r.badClasses d).mergeSort ListedClass.noLater).map (r.outcome l d)).Sublist result.violations
  /-- Two classes of one list, which has no more characters than there are words, change places
  exactly if the column of the second alone is too large. -/
  reversed : ∀ c next, [c, next].Sublist (r.badClasses d) → c.attr = next.attr →
    c.run.start < next.run.start → next.attr.value.length ≤ UInt64.size →
    (if c.Fits ∧ ¬ next.Fits then [r.outcome l d next, r.outcome l d c]
      else [r.outcome l d c, r.outcome l d next]).Sublist result.violations

/-- The place of classes in an outcome, by line and reported column. -/
theorem ordersClasses {r : ClassNaming} {d : Document} {l : Linter} {result : LintResult}
    (hrule : r.rule ∈ l.enabledRules) (hverify : (l.verify d).value = .ok result) :
    OrdersClasses r l d result where
  byPlace hfits := by
    have hsorted := mergeSort_outcome_sublist hrule hverify (List.Sublist.refl (r.badClasses d))
    have horder : ∀ c ∈ r.badClasses d, ∀ next ∈ r.badClasses d,
        c.noLater next = (r.outcome l d c).noLater (r.outcome l d next) := by
      intro c hc next hnext
      rw [noLater_outcome_of_fits (hfits c hc) (hfits next hnext)]
    rwa [List.map_mergeSort horder]
  reversed c next hclasses hattr hstart hlength := by
    have hsorted := mergeSort_outcome_sublist hrule hverify hclasses
    have hiff := noLater_outcome_iff (r := r) (l := l) (d := d) hattr hstart hlength
    simp only [List.map_cons, List.map_nil] at hsorted
    by_cases hreversed : c.Fits ∧ ¬ next.Fits
    · have hlater : (r.outcome l d c).noLater (r.outcome l d next) = false :=
        Bool.eq_false_iff.mpr fun hnoLater => hiff.mp hnoLater hreversed
      rw [if_pos hreversed]
      simpa [List.mergeSort, List.merge, hlater] using hsorted
    · rw [if_neg hreversed]
      simpa [List.mergeSort, List.merge, hiff.mpr hreversed] using hsorted

/-- With checks the rule stops exactly at a document with a bad class whose column is no machine
word; on all others it reports every bad class in its own column, and the order of an outcome is
that of the places. Without checks the reported column is the remainder of the sum that it stands
for, and right exactly if the sum is a word; of two classes in one list, the second comes first
exactly if its sum alone is none. The rule is safe for all documents that can be read if the
patterns let every class pass, and for no other patterns. -/
theorem columns_exact_iff_fit (r : ClassNaming) (hpatterns : r.patterns ≠ []) :
    (∀ specs locale d,
      (∀ defect, (r.rule.violations specs locale d).run .checked = .error defect ↔
        defect = .overflow ∧ ∃ c ∈ r.badClasses d, ¬c.Fits) ∧
      ((∀ c ∈ r.badClasses d, c.Fits) →
        ∃ violations, (r.rule.violations specs locale d).Gives .checked violations ∧
          List.Forall₂ (fun c v => v.location.line.toNat = c.line ∧
            v.location.column.toNat = c.column) (r.badClasses d) violations) ∧
      ∃ violations, (r.rule.violations specs locale d).Gives .unchecked violations ∧
        List.Forall₂ (fun c v => v.location.line.toNat = c.line ∧
          v.location.column.toNat = c.column % UInt64.size ∧
          (v.location.column.toNat = c.column ↔ c.Fits)) (r.badClasses d) violations) ∧
    (∀ l d result, r.rule ∈ l.enabledRules →
      ((l.verify d).Gives .checked result → (∀ c ∈ r.badClasses d, c.Fits) ∧
        (((r.badClasses d).mergeSort ListedClass.noLater).map (r.outcome l d)).Sublist
          result.violations) ∧
      ((l.verify d).Gives .unchecked result → OrdersClasses r l d result)) ∧
    ((∀ j d, Document.ofJson? j = some d → ∀ specs locale,
        ∃ violations, (r.rule.violations specs locale d).Gives .checked violations) ↔
      ∀ name, IsClassName name → r.accepts name = true) := by
  refine ⟨fun specs locale d => ⟨fun _ => run_violations_eq_error_iff, fun hfits => ?_, ?_⟩,
    fun l d result hrule => ⟨fun hverify => ?_, fun hverify => ?_⟩, ?_, ?_⟩
  · refine ⟨_, gives_violations_iff.mpr ⟨hfits, rfl⟩, r.forall₂_violation locale fun c hc => ?_⟩
    exact ⟨r.toNat_line_violation locale d c,
      (r.toNat_column_violation_iff locale d c).mpr (hfits c hc)⟩
  · refine ⟨_, congrArg (Guarded.run .unchecked) (r.violations_rule locale specs d),
      r.forall₂_violation locale fun c _ => ?_⟩
    exact ⟨r.toNat_line_violation locale d c, r.toNat_column_violation_eq_mod locale d c,
      r.toNat_column_violation_iff locale d c⟩
  · have hfits := fits_of_gives hrule hverify
    exact ⟨hfits, (ordersClasses hrule (Guarded.gives_iff.mp hverify).1).byPlace hfits⟩
  · exact ordersClasses hrule (Guarded.gives_iff.mp hverify).1
  · intro hsafe name hname
    by_contra haccepts
    have hbad := edge_mem_badClasses hpatterns hname (Bool.eq_false_iff.mpr haccepts)
    obtain ⟨j, hread⟩ := Document.exists_ofJson?_eq [.edge name]
    have hgives := hsafe j _ hread ⟨fun _ _ => none, fun _ => false⟩ .english
    exact edge_not_fits hname (exists_gives_iff.mp hgives _ hbad)
  · intro haccepts j d _ specs locale
    refine exists_gives_iff.mpr fun c hc => ?_
    have hbad := ((mem_badClasses hpatterns).mp hc).2
    rw [haccepts c.name c.isClassName_name] at hbad
    cases hbad

/-- A rule that lets one start of a name pass. -/
def startingWith (start : List Char) : ClassNaming where
  patterns := [
    { source := "^" ++ String.ofList start
      accepts := fun s => s.toList.take start.length == start }]

theorem columns_exact_iff_fit_component :
    let r := startingWith ['c', '-']
    r.patterns ≠ [] ∧
      (∀ specs locale, (r.rule.violations specs locale (.ofForest [.edge "Foo"])).run .checked =
        .error .overflow) ∧
      ¬ ∀ j d, Document.ofJson? j = some d → ∀ specs locale,
        ∃ violations, (r.rule.violations specs locale d).Gives .checked violations := by
  intro r
  have hpatterns : r.patterns ≠ [] := List.cons_ne_nil _ _
  have hname : IsClassName "Foo" := ⟨by decide, by simp [Text.isBlank]⟩
  have hbad : r.accepts "Foo" = false := by decide
  obtain ⟨hruns, _, hsafe⟩ := columns_exact_iff_fit r hpatterns
  refine ⟨hpatterns, fun specs locale => ?_, fun hgives => ?_⟩
  · exact ((hruns specs locale _).1 _).mpr
      ⟨rfl, _, edge_mem_badClasses hpatterns hname hbad, edge_not_fits hname⟩
  · exact absurd (hsafe.mp hgives "Foo" hname) (by simp [hbad])

-- The list starts in the last column. With checks its second class stops the rule, and without them
-- it is reported before the first.
example :
    let list : Attribute :=
      { name := "class", value := "a b", valueSpan := some { line := 1, column := -1 } }
    let d : Document := .ofForest [.mk { kind := .element, attributes := [list] } []]
    let r := startingWith ['c', '-']
    let found := r.rule.violations ⟨fun _ _ => none, fun _ => false⟩ .english d
    found.defect? = some .overflow ∧
      found.value.toOption.map (·.map fun v => (v.location.raw, v.location.column.toNat)) =
        some [("a", 18446744073709551615), ("b", 1)] ∧
      found.value.toOption.map (·.map fun v => found.value.toOption.map (·.map v.noLater)) =
        some [some [true, false], some [true, true]] := by
  decide +kernel

end ClassNaming

end MarkupAudit
