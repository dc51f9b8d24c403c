import MarkupAudit.Proofs.Document.Stored
import MarkupAudit.Rule.Registry

namespace MarkupAudit

/-- What a check reports about a tree at its root. -/
def rootReports (check : NodeInfo → List NodeInfo → Guarded (List Report)) (t : Node) :
    Guarded (List Report) :=
  if t.info.kind == .element then check t.info (t.children.map (·.info)) else pure []

/-- What a check without checks of its own work reports on a document. -/
def findings (check : NodeInfo → List NodeInfo → List Report) (d : Document) : List Report :=
  d.elements.flatMap fun e => check e.info (d.childInfos e)

/-- Without checks of its own work, a check reports what it comes to at each element. -/
@[simp]
theorem value_inspect (check : NodeInfo → List NodeInfo → Guarded (List Report)) (d : Document) :
    (inspect check d).value = findings (fun n children => (check n children).value) d :=
  Guarded.value_collect _ _

/-- A check is stopped at the first element where it is. -/
@[simp]
theorem defect?_inspect (check : NodeInfo → List NodeInfo → Guarded (List Report)) (d : Document) :
    (inspect check d).defect? =
      d.elements.findSome? fun e => (check e.info (d.childInfos e)).defect? :=
  Guarded.defect?_collect _ _

theorem inspect_pure (check : NodeInfo → List NodeInfo → List Report) (d : Document) :
    inspect (fun n children => pure (check n children)) d = pure (findings check d) :=
  Guarded.collect_pure _ _

/-- A check can as well go through all nodes and pass over those that are no elements. -/
theorem inspect_eq_collect (check : NodeInfo → List NodeInfo → Guarded (List Report))
    (d : Document) :
    inspect check d =
      Guarded.collect (fun view => if view.1.kind == .element then check view.1 view.2 else pure [])
        (d.entries.toList.map fun e => (e.info, d.childInfos e)) := by
  rw [inspect, Document.elements, Guarded.collect_filter, Guarded.collect_map]

/-- A rule goes through the entries of a document, each with its children. -/
theorem findings_eq_flatMap (check : NodeInfo → List NodeInfo → List Report) (d : Document) :
    findings check d =
      (d.entries.toList.map fun e => (e.info, d.childInfos e)).flatMap fun view =>
        if view.1.kind == .element then check view.1 view.2 else [] := by
  have hvalue := congrArg Guarded.value (inspect_eq_collect (fun n cs => pure (check n cs)) d)
  rw [inspect_pure, Guarded.value_pure, Guarded.value_collect] at hvalue
  simpa only [apply_ite Guarded.value, Guarded.value_pure] using hvalue

/-- In the document of a forest each report is owed to one tree of the source. -/
theorem findings_ofForest (check : NodeInfo → List NodeInfo → List Report) (ns : List Node) :
    findings check (.ofForest ns) =
      (Node.preorderAll ns).flatMap fun t =>
        if t.info.kind == .element then check t.info (t.children.map (·.info)) else [] := by
  rw [findings_eq_flatMap, Document.map_view_ofForest, List.flatMap_map]

/-- Going through a document finds what its trees hold at their roots, in document order. -/
theorem inspect_ofForest (check : NodeInfo → List NodeInfo → Guarded (List Report))
    (ns : List Node) :
    inspect check (.ofForest ns) = Guarded.collect (rootReports check) (Node.preorderAll ns) := by
  rw [inspect_eq_collect, Document.map_view_ofForest, Guarded.collect_map]
  rfl

/-- Two forests in one document are inspected one after the other. -/
theorem inspect_ofForest_append (check : NodeInfo → List NodeInfo → Guarded (List Report))
    (a b : List Node) :
    inspect check (.ofForest (a ++ b)) =
      inspect check (.ofForest a) ++ inspect check (.ofForest b) := by
  simp only [inspect_ofForest, Node.preorderAll_eq_flatMap, List.flatMap_append,
    Guarded.collect_append]

/-- The reports on a forest are, tree by tree, those at the root and then those on the children. -/
theorem inspect_ofForest_eq_collect (check : NodeInfo → List NodeInfo → Guarded (List Report))
    (ns : List Node) :
    inspect check (.ofForest ns) =
      Guarded.collect (fun n => rootReports check n ++ inspect check (.ofForest n.children))
        ns := by
  induction ns with
  | nil => rfl
  | cons n rest ih =>
    have htree : inspect check (.ofForest [n]) =
        rootReports check n ++ inspect check (.ofForest n.children) := by
      cases n with
      | mk info children => simp [inspect_ofForest, Node.children, Guarded.collect]
    rw [← List.singleton_append, inspect_ofForest_append, htree, ih]
    rfl

/-- The rule on empty content makes no check of its own work. -/
theorem EmptyContent.run_rule (r : EmptyContent) (specs : SpecLookup) (l : Locale) (d : Document) :
    r.rule.run specs l d = pure (.ok (findings (r.check l) d)) :=
  congrArg (Functor.map Except.ok) (inspect_pure (r.check l) d)

/-- The rule on repeated attributes makes no check of its own work. -/
theorem DuplicateAttribute.run_rule (r : DuplicateAttribute) (specs : SpecLookup) (l : Locale)
    (d : Document) : r.rule.run specs l d = pure (.ok (findings (check l) d)) :=
  congrArg (Functor.map Except.ok) (inspect_pure (check l) d)

/-- A built-in rule with its options. -/
inductive BuiltInRule where
  | invalidAttribute (options : InvalidAttribute)
  | classNaming (options : ClassNaming)
  | emptyContent (options : EmptyContent)
  | duplicateAttribute (options : DuplicateAttribute)

namespace BuiltInRule

/-- The rule. -/
def rule : BuiltInRule → Rule
  | .invalidAttribute options => options.rule
  | .classNaming options => options.rule
  | .emptyContent options => options.rule
  | .duplicateAttribute options => options.rule

/-- What the rule reports about an element. -/
def check (specs : SpecLookup) (l : Locale) :
    BuiltInRule → NodeInfo → List NodeInfo → Guarded (List Report)
  | .invalidAttribute options => options.check specs l
  | .classNaming options => fun n children =>
    if options.patterns.isEmpty then pure [] else options.check l n children
  | .emptyContent options => fun n children => pure (options.check l n children)
  | .duplicateAttribute _ => fun n children => pure (DuplicateAttribute.check l n children)

/-- What the rule finds about an element without checks of its own work. -/
def found (r : BuiltInRule) (specs : SpecLookup) (l : Locale) (n : NodeInfo)
    (children : List NodeInfo) : List Report :=
  (r.check specs l n children).value

/-- No built-in rule fails, and each looks at one element at a time. -/
theorem run_rule (r : BuiltInRule) (specs : SpecLookup) (l : Locale) (d : Document) :
    r.rule.run specs l d = Except.ok <$> inspect (r.check specs l) d := by
  cases r with
  | invalidAttribute options => rfl
  | classNaming options =>
    by_cases hempty : options.patterns.isEmpty = true
    · have hnone : findings (fun _ _ => []) d = [] := List.flatMap_eq_nil_iff.mpr fun _ _ => rfl
      simp [rule, ClassNaming.rule, check, hempty, inspect_pure, hnone]
    · simp [rule, ClassNaming.rule, check, hempty]
  | emptyContent options => rfl
  | duplicateAttribute options => rfl

/-- The value of a run of a built-in rule. -/
theorem value_run_rule (r : BuiltInRule) (specs : SpecLookup) (l : Locale) (d : Document) :
    (r.rule.run specs l d).value = .ok (findings (r.found specs l) d) := by
  rw [r.run_rule, Guarded.value_map, value_inspect]
  rfl

end BuiltInRule

/-- A node of a kind and value, and nothing else. -/
def NodeInfo.outline (kind : NodeKind) (value : String) : NodeInfo :=
  { kind, value }

theorem EmptyContent.isContent_outline (n : NodeInfo) :
    isContent (.outline n.kind n.value) = isContent n := by
  unfold isContent NodeInfo.isWhiteSpace NodeInfo.outline
  rfl

/-- No built-in rule looks at the value of an element, nor at more than the kind and the value of
its children. -/
theorem BuiltInRule.check_outline (r : BuiltInRule) (specs : SpecLookup) (l : Locale)
    (n : NodeInfo) (children : List NodeInfo) :
    r.check specs l n children =
      r.check specs l { n with value := "" } (children.map fun c => .outline c.kind c.value) := by
  cases r with
  | invalidAttribute options => rfl
  | classNaming options => rfl
  | emptyContent options =>
    have hcontent : (children.map fun c => NodeInfo.outline c.kind c.value).any
        EmptyContent.isContent = children.any EmptyContent.isContent := by
      simp only [List.any_map, Function.comp_def, EmptyContent.isContent_outline]
    simp only [check, EmptyContent.check, hcontent]
    rfl
  | duplicateAttribute options => rfl

/-- What a built-in rule reports about a node, from its kind, name, attributes and place and from
the kinds and values of its children. -/
def BuiltInRule.own (r : BuiltInRule) (specs : SpecLookup) (l : Locale) (kind : NodeKind)
    (name : String) (attributes : List Attribute) (span : Span)
    (children : List (NodeKind × String)) : Guarded (List Report) :=
  if kind == .element then
    r.check specs l { kind, name, attributes, span } (children.map fun c => .outline c.1 c.2)
  else pure []

/-- A built-in rule looks at the root and at kinds and values of its children only. -/
theorem BuiltInRule.own_eq_rootReports (r : BuiltInRule) (specs : SpecLookup) (l : Locale)
    (t : Node) :
    r.own specs l t.info.kind t.info.name t.info.attributes t.info.span
        (t.children.map fun c => (c.info.kind, c.info.value)) =
      rootReports (r.check specs l) t := by
  by_cases hkind : (t.info.kind == .element) = true
  · rw [own, rootReports, if_pos hkind, if_pos hkind, r.check_outline specs l t.info]
    simp only [List.map_map, Function.comp_def]
  · rw [own, rootReports, if_neg hkind, if_neg hkind]

/-- The reports of a built-in rule on a forest. -/
def BuiltInRule.reports (r : BuiltInRule) (specs : SpecLookup) (l : Locale) (ns : List Node) :
    Guarded (List Report) :=
  inspect (r.check specs l) (.ofForest ns)

/-- Every built-in rule is compositional: what it reports on a forest is, tree by tree, what it
owes to the root and then what it reports on the children. It never fails, and what it owes to a
node depends on no ancestor, no sibling and no deeper descendant. The same holds of the checks of
its own work: they are made, and fail, tree by tree. -/
theorem BuiltInRule.run_compositional (r : BuiltInRule) (specs : SpecLookup) (locale : Locale) :
    ∃ (own : NodeKind → String → List Attribute → Span → List (NodeKind × String) →
        Guarded (List Report))
      (reports : List Node → Guarded (List Report)),
      (∀ ns, r.rule.run specs locale (.ofForest ns) = Except.ok <$> reports ns) ∧
      (∀ ns, reports ns = Guarded.collect (fun n =>
        own n.info.kind n.info.name n.info.attributes n.info.span
          (n.children.map fun c => (c.info.kind, c.info.value)) ++ reports n.children) ns) ∧
      (∀ ns, (reports ns).value = ns.flatMap fun n =>
        (own n.info.kind n.info.name n.info.attributes n.info.span
          (n.children.map fun c => (c.info.kind, c.info.value))).value ++
            (reports n.children).value) ∧
      ∀ a b, reports (a ++ b) = reports a ++ reports b := by
  have htrees : ∀ ns, r.reports specs locale ns = Guarded.collect (fun n =>
      r.own specs locale n.info.kind n.info.name n.info.attributes n.info.span
        (n.children.map fun c => (c.info.kind, c.info.value)) ++
          r.reports specs locale n.children) ns := by
    intro ns
    simp only [r.own_eq_rootReports specs locale]
    exact inspect_ofForest_eq_collect (r.check specs locale) ns
  refine ⟨r.own specs locale, r.reports specs locale, ?_, htrees, ?_, ?_⟩
  · intro ns
    exact r.run_rule specs locale (.ofForest ns)
  · intro ns
    rw [htrees, Guarded.value_collect]
    rfl
  · intro a b
    exact inspect_ofForest_append (r.check specs locale) a b

end MarkupAudit
