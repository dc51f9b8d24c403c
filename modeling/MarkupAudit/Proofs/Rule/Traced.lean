import Mathlib.Data.List.Basic
import MarkupAudit.Proofs.Rule.Attributes

namespace MarkupAudit

/-- Where a document has an attribute: the number of the node and the place among its attributes. -/
structure Occurrence where
  node : Nat
  index : Nat
  deriving DecidableEq

/-- The attribute, as one whose value is known only when the page is made. -/
def Attribute.madeDynamic (a : Attribute) : Attribute :=
  { a with dynamic := true }

/-- What a node is, with one of its attributes made dynamic. -/
def NodeInfo.makeDynamic (n : NodeInfo) (index : Nat) : NodeInfo :=
  { n with attributes := n.attributes.modify index Attribute.madeDynamic }

namespace Document

/-- The attribute at a place. -/
def attributeAt? (d : Document) (k : Occurrence) : Option Attribute :=
  (d.info? k.node).bind fun n => n.attributes[k.index]?

/-- The document with one attribute made dynamic. -/
def makeDynamic (d : Document) (k : Occurrence) : Document :=
  { d with
    entries := d.entries.modify k.node fun e => { e with info := e.info.makeDynamic k.index } }

theorem toList_entries_makeDynamic (d : Document) (k : Occurrence) :
    (d.makeDynamic k).entries.toList =
      d.entries.toList.modify k.node fun e => { e with info := e.info.makeDynamic k.index } :=
  Array.toList_modify

/-- An attribute that becomes dynamic changes neither the kind nor the value of a node. -/
theorem map_outline_info?_makeDynamic (d : Document) (k : Occurrence) (id : Nat) :
    ((d.makeDynamic k).info? id).map (fun n => NodeInfo.outline n.kind n.value) =
      (d.info? id).map fun n => NodeInfo.outline n.kind n.value := by
  rw [info?, info?, entry?_eq_getElem?, entry?_eq_getElem?, toList_entries_makeDynamic,
    List.getElem?_modify]
  by_cases hid : k.node = id
  · simp only [hid, if_true, Option.map_map, Function.comp_def, Option.map_eq_map]
    rfl
  · simp only [hid, if_false, Option.map_map, Function.comp_def, Option.map_eq_map]

/-- The children of a node look the same in outline. -/
theorem map_outline_childInfos_makeDynamic (d : Document) (k : Occurrence) (e : Entry) :
    ((d.makeDynamic k).childInfos e).map (fun n => NodeInfo.outline n.kind n.value) =
      (d.childInfos e).map fun n => NodeInfo.outline n.kind n.value := by
  simp only [childInfos, List.map_filterMap, map_outline_info?_makeDynamic]

end Document

section

variable {α β : Type} {g g' : α → Nat → List β} {p : β → Bool}

/-- Going through numbered elements, of which one is changed: what the change takes away can be left
out afterwards. -/
theorem flatMap_zipIdx_modify {f : α → α} {start k : Nat}
    (helse : ∀ a i, i ≠ start + k → g' a i = (g a i).filter p)
    (hhere : ∀ a, g' (f a) (start + k) = (g a (start + k)).filter p) (xs : List α) :
    (((xs.modify k f).zipIdx start).flatMap fun x => g' x.1 x.2) =
      ((xs.zipIdx start).flatMap fun x => g x.1 x.2).filter p := by
  induction xs generalizing start k with
  | nil => simp
  | cons a xs ih =>
    cases k with
    | zero =>
      have hrest : ((xs.zipIdx (start + 1)).flatMap fun x => g' x.1 x.2) =
          ((xs.zipIdx (start + 1)).flatMap fun x => g x.1 x.2).filter p := by
        rw [List.filter_flatMap]
        refine List.flatMap_congr fun x hx => helse x.1 x.2 ?_
        have hbound := List.le_snd_of_mem_zipIdx hx
        omega
      have hfirst : g' (f a) start = (g a start).filter p := hhere a
      simp only [List.modify_zero_cons, List.zipIdx_cons, List.flatMap_cons, List.filter_append,
        hrest, hfirst]
    | succ k =>
      have hfirst : g' a start = (g a start).filter p := helse a start (by omega)
      have hindex : start + (k + 1) = start + 1 + k := by omega
      rw [hindex] at hhere helse
      simp only [List.modify_succ_cons, List.zipIdx_cons, List.flatMap_cons, List.filter_append,
        hfirst, ih helse hhere]

/-- What comes from one of the numbered elements. -/
theorem filter_flatMap_zipIdx {start k : Nat}
    (helse : ∀ a i, i ≠ start + k → (g a i).filter p = []) (xs : List α) :
    ((xs.zipIdx start).flatMap fun x => g x.1 x.2).filter p =
      xs[k]?.elim [] fun a => (g a (start + k)).filter p := by
  induction xs generalizing start k with
  | nil => simp
  | cons a xs ih =>
    cases k with
    | zero =>
      have hrest : ((xs.zipIdx (start + 1)).flatMap fun x => g x.1 x.2).filter p = [] := by
        rw [List.filter_flatMap, List.flatMap_eq_nil_iff]
        intro x hx
        have hbound := List.le_snd_of_mem_zipIdx hx
        exact helse x.1 x.2 (by omega)
      simp only [List.zipIdx_cons, List.flatMap_cons, List.filter_append, hrest, List.append_nil,
        List.getElem?_cons_zero, Option.elim_some, Nat.add_zero]
    | succ k =>
      have hfirst : (g a start).filter p = [] := helse a start (by omega)
      have hindex : start + (k + 1) = start + 1 + k := by omega
      rw [hindex] at helse ⊢
      simp only [List.zipIdx_cons, List.flatMap_cons, List.filter_append, hfirst, List.nil_append,
        ih helse, List.getElem?_cons_succ]

/-- What all has one mark is kept or left out as a whole. -/
theorem filter_map_mark_eq [DecidableEq α] (mark k : α) (xs : List β) :
    (xs.map fun x => (mark, x)).filter (·.1 = k) =
      if mark = k then xs.map fun x => (mark, x) else [] := by
  by_cases hmark : mark = k <;> simp [hmark, List.filter_map, Function.comp_def]

theorem filter_map_mark_ne [DecidableEq α] (mark k : α) (xs : List β) :
    (xs.map fun x => (mark, x)).filter (·.1 ≠ k) =
      if mark = k then [] else xs.map fun x => (mark, x) := by
  by_cases hmark : mark = k <;> simp [hmark, List.filter_map, Function.comp_def]

end

namespace BuiltInRule

/-- Whether the rule judges attributes one by one, by their values. -/
def judgesAttributes : BuiltInRule → Bool
  | .invalidAttribute _ => true
  | .classNaming _ => true
  | .emptyContent _ => false
  | .duplicateAttribute _ => false

/-- What the rule reports about an element that has one attribute only. -/
def checkAttribute (r : BuiltInRule) (specs : SpecLookup) (l : Locale) (n : NodeInfo)
    (a : Attribute) : Guarded (List Report) :=
  r.check specs l { n with attributes := [a] } []

section

variable {r : BuiltInRule} (specs : SpecLookup) (l : Locale) (n : NodeInfo)
  (children : List NodeInfo)

/-- A rule that judges attributes goes through them one by one. -/
theorem check_append (hjudges : r.judgesAttributes = true) (xs ys : List Attribute) :
    r.check specs l { n with attributes := xs ++ ys } children =
      r.check specs l { n with attributes := xs } [] ++
        r.check specs l { n with attributes := ys } children := by
  cases r with
  | invalidAttribute options =>
    simp only [check, InvalidAttribute.check, Guarded.collect_append]
    rfl
  | classNaming options =>
    by_cases hempty : options.patterns.isEmpty = true
    · simp [check, hempty]
    · simp [check, hempty, ClassNaming.check, NodeInfo.attributesNamed, List.filter_append,
        Guarded.collect_append]
  | emptyContent options => cases hjudges
  | duplicateAttribute options => cases hjudges

/-- A rule that judges attributes one by one reports what there is about each of them. -/
theorem check_eq_collect (hjudges : r.judgesAttributes = true) :
    r.check specs l n children = Guarded.collect (r.checkAttribute specs l n) n.attributes := by
  -- The attributes are split off the node, whose name the rule still reads.
  have hall : ∀ xs : List Attribute, r.check specs l { n with attributes := xs } children =
      Guarded.collect (r.checkAttribute specs l n) xs := by
    intro xs
    induction xs with
    | nil =>
      cases r with
      | invalidAttribute options => rfl
      | classNaming options =>
        simp [check, ClassNaming.check, NodeInfo.attributesNamed, Guarded.collect]
      | emptyContent options => cases hjudges
      | duplicateAttribute options => cases hjudges
    | cons a rest ih =>
      rw [← List.singleton_append, check_append specs l n children hjudges, ih]
      rfl
  exact hall n.attributes

/-- Nothing is reported about a dynamic attribute, and no check is made of it. -/
theorem checkAttribute_of_dynamic (hjudges : r.judgesAttributes = true) {a : Attribute}
    (hdynamic : a.dynamic = true) : r.checkAttribute specs l n a = pure [] := by
  cases r with
  | invalidAttribute options =>
    have hvalid : ∀ custom decl, Verdict.ofToken l a custom decl = pure .valid := by
      intro custom decl
      rw [Verdict.ofToken, if_pos hdynamic]
    have hnone : ∀ n, options.attributeReport specs l n a = pure [] := by
      intro n
      unfold InvalidAttribute.attributeReport InvalidAttribute.verdict
      cases options.custom? a.name with
      | none => simp [hvalid, InvalidAttribute.reportOf]
      | some decl => simp [hvalid, InvalidAttribute.reportOf]
    simp [checkAttribute, check, InvalidAttribute.check, Guarded.collect, hnone]
  | classNaming options =>
    by_cases hclass : a.hasName "class" = true
    · simp [checkAttribute, check, ClassNaming.check, NodeInfo.attributesNamed, Guarded.collect,
        hclass, hdynamic]
    · simp [checkAttribute, check, ClassNaming.check, NodeInfo.attributesNamed, Guarded.collect,
        hclass]
  | emptyContent options => cases hjudges
  | duplicateAttribute options => cases hjudges

/-- The other rules do not ask which attributes are dynamic. -/
theorem check_mapAttributes_madeDynamic (hjudges : r.judgesAttributes = false) :
    r.check specs l (n.mapAttributes Attribute.madeDynamic) children =
      r.check specs l n children := by
  have hname : ∀ a : Attribute, Text.foldCase a.madeDynamic.name = Text.foldCase a.name :=
    fun _ => rfl
  cases r with
  | invalidAttribute options => cases hjudges
  | classNaming options => cases hjudges
  | emptyContent options =>
    have hexempt := EmptyContent.isExempt_mapAttributes hname (fun _ => rfl) options n
    have hspan : (n.mapAttributes Attribute.madeDynamic).span = n.span := rfl
    have hpalpable : options.isPalpable (n.mapAttributes Attribute.madeDynamic) =
        options.isPalpable n := rfl
    simp only [check, EmptyContent.check, hexempt, hpalpable, hspan]
  | duplicateAttribute options =>
    have hrepeated := DuplicateAttribute.repeated_map hname [] n.attributes
    have hreport : ∀ a : Attribute, DuplicateAttribute.attributeReport l a.madeDynamic =
        DuplicateAttribute.attributeReport l a := fun _ => rfl
    simp only [check, DuplicateAttribute.check, NodeInfo.mapAttributes, hrepeated, List.map_map,
      Function.comp_def, hreport]

/-- A rule that looks at whole elements does not ask which attributes are dynamic. -/
theorem check_makeDynamic (hjudges : r.judgesAttributes = false) (index : Nat) :
    r.check specs l (n.makeDynamic index) children = r.check specs l n children := by
  -- With all attributes made dynamic the two nodes are one.
  have hsame : (n.makeDynamic index).mapAttributes Attribute.madeDynamic =
      n.mapAttributes Attribute.madeDynamic := by
    have hattributes : (n.attributes.modify index Attribute.madeDynamic).map Attribute.madeDynamic =
        n.attributes.map Attribute.madeDynamic := by
      refine List.ext_getElem? fun i => ?_
      rw [List.getElem?_map, List.getElem?_modify, List.getElem?_map]
      cases n.attributes[i]? with
      | none => rfl
      | some a => by_cases hi : index = i <;> simp [hi, Attribute.madeDynamic]
    exact congrArg (fun attributes => { n with attributes }) hattributes
  rw [← check_mapAttributes_madeDynamic specs l (n.makeDynamic index) children hjudges, hsame,
    check_mapAttributes_madeDynamic specs l n children hjudges]

/-- What the rule finds about an element that has one attribute only. -/
def foundAttribute (r : BuiltInRule) (specs : SpecLookup) (l : Locale) (n : NodeInfo)
    (a : Attribute) : List Report :=
  (r.checkAttribute specs l n a).value

/-- What a rule that judges attributes finds is what it finds in each of them. -/
theorem found_eq_flatMap (hjudges : r.judgesAttributes = true) :
    r.found specs l n children = n.attributes.flatMap (r.foundAttribute specs l n) := by
  rw [found, check_eq_collect specs l n children hjudges, Guarded.value_collect]
  rfl

/-- Nothing is found in a dynamic attribute. -/
theorem foundAttribute_of_dynamic (hjudges : r.judgesAttributes = true) {a : Attribute}
    (hdynamic : a.dynamic = true) : r.foundAttribute specs l n a = [] := by
  rw [foundAttribute, checkAttribute_of_dynamic specs l n hjudges hdynamic]
  rfl

/-- What is found in whole elements stays the same. -/
theorem found_makeDynamic (hjudges : r.judgesAttributes = false) (index : Nat) :
    r.found specs l (n.makeDynamic index) children = r.found specs l n children := by
  rw [found, check_makeDynamic specs l n children hjudges]
  rfl

/-- A check of its own work that a rule passes is passed with an attribute made dynamic. -/
theorem defect?_check_makeDynamic (index : Nat)
    (hnone : (r.check specs l n children).defect? = none) :
    (r.check specs l (n.makeDynamic index) children).defect? = none := by
  cases hjudges : r.judgesAttributes with
  | false => rwa [check_makeDynamic specs l n children hjudges]
  | true =>
    rw [check_eq_collect specs l _ children hjudges, Guarded.defect?_collect,
      List.findSome?_eq_none_iff] at hnone ⊢
    intro a ha
    obtain ⟨i, hi⟩ := List.mem_iff_getElem?.mp ha
    rw [NodeInfo.makeDynamic, List.getElem?_modify] at hi
    obtain ⟨b, hb, rfl⟩ := Option.map_eq_some_iff.mp hi
    by_cases hindex : index = i
    · rw [if_pos hindex, checkAttribute_of_dynamic specs l _ hjudges rfl]
      rfl
    · rw [if_neg hindex]
      exact hnone b (List.mem_iff_getElem?.mpr ⟨i, hb⟩)

end

/-- What the rule finds about an element, with the attributes it is about if the rule judges
attributes one by one. -/
def traceElement (r : BuiltInRule) (specs : SpecLookup) (l : Locale) (id : Nat) (n : NodeInfo)
    (children : List NodeInfo) : List (Option Occurrence × Report) :=
  if r.judgesAttributes then
    n.attributes.zipIdx.flatMap fun x =>
      (r.foundAttribute specs l n x.1).map fun f => (some ⟨id, x.2⟩, f)
  else (r.found specs l n children).map fun f => (none, f)

/-- What the rule finds in a document, with the attributes it is about. -/
def trace (r : BuiltInRule) (specs : SpecLookup) (l : Locale) (d : Document) :
    List (Option Occurrence × Report) :=
  d.entries.toList.zipIdx.flatMap fun x =>
    if x.1.info.kind == .element then r.traceElement specs l x.2 x.1.info (d.childInfos x.1) else []

/-- What the rule finds about an attribute of a document by its value. -/
def findingsAbout (r : BuiltInRule) (specs : SpecLookup) (l : Locale) (d : Document)
    (k : Occurrence) : List Report :=
  (d.info? k.node).elim [] fun n =>
    if r.judgesAttributes && n.kind == .element then
      n.attributes[k.index]?.elim [] (r.foundAttribute specs l n)
    else []

section

variable (r : BuiltInRule) (specs : SpecLookup) (l : Locale) (id : Nat) (n : NodeInfo)
  (children : List NodeInfo)

/-- Without the attributes, the trace of an element is what is found in it. -/
theorem map_snd_traceElement :
    (r.traceElement specs l id n children).map (·.2) = r.found specs l n children := by
  cases hjudges : r.judgesAttributes with
  | true =>
    have hattributes : n.attributes.zipIdx.flatMap (fun x => r.foundAttribute specs l n x.1) =
        n.attributes.flatMap (r.foundAttribute specs l n) := by
      rw [← List.flatMap_map, List.zipIdx_map_fst]
    simp only [traceElement, hjudges, if_true, List.map_flatMap, List.map_map, Function.comp_def,
      List.map_id', hattributes, found_eq_flatMap specs l n children hjudges]
  | false =>
    simp only [traceElement, hjudges, Bool.false_eq_true, if_false, List.map_map,
      Function.comp_def, List.map_id']

/-- Only the outline of the children matters. -/
theorem traceElement_congr {others : List NodeInfo}
    (houtline : (others.map fun c => NodeInfo.outline c.kind c.value) =
      children.map fun c => NodeInfo.outline c.kind c.value) :
    r.traceElement specs l id n others = r.traceElement specs l id n children := by
  have hfound : r.found specs l n others = r.found specs l n children := by
    rw [found, r.check_outline specs l n others, houtline, ← r.check_outline specs l n children]
    rfl
  rw [traceElement, hfound]
  rfl

/-- What the trace of an element has about one attribute is found in that attribute. -/
theorem filter_traceElement (k : Occurrence) :
    (r.traceElement specs l k.node n children).filter (·.1 = some k) =
      if r.judgesAttributes then
        n.attributes[k.index]?.elim [] fun a =>
          (r.foundAttribute specs l n a).map fun f => (some k, f)
      else [] := by
  cases hjudges : r.judgesAttributes with
  | true =>
    have helse : ∀ (a : Attribute) (i : Nat), i ≠ 0 + k.index →
        ((r.foundAttribute specs l n a).map fun f =>
          ((some ⟨k.node, i⟩, f) : Option Occurrence × Report)).filter (·.1 = some k) = [] := by
      intro a i hi
      rw [filter_map_mark_eq, if_neg]
      intro hmark
      rw [← Option.some.inj hmark, Nat.zero_add] at hi
      exact hi rfl
    have hpart := filter_flatMap_zipIdx helse n.attributes
    simp only [traceElement, hjudges, if_true, hpart, Nat.zero_add]
    cases n.attributes[k.index]? with
    | none => rfl
    | some a => exact (filter_map_mark_eq _ _ _).trans (if_pos rfl)
  | false =>
    simp only [traceElement, hjudges, Bool.false_eq_true, if_false, filter_map_mark_eq,
      reduceCtorEq]

/-- Only rules that judge attributes say which attribute a finding is about. -/
theorem isSome_of_mem_traceElement {t : Option Occurrence × Report}
    (ht : t ∈ r.traceElement specs l id n children) :
    t.1.isSome = r.judgesAttributes ∧ ∀ k, t.1 = some k → k.node = id := by
  cases hjudges : r.judgesAttributes with
  | true =>
    simp only [traceElement, hjudges, if_true, List.mem_flatMap, List.mem_map] at ht
    obtain ⟨x, _, f, _, rfl⟩ := ht
    refine ⟨rfl, fun k hk => ?_⟩
    rw [← Option.some.inj hk]
  | false =>
    simp only [traceElement, hjudges, Bool.false_eq_true, if_false, List.mem_map] at ht
    obtain ⟨f, _, rfl⟩ := ht
    exact ⟨rfl, fun k hk => nomatch hk⟩

/-- Making an attribute dynamic leaves out what is found about it. -/
theorem traceElement_makeDynamic (k : Occurrence) :
    r.traceElement specs l k.node (n.makeDynamic k.index) children =
      (r.traceElement specs l k.node n children).filter (·.1 ≠ some k) := by
  cases hjudges : r.judgesAttributes with
  | true =>
    have helse : ∀ (a : Attribute) (i : Nat), i ≠ 0 + k.index →
        ((r.foundAttribute specs l (n.makeDynamic k.index) a).map fun f =>
          ((some ⟨k.node, i⟩, f) : Option Occurrence × Report)) =
        ((r.foundAttribute specs l n a).map fun f => (some ⟨k.node, i⟩, f)).filter
          (·.1 ≠ some k) := by
      intro a i hi
      rw [filter_map_mark_ne, if_neg]
      · rfl
      · intro hmark
        rw [← Option.some.inj hmark, Nat.zero_add] at hi
        exact hi rfl
    simp only [traceElement, hjudges, if_true]
    refine flatMap_zipIdx_modify helse (fun a => ?_) n.attributes
    have hnone : r.foundAttribute specs l (n.makeDynamic k.index) a.madeDynamic = [] :=
      foundAttribute_of_dynamic specs l _ hjudges rfl
    rw [hnone, Nat.zero_add, List.map_nil, filter_map_mark_ne, if_pos rfl]
  | false =>
    simp only [traceElement, hjudges, Bool.false_eq_true, if_false,
      found_makeDynamic specs l n children hjudges, filter_map_mark_ne, reduceCtorEq]

end

section

variable (r : BuiltInRule) (specs : SpecLookup) (l : Locale) (d : Document)

/-- Without the attributes a trace is what the rule finds. -/
theorem map_snd_trace : (r.trace specs l d).map (·.2) = findings (r.found specs l) d := by
  have hentries : d.entries.toList.zipIdx.map (·.1) = d.entries.toList := List.zipIdx_map_fst 0 _
  rw [findings_eq_flatMap, ← hentries, List.flatMap_map, List.flatMap_map, trace, List.map_flatMap]
  refine List.flatMap_congr fun x _ => ?_
  dsimp only
  split
  · exact r.map_snd_traceElement specs l x.2 x.1.info (d.childInfos x.1)
  · rfl

theorem isSome_of_mem_trace {t : Option Occurrence × Report} (ht : t ∈ r.trace specs l d) :
    t.1.isSome = r.judgesAttributes := by
  obtain ⟨x, _, ht⟩ := List.mem_flatMap.mp ht
  split at ht
  · exact (r.isSome_of_mem_traceElement specs l x.2 x.1.info _ ht).1
  · cases ht

/-- What a trace has about an attribute are the findings about it. -/
theorem filter_trace (k : Occurrence) :
    ((r.trace specs l d).filter (·.1 = some k)).map (·.2) = r.findingsAbout specs l d k := by
  have helse : ∀ (e : Entry) (i : Nat), i ≠ 0 + k.node →
      (if e.info.kind == .element then r.traceElement specs l i e.info (d.childInfos e)
        else []).filter (·.1 = some k) = [] := by
    intro e i hi
    rw [List.filter_eq_nil_iff]
    intro t ht htag
    split at ht
    · have hnode :=
        (r.isSome_of_mem_traceElement specs l i e.info _ ht).2 k (of_decide_eq_true htag)
      omega
    · cases ht
  have hpart := filter_flatMap_zipIdx helse d.entries.toList
  rw [trace, hpart, findingsAbout, Document.info?, Document.entry?_eq_getElem?, Nat.zero_add]
  cases d.entries.toList[k.node]? with
  | none => rfl
  | some e =>
    simp only [Option.elim_some, Option.map_some]
    cases hkind : e.info.kind == .element with
    | false =>
      simp only [Bool.false_eq_true, if_false, Bool.and_false, List.filter_nil, List.map_nil]
    | true =>
      simp only [if_true, filter_traceElement, Bool.and_true]
      cases r.judgesAttributes with
      | false => rfl
      | true =>
        cases e.info.attributes[k.index]? with
        | none => rfl
        | some a => simp [Function.comp_def]

/-- Making an attribute dynamic leaves out what is found about it, and changes nothing else. -/
theorem trace_makeDynamic (k : Occurrence) :
    r.trace specs l (d.makeDynamic k) = (r.trace specs l d).filter (·.1 ≠ some k) := by
  -- The changed node may be a child, too, but a rule sees no attributes of children.
  have hchildren : ∀ (id : Nat) (n : NodeInfo) (e : Entry),
      r.traceElement specs l id n ((d.makeDynamic k).childInfos e) =
        r.traceElement specs l id n (d.childInfos e) := by
    intro id n e
    exact r.traceElement_congr specs l id n _ (d.map_outline_childInfos_makeDynamic k e)
  have helse : ∀ (e : Entry) (i : Nat), i ≠ 0 + k.node →
      (if e.info.kind == .element then
        r.traceElement specs l i e.info ((d.makeDynamic k).childInfos e) else []) =
      (if e.info.kind == .element then
        r.traceElement specs l i e.info (d.childInfos e) else []).filter (·.1 ≠ some k) := by
    intro e i hi
    rw [hchildren]
    refine (List.filter_eq_self.mpr fun t ht => ?_).symm
    split at ht
    · refine decide_eq_true fun htag => hi ?_
      rw [← (r.isSome_of_mem_traceElement specs l i e.info _ ht).2 k htag, Nat.zero_add]
    · cases ht
  rw [trace, trace, Document.toList_entries_makeDynamic]
  refine flatMap_zipIdx_modify helse (fun e => ?_) d.entries.toList
  have hkind : (e.info.makeDynamic k.index).kind = e.info.kind := rfl
  simp only [Nat.zero_add, hkind, hchildren]
  split
  · exact r.traceElement_makeDynamic specs l e.info (d.childInfos e) k
  · rfl

end

end BuiltInRule

end MarkupAudit
