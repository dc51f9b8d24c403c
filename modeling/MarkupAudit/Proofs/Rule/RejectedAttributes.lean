import MarkupAudit.Proofs.Document.Faithful
import MarkupAudit.Proofs.Linter.NameCase
import MarkupAudit.Proofs.Spec.Complaints

namespace MarkupAudit

open Text

/-- Dropping a start leaves what stands behind it. -/
theorem Text.dropStart?_eq_some_iff {start cs rest : List Char} :
    dropStart? start cs = some rest ↔ cs = start ++ rest := by
  induction start generalizing cs with
  | nil => simp [dropStart?]
  | cons a start ih =>
    cases cs with
    | nil => simp [dropStart?]
    | cons c cs =>
      by_cases hac : a = c
      · simp [dropStart?, hac, ih]
      · simp [dropStart?, hac, Ne.symm hac]

/-- Items that are kept, against what becomes of each of them. -/
theorem forall₂_filter_filterMap {α β : Type} {p : α → Prop} [DecidablePred p]
    {f : α → Option β} {relation : α → β → Prop} (hdropped : ∀ a, ¬p a → f a = none)
    (hkept : ∀ a, p a → ∃ b, f a = some b ∧ relation a b) (l : List α) :
    List.Forall₂ relation (l.filter p) (l.filterMap f) := by
  induction l with
  | nil => exact .nil
  | cons a l ih =>
    by_cases ha : p a
    · obtain ⟨b, hb, hrelation⟩ := hkept a ha
      simpa [ha, hb] using ⟨hrelation, ih⟩
    · simpa [ha, hdropped a ha] using ih

namespace Document

/-- Every attribute of the document with its element: the elements in document order, and the
attributes of each as they are in the source. -/
def occurrences (d : Document) : List (NodeInfo × Attribute) :=
  d.elements.flatMap fun e => e.info.attributes.map (e.info, ·)

/-- Going through a document by numbers meets the elements among its entries, in order. -/
theorem occurrences_eq (d : Document) :
    d.occurrences = ((d.entries.toList.map (·.info)).filter (·.kind == .element)).flatMap fun n =>
      n.attributes.map (n, ·) := by
  rw [occurrences, elements, List.filter_map, List.flatMap_map]
  rfl

/-- In the document of a forest the elements come as they stand in the source. -/
theorem occurrences_ofForest (ns : List Node) :
    (ofForest ns).occurrences =
      (((Node.preorderAll ns).map (·.info)).filter (·.kind == .element)).flatMap fun n =>
        n.attributes.map (n, ·) := by
  rw [occurrences_eq, toList_entries_ofForest, map_info_entriesOfAll]

end Document

namespace Verdict

/-- A name that is left to others, in any ASCII case: the role, or a data or accessibility attribute
with something behind the hyphen. -/
def Delegated (name : String) : Prop :=
  foldCase name = "role" ∨ ∃ rest, rest ≠ [] ∧
    ((foldCase name).toList = "data-".toList ++ rest ∨
      (foldCase name).toList = "aria-".toList ++ rest)

/-- A text goes on behind a start if something is left of it there. -/
theorem continues_iff (start text : String) :
    continues start text = true ↔ ∃ rest, rest ≠ [] ∧ text.toList = start.toList ++ rest := by
  unfold continues
  split
  next c cs hdrop =>
    exact iff_of_true rfl ⟨c :: cs, List.cons_ne_nil c cs, dropStart?_eq_some_iff.mp hdrop⟩
  next hdrop =>
    refine iff_of_false Bool.false_ne_true ?_
    rintro ⟨rest, hrest, htext⟩
    obtain ⟨c, cs, rfl⟩ := List.exists_cons_of_ne_nil hrest
    exact hdrop c cs (dropStart?_eq_some_iff.mpr htext)

/-- Which names are left to others is decided as the description says. -/
theorem isDelegated_iff (name : String) : isDelegated name = true ↔ Delegated name := by
  simp only [isDelegated, Delegated, Bool.or_eq_true, continues_iff, beq_iff_eq]
  rw [← exists_or, or_comm]
  simp only [and_or_left]

section

variable {l : Locale} {a : Attribute} {custom : Bool} {decl : Option AttributeDecl}

/-- Which attributes in a source file are not valid, and what is said about them. -/
theorem value_ofToken_eq_invalid_iff {fault : Fault} {message : String} :
    (ofToken l a custom decl).value = .invalid fault message ↔
      a.dynamic = false ∧ (custom = false → ¬Delegated a.name) ∧
        (decl = none ∧ fault = .nonExistent ∧
            message = l.expand Message.Phrase.disallowed [a.name] ∨
          ∃ d, decl = some d ∧ fault = .invalidValue ∧
            complaint? l a.name a.value d.type = some message) := by
  have hjudged : (custom = false → ¬Delegated a.name) ↔
      (!custom && isDelegated a.name) = false := by
    rw [← isDelegated_iff]
    cases custom <;> simp
  rw [hjudged, ← value_ofAttribute_eq_invalid_iff, ofToken]
  cases a.dynamic with
  | true => simp
  | false => simp

/-- An attribute in a source file is valid, or it is rejected. -/
theorem ofToken_cases (l : Locale) (a : Attribute) (custom : Bool) (decl : Option AttributeDecl) :
    ofToken l a custom decl = pure .valid ∨
      ∃ fault message, ofToken l a custom decl = reject fault message := by
  unfold ofToken
  split
  · exact .inl rfl
  · exact ofAttribute_cases l a.name a.value custom decl

/-- A value that is complained about in one locale is complained about in every other. -/
theorem exists_wording {name value message : String} {type : ValueType}
    (hcomplaint : complaint? l name value type = some message) :
    ∃ wording : Locale → String, wording l = message ∧
      ∀ l', complaint? l' name value type = some (wording l') := by
  have hsome (l' : Locale) : (complaint? l' name value type).isSome := by
    rw [isSome_complaint? l l' name name, hcomplaint]
    rfl
  exact ⟨fun l' => (complaint? l' name value type).get (hsome l'), by simp [hcomplaint],
    fun l' => by simp⟩

end

end Verdict

namespace SpecTable

/-- The first declaration of a name among others. -/
def IsFirst (decls : List AttributeDecl) (name : String) (decl : AttributeDecl) : Prop :=
  ∃ before after, decls = before ++ decl :: after ∧ decl.name = name ∧
    ∀ other ∈ before, other.name ≠ name

/-- The declaration that counts for an attribute of an element: the first among the element's own,
or, if there is none and the element takes them, the first among the global ones. -/
inductive Declares (t : SpecTable) (element : ElementDecl) (name : String) (decl : AttributeDecl) :
    Prop
  | own (hfirst : IsFirst element.attributes name decl)
  | global (hown : ∀ other ∈ element.attributes, other.name ≠ name)
      (htakes : element.globalAttributes = true) (hfirst : IsFirst t.global name decl)

/-- A search through declarations finds the first of the name. -/
theorem find?_eq_some_iff_isFirst {decls : List AttributeDecl} {name : String}
    {decl : AttributeDecl} :
    decls.find? (·.name == name) = some decl ↔ IsFirst decls name decl := by
  rw [List.find?_eq_some_iff_append, IsFirst]
  constructor
  · rintro ⟨hname, before, after, hdecls, hbefore⟩
    exact ⟨before, after, hdecls, by simpa using hname, by simpa using hbefore⟩
  · rintro ⟨before, after, hdecls, hname, hbefore⟩
    exact ⟨by simpa using hname, before, after, hdecls, by simpa using hbefore⟩

/-- Where there is a first declaration of a name, the name is declared. -/
theorem IsFirst.not_absent {decls : List AttributeDecl} {name : String} {decl : AttributeDecl}
    (hfirst : IsFirst decls name decl) : ¬∀ other ∈ decls, other.name ≠ name := by
  obtain ⟨before, after, rfl, hname, _⟩ := hfirst
  intro habsent
  exact habsent decl (by simp) hname

/-- The table is asked for an attribute by folded names, and answers with the declaration that
counts. -/
theorem attribute?_eq_some_iff {t : SpecTable} {element : ElementDecl} {elementName attr : String}
    {decl : AttributeDecl} (helement : t.elements.lookup (foldCase elementName) = some element) :
    t.attribute? elementName attr = some decl ↔ t.Declares element (foldCase attr) decl := by
  rw [attribute?_eq_bind, element?, helement, Option.bind_some]
  cases hown : element.attributes.find? (·.name == foldCase attr) with
  | some found =>
    have hfirst := find?_eq_some_iff_isFirst.mp hown
    rw [Option.some_or]
    constructor
    · intro hfound
      exact .own (Option.some.inj hfound ▸ hfirst)
    · rintro (hdecl | ⟨habsent, _, _⟩)
      · rw [find?_eq_some_iff_isFirst.mpr hdecl] at hown
        exact hown.symm
      · exact absurd habsent hfirst.not_absent
  | none =>
    have habsent : ∀ other ∈ element.attributes, other.name ≠ foldCase attr := by
      simpa using hown
    rw [Option.none_or]
    split
    next htakes =>
      rw [find?_eq_some_iff_isFirst]
      refine ⟨.global habsent htakes, ?_⟩
      rintro (hdecl | ⟨_, _, hfirst⟩)
      · exact absurd habsent hdecl.not_absent
      · exact hfirst
    next hleaves =>
      refine iff_of_false (Option.some_ne_none decl).symm ?_
      rintro (hdecl | ⟨_, htakes, _⟩)
      · exact hdecl.not_absent habsent
      · exact hleaves htakes

end SpecTable

namespace InvalidAttribute

/-- Whether the rule looks at an attribute: its value is known, and its name starts, letter for
letter, with nothing that is to be left alone. -/
structure Judges (r : InvalidAttribute) (a : Attribute) : Prop where
  static : a.dynamic = false
  unignored : ∀ start ∈ r.ignoredStarts, ¬start.toList <+: a.name.toList

/-- Whether an attribute is judged by the table, and as one of which element: there is no custom
declaration of it, and it is not left to others. -/
structure UsesTable (r : InvalidAttribute) (t : SpecTable) (n : NodeInfo) (a : Attribute)
    (element : ElementDecl) : Prop where
  uncustomized : ∀ decl, (foldCase a.name, decl) ∉ r.custom
  element_eq : t.elements.lookup (foldCase n.name) = some element
  undelegated : ¬Verdict.Delegated a.name

/-- What is wrong with an attribute of an element, where, and in which words of each locale: its
value is not of the type that a custom declaration gives; or the table is used, and has no
declaration of it, or one with a type that the value is not of. -/
inductive Faulty (r : InvalidAttribute) (t : SpecTable) (n : NodeInfo) (a : Attribute) :
    Span → (Locale → String) → Prop
  | custom {decl : AttributeDecl} {wording : Locale → String}
      (hdecl : r.custom.lookup (foldCase a.name) = some decl)
      (hvalue : ∀ l, Verdict.complaint? l a.name a.value decl.type = some (wording l)) :
      Faulty r t n a (a.valueSpan.getD a.nameSpan) wording
  | undeclared {element : ElementDecl} (htable : r.UsesTable t n a element)
      (hnone : ∀ decl, ¬t.Declares element (foldCase a.name) decl) :
      Faulty r t n a a.nameSpan fun l => l.expand Message.Phrase.disallowed [a.name]
  | value {element : ElementDecl} {decl : AttributeDecl} {wording : Locale → String}
      (htable : r.UsesTable t n a element) (hdecl : t.Declares element (foldCase a.name) decl)
      (hvalue : ∀ l, Verdict.complaint? l a.name a.value decl.type = some (wording l)) :
      Faulty r t n a (a.valueSpan.getD a.nameSpan) wording

/-- The rule has something to say about an attribute of an element, at a place. -/
def Rejects (r : InvalidAttribute) (t : SpecTable) (n : NodeInfo) (a : Attribute) (span : Span)
    (wording : Locale → String) : Prop :=
  r.Judges a ∧ r.Faulty t n a span wording

/-- Where an attribute with a fault is reported. -/
def faultSpan (a : Attribute) : Fault → Span
  | .nonExistent => a.nameSpan
  | .invalidValue => a.valueOrNameSpan

/-- The report on an attribute, if there is one, without a check on its words. -/
def report? (r : InvalidAttribute) (specs : SpecLookup) (l : Locale) (n : NodeInfo)
    (a : Attribute) : Option Report :=
  (r.attributeReport specs l n a).value.head?

section

variable {r : InvalidAttribute} {t : SpecTable} {l : Locale} {n : NodeInfo} {a : Attribute}

/-- An attribute is looked at unless its name starts as one that is to be left alone. -/
theorem isIgnored_eq_false_iff :
    r.isIgnored a.name = false ↔ ∀ start ∈ r.ignoredStarts, ¬start.toList <+: a.name.toList := by
  rw [isIgnored, List.any_eq_false]
  refine forall₂_congr fun start _ => not_congr ?_
  rw [Option.isSome_iff_exists, List.IsPrefix]
  exact exists_congr fun rest => dropStart?_eq_some_iff.trans eq_comm

/-- Apart from the check on its words, the rule makes the report there is. -/
theorem value_attributeReport (r : InvalidAttribute) (specs : SpecLookup) (l : Locale)
    (n : NodeInfo) (a : Attribute) :
    (r.attributeReport specs l n a).value = (r.report? specs l n a).toList := by
  unfold report? attributeReport
  split
  · rfl
  · rw [Guarded.value_map]
    match (r.verdict specs l n a).value with
    | .valid => rfl
    | .invalid .nonExistent message => rfl
    | .invalid .invalidValue message => rfl

/-- There is a report on an attribute that is looked at, known and not valid, and the verdict makes
its words. -/
theorem report?_eq_some_iff {report : Report} :
    r.report? t.lookup l n a = some report ↔
      r.isIgnored a.name = false ∧ r.isUnknown t.lookup n a = false ∧
        ∃ fault message, (r.verdict t.lookup l n a).value = .invalid fault message ∧
          report = { span := faultSpan a fault, message } := by
  rw [report?, attributeReport]
  cases r.isIgnored a.name with
  | true => simp
  | false =>
    cases r.isUnknown t.lookup n a with
    | true => simp
    | false =>
      simp only [Bool.or_self, Bool.false_eq_true, if_false, Guarded.value_map]
      cases (r.verdict t.lookup l n a).value with
      | valid => simp [reportOf]
      | invalid fault message =>
        cases fault with
        | nonExistent => simp [reportOf, faultSpan, eq_comm]
        | invalidValue => simp [reportOf, faultSpan, eq_comm]

/-- No custom declaration is found if there is none under the folded name. -/
theorem custom?_eq_none_iff :
    r.custom? a.name = none ↔ ∀ decl, (foldCase a.name, decl) ∉ r.custom := by
  rw [custom?, List.lookup_eq_none_iff]
  constructor
  · intro habsent decl hmem
    simpa using habsent _ hmem
  · rintro habsent ⟨key, decl⟩ hmem
    refine bne_iff_ne.mpr ?_
    rintro rfl
    exact habsent decl hmem

namespace UsesTable

variable {element : ElementDecl}

/-- An attribute that is judged by the table belongs to an element of the table. -/
theorem isUnknown_eq_false (htable : r.UsesTable t n a element) :
    r.isUnknown t.lookup n a = false := by
  have hknown : t.lookup.hasElement n.name = true := by
    change (t.elements.lookup (foldCase n.name)).isSome = true
    rw [htable.element_eq]
    rfl
  rw [isUnknown, hknown]
  rfl

/-- Without a custom declaration the verdict is that on the declaration of the table. -/
theorem verdict_eq (htable : r.UsesTable t n a element) :
    r.verdict t.lookup l n a = Verdict.ofToken l a false (t.attribute? n.name a.name) := by
  rw [verdict, custom?_eq_none_iff.mpr htable.uncustomized]
  rfl

/-- By the table, a static attribute is not valid if it is not declared, or if its value is
complained about. -/
theorem value_verdict_eq_invalid_iff (htable : r.UsesTable t n a element) {fault : Fault}
    {message : String} :
    (r.verdict t.lookup l n a).value = .invalid fault message ↔
      a.dynamic = false ∧
        ((∀ decl, ¬t.Declares element (foldCase a.name) decl) ∧ fault = .nonExistent ∧
            message = l.expand Message.Phrase.disallowed [a.name] ∨
          ∃ decl, t.Declares element (foldCase a.name) decl ∧ fault = .invalidValue ∧
            Verdict.complaint? l a.name a.value decl.type = some message) := by
  have hdeclares : ∀ decl, t.attribute? n.name a.name = some decl ↔
      t.Declares element (foldCase a.name) decl :=
    fun decl => SpecTable.attribute?_eq_some_iff htable.element_eq
  have hundeclared : t.attribute? n.name a.name = none ↔
      ∀ decl, ¬t.Declares element (foldCase a.name) decl := by
    simp only [Option.eq_none_iff_forall_ne_some, ← hdeclares, ne_eq]
  rw [htable.verdict_eq, Verdict.value_ofToken_eq_invalid_iff, hundeclared]
  simp only [hdeclares, htable.undelegated, not_false_eq_true, implies_true, true_and]

end UsesTable

/-- An attribute that is neither customised nor left to others, and whose element is known, is
judged by the table. -/
theorem exists_usesTable (hcustom : r.custom? a.name = none)
    (hknown : r.isUnknown t.lookup n a = false) (hundelegated : ¬Verdict.Delegated a.name) :
    ∃ element, r.UsesTable t n a element := by
  have hhas : t.lookup.hasElement n.name = true := by
    simpa [isUnknown, hcustom] using hknown
  obtain ⟨element, helement⟩ := Option.isSome_iff_exists.mp hhas
  exact ⟨element, custom?_eq_none_iff.mp hcustom, helement, hundelegated⟩

/-- What the rule reports on an attribute is what the description says. -/
theorem report?_eq_some_iff_rejects {report : Report} :
    r.report? t.lookup l n a = some report ↔
      ∃ span wording, r.Rejects t n a span wording ∧
        report = { span, message := wording l } := by
  rw [report?_eq_some_iff]
  constructor
  · rintro ⟨hignored, hknown, fault, message, hverdict, rfl⟩
    have hunignored := isIgnored_eq_false_iff.mp hignored
    cases hcustom : r.custom? a.name with
    | some decl =>
      rw [verdict, hcustom, Verdict.value_ofToken_eq_invalid_iff] at hverdict
      obtain ⟨hstatic, _, ⟨hnone, _⟩ | ⟨_, hdecl, rfl, hvalue⟩⟩ := hverdict
      · cases hnone
      · cases hdecl
        obtain ⟨wording, rfl, hwording⟩ := Verdict.exists_wording hvalue
        exact ⟨_, wording, ⟨⟨hstatic, hunignored⟩, .custom hcustom hwording⟩, rfl⟩
    | none =>
      have hundelegated : ¬Verdict.Delegated a.name := by
        rw [verdict, hcustom, Verdict.value_ofToken_eq_invalid_iff] at hverdict
        exact hverdict.2.1 rfl
      obtain ⟨element, htable⟩ := exists_usesTable hcustom hknown hundelegated
      obtain ⟨hstatic, ⟨hnone, rfl, hmessage⟩ | ⟨decl, hdecl, rfl, hvalue⟩⟩ :=
        htable.value_verdict_eq_invalid_iff.mp hverdict
      · exact ⟨_, _, ⟨⟨hstatic, hunignored⟩, .undeclared htable hnone⟩, by rw [hmessage]; rfl⟩
      · obtain ⟨wording, rfl, hwording⟩ := Verdict.exists_wording hvalue
        exact ⟨_, wording, ⟨⟨hstatic, hunignored⟩, .value htable hdecl hwording⟩, rfl⟩
  · rintro ⟨span, wording, ⟨⟨hstatic, hunignored⟩, hfaulty⟩, rfl⟩
    refine ⟨isIgnored_eq_false_iff.mpr hunignored, ?_⟩
    cases hfaulty with
    | @custom decl _ hdecl hvalue =>
      have hcustom : r.custom? a.name = some decl := hdecl
      refine ⟨by simp [isUnknown, hcustom], .invalidValue, wording l, ?_, rfl⟩
      rw [verdict, hcustom, Verdict.value_ofToken_eq_invalid_iff]
      exact ⟨hstatic, by simp, .inr ⟨decl, rfl, rfl, hvalue l⟩⟩
    | undeclared htable hnone =>
      refine ⟨htable.isUnknown_eq_false, .nonExistent, _, ?_, rfl⟩
      exact htable.value_verdict_eq_invalid_iff.mpr ⟨hstatic, .inl ⟨hnone, rfl, rfl⟩⟩
    | value htable hdecl hvalue =>
      refine ⟨htable.isUnknown_eq_false, .invalidValue, wording l, ?_, rfl⟩
      exact htable.value_verdict_eq_invalid_iff.mpr ⟨hstatic, .inr ⟨_, hdecl, rfl, hvalue l⟩⟩

end

/-- An attribute of an element that the rule has something to say about. -/
def Rejected (r : InvalidAttribute) (t : SpecTable) (n : NodeInfo) (a : Attribute) : Prop :=
  ∃ span wording, r.Rejects t n a span wording

/-- Whether there is a report does not depend on the locale. -/
theorem isSome_report?_iff (r : InvalidAttribute) (t : SpecTable) (l : Locale) (n : NodeInfo)
    (a : Attribute) : (r.report? t.lookup l n a).isSome = true ↔ r.Rejected t n a := by
  rw [Option.isSome_iff_exists]
  simp only [report?_eq_some_iff_rejects, Rejected]
  constructor
  · rintro ⟨_, span, wording, hrejects, _⟩
    exact ⟨span, wording, hrejects⟩
  · rintro ⟨span, wording, hrejects⟩
    exact ⟨_, span, wording, hrejects, rfl⟩

/-- Whether an attribute is rejected can be told in any locale. -/
instance (r : InvalidAttribute) (t : SpecTable) (n : NodeInfo) (a : Attribute) :
    Decidable (r.Rejected t n a) :=
  decidable_of_iff _ (r.isSome_report?_iff t .english n a)

/-- What the rule reports of a document are the reports on its attributes, in order. -/
theorem value_inspect_check (r : InvalidAttribute) (t : SpecTable) (l : Locale) (d : Document) :
    (inspect (r.check t.lookup l) d).value =
      d.occurrences.filterMap fun o => r.report? t.lookup l o.1 o.2 := by
  rw [value_inspect, findings, Document.occurrences, List.filterMap_flatMap]
  refine List.flatMap_congr fun e _ => ?_
  rw [check, Guarded.value_collect, List.filterMap_map, List.filterMap_eq_flatMap_toList]
  simp only [value_attributeReport, Function.comp_def]

/-- Whether one of some reports has no words. -/
def silent (reports : List Report) : Bool :=
  reports.any (·.message == "")

/-- Reports are stopped exactly if one of them has no words. -/
def StopsIfSilent (x : Guarded (List Report)) : Prop :=
  x.defect? = if silent x.value then some .emptyMessage else none

theorem stopsIfSilent_nil : StopsIfSilent (pure []) :=
  rfl

/-- Two parts one after the other have no words if one of them has none. -/
theorem StopsIfSilent.append {x y : Guarded (List Report)} (hx : StopsIfSilent x)
    (hy : StopsIfSilent y) : StopsIfSilent (x ++ y) := by
  have hsilent : silent (x.value ++ y.value) = (silent x.value || silent y.value) :=
    List.any_append
  unfold StopsIfSilent at hx hy ⊢
  rw [Guarded.defect?_append, hx, hy, Guarded.value_append, hsilent]
  cases silent x.value with
  | true => rfl
  | false => simp

theorem stopsIfSilent_collect {α : Type} {f : α → Guarded (List Report)}
    (hf : ∀ a, StopsIfSilent (f a)) (as : List α) : StopsIfSilent (Guarded.collect f as) := by
  induction as with
  | nil => exact stopsIfSilent_nil
  | cons a rest ih => exact (hf a).append ih

/-- The check on a report looks at its words and at nothing else. -/
theorem stopsIfSilent_attributeReport (r : InvalidAttribute) (specs : SpecLookup) (l : Locale)
    (n : NodeInfo) (a : Attribute) : StopsIfSilent (r.attributeReport specs l n a) := by
  have hverdict : r.verdict specs l n a = pure .valid ∨
      ∃ fault message, r.verdict specs l n a = Verdict.reject fault message := by
    unfold verdict
    split
    · exact Verdict.ofToken_cases ..
    · exact Verdict.ofToken_cases ..
  unfold attributeReport
  split
  · exact stopsIfSilent_nil
  · rcases hverdict with hvalid | ⟨fault, message, hreject⟩
    · rw [hvalid]
      exact stopsIfSilent_nil
    · rw [hreject, StopsIfSilent, Guarded.defect?_map, Verdict.defect?_reject, Guarded.value_map,
        Verdict.value_reject]
      cases fault with
      | nonExistent => simp [reportOf, silent]
      | invalidValue => simp [reportOf, silent]

/-- A document is stopped at exactly if one of the reports on it has no words. -/
theorem stopsIfSilent_inspect (r : InvalidAttribute) (specs : SpecLookup) (l : Locale)
    (d : Document) : StopsIfSilent (inspect (r.check specs l) d) := by
  refine stopsIfSilent_collect (fun e => ?_) d.elements
  exact stopsIfSilent_collect (r.stopsIfSilent_attributeReport specs l e.info) e.info.attributes

/-- The rule reports exactly the rejected attributes. There is one report for each of them, element
by element in document order and in source order within an element, at the place and in the words
that the description of rejected attributes gives. Only a report without words stops the rule. -/
theorem reports_match_rejected (r : InvalidAttribute) (t : SpecTable) (l : Locale) :
    (∀ d : Document, ∃ reports,
      r.rule.run t.lookup l d =
        { value := .ok reports
          defect? := if silent reports then some .emptyMessage else none } ∧
      List.Forall₂ (fun o report => ∃ span wording, r.Rejects t o.1 o.2 span wording ∧
          report = { span, message := wording l })
        (d.occurrences.filter fun o => r.Rejected t o.1 o.2) reports) ∧
    ∀ ns, (Document.ofForest ns).occurrences =
      (((Node.preorderAll ns).map (·.info)).filter (·.kind == .element)).flatMap fun n =>
        n.attributes.map (n, ·) := by
  refine ⟨fun d => ⟨(inspect (r.check t.lookup l) d).value, ?_, ?_⟩, Document.occurrences_ofForest⟩
  · exact Guarded.ext rfl ((Guarded.defect?_map _ _).trans (r.stopsIfSilent_inspect t.lookup l d))
  · rw [value_inspect_check]
    refine forall₂_filter_filterMap ?_ ?_ d.occurrences
    · intro o hnot
      rw [← r.isSome_report?_iff t l] at hnot
      simpa using hnot
    · rintro o ⟨span, wording, hrejects⟩
      exact ⟨_, report?_eq_some_iff_rejects.mpr ⟨span, wording, hrejects, rfl⟩, span, wording,
        hrejects, rfl⟩

-- A custom declaration counts for a name that is otherwise left to others, and on an element that
-- the table does not have; a start to leave alone is taken letter for letter.
example :
    let t : SpecTable :=
      { elements := [("p", { attributes := [⟨"id", .named .integer, none, false⟩] })] }
    let r : InvalidAttribute :=
      { custom := [("data-n", ⟨"data-n", .named .integer, none, false⟩)], ignoredStarts := ["x-"] }
    let attributes := [Attribute.written "Data-N" "one", .written "data-m" "two",
      .written "ID" "three", .written "x-y" "four", .written "X-y" "five"]
    let d : Document := .ofForest
      [.mk { kind := .element, name := "q", attributes } [],
        .mk { kind := .element, name := "P", attributes } []]
    (r.rule.run t.lookup .english d).value.toOption.map (·.map (·.span.raw)) =
      some ["one", "one", "three", "X-y"] := by
  decide +kernel

end InvalidAttribute

end MarkupAudit
