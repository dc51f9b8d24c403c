import Mathlib.Data.List.TakeWhile
import MarkupAudit.Proofs.Document.Text
import MarkupAudit.Proofs.Rule.Compositional
import MarkupAudit.Proofs.Text.Lowercase

namespace MarkupAudit

namespace Text

/-- A value that says true: the word in any ASCII case, with nothing but white space around it. -/
def SaysTrue (value : String) : Prop :=
  ∃ before word after, value.toList = before ++ word ++ after ∧
    (∀ c ∈ before, isWhiteSpace c = true) ∧ (∀ c ∈ after, isWhiteSpace c = true) ∧
    word.map Char.toLower = "true".toList

theorem isWhiteSpace_of_isAlpha {c : Char} (halpha : c.isAlpha = true) :
    isWhiteSpace c = false := by
  have hlow : 65 ≤ c.toNat := by
    rcases Bool.or_eq_true_iff.mp halpha with hupper | hlower
    · exact UInt32.le_iff_toNat_le.mp (of_decide_eq_true hupper).1
    · have hle : 97 ≤ c.toNat :=
        UInt32.le_iff_toNat_le.mp (of_decide_eq_true (Bool.and_eq_true_iff.mp hlower).1)
      omega
  have hhigh := toNat_lt_of_isAlpha halpha
  simp only [isWhiteSpace, Bool.or_eq_false_iff, Bool.and_eq_false_iff, decide_eq_false_iff_not,
    beq_eq_false_iff_ne]
  omega

/-- White space has no case. -/
theorem isWhiteSpace_toLower (c : Char) : isWhiteSpace c.toLower = isWhiteSpace c :=
  apply_toLower (fun _ halpha hlower => by
    rw [isWhiteSpace_of_isAlpha halpha, isWhiteSpace_of_isAlpha hlower]) c

/-- Trimming takes white space off the two ends. -/
theorem exists_toList_eq_trim (s : String) :
    ∃ before after, s.toList = before ++ (trim s).toList ++ after ∧
      (∀ c ∈ before, isWhiteSpace c = true) ∧ ∀ c ∈ after, isWhiteSpace c = true := by
  let rest := s.toList.dropWhile isWhiteSpace
  refine ⟨s.toList.takeWhile isWhiteSpace, (rest.reverse.takeWhile isWhiteSpace).reverse,
    ?_, ?_, ?_⟩
  · rw [trim, String.toList_ofList, List.append_assoc, ← List.reverse_append,
      List.takeWhile_append_dropWhile, List.reverse_reverse, List.takeWhile_append_dropWhile]
  · exact fun c hc => List.mem_takeWhile_imp hc
  · exact fun c hc => List.mem_takeWhile_imp (List.mem_reverse.mp hc)

/-- Trimming stops at what is no white space. -/
theorem toList_trim {s : String} {before word after : List Char}
    (hs : s.toList = before ++ word ++ after) (hword : word ≠ [])
    (hbefore : ∀ c ∈ before, isWhiteSpace c = true)
    (hafter : ∀ c ∈ after, isWhiteSpace c = true)
    (hblack : ∀ c ∈ word, isWhiteSpace c = false) : (trim s).toList = word := by
  have hstart : s.toList.dropWhile isWhiteSpace = word ++ after := by
    obtain ⟨c, rest, rfl⟩ := List.exists_cons_of_ne_nil hword
    rw [hs, List.append_assoc, List.dropWhile_append_of_pos hbefore, List.cons_append,
      List.dropWhile_cons_of_neg (by simp [hblack])]
  have hend : word.reverse.dropWhile isWhiteSpace = word.reverse := by
    refine List.dropWhile_eq_self_iff.mpr fun hlength => ?_
    rw [hblack _ (List.mem_reverse.mp (List.getElem_mem hlength))]
    exact Bool.false_ne_true
  rw [trim, String.toList_ofList, hstart, List.reverse_append,
    List.dropWhile_append_of_pos (by simpa using hafter), hend, List.reverse_reverse]

/-- A value says that something is true, in any case and with blanks around it. -/
theorem sameName_trim_iff (value : String) :
    sameName (trim value) "true" = true ↔ SaysTrue value := by
  rw [sameName, beq_iff_eq, ← String.toList_inj, toList_foldCase, toList_foldCase]
  constructor
  · intro hword
    obtain ⟨before, after, hvalue, hbefore, hafter⟩ := exists_toList_eq_trim value
    exact ⟨before, _, after, hvalue, hbefore, hafter, hword⟩
  · rintro ⟨before, word, after, hvalue, hbefore, hafter, hword⟩
    have hblack : ∀ c ∈ word, isWhiteSpace c = false := by
      intro c hc
      have hmem : c.toLower ∈ "true".toList := hword ▸ List.mem_map_of_mem hc
      rw [← isWhiteSpace_toLower]
      have hletters : ∀ d ∈ "true".toList, isWhiteSpace d = false := by simp [isWhiteSpace]
      exact hletters _ hmem
    have hne : word ≠ [] := by
      rintro rfl
      cases hword
    rw [toList_trim hvalue hne hbefore hafter hblack, hword]
    rfl

end Text

open Text

namespace NodeInfo

/-- The value of the first attribute of a name, up to ASCII case. -/
def FirstValue (n : NodeInfo) (name value : String) : Prop :=
  ∃ before a after, n.attributes = before ++ a :: after ∧ sameName a.name name = true ∧
    a.value = value ∧ ∀ b ∈ before, sameName b.name name = false

/-- A node that shows nothing by itself: a comment, a document type, or a text of white space. -/
def IsBlank (n : NodeInfo) : Prop :=
  n.kind = .comment ∨ n.kind = .doctype ∨
    n.kind = .text ∧ ∀ c ∈ n.value.toList, Text.isWhiteSpace c = true

section

variable {n : NodeInfo} {name value : String}

/-- A lookup answers with the first value under the name. -/
theorem attribute?_eq_some_iff : n.attribute? name = some value ↔ n.FirstValue name value := by
  simp only [attribute?, Option.map_eq_some_iff, List.find?_eq_some_iff_append, FirstValue,
    Attribute.hasName, Bool.not_eq_true']
  constructor
  · rintro ⟨a, ⟨hname, before, after, hattributes, hbefore⟩, hvalue⟩
    exact ⟨before, a, after, hattributes, hname, hvalue, hbefore⟩
  · rintro ⟨before, a, after, hattributes, hname, hvalue, hbefore⟩
    exact ⟨a, ⟨hname, before, after, hattributes, hbefore⟩, hvalue⟩

theorem hasAttribute_eq_false_iff :
    n.hasAttribute name = false ↔ ∀ a ∈ n.attributes, sameName a.name name = false := by
  rw [hasAttribute, attribute?, Option.isSome_map, Option.isSome_eq_false_iff,
    Option.isNone_iff_eq_none, List.find?_eq_none]
  simp only [Attribute.hasName, Bool.not_eq_true]

end

end NodeInfo

namespace EmptyContent

/-- A tree that the rule reports at its root. -/
structure Reports (r : EmptyContent) (t : Node) : Prop where
  isElement : t.info.kind = .element
  isPalpable : foldCase t.info.name ∈ palpableElements ∨
    r.exposable = true ∧ foldCase t.info.name ∈ exposableElements
  isShown : ∀ a ∈ t.info.attributes, sameName a.name "hidden" = false
  isExposed : ∀ value, t.info.FirstValue "aria-hidden" value → ¬SaysTrue value
  isLoaded : r.busyExempt = true →
    ∀ value, t.info.FirstValue "aria-busy" value → ¬SaysTrue value
  isBlank : ∀ child ∈ t.children, child.info.IsBlank

/-- Only the first attribute of a name can say that something is true. -/
theorem isTrue_eq_false_iff (n : NodeInfo) (attr : String) :
    isTrue n attr = false ↔ ∀ value, n.FirstValue attr value → ¬SaysTrue value := by
  simp only [← NodeInfo.attribute?_eq_some_iff, ← sameName_trim_iff, isTrue]
  cases n.attribute? attr with
  | none => simp
  | some value => simp

/-- Which elements are not exempt, by their attributes. -/
theorem isExempt_eq_false_iff (r : EmptyContent) (n : NodeInfo) :
    r.isExempt n = false ↔
      (∀ a ∈ n.attributes, sameName a.name "hidden" = false) ∧
      (∀ value, n.FirstValue "aria-hidden" value → ¬SaysTrue value) ∧
      (r.busyExempt = true → ∀ value, n.FirstValue "aria-busy" value → ¬SaysTrue value) := by
  rw [isExempt, Bool.or_eq_false_iff, Bool.or_eq_false_iff, NodeInfo.hasAttribute_eq_false_iff,
    isTrue_eq_false_iff, and_assoc]
  refine and_congr_right fun _ => and_congr_right fun _ => ?_
  rw [← isTrue_eq_false_iff]
  cases r.busyExempt with
  | true => simp
  | false => simp

/-- A child that is no content is blank. -/
theorem isContent_eq_false_iff (n : NodeInfo) : isContent n = false ↔ n.IsBlank := by
  unfold isContent NodeInfo.IsBlank NodeInfo.isWhiteSpace
  cases n.kind with
  | element => simp
  | text => simp
  | comment => simp
  | doctype => simp

/-- Which elements have palpable content, by their names. -/
theorem isPalpable_iff (r : EmptyContent) (n : NodeInfo) :
    r.isPalpable n = true ↔ foldCase n.name ∈ palpableElements ∨
      r.exposable = true ∧ foldCase n.name ∈ exposableElements := by
  simp only [isPalpable, Bool.or_eq_true, Bool.and_eq_true, List.contains_iff_mem]

/-- The description puts together what the rule asks one after the other. -/
theorem reports_iff (r : EmptyContent) (t : Node) :
    r.Reports t ↔ t.info.kind = .element ∧ r.isPalpable t.info = true ∧
      r.isExempt t.info = false ∧ (t.children.map (·.info)).any isContent = false := by
  have hcontent : (t.children.map (·.info)).any isContent = false ↔
      ∀ child ∈ t.children, child.info.IsBlank := by
    simp only [List.any_eq_false, List.forall_mem_map, Bool.not_eq_true, isContent_eq_false_iff]
  rw [isPalpable_iff, isExempt_eq_false_iff, hcontent]
  constructor
  · rintro ⟨hkind, hpalpable, hshown, hexposed, hloaded, hblank⟩
    exact ⟨hkind, hpalpable, ⟨hshown, hexposed, hloaded⟩, hblank⟩
  · rintro ⟨hkind, hpalpable, ⟨hshown, hexposed, hloaded⟩, hblank⟩
    exact ⟨hkind, hpalpable, hshown, hexposed, hloaded, hblank⟩

instance (r : EmptyContent) : DecidablePred r.Reports := fun t =>
  decidable_of_iff _ (r.reports_iff t).symm

/-- The report on a tree. -/
def report (l : Locale) (t : Node) : Report where
  span := t.info.span
  message := l.expand Message.Phrase.require ["content"]

/-- At the root of a tree the rule reports what the description says. -/
theorem check_root (r : EmptyContent) (l : Locale) (t : Node) :
    (if t.info.kind == .element then r.check l t.info (t.children.map (·.info)) else []) =
      if r.Reports t then [report l t] else [] := by
  simp only [reports_iff, check, beq_iff_eq]
  by_cases hkind : t.info.kind = .element
  · cases r.isPalpable t.info with
    | false => simp
    | true =>
      cases r.isExempt t.info with
      | true => simp
      | false =>
        cases (t.children.map (·.info)).any isContent with
        | true => simp
        | false => simp [hkind, report]
  · simp [hkind]

/-- The rule finds the trees that fit the description, in document order. -/
theorem findings_check (r : EmptyContent) (l : Locale) (ns : List Node) :
    findings (r.check l) (.ofForest ns) =
      ((Node.preorderAll ns).filter fun t => r.Reports t).map (report l) := by
  rw [findings_ofForest]
  induction Node.preorderAll ns with
  | nil => rfl
  | cons t rest ih =>
    rw [List.flatMap_cons, ih, check_root, List.filter_cons]
    by_cases hreports : r.Reports t
    · simp [hreports]
    · simp [hreports]

/-- A blank child shows nothing but white space. -/
theorem visibleText_of_isBlank {child : Node} (hblank : child.info.IsBlank) :
    ∀ c ∈ child.visibleText.toList, Text.isWhiteSpace c = true := by
  rcases hblank with hkind | hkind | ⟨hkind, hvalue⟩
  · rw [Node.visibleText_of_comment hkind]
    simp
  · rw [Node.visibleText_of_doctype hkind]
    simp
  · rw [Node.visibleText_of_text hkind]
    exact hvalue

/-- What is reported shows nothing, at any depth. -/
theorem Reports.visibleText {r : EmptyContent} {t : Node} (hreports : r.Reports t) :
    ∀ c ∈ t.visibleText.toList, Text.isWhiteSpace c = true := by
  rw [Node.visibleText_of_element hreports.isElement, String.toList_join]
  intro c hc
  obtain ⟨text, htext, hc⟩ := List.mem_flatMap.mp hc
  obtain ⟨child, hchild, rfl⟩ := List.mem_map.mp htext
  exact visibleText_of_isBlank (hreports.isBlank child hchild) c hc

/-- An element that is reported has no elements among its children. -/
theorem Reports.kind_ne_element {r : EmptyContent} {t child : Node} (hreports : r.Reports t)
    (hchild : child ∈ t.children) : child.info.kind ≠ .element := by
  intro hkind
  rcases hreports.isBlank child hchild with hother | hother | ⟨hother, _⟩
  all_goals
    rw [hkind] at hother
    cases hother

/-- The rule reports, in document order and each at its own place, the trees that fit the
description and no others, whatever its options and the path of the document are. What is reported
shows nothing but white space, at any depth, and has no element among its children. -/
theorem reports_match_empty (r : EmptyContent) (specs : SpecLookup) (locale : Locale)
    (ns : List Node) (path : Option String) :
    (r.rule.run specs locale { Document.ofForest ns with path } =
      pure (.ok (((Node.preorderAll ns).filter fun t => r.Reports t).map fun t =>
        { span := t.info.span
          message := locale.expand Message.Phrase.require ["content"] }))) ∧
    (∀ id t, (Node.preorderAll ns)[id]? = some t → r.Reports t →
      ∀ c ∈ (({ Document.ofForest ns with path } : Document).textContent id).toList,
        Text.isWhiteSpace c = true) ∧
    ∀ t ∈ Node.preorderAll ns, (∃ child ∈ t.children, child.info.kind = .element) →
      ¬r.Reports t := by
  refine ⟨?_, ?_, ?_⟩
  · have hfindings : findings (r.check locale) { Document.ofForest ns with path } =
        ((Node.preorderAll ns).filter fun t => r.Reports t).map (report locale) :=
      r.findings_check locale ns
    rw [run_rule, hfindings]
    rfl
  · intro id t hget hreports
    have hentries : ({ Document.ofForest ns with path } : Document).entries.toList =
        entriesOfAll none 0 ns := Document.toList_entries_ofForest ns
    rw [Document.textContent_eq hentries hget]
    exact hreports.visibleText
  · rintro t _ ⟨child, hchild, hkind⟩ hreports
    exact hreports.kind_ne_element hchild hkind

end EmptyContent

end MarkupAudit
