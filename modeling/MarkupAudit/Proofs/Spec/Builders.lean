import MarkupAudit.Proofs.Dictionary
import MarkupAudit.Proofs.Linter.NameCase

namespace MarkupAudit.SpecTable

open Text

/-- What a table is built from. -/
inductive Declaration where
  | global (decl : AttributeDecl)
  | element (name : String) (decl : ElementDecl)
  deriving DecidableEq

namespace Declaration

/-- The attributes that are declared. -/
def attributes : Declaration → List AttributeDecl
  | .global decl => [decl]
  | .element _ decl => decl.attributes

/-- The attribute, if it is declared for all elements. -/
def global? : Declaration → Option AttributeDecl
  | .global decl => some decl
  | .element _ _ => none

/-- The element, if it is one of the given names. -/
def element? (named : String → Bool) : Declaration → Option ElementDecl
  | .global _ => none
  | .element name decl => if named name then some decl else none

/-- Whether the declaration is of an element of the name, up to ASCII case, or of no element. -/
def concerns (name : String) : Declaration → Bool
  | .global _ => true
  | .element other _ => sameName other name

end Declaration

/-- The table with one more declaration. -/
def declare (t : SpecTable) : Declaration → SpecTable
  | .global decl => t.withGlobal decl
  | .element name decl => t.withElement name decl

/-- The table of some declarations, made one after the other. -/
def ofDeclarations (ds : List Declaration) : SpecTable :=
  ds.foldl declare {}

/-- The global attributes, in the order of their declarations. -/
def globals (ds : List Declaration) : List AttributeDecl :=
  ds.filterMap Declaration.global?

/-- The last declaration of an element of the given names. -/
def lastElement? (ds : List Declaration) (named : String → Bool) : Option ElementDecl :=
  (ds.filterMap (Declaration.element? named)).getLast?

/-- The first attribute of a name, up to ASCII case, among those of an element; else the first among
the global ones, if the element takes them. -/
def declared? (global : List AttributeDecl) (element : ElementDecl) (attr : String) :
    Option AttributeDecl :=
  (element.attributes.find? fun decl => sameName decl.name attr).or
    (if element.globalAttributes then global.find? fun decl => sameName decl.name attr else none)

/-- The table answers about an element by the last declaration of it in any ASCII case. -/
structure AnswersByLast (ds : List Declaration) (element : String) : Prop where
  hasElement_iff : (ofDeclarations ds).hasElement element = true ↔
    ∃ name decl, .element name decl ∈ ds ∧ sameName name element = true
  attribute?_eq : ∀ attr, (ofDeclarations ds).attribute? element attr =
    (lastElement? ds (sameName · element)).bind (declared? (globals ds) · attr)

/-- A further declaration is made on top of the others. -/
theorem ofDeclarations_append_singleton (ds : List Declaration) (d : Declaration) :
    ofDeclarations (ds ++ [d]) = (ofDeclarations ds).declare d := by
  rw [ofDeclarations, List.foldl_append]
  rfl

/-- A further declaration of the name is the last one. -/
theorem lastElement?_append_singleton (ds : List Declaration) (d : Declaration)
    (named : String → Bool) :
    lastElement? (ds ++ [d]) named = (d.element? named).or (lastElement? ds named) := by
  rw [lastElement?, List.filterMap_append, List.getLast?_append, lastElement?]
  cases hd : d.element? named with
  | none => simp [hd]
  | some decl => simp [hd]

/-- A declaration takes the place of those under the same name, and of no others. -/
theorem lookup_withElement (t : SpecTable) (name key : String) (decl : ElementDecl) :
    (t.withElement name decl).elements.lookup key =
      if name == key then some decl else t.elements.lookup key := by
  rw [withElement, List.lookup_append, List.lookup_cons, List.lookup_nil]
  by_cases hkey : name = key
  · subst hkey
    have hgone : (t.elements.filter (·.1 != name)).lookup name = none := by
      rw [List.lookup_eq_none_iff]
      intro entry hentry
      rw [bne_comm]
      exact (List.mem_filter.mp hentry).2
    rw [hgone, beq_self_eq_true, Option.none_or]
    rfl
  · have hother : (key == name) = false := beq_eq_false_iff_ne.mpr (Ne.symm hkey)
    rw [lookup_filter_of_ne (Ne.symm hkey), hother, if_neg (by simpa using hkey), Option.or_none]

/-- Global attributes are kept in the order in which they are declared. -/
theorem global_ofDeclarations (ds : List Declaration) :
    (ofDeclarations ds).global = globals ds := by
  induction ds using List.reverseRecOn with
  | nil => rfl
  | append_singleton ds d ih =>
    rw [ofDeclarations_append_singleton, globals, List.filterMap_append, ← globals, ← ih]
    cases d with
    | global decl => rfl
    | element name decl => exact (List.append_nil _).symm

/-- A key is taken by the last declaration under it, letter for letter. -/
theorem lookup_ofDeclarations (ds : List Declaration) (key : String) :
    (ofDeclarations ds).elements.lookup key = lastElement? ds (· == key) := by
  induction ds using List.reverseRecOn with
  | nil => rfl
  | append_singleton ds d ih =>
    rw [ofDeclarations_append_singleton, lastElement?_append_singleton, ← ih]
    cases d with
    | global decl => rfl
    | element name decl =>
      rw [declare, lookup_withElement, Declaration.element?]
      split
      · rfl
      · rfl

/-- The table answers with the last declaration under the folded name, written just so. -/
theorem element?_ofDeclarations (ds : List Declaration) (element : String) :
    (ofDeclarations ds).element? element = lastElement? ds (· == foldCase element) :=
  lookup_ofDeclarations ds (foldCase element)

section

variable {ds : List Declaration} {named : String → Bool}

/-- A last declaration is one of the declarations. -/
theorem exists_mem_of_lastElement? {decl : ElementDecl}
    (hlast : lastElement? ds named = some decl) :
    ∃ name, .element name decl ∈ ds ∧ named name = true := by
  obtain ⟨d, hd, hdecl⟩ := List.mem_filterMap.mp (List.mem_of_getLast? hlast)
  cases d with
  | global other => cases hdecl
  | element name other =>
    rw [Declaration.element?] at hdecl
    split at hdecl
    next hnamed =>
      cases hdecl
      exact ⟨name, hd, hnamed⟩
    next => cases hdecl

/-- There is a last declaration of a name if there is any. -/
theorem isSome_lastElement?_iff :
    (lastElement? ds named).isSome = true ↔
      ∃ name decl, .element name decl ∈ ds ∧ named name = true := by
  constructor
  · intro hsome
    obtain ⟨decl, hlast⟩ := Option.isSome_iff_exists.mp hsome
    obtain ⟨name, hmem, hnamed⟩ := exists_mem_of_lastElement? hlast
    exact ⟨name, decl, hmem, hnamed⟩
  · rintro ⟨name, decl, hmem, hnamed⟩
    have hdecl : decl ∈ ds.filterMap (Declaration.element? named) :=
      List.mem_filterMap.mpr ⟨.element name decl, hmem, by rw [Declaration.element?, if_pos hnamed]⟩
    rw [lastElement?, List.getLast?_isSome]
    exact List.ne_nil_of_mem hdecl

/-- Declarations of other names do not matter. -/
theorem lastElement?_filter {p : Declaration → Bool}
    (hkept : ∀ name decl, named name = true → p (.element name decl) = true) :
    lastElement? (ds.filter p) named = lastElement? ds named := by
  rw [lastElement?, List.filterMap_filter, lastElement?]
  refine congrArg List.getLast? (List.filterMap_congr fun d _ => ?_)
  cases d with
  | global decl => exact ite_self none
  | element name decl =>
    rw [Declaration.element?]
    by_cases hnamed : named name = true
    · rw [if_pos (hkept name decl hnamed)]
    · rw [if_neg hnamed, ite_self]

theorem globals_filter {p : Declaration → Bool} (hkept : ∀ decl, p (.global decl) = true) :
    globals (ds.filter p) = globals ds := by
  rw [globals, List.filterMap_filter, globals]
  refine List.filterMap_congr fun d _ => ?_
  cases d with
  | global decl => rw [if_pos (hkept decl)]
  | element name decl => exact ite_self none

/-- Among names in lower case, a folded name finds what has the same name. -/
theorem find?_eq_of_lower {decls : List AttributeDecl} {attr : String}
    (hlower : ∀ decl ∈ decls, foldCase decl.name = decl.name) :
    decls.find? (·.name == foldCase attr) = decls.find? fun decl => sameName decl.name attr :=
  List.find?_congr fun decl hdecl => by rw [sameName, hlower decl hdecl]

/-- A table answers by the last declaration under the name in lower case. -/
theorem attribute?_ofDeclarations
    (hlower : ∀ d ∈ ds, ∀ decl ∈ d.attributes, foldCase decl.name = decl.name)
    (element attr : String) :
    (ofDeclarations ds).attribute? element attr =
      (lastElement? ds (· == foldCase element)).bind (declared? (globals ds) · attr) := by
  have hglobal : ∀ decl ∈ globals ds, foldCase decl.name = decl.name := by
    intro decl hdecl
    obtain ⟨d, hd, hsome⟩ := List.mem_filterMap.mp hdecl
    cases d with
    | global other =>
      cases hsome
      exact hlower _ hd decl List.mem_cons_self
    | element name other => cases hsome
  rw [attribute?_eq_bind, element?_ofDeclarations, global_ofDeclarations]
  refine Option.bind_congr fun decl hlast => ?_
  obtain ⟨name, hmem, _⟩ := exists_mem_of_lastElement? hlast
  have hown : ∀ own ∈ decl.attributes, foldCase own.name = own.name := hlower _ hmem
  rw [declared?, find?_eq_of_lower hown, find?_eq_of_lower hglobal]

/-- An element is known if it was declared under its folded name. -/
theorem hasElement_ofDeclarations (element : String) :
    (ofDeclarations ds).hasElement element = true ↔
      ∃ decl, .element (foldCase element) decl ∈ ds := by
  rw [hasElement, element?_ofDeclarations, isSome_lastElement?_iff]
  simp

theorem sameName_foldCase (name : String) : sameName (foldCase name) name = true := by
  rw [sameName, foldCase_foldCase, beq_self_eq_true]

/-- A table answers about an element by the last declaration of it in any case, exactly if the last
declaration of it in lower case has the same attributes. -/
theorem answersByLast_iff_same_attributes
    (hlower : ∀ d ∈ ds, ∀ decl ∈ d.attributes, foldCase decl.name = decl.name)
    (element : String) :
    AnswersByLast ds element ↔
      ∀ last, lastElement? ds (sameName · element) = some last →
        ∃ lower, lastElement? ds (· == foldCase element) = some lower ∧
          ∀ attr, declared? (globals ds) lower attr = declared? (globals ds) last attr := by
  constructor
  · intro hanswers last hlast
    obtain ⟨name, hmem, hname⟩ := exists_mem_of_lastElement? hlast
    have hknown := hanswers.hasElement_iff.mpr ⟨name, last, hmem, hname⟩
    rw [hasElement, element?_ofDeclarations] at hknown
    obtain ⟨lower, hfound⟩ := Option.isSome_iff_exists.mp hknown
    refine ⟨lower, hfound, fun attr => ?_⟩
    have hattr := hanswers.attribute?_eq attr
    rwa [attribute?_ofDeclarations hlower, hfound, hlast] at hattr
  · intro hsame
    constructor
    · rw [hasElement_ofDeclarations]
      constructor
      · rintro ⟨decl, hmem⟩
        exact ⟨_, decl, hmem, sameName_foldCase element⟩
      · intro hdeclared
        obtain ⟨last, hlast⟩ :=
          Option.isSome_iff_exists.mp (isSome_lastElement?_iff.mpr hdeclared)
        obtain ⟨lower, hfound, _⟩ := hsame last hlast
        obtain ⟨name, hmem, hname⟩ := exists_mem_of_lastElement? hfound
        exact ⟨lower, beq_iff_eq.mp hname ▸ hmem⟩
    · intro attr
      rw [attribute?_ofDeclarations hlower]
      cases hlast : lastElement? ds (sameName · element) with
      | some last =>
        obtain ⟨lower, hfound, hattr⟩ := hsame last hlast
        rw [hfound]
        exact hattr attr
      | none =>
        cases hfound : lastElement? ds (· == foldCase element) with
        | none => rfl
        | some lower =>
          obtain ⟨name, hmem, hname⟩ := exists_mem_of_lastElement? hfound
          rw [beq_iff_eq.mp hname] at hmem
          have hsome : (lastElement? ds (sameName · element)).isSome = true :=
            isSome_lastElement?_iff.mpr ⟨_, lower, hmem, sameName_foldCase element⟩
          rw [hlast] at hsome
          cases hsome

/-- Only the declared names matter in the search. -/
theorem lastElement?_congr {named' : String → Bool}
    (hnamed : ∀ name decl, .element name decl ∈ ds → named name = named' name) :
    lastElement? ds named = lastElement? ds named' := by
  refine congrArg List.getLast? (List.filterMap_congr fun d hd => ?_)
  cases d with
  | global decl => rfl
  | element name decl => rw [Declaration.element?, Declaration.element?, hnamed name decl hd]

end

/-- A table that is built declaration by declaration knows an element exactly if it was declared
under its name in lower case, and answers by the last such declaration. That is the answer that the
last declaration in any case gives, exactly if both have the same attributes; so it is whenever all
declarations of the element are in lower case. Declarations of other elements do not matter. -/
theorem ofDeclarations_answers (ds : List Declaration)
    (hlower : ∀ d ∈ ds, ∀ decl ∈ d.attributes, foldCase decl.name = decl.name)
    (element : String) :
    ((ofDeclarations ds).hasElement element = true ↔
      ∃ decl, .element (foldCase element) decl ∈ ds) ∧
    (∀ attr, (ofDeclarations ds).attribute? element attr =
      (lastElement? ds (· == foldCase element)).bind (declared? (globals ds) · attr)) ∧
    (AnswersByLast ds element ↔
      ∀ last, lastElement? ds (sameName · element) = some last →
        ∃ lower, lastElement? ds (· == foldCase element) = some lower ∧
          ∀ attr, declared? (globals ds) lower attr = declared? (globals ds) last attr) ∧
    ((∀ name decl, .element name decl ∈ ds → sameName name element = true →
        name = foldCase element) → AnswersByLast ds element) ∧
    (ofDeclarations (ds.filter (·.concerns element))).hasElement element =
      (ofDeclarations ds).hasElement element ∧
    ∀ attr, (ofDeclarations (ds.filter (·.concerns element))).attribute? element attr =
      (ofDeclarations ds).attribute? element attr := by
  have hfound : (ofDeclarations (ds.filter (·.concerns element))).element? element =
      (ofDeclarations ds).element? element := by
    rw [element?_ofDeclarations, element?_ofDeclarations]
    refine lastElement?_filter fun name decl hname => ?_
    rw [beq_iff_eq.mp hname]
    exact sameName_foldCase element
  have hglobal : (ofDeclarations (ds.filter (·.concerns element))).global =
      (ofDeclarations ds).global := by
    rw [global_ofDeclarations, global_ofDeclarations]
    exact globals_filter fun _ => rfl
  refine ⟨hasElement_ofDeclarations element, attribute?_ofDeclarations hlower element,
    answersByLast_iff_same_attributes hlower element, fun hdeclared => ?_, ?_, fun attr => ?_⟩
  · refine (answersByLast_iff_same_attributes hlower element).mpr fun last hlast => ?_
    refine ⟨last, ?_, fun _ => rfl⟩
    rw [← hlast]
    refine lastElement?_congr fun name decl hmem => Bool.eq_iff_iff.mpr ⟨fun hname => ?_, ?_⟩
    · rw [beq_iff_eq.mp hname]
      exact sameName_foldCase element
    · exact fun hname => beq_iff_eq.mpr (hdeclared name decl hmem hname)
  · rw [hasElement, hfound]
    rfl
  · rw [attribute?_eq_bind, hfound, hglobal, ← attribute?_eq_bind]

/-- Two declarations of one element, of which the later one is not in lower case. -/
def cards : List Declaration :=
  [.element "x-card" { attributes := [⟨"size", .named .nonNegative, none, false⟩] },
    .global ⟨"hidden", .named .boolean, none, false⟩,
    .element "X-Card" { globalAttributes := false }]

theorem ofDeclarations_answers_cards :
    (∀ d ∈ cards, ∀ decl ∈ d.attributes, foldCase decl.name = decl.name) ∧
      (ofDeclarations cards).hasElement "X-Card" = true ∧
      ((ofDeclarations cards).attribute? "X-Card" "SIZE").isSome = true ∧
      ¬AnswersByLast cards "X-Card" := by
  have hlower : ∀ d ∈ cards, ∀ decl ∈ d.attributes, foldCase decl.name = decl.name := by decide
  have hname : foldCase "X-Card" = "x-card" := by decide
  obtain ⟨hknown, hattribute, hanswers, _⟩ := ofDeclarations_answers cards hlower "X-Card"
  rw [hname] at hknown
  refine ⟨hlower, hknown.mpr ⟨_, List.mem_cons_self⟩, ?_, fun hlast => ?_⟩
  · rw [hattribute]
    decide
  · obtain ⟨lower, hfound, hsame⟩ := hanswers.mp hlast { globalAttributes := false } (by decide)
    have hfirst : lastElement? cards (· == foldCase "X-Card") =
        some { attributes := [⟨"size", .named .nonNegative, none, false⟩] } := by decide
    obtain rfl := Option.some.inj (hfirst.symm.trans hfound)
    exact absurd (hsame "size") (by decide)

-- An element that was never declared in lower case is not found, not even as it was declared.
example : (ofDeclarations [.element "X-Card" {}]).hasElement "X-Card" = false := by decide

end MarkupAudit.SpecTable
