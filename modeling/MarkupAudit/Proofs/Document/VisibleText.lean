import MarkupAudit.Proofs.Document.Text
import MarkupAudit.Proofs.Document.Walk

namespace MarkupAudit

namespace Node

mutual

/-- The numbers of the texts that a tree shows, its root having the number `id`. -/
def shownTexts (id : Nat) : Node → List Nat
  | .mk info children =>
    match info.kind with
    | .text => [id]
    | .element => shownTextsAll (id + 1) children
    | .comment => []
    | .doctype => []

/-- The numbers of the texts that a forest shows, its first tree having the number `id`. -/
def shownTextsAll (id : Nat) : List Node → List Nat
  | [] => []
  | n :: rest => n.shownTexts id ++ shownTextsAll (id + n.size) rest

end

/-- At this place of the document order stands a text that shows: all trees of the forest around it
are elements. -/
def ShownAt (ns : List Node) (k : Nat) : Prop :=
  ∃ t, (preorderAll ns)[k]? = some t ∧ t.info.kind = .text ∧
    ∀ a u, (preorderAll ns)[a]? = some u → a < k → k < a + u.size → u.info.kind = .element

/-- The range of a node ends within the forest. -/
theorem end_le_sizeAll {ns : List Node} {k : Nat} {t : Node}
    (hget : (preorderAll ns)[k]? = some t) : k + t.size ≤ sizeAll ns := by
  obtain ⟨before, after, hsegment, hlength⟩ := exists_preorder_segment hget
  have htotal := congrArg List.length hsegment
  rw [length_preorderAll, List.length_append, List.length_append, length_preorder] at htotal
  omega

section

variable (info : NodeInfo) (children rest : List Node) (j : Nat)

theorem getElem?_preorderAll_root :
    (preorderAll (.mk info children :: rest))[0]? = some (.mk info children) := by
  simp

/-- The nodes of the first tree below its root follow right behind it. -/
theorem getElem?_preorderAll_below (hj : j < sizeAll children) :
    (preorderAll (.mk info children :: rest))[j + 1]? = (preorderAll children)[j]? := by
  rw [preorderAll_cons, preorder_mk, List.cons_append, List.getElem?_cons_succ,
    List.getElem?_append_left (by rwa [length_preorderAll])]

/-- The other trees follow behind the whole first tree. -/
theorem getElem?_preorderAll_behind :
    (preorderAll (.mk info children :: rest))[(Node.mk info children).size + j]? =
      (preorderAll rest)[j]? := by
  rw [preorderAll_cons, List.getElem?_append_right (by rw [length_preorder]; omega),
    length_preorder, Nat.add_sub_cancel_left]

/-- A root is shown if it is a text. -/
theorem shownAt_root_iff : ShownAt (.mk info children :: rest) 0 ↔ info.kind = .text := by
  constructor
  · rintro ⟨t, hget, hkind, _⟩
    rw [getElem?_preorderAll_root] at hget
    cases hget
    exact hkind
  · intro hkind
    exact ⟨_, getElem?_preorderAll_root info children rest, hkind,
      fun a u _ hlt => absurd hlt (Nat.not_lt_zero a)⟩

/-- Below a root, what its children show is shown if the root is an element. -/
theorem shownAt_below_iff (hj : j < sizeAll children) :
    ShownAt (.mk info children :: rest) (j + 1) ↔ info.kind = .element ∧ ShownAt children j := by
  constructor
  · rintro ⟨t, hget, hkind, habove⟩
    rw [getElem?_preorderAll_below _ _ _ _ hj] at hget
    constructor
    · refine habove 0 _ (getElem?_preorderAll_root info children rest) (by omega) ?_
      rw [size_mk]
      omega
    · refine ⟨t, hget, hkind, fun a u hu hlt hend => ?_⟩
      apply habove (a + 1) u
      · rwa [getElem?_preorderAll_below _ _ _ _ (by omega)]
      · omega
      · omega
  · rintro ⟨helement, t, hget, hkind, habove⟩
    refine ⟨t, by rwa [getElem?_preorderAll_below _ _ _ _ hj], hkind, fun a u hu hlt hend => ?_⟩
    cases a with
    | zero =>
      rw [getElem?_preorderAll_root] at hu
      cases hu
      exact helement
    | succ a =>
      rw [getElem?_preorderAll_below _ _ _ _ (by omega)] at hu
      exact habove a u hu (by omega) (by omega)

/-- The other trees are shown by themselves. -/
theorem shownAt_behind_iff :
    ShownAt (.mk info children :: rest) ((Node.mk info children).size + j) ↔ ShownAt rest j := by
  constructor
  · rintro ⟨t, hget, hkind, habove⟩
    rw [getElem?_preorderAll_behind] at hget
    refine ⟨t, hget, hkind, fun a u hu hlt hend => ?_⟩
    apply habove ((Node.mk info children).size + a) u
    · rwa [getElem?_preorderAll_behind]
    · omega
    · omega
  · rintro ⟨t, hget, hkind, habove⟩
    refine ⟨t, by rwa [getElem?_preorderAll_behind], hkind, fun a u hu hlt hend => ?_⟩
    by_cases hbehind : (Node.mk info children).size ≤ a
    · obtain ⟨b, rfl⟩ := Nat.exists_eq_add_of_le hbehind
      rw [getElem?_preorderAll_behind] at hu
      exact habove b u hu (by omega) (by omega)
    · -- A tree that starts within the first one also ends there.
      have hwithin : a + u.size ≤ sizeAll [Node.mk info children] := by
        apply end_le_sizeAll
        rw [preorderAll_cons, List.getElem?_append_left (by rw [length_preorder]; omega)] at hu
        rwa [preorderAll_cons, preorderAll_nil, List.append_nil]
      rw [sizeAll_cons, sizeAll_nil] at hwithin
      omega

end

theorem ShownAt.lt {ns : List Node} {k : Nat} (hshown : ShownAt ns k) : k < sizeAll ns := by
  obtain ⟨t, hget, _⟩ := hshown
  have hend := end_le_sizeAll hget
  have hpositive := t.size_pos
  omega

/-- The numbers that are collected are those of the texts that show. -/
theorem mem_shownTextsAll_iff (ns : List Node) (id c : Nat) :
    c ∈ shownTextsAll id ns ↔ ∃ k, c = id + k ∧ ShownAt ns k := by
  induction ns using forest_induction generalizing id with
  | nil => simp [shownTextsAll, ShownAt]
  | cons info children rest ihChildren ihRest =>
    rw [shownTextsAll, List.mem_append, ihRest, shownTexts]
    constructor
    · rintro (hfirst | ⟨j, rfl, hshown⟩)
      · cases hkind : info.kind with
        | text =>
          rw [hkind] at hfirst
          exact ⟨0, List.mem_singleton.mp hfirst, (shownAt_root_iff ..).mpr hkind⟩
        | element =>
          rw [hkind] at hfirst
          obtain ⟨j, rfl, hshown⟩ := (ihChildren _).mp hfirst
          exact ⟨j + 1, by omega, (shownAt_below_iff _ _ _ _ hshown.lt).mpr ⟨hkind, hshown⟩⟩
        | comment =>
          rw [hkind] at hfirst
          cases hfirst
        | doctype =>
          rw [hkind] at hfirst
          cases hfirst
      · exact ⟨_, Nat.add_assoc .., (shownAt_behind_iff ..).mpr hshown⟩
    · rintro ⟨k, rfl, hshown⟩
      by_cases hbehind : (Node.mk info children).size ≤ k
      · obtain ⟨j, rfl⟩ := Nat.exists_eq_add_of_le hbehind
        exact .inr ⟨j, (Nat.add_assoc ..).symm, (shownAt_behind_iff ..).mp hshown⟩
      · rw [size_mk] at hbehind
        refine .inl ?_
        cases k with
        | zero =>
          rw [(shownAt_root_iff ..).mp hshown]
          exact List.mem_singleton_self id
        | succ j =>
          obtain ⟨hkind, hbelow⟩ := (shownAt_below_iff _ _ _ _ (by omega)).mp hshown
          rw [hkind]
          exact (ihChildren _).mpr ⟨j, by omega, hbelow⟩

/-- Shown texts come in document order. -/
theorem pairwise_shownTextsAll (ns : List Node) (id : Nat) :
    (shownTextsAll id ns).Pairwise (· < ·) := by
  induction ns using forest_induction generalizing id with
  | nil => simp [shownTextsAll]
  | cons info children rest ihChildren ihRest =>
    rw [shownTextsAll, List.pairwise_append]
    refine ⟨?_, ihRest _, fun a ha b hb => ?_⟩
    · rw [shownTexts]
      cases info.kind with
      | text => exact List.pairwise_singleton _ _
      | element => exact ihChildren _
      | comment => exact .nil
      | doctype => exact .nil
    · have hfirst : a ∈ shownTextsAll id [Node.mk info children] := by
        rwa [shownTextsAll, shownTextsAll, List.append_nil]
      obtain ⟨j, rfl, hshown⟩ := (mem_shownTextsAll_iff ..).mp hfirst
      obtain ⟨k, rfl, _⟩ := (mem_shownTextsAll_iff ..).mp hb
      have hlt := hshown.lt
      rw [sizeAll_cons, sizeAll_nil] at hlt
      omega

end Node

namespace Document

/-- The value of a node. -/
def value (d : Document) (id : Nat) : String :=
  ((d.info? id).map (·.value)).getD ""

/-- Collecting the texts of nodes, one after the other, comes to an end with a text. Each step looks
up one number, and nothing bounds how deep elements lead. -/
inductive Collects (d : Document) : List Nat → String → Prop where
  | nil : Collects d [] ""
  | text {id : Nat} {ids : List Nat} {e : Entry} {s : String} (hentry : d.entry? id = some e)
      (hkind : e.info.kind = .text) (hrest : Collects d ids s) :
      Collects d (id :: ids) (e.info.value ++ s)
  | element {id : Nat} {ids : List Nat} {e : Entry} {s t : String} (hentry : d.entry? id = some e)
      (hkind : e.info.kind = .element) (hchildren : Collects d e.children s)
      (hrest : Collects d ids t) : Collects d (id :: ids) (s ++ t)
  | hidden {id : Nat} {ids : List Nat} {e : Entry} {s : String} (hentry : d.entry? id = some e)
      (hkind : e.info.kind = .comment ∨ e.info.kind = .doctype) (hrest : Collects d ids s) :
      Collects d (id :: ids) s

/-- A text below an element that shows in it: from its parent up to the element there are only
elements. -/
structure ShowsIn (d : Document) (c id : Nat) : Prop where
  isText : d.kind? c = some .text
  isBelow : d.IsBelow c id
  elements : ∀ a, d.IsBelow c a → a = id ∨ d.IsBelow a id → d.kind? a = some .element

namespace Stored

variable {d : Document} {parent : Option Nat} {id : Nat} {ns : List Node}

/-- Where a forest is stored, collecting the texts of its trees comes to an end with the text that
it shows, and with no other. -/
theorem collects_iff (hstored : d.Stored parent id ns) (s : String) :
    d.Collects (rootIds id ns) s ↔ s = Node.visibleTextAll ns := by
  induction hstored generalizing s with
  | nil =>
    rw [rootIds, Node.visibleTextAll]
    constructor
    · intro hcollects
      cases hcollects
      rfl
    · rintro rfl
      exact .nil
  | @cons parent id info children rest hentry _ _ ihChildren ihRest =>
    rw [rootIds, Node.visibleTextAll, Node.visibleText]
    constructor
    · intro hcollects
      cases hcollects with
      | text hfound hkind hrest =>
        cases hentry.symm.trans hfound
        rw [hkind, (ihRest _).mp hrest]
      | element hfound hkind hchildren hrest =>
        cases hentry.symm.trans hfound
        rw [hkind, (ihChildren _).mp hchildren, (ihRest _).mp hrest]
      | hidden hfound hkind hrest =>
        cases hentry.symm.trans hfound
        rcases hkind with hkind | hkind
        · rw [hkind, (ihRest _).mp hrest, String.empty_append]
        · rw [hkind, (ihRest _).mp hrest, String.empty_append]
    · rintro rfl
      have hrest := (ihRest _).mpr rfl
      cases hkind : info.kind with
      | text => exact .text hentry hkind hrest
      | element => exact .element hentry hkind ((ihChildren _).mpr rfl) hrest
      | comment =>
        rw [String.empty_append]
        exact .hidden hentry (.inl hkind) hrest
      | doctype =>
        rw [String.empty_append]
        exact .hidden hentry (.inr hkind) hrest

/-- The values of the shown texts make up the visible text. -/
theorem join_value_shownTexts (hstored : d.Stored parent id ns) :
    String.join ((Node.shownTextsAll id ns).map d.value) = Node.visibleTextAll ns := by
  induction hstored with
  | nil => rw [Node.shownTextsAll, Node.visibleTextAll, List.map_nil, String.join_nil]
  | @cons parent id info children rest hentry _ _ ihChildren ihRest =>
    rw [Node.shownTextsAll, Node.visibleTextAll, List.map_append, String.join_append, ihRest,
      Node.shownTexts, Node.visibleText]
    cases info.kind with
    | text =>
      have hvalue : d.value id = info.value := by
        rw [value, info?, hentry]
        rfl
      rw [List.map_singleton, hvalue, String.join_cons, String.join_nil, String.append_empty]
    | element => rw [ihChildren]
    | comment => rfl
    | doctype => rfl

end Stored

section

variable {ns : List Node} {id : Nat} {t : Node}

/-- The trees within a tree of a forest are those that the forest has from there on. -/
theorem getElem?_preorderAll_singleton (hget : (Node.preorderAll ns)[id]? = some t) {k : Nat}
    (hk : k < t.size) : (Node.preorderAll [t])[k]? = (Node.preorderAll ns)[id + k]? := by
  obtain ⟨before, after, hsegment, rfl⟩ := Node.exists_preorder_segment hget
  rw [hsegment, Node.preorderAll_cons, Node.preorderAll_nil, List.append_nil, List.append_assoc,
    List.getElem?_append_right (by omega), Nat.add_sub_cancel_left,
    List.getElem?_append_left (by rwa [Node.length_preorder])]

/-- What is below a node stands in its range of numbers. -/
theorem exists_around_of_isBelow {c a : Nat} (hbelow : (ofForest ns).IsBelow c a) :
    ∃ u, (Node.preorderAll ns)[a]? = some u ∧ a < c ∧ c < a + u.size := by
  obtain ⟨b, hparent, _⟩ := Relation.TransGen.head'_iff.mp hbelow
  obtain ⟨u, hu⟩ := exists_getElem?_preorderAll
    (lt_size_of_mem_children ((mem_children_ofForest_iff ns a b).mpr hparent))
  exact ⟨u, hu, IsBelow.bounds hu hbelow⟩

/-- A tree has a range of numbers, which starts with that of its root. -/
theorem eq_or_isBelow_iff (hget : (Node.preorderAll ns)[id]? = some t) (a : Nat) :
    a = id ∨ (ofForest ns).IsBelow a id ↔ ∃ j < t.size, a = id + j := by
  constructor
  · rintro (rfl | hbelow)
    · exact ⟨0, t.size_pos, rfl⟩
    · obtain ⟨hlo, hhi⟩ := IsBelow.bounds hget hbelow
      exact ⟨a - id, by omega, by omega⟩
  · rintro ⟨j, hj, rfl⟩
    by_cases hroot : j = 0
    · exact .inl (by omega)
    · exact .inr (isBelow_of_bounds hget (by omega) (by omega))

/-- A text shows in an element of a document exactly if it shows in its tree. -/
theorem showsIn_iff (hget : (Node.preorderAll ns)[id]? = some t) (hkind : t.info.kind = .element)
    (c : Nat) : (ofForest ns).ShowsIn c id ↔ c ∈ Node.shownTextsAll id [t] := by
  rw [Node.mem_shownTextsAll_iff]
  constructor
  · rintro ⟨htext, hbelow, helements⟩
    obtain ⟨k, hk, rfl⟩ := (eq_or_isBelow_iff hget c).mp (.inr hbelow)
    rw [kind?_ofForest, ← getElem?_preorderAll_singleton hget hk] at htext
    obtain ⟨u, hu, hukind⟩ := Option.map_eq_some_iff.mp htext
    refine ⟨k, rfl, u, hu, hukind, fun a w hw hlt hend => ?_⟩
    rw [getElem?_preorderAll_singleton hget (by omega)] at hw
    have habove : (ofForest ns).IsBelow (id + k) (id + a) :=
      isBelow_of_bounds hw (by omega) (by omega)
    have hwithin := (eq_or_isBelow_iff hget (id + a)).mpr ⟨a, by omega, rfl⟩
    have helement := helements (id + a) habove hwithin
    rw [kind?_ofForest, hw] at helement
    exact Option.some.inj helement
  · rintro ⟨k, rfl, hshown⟩
    have hk := hshown.lt
    rw [Node.sizeAll_cons, Node.sizeAll_nil] at hk
    obtain ⟨u, hu, hukind, helements⟩ := hshown
    have hwithin := (eq_or_isBelow_iff hget (id + k)).mpr ⟨k, by omega, rfl⟩
    rw [getElem?_preorderAll_singleton hget (by omega)] at hu
    have htext : (ofForest ns).kind? (id + k) = some .text := by
      rw [kind?_ofForest, hu, Option.map_some, hukind]
    refine ⟨htext, hwithin.resolve_left fun hroot => ?_, fun a habove hbetween => ?_⟩
    · -- The element itself is no text.
      rw [hroot, kind?_ofForest, hget, Option.map_some, hkind] at htext
      cases htext
    · obtain ⟨j, hj, rfl⟩ := (eq_or_isBelow_iff hget a).mp hbetween
      obtain ⟨w, hw, hbefore, hbehind⟩ := exists_around_of_isBelow habove
      rw [kind?_ofForest, hw, Option.map_some]
      rw [← getElem?_preorderAll_singleton hget hj] at hw
      rw [helements j w hw (by omega) (by omega)]

/-- Where only elements have children, what an element shows are all texts in its range. -/
theorem shownTextsAll_eq_filter_walk (hget : (Node.preorderAll ns)[id]? = some t)
    (hkind : t.info.kind = .element)
    (hplain : ∀ u ∈ Node.preorderAll ns, u.info.kind ≠ .element → u.children = []) :
    Node.shownTextsAll id [t] =
      ((ofForest ns).walk .text).filter fun c => id < c ∧ c < id + t.size := by
  have hshown := Node.pairwise_shownTextsAll [t] id
  have hfilter := (pairwise_walk (ofForest ns) .text).filter fun c => id < c ∧ c < id + t.size
  refine hshown.eq_of_mem_iff hfilter fun c => ?_
  rw [← showsIn_iff hget hkind, List.mem_filter, mem_walk_iff, decide_eq_true_iff]
  constructor
  · rintro ⟨htext, hbelow, _⟩
    exact ⟨htext, IsBelow.bounds hget hbelow⟩
  · rintro ⟨htext, hlo, hhi⟩
    refine ⟨htext, isBelow_of_bounds hget hlo hhi, fun a habove _ => ?_⟩
    obtain ⟨u, hu, hbefore, hbehind⟩ := exists_around_of_isBelow habove
    rw [kind?_ofForest, hu, Option.map_some]
    by_contra hother
    have hleaf := hplain u (List.mem_of_getElem? hu) fun helement => hother (by rw [helement])
    obtain ⟨own, below⟩ := u
    obtain rfl : below = [] := hleaf
    rw [Node.size_mk, Node.sizeAll_nil] at hbehind
    omega

end

/-- Collecting the text of a node comes to an end, with one text only. For a text it is the value,
for a comment or a document type nothing. For an element it is what the texts below it have as
values, in document order, as far as all nodes above them are elements up to the element itself. If
no other node has children, these are all texts in the range of the element. -/
theorem textContent_collects (ns : List Node) (id : Nat) (t : Node)
    (hget : (Node.preorderAll ns)[id]? = some t) :
    (∀ s, (ofForest ns).Collects [id] s ↔ s = (ofForest ns).textContent id) ∧
    (t.info.kind = .text → (ofForest ns).textContent id = t.info.value) ∧
    (t.info.kind = .comment ∨ t.info.kind = .doctype → (ofForest ns).textContent id = "") ∧
    (t.info.kind = .element →
      (∃ texts : List Nat, texts.Pairwise (· < ·) ∧ (∀ c, c ∈ texts ↔ (ofForest ns).ShowsIn c id) ∧
        (ofForest ns).textContent id = String.join (texts.map (ofForest ns).value)) ∧
      ((∀ u ∈ Node.preorderAll ns, u.info.kind ≠ .element → u.children = []) →
        (ofForest ns).textContent id =
          String.join ((((ofForest ns).walk .text).filter fun c => id < c ∧ c < id + t.size).map
            (ofForest ns).value))) := by
  have htext : (ofForest ns).textContent id = t.visibleText :=
    textContent_eq (toList_entries_ofForest ns) hget
  have hall : Node.visibleTextAll [t] = t.visibleText := by
    rw [Node.visibleTextAll, Node.visibleTextAll, String.append_empty]
  obtain ⟨owner, hstored⟩ := stored_of_getElem? hget
  have hjoin := hstored.join_value_shownTexts
  rw [hall] at hjoin
  rw [htext]
  refine ⟨fun s => ?_, Node.visibleText_of_text, ?_, fun hkind => ⟨?_, fun hplain => ?_⟩⟩
  · have hcollects := hstored.collects_iff s
    rwa [hall] at hcollects
  · rintro (hkind | hkind)
    · exact Node.visibleText_of_comment hkind
    · exact Node.visibleText_of_doctype hkind
  · exact ⟨_, Node.pairwise_shownTextsAll [t] id, fun c => (showsIn_iff hget hkind c).symm,
      hjoin.symm⟩
  · rw [← shownTextsAll_eq_filter_walk hget hkind hplain, hjoin]

/-- An element that shows one text. -/
def bold : Node :=
  .mk { kind := .element, name := "b" } [.text "d"]

/-- A paragraph in which a text and a comment have children of their own. -/
def sheltered : Node :=
  .mk { kind := .element, name := "p" } [
    .mk { kind := .text, value := "a" } [.text "b"], .mk { kind := .comment } [.text "c"], bold]

theorem textContent_collects_sheltered :
    ((Node.preorderAll [sheltered])[0]? = some sheltered ∧
      ∀ s, (ofForest [sheltered]).Collects [0] s ↔ s = "ad") ∧
    (Node.preorderAll [bold])[0]? = some bold ∧
      (ofForest [bold]).textContent 0 =
        String.join ((((ofForest [bold]).walk .text).filter fun c => 0 < c ∧ c < 0 + bold.size).map
          (ofForest [bold]).value) := by
  have hget : (Node.preorderAll [sheltered])[0]? = some sheltered := rfl
  have htext : (ofForest [sheltered]).textContent 0 = "ad" := by
    rw [textContent_eq (toList_entries_ofForest [sheltered]) hget]
    rfl
  have hcollects := (textContent_collects [sheltered] 0 sheltered hget).1
  rw [htext] at hcollects
  have hplain : ∀ u ∈ Node.preorderAll [bold], u.info.kind ≠ .element → u.children = [] := by
    simp [bold, Node.text, Node.leaf, Node.info, Node.children]
  obtain ⟨_, _, _, helement⟩ := textContent_collects [bold] 0 bold rfl
  exact ⟨⟨hget, hcollects⟩, rfl, (helement rfl).2 hplain⟩

end Document

end MarkupAudit
