import MarkupAudit.Proofs.Document.Stored

namespace MarkupAudit

namespace Node

mutual

/-- The visible text of a tree: the value of a text, and for an element what its children show. -/
def visibleText : Node → String
  | .mk info children =>
    match info.kind with
    | .text => info.value
    | .element => visibleTextAll children
    | .comment => ""
    | .doctype => ""

/-- The visible text of a forest. -/
def visibleTextAll : List Node → String
  | [] => ""
  | n :: rest => n.visibleText ++ visibleTextAll rest

end

/-- The visible texts of trees come one after the other. -/
theorem visibleTextAll_eq_join (ns : List Node) :
    visibleTextAll ns = String.join (ns.map visibleText) := by
  induction ns with
  | nil => rw [visibleTextAll, List.map_nil, String.join_nil]
  | cons n rest ih => rw [visibleTextAll, ih, List.map_cons, String.join_cons]

section

variable {n : Node}

/-- A text shows itself. -/
theorem visibleText_of_text (hkind : n.info.kind = .text) : n.visibleText = n.info.value := by
  obtain ⟨own, below⟩ := n
  change own.kind = .text at hkind
  rw [visibleText, hkind]
  rfl

/-- An element shows what its children show. -/
theorem visibleText_of_element (hkind : n.info.kind = .element) :
    n.visibleText = String.join (n.children.map visibleText) := by
  obtain ⟨own, below⟩ := n
  change own.kind = .element at hkind
  rw [visibleText, hkind, ← visibleTextAll_eq_join]
  rfl

theorem visibleText_of_comment (hkind : n.info.kind = .comment) : n.visibleText = "" := by
  obtain ⟨own, below⟩ := n
  change own.kind = .comment at hkind
  rw [visibleText, hkind]

theorem visibleText_of_doctype (hkind : n.info.kind = .doctype) : n.visibleText = "" := by
  obtain ⟨own, below⟩ := n
  change own.kind = .doctype at hkind
  rw [visibleText, hkind]

end

end Node

namespace Document

/-- The texts of a stored forest, given as many levels as it has nodes. -/
theorem Stored.map_textWithin {d : Document} {parent : Option Nat} {id : Nat} {ns : List Node}
    (hstored : d.Stored parent id ns) (depth : Nat) (hdepth : Node.sizeAll ns ≤ depth) :
    (rootIds id ns).map (d.textWithin depth) = ns.map Node.visibleText := by
  induction hstored generalizing depth with
  | nil => rfl
  | @cons parent id info children rest hentry _ _ ihChildren ihRest =>
    simp only [Node.sizeAll_cons, Node.size_mk] at hdepth
    obtain ⟨k, rfl⟩ : ∃ k, depth = k + 1 := ⟨depth - 1, by omega⟩
    have hchildren := ihChildren k (by omega)
    have hfirst : d.textWithin (k + 1) id = (Node.mk info children).visibleText := by
      simp only [textWithin, hentry]
      cases hkind : info.kind with
      | element =>
        rw [Node.visibleText_of_element (n := .mk info children) hkind, hchildren]
        rfl
      | text => rw [Node.visibleText_of_text (n := .mk info children) hkind]; rfl
      | comment => rw [Node.visibleText_of_comment (n := .mk info children) hkind]
      | doctype => rw [Node.visibleText_of_doctype (n := .mk info children) hkind]
    rw [rootIds, List.map_cons, List.map_cons, hfirst, ihRest (k + 1) (by omega)]

/-- The text of a node is that of its tree. -/
theorem textContent_eq {d : Document} {ns : List Node}
    (hentries : d.entries.toList = entriesOfAll none 0 ns) {id : Nat} {t : Node}
    (hget : (Node.preorderAll ns)[id]? = some t) : d.textContent id = t.visibleText := by
  have hstored : d.Stored none 0 ns := by
    apply stored_of_segment [] []
    · rw [hentries, List.nil_append, List.append_nil]
    · rfl
  obtain ⟨owner, hsub⟩ := hstored.subtree hget
  rw [Nat.zero_add] at hsub
  obtain ⟨before, after, hsegment, _⟩ := Node.exists_preorder_segment hget
  have hsize : Node.sizeAll [t] ≤ d.size := by
    have hlength := congrArg List.length hsegment
    rw [Node.length_preorderAll, List.length_append, List.length_append,
      Node.length_preorder] at hlength
    rw [size, ← Array.length_toList, hentries, length_entriesOfAll, Node.sizeAll_cons,
      Node.sizeAll_nil]
    omega
  have htexts := hsub.map_textWithin _ hsize
  simpa [rootIds, textContent] using htexts

end Document

end MarkupAudit
