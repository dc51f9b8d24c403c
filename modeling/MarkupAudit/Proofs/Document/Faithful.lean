import Mathlib.Data.List.Sort
import Mathlib.Logic.Relation
import MarkupAudit.Proofs.Document.Stored

namespace MarkupAudit.Document

/-- The tree of a number, read through the numbers of children, at most so many levels deep. -/
def treeWithin (d : Document) : Nat → Nat → Option Node
  | 0, _ => none
  | depth + 1, id => do
    let e ← d.entry? id
    let children ← e.children.mapM (d.treeWithin depth)
    return .mk e.info children

/-- The forest of a document, read from its roots. -/
def forest? (d : Document) : Option (List Node) :=
  d.roots.mapM (d.treeWithin d.size)

/-- A node is below another if a chain of parents leads up to that one. -/
def IsBelow (d : Document) (c id : Nat) : Prop :=
  Relation.TransGen (fun p c => d.parent? c = some p) id c

/-- A document is a faithful layout of a forest. -/
structure Represents (d : Document) (ns : List Node) : Prop where
  /-- The numbers enumerate the nodes in document order, each as it is in the source. -/
  infos : d.entries.toList.map (·.info) = (Node.preorderAll ns).map (·.info)
  /-- Parents and children agree. -/
  mem_children_iff : ∀ p c, c ∈ d.children p ↔ d.parent? c = some p
  /-- Children come after their parent, and one after the other. -/
  increasing : ∀ id, (id :: d.children id).Pairwise (· < ·)
  /-- The children of a node are those of the source, in source order. -/
  sourceOrder : ∀ id t, (Node.preorderAll ns)[id]? = some t →
    (d.children id).map (fun c => (Node.preorderAll ns)[c]?) = t.children.map some
  /-- The nodes below a node are those right behind it, as many as its tree has. -/
  isBelow_iff : ∀ id t, (Node.preorderAll ns)[id]? = some t →
    ∀ c, d.IsBelow c id ↔ id < c ∧ c < id + t.size
  /-- The roots are the nodes without a parent, in document order. -/
  roots_eq : d.roots = (List.range d.size).filter fun id => (d.parent? id).isNone
  /-- The forest can be read back. -/
  forest_eq : d.forest? = some ns

/-- The entries hold the nodes in document order. -/
theorem map_info_entriesOfAll (parent : Option Nat) (id : Nat) (ns : List Node) :
    (entriesOfAll parent id ns).map (·.info) = (Node.preorderAll ns).map (·.info) := by
  induction ns using Node.forest_induction generalizing parent id with
  | nil => simp
  | cons info children rest ihChildren ihRest =>
    simp [ihChildren, ihRest, Node.info]

/-- Looking up the numbers of the trees of a forest gives the trees. -/
theorem map_getElem?_rootIds (ns before after : List Node) :
    (rootIds before.length ns).map (fun c => (before ++ Node.preorderAll ns ++ after)[c]?) =
      ns.map some := by
  induction ns generalizing before with
  | nil => simp [rootIds]
  | cons n rest ih =>
    have hfirst : (before ++ Node.preorderAll (n :: rest) ++ after)[before.length]? = some n := by
      cases n with
      | mk info children => simp
    have hrest := ih (before ++ n.preorder)
    rw [List.length_append, Node.length_preorder] at hrest
    rw [rootIds, List.map_cons, hfirst, List.map_cons, ← hrest]
    simp

namespace Stored

/-- A stored forest is read back, given as many levels as it has nodes. -/
theorem mapM_treeWithin {d : Document} {parent : Option Nat} {id : Nat} {ns : List Node}
    (hstored : d.Stored parent id ns) (depth : Nat) (hdepth : Node.sizeAll ns ≤ depth) :
    (rootIds id ns).mapM (d.treeWithin depth) = some ns := by
  induction hstored generalizing depth with
  | nil => rfl
  | cons hentry _ _ ihChildren ihRest =>
    simp only [Node.sizeAll_cons, Node.size_mk] at hdepth
    obtain ⟨k, rfl⟩ : ∃ k, depth = k + 1 := ⟨depth - 1, by omega⟩
    have hchildren := ihChildren k (by omega)
    have hrest := ihRest (k + 1) (by omega)
    rw [rootIds, List.mapM_cons, hrest, treeWithin, hentry]
    simp [hchildren]

end Stored

theorem lt_size_of_parent? {d : Document} {c p : Nat} (hparent : d.parent? c = some p) :
    c < d.size := by
  by_contra hout
  have hnone : d.entry? c = none := Array.getElem?_eq_none (Nat.le_of_not_lt hout)
  simp [parent?, hnone] at hparent

theorem lt_size_of_mem_children {d : Document} {p c : Nat} (hc : c ∈ d.children p) :
    p < d.size := by
  by_contra hout
  have hnone : d.entry? p = none := Array.getElem?_eq_none (Nat.le_of_not_lt hout)
  simp [children, hnone] at hc

/-- A tree within a forest is stored under its place in document order. -/
theorem stored_of_getElem? {ns : List Node} {id : Nat} {t : Node}
    (hget : (Node.preorderAll ns)[id]? = some t) :
    ∃ owner, (ofForest ns).Stored owner id [t] := by
  obtain ⟨owner, hsub⟩ := (stored_ofForest ns).subtree hget
  exact ⟨owner, by rwa [Nat.zero_add] at hsub⟩

theorem exists_getElem?_preorderAll {ns : List Node} {id : Nat} (hid : id < (ofForest ns).size) :
    ∃ t, (Node.preorderAll ns)[id]? = some t := by
  rw [size_ofForest, ← Node.length_preorderAll] at hid
  exact ⟨_, List.getElem?_eq_getElem hid⟩

/-- Parents and children agree. -/
theorem mem_children_ofForest_iff (ns : List Node) (p c : Nat) :
    c ∈ (ofForest ns).children p ↔ (ofForest ns).parent? c = some p := by
  constructor
  · intro hc
    obtain ⟨t, hget⟩ := exists_getElem?_preorderAll (lt_size_of_mem_children hc)
    obtain ⟨owner, hsub⟩ := stored_of_getElem? hget
    rw [hsub.children_eq] at hc
    exact hsub.forest_children.parent?_of_mem_rootIds hc
  · intro hparent
    have hlt := lt_size_of_parent? hparent
    rw [size_ofForest] at hlt
    have hstored := stored_ofForest ns
    rcases hstored.root_or_child (Nat.zero_le c) (by omega) with hroot | ⟨q, _, _, hq, hmem⟩
    · have hnone := hstored.parent?_of_mem_rootIds hroot
      rw [hparent] at hnone
      cases hnone
    · obtain rfl : p = q := Option.some.inj (hparent.symm.trans hq)
      exact hmem

/-- A node comes before its children, and these come in order. -/
theorem pairwise_children_ofForest (ns : List Node) (id : Nat) :
    (id :: (ofForest ns).children id).Pairwise (· < ·) := by
  by_cases hid : id < (ofForest ns).size
  · obtain ⟨t, hget⟩ := exists_getElem?_preorderAll hid
    obtain ⟨owner, hsub⟩ := stored_of_getElem? hget
    rw [hsub.children_eq]
    refine List.pairwise_cons.mpr ⟨fun c hc => ?_, pairwise_rootIds _ _⟩
    exact le_of_mem_rootIds hc
  · have hempty : (ofForest ns).children id = [] := by
      refine List.eq_nil_iff_forall_not_mem.mpr fun c hc => ?_
      exact hid (lt_size_of_mem_children hc)
    rw [hempty]
    exact List.pairwise_singleton _ _

section

variable {ns : List Node} {id : Nat} {t : Node}

/-- The children of a node have the trees that they have in the source. -/
theorem map_getElem?_children_ofForest (hget : (Node.preorderAll ns)[id]? = some t) :
    ((ofForest ns).children id).map (fun c => (Node.preorderAll ns)[c]?) = t.children.map some := by
  obtain ⟨owner, hsub⟩ := stored_of_getElem? hget
  obtain ⟨before, after, hsegment, hlength⟩ := Node.exists_preorder_segment hget
  have hlookup := map_getElem?_rootIds t.children (before ++ [t]) after
  have hpreorder : Node.preorderAll ns = before ++ [t] ++ Node.preorderAll t.children ++ after := by
    cases t with
    | mk info children => simpa [Node.children] using hsegment
  rw [List.length_append, List.length_singleton, hlength, ← hpreorder] at hlookup
  rw [hsub.children_eq]
  exact hlookup

/-- The tree of a node below another ends no later than the tree of that one. -/
theorem subtree_end_le (hget : (Node.preorderAll ns)[id]? = some t) {c : Nat} {u : Node}
    (hlo : id ≤ c) (hhi : c < id + t.size) (hinner : (Node.preorderAll ns)[c]? = some u) :
    c + u.size ≤ id + t.size := by
  obtain ⟨before, after, hsegment, hlength⟩ := Node.exists_preorder_segment hget
  have hwithin : (Node.preorderAll [t])[c - id]? = some u := by
    rw [hsegment, List.append_assoc, List.getElem?_append_right (by omega), hlength,
      List.getElem?_append_left (by rw [Node.length_preorder]; omega)] at hinner
    simpa using hinner
  obtain ⟨first, last, hparts, hfirst⟩ := Node.exists_preorder_segment hwithin
  have htotal := congrArg List.length hparts
  simp only [Node.preorderAll_cons, Node.preorderAll_nil, List.append_nil, List.length_append,
    Node.length_preorder, hfirst] at htotal
  omega

/-- Following children never leaves the range of a tree. -/
theorem IsBelow.bounds (hget : (Node.preorderAll ns)[id]? = some t) {c : Nat}
    (hbelow : (ofForest ns).IsBelow c id) : id < c ∧ c < id + t.size := by
  have hchild : ∀ {p u}, (Node.preorderAll ns)[p]? = some u → ∀ {c},
      (ofForest ns).parent? c = some p → p < c ∧ c < p + u.size := by
    intro p u hp c hparent
    obtain ⟨owner, hsub⟩ := stored_of_getElem? hp
    have hmem := (mem_children_ofForest_iff ns p c).mpr hparent
    rw [hsub.children_eq] at hmem
    have hlo := le_of_mem_rootIds hmem
    have hhi := lt_of_mem_rootIds hmem
    cases u with
    | mk info children =>
      simp only [Node.children] at hhi
      rw [Node.size_mk]
      omega
  induction hbelow with
  | single hparent => exact hchild hget hparent
  | @tail p c _ hparent ih =>
    have hp : p < (ofForest ns).size :=
      lt_size_of_mem_children ((mem_children_ofForest_iff ns p c).mpr hparent)
    obtain ⟨u, hinner⟩ := exists_getElem?_preorderAll hp
    have hstep := hchild hinner hparent
    have hend := subtree_end_le hget (by omega) ih.2 hinner
    omega

/-- Every number in the range of a tree leads up to its root. -/
theorem isBelow_of_bounds (hget : (Node.preorderAll ns)[id]? = some t) {c : Nat} (hlo : id < c)
    (hhi : c < id + t.size) : (ofForest ns).IsBelow c id := by
  obtain ⟨owner, hsub⟩ := stored_of_getElem? hget
  have hchildren := hsub.forest_children
  have hsize : t.size = 1 + Node.sizeAll t.children := by
    cases t with
    | mk info children => exact Node.size_mk info children
  induction c using Nat.strong_induction_on with
  | _ c ih =>
    rcases hchildren.root_or_child (c := c) (by omega) (by omega) with
      hroot | ⟨p, hp, hlt, hparent, _⟩
    · exact .single (hchildren.parent?_of_mem_rootIds hroot)
    · exact .tail (ih p hlt (by omega) (by omega)) hparent

end

/-- The roots are the nodes without a parent. -/
theorem roots_ofForest_eq_filter (ns : List Node) :
    (ofForest ns).roots =
      (List.range (ofForest ns).size).filter fun id => ((ofForest ns).parent? id).isNone := by
  have hstored := stored_ofForest ns
  rw [roots_ofForest, size_ofForest]
  have hroots := pairwise_rootIds 0 ns
  have hfilter := (List.pairwise_lt_range (n := Node.sizeAll ns)).filter
    fun id => ((ofForest ns).parent? id).isNone
  refine hroots.eq_of_mem_iff hfilter fun c => ?_
  rw [List.mem_filter, List.mem_range]
  constructor
  · intro hc
    have hlt := lt_of_mem_rootIds hc
    rw [hstored.parent?_of_mem_rootIds hc]
    exact ⟨by omega, rfl⟩
  · rintro ⟨hlt, hnone⟩
    rcases hstored.root_or_child (Nat.zero_le c) (by omega) with hroot | ⟨p, _, _, hparent, _⟩
    · exact hroot
    · rw [hparent] at hnone
      cases hnone

/-- The forest can be read back from the roots. -/
theorem forest?_ofForest (ns : List Node) : (ofForest ns).forest? = some ns := by
  rw [forest?, roots_ofForest, size_ofForest]
  exact (stored_ofForest ns).mapM_treeWithin _ (Nat.le_refl _)

/-- The document of a forest is a faithful layout of it, whatever the kinds of its nodes are and
whichever of them have children. -/
theorem ofForest_represents (ns : List Node) : (ofForest ns).Represents ns where
  infos := by rw [toList_entries_ofForest, map_info_entriesOfAll]
  mem_children_iff := mem_children_ofForest_iff ns
  increasing := pairwise_children_ofForest ns
  sourceOrder _ _ := map_getElem?_children_ofForest
  isBelow_iff _ _ hget _ :=
    ⟨IsBelow.bounds hget, fun hbounds => isBelow_of_bounds hget hbounds.1 hbounds.2⟩
  roots_eq := roots_ofForest_eq_filter ns
  forest_eq := forest?_ofForest ns

end MarkupAudit.Document
