import MarkupAudit.Proofs.Document.Numbering

namespace MarkupAudit

theorem le_of_mem_rootIds {id c : Nat} {ns : List Node} (hc : c ∈ rootIds id ns) : id ≤ c := by
  induction ns generalizing id with
  | nil => simp [rootIds] at hc
  | cons n rest ih =>
    simp only [rootIds, List.mem_cons] at hc
    rcases hc with rfl | hc
    · exact Nat.le_refl c
    · exact Nat.le_trans (Nat.le_add_right id n.size) (ih hc)

/-- The numbers of the roots stay below the end of the forest. -/
theorem lt_of_mem_rootIds {id c : Nat} {ns : List Node} (hc : c ∈ rootIds id ns) :
    c < id + Node.sizeAll ns := by
  induction ns generalizing id with
  | nil => simp [rootIds] at hc
  | cons n rest ih =>
    simp only [rootIds, List.mem_cons] at hc
    rcases hc with rfl | hc
    · have hpositive := n.size_pos
      simp only [Node.sizeAll_cons]
      omega
    · have hlt := ih hc
      simp only [Node.sizeAll_cons]
      omega

/-- The numbers of the roots go upwards. -/
theorem pairwise_rootIds (id : Nat) (ns : List Node) : (rootIds id ns).Pairwise (· < ·) := by
  induction ns generalizing id with
  | nil => simp [rootIds]
  | cons n rest ih =>
    refine List.pairwise_cons.mpr ⟨fun c hc => ?_, ih (id + n.size)⟩
    have hle := le_of_mem_rootIds hc
    have hpositive := n.size_pos
    omega

namespace Document

/-- A document keeps a forest from the number `id` on, with the given parent for its trees. -/
inductive Stored (d : Document) : Option Nat → Nat → List Node → Prop where
  | nil {parent : Option Nat} {id : Nat} : Stored d parent id []
  | cons {parent : Option Nat} {id : Nat} {info : NodeInfo} {children rest : List Node}
      (hentry : d.entry? id = some ⟨info, parent, rootIds (id + 1) children⟩)
      (hchildren : Stored d (some id) (id + 1) children)
      (hrest : Stored d parent (id + (Node.mk info children).size) rest) :
      Stored d parent id (.mk info children :: rest)

theorem entry?_eq_getElem? (d : Document) (id : Nat) : d.entry? id = d.entries.toList[id]? :=
  Array.getElem?_toList.symm

/-- A forest is stored where its numbered nodes stand among all. -/
theorem stored_of_segment {d : Document} {parent : Option Nat} {id : Nat} {ns : List Node}
    (before after : List Entry)
    (hentries : d.entries.toList = before ++ entriesOfAll parent id ns ++ after)
    (hid : before.length = id) : d.Stored parent id ns := by
  induction ns using Node.forest_induction generalizing parent id before after with
  | nil => exact .nil
  | cons info children rest ihChildren ihRest =>
    rw [entriesOfAll_cons, entriesOf_mk] at hentries
    let root : Entry := ⟨info, parent, rootIds (id + 1) children⟩
    refine .cons ?_ ?_ ?_
    · rw [entry?_eq_getElem?, hentries]
      simp [hid]
    · apply ihChildren (before ++ [root])
        (entriesOfAll parent (id + (Node.mk info children).size) rest ++ after)
      · simp [hentries, root]
      · simp [hid]
    · apply ihRest (before ++ (root :: entriesOfAll (some id) (id + 1) children)) after
      · simp [hentries, root]
      · simp only [List.length_append, List.length_cons, length_entriesOfAll, Node.size_mk, hid]
        omega

/-- The document of a forest stores it from the start, without a parent. -/
theorem stored_ofForest (ns : List Node) : (ofForest ns).Stored none 0 ns := by
  apply stored_of_segment [] []
  · rw [toList_entries_ofForest, List.nil_append, List.append_nil]
  · rfl

namespace Stored

variable {d : Document} {parent : Option Nat} {id : Nat} {ns : List Node}

/-- What is stored first. -/
theorem entry_eq {t : Node} (hstored : d.Stored parent id [t]) :
    d.entry? id = some ⟨t.info, parent, rootIds (id + 1) t.children⟩ := by
  cases hstored with
  | cons hentry _ _ => exact hentry

/-- The numbers of the children of a stored tree follow from their sizes. -/
theorem children_eq {t : Node} (hstored : d.Stored parent id [t]) :
    d.children id = rootIds (id + 1) t.children := by
  rw [Document.children, hstored.entry_eq]
  rfl

/-- The children of a stored tree are stored right behind its root. -/
theorem forest_children {t : Node} (hstored : d.Stored parent id [t]) :
    d.Stored (some id) (id + 1) t.children := by
  cases hstored with
  | cons _ hchildren _ => exact hchildren

/-- Every tree within a stored forest is stored, as far behind the first tree as it comes after it
in document order. -/
theorem subtree (hstored : d.Stored parent id ns) {k : Nat} {t : Node}
    (hget : (Node.preorderAll ns)[k]? = some t) : ∃ owner, d.Stored owner (id + k) [t] := by
  induction hstored generalizing k with
  | nil => simp at hget
  | @cons parent id info children rest hentry hchildren _ ihChildren ihRest =>
    simp only [Node.preorderAll_cons, Node.preorder_mk, List.cons_append] at hget
    cases k with
    | zero =>
      obtain rfl : Node.mk info children = t := by simpa using hget
      exact ⟨parent, .cons hentry hchildren .nil⟩
    | succ k =>
      rw [List.getElem?_cons_succ] at hget
      by_cases hinside : k < (Node.preorderAll children).length
      · rw [List.getElem?_append_left hinside] at hget
        obtain ⟨owner, hsub⟩ := ihChildren hget
        exact ⟨owner, by rwa [show id + (k + 1) = id + 1 + k by omega]⟩
      · rw [List.getElem?_append_right (by omega)] at hget
        obtain ⟨owner, hsub⟩ := ihRest hget
        refine ⟨owner, ?_⟩
        rw [Node.length_preorderAll] at hinside hsub
        rwa [Node.size_mk, show id + (1 + Node.sizeAll children) + (k - Node.sizeAll children) =
          id + (k + 1) by omega] at hsub

/-- The trees of a stored forest have its parent. -/
theorem parent?_of_mem_rootIds (hstored : d.Stored parent id ns) {c : Nat}
    (hc : c ∈ rootIds id ns) : d.parent? c = parent := by
  induction hstored with
  | nil => simp [rootIds] at hc
  | cons hentry _ _ _ ihRest =>
    simp only [rootIds, List.mem_cons] at hc
    rcases hc with rfl | hc
    · rw [parent?, hentry]
      rfl
    · exact ihRest hc

/-- A number within a stored forest is that of one of its trees, or of a child of an earlier node of
the forest. -/
theorem root_or_child (hstored : d.Stored parent id ns) {c : Nat} (hlo : id ≤ c)
    (hhi : c < id + Node.sizeAll ns) :
    c ∈ rootIds id ns ∨ ∃ p, id ≤ p ∧ p < c ∧ d.parent? c = some p ∧ c ∈ d.children p := by
  induction hstored with
  | nil =>
    simp only [Node.sizeAll_nil] at hhi
    omega
  | @cons parent id info children rest hentry hchildren _ ihChildren ihRest =>
    simp only [Node.sizeAll_cons, Node.size_mk] at hhi ihRest
    by_cases hroot : c = id
    · exact .inl (by simp [rootIds, hroot])
    · by_cases hinside : c < id + 1 + Node.sizeAll children
      · refine .inr ?_
        rcases ihChildren (by omega) hinside with hchild | ⟨p, hp, hlt, hparent, hmem⟩
        · refine ⟨id, Nat.le_refl id, by omega, hchildren.parent?_of_mem_rootIds hchild, ?_⟩
          rw [Document.children, hentry]
          exact hchild
        · exact ⟨p, by omega, hlt, hparent, hmem⟩
      · rcases ihRest (by omega) (by omega) with hmem | ⟨p, hp, hlt, hparent, hmem⟩
        · exact .inl (by simp [rootIds, hmem])
        · exact .inr ⟨p, by omega, hlt, hparent, hmem⟩

/-- The trees of a stored forest are found by their numbers. -/
theorem map_info?_rootIds (hstored : d.Stored parent id ns) :
    (rootIds id ns).map d.info? = ns.map fun n => some n.info := by
  induction hstored with
  | nil => rfl
  | cons hentry _ _ _ ihRest =>
    rw [rootIds, List.map_cons, List.map_cons, ihRest, info?, hentry]
    rfl

/-- Through these numbers the children are found. -/
theorem childInfos_eq (hstored : d.Stored parent id ns) (info : NodeInfo) (owner : Option Nat) :
    d.childInfos ⟨info, owner, rootIds id ns⟩ = ns.map (·.info) := by
  have hfound := congrArg (List.filterMap fun i => i) hstored.map_info?_rootIds
  simpa [childInfos, List.filterMap_map, Function.comp_def] using hfound

/-- Going through the numbers of a stored forest, and looking up children by theirs, shows the
same as going through its trees. -/
theorem map_view (hstored : d.Stored parent id ns) :
    (entriesOfAll parent id ns).map (fun e => (e.info, d.childInfos e)) =
      (Node.preorderAll ns).map fun t => (t.info, t.children.map (·.info)) := by
  induction hstored with
  | nil => simp
  | @cons parent id info children rest _ hchildren _ ihChildren ihRest =>
    simp only [entriesOfAll_cons, entriesOf_mk, Node.preorderAll_cons, Node.preorder_mk,
      List.map_append, List.map_cons, ihChildren, ihRest,
      hchildren.childInfos_eq info parent, Node.info, Node.children]

end Stored

/-- A document shows its nodes, with what their children are, as the source has them. -/
theorem map_view_ofForest (ns : List Node) :
    (ofForest ns).entries.toList.map (fun e => (e.info, (ofForest ns).childInfos e)) =
      (Node.preorderAll ns).map fun t => (t.info, t.children.map (·.info)) := by
  rw [toList_entries_ofForest]
  exact (stored_ofForest ns).map_view

end Document

end MarkupAudit
