import MarkupAudit.Source.Node

namespace MarkupAudit.Node

/-- Induction over forests. A tree needs no statement of its own: it is a forest of one tree. -/
@[elab_as_elim]
theorem forest_induction {motive : List Node → Prop} (nil : motive [])
    (cons : ∀ info children rest, motive children → motive rest →
      motive (.mk info children :: rest)) : ∀ ns, motive ns
  | [] => nil
  | .mk info children :: rest =>
    cons info children rest (forest_induction nil cons children) (forest_induction nil cons rest)

mutual

/-- The trees within a tree, itself first, in document order. -/
def preorder : Node → List Node
  | .mk info children => .mk info children :: preorderAll children

/-- The trees within a forest, in document order. -/
def preorderAll : List Node → List Node
  | [] => []
  | n :: rest => n.preorder ++ preorderAll rest

end

@[simp]
theorem size_mk (info : NodeInfo) (children : List Node) :
    (Node.mk info children).size = 1 + sizeAll children := by
  rw [size]

theorem size_pos (n : Node) : 0 < n.size := by
  cases n with
  | mk info children =>
    rw [size_mk]
    omega

@[simp]
theorem sizeAll_nil : sizeAll [] = 0 := by
  rw [sizeAll]

@[simp]
theorem sizeAll_cons (n : Node) (rest : List Node) :
    sizeAll (n :: rest) = n.size + sizeAll rest := by
  rw [sizeAll]

@[simp]
theorem preorder_mk (info : NodeInfo) (children : List Node) :
    (Node.mk info children).preorder = .mk info children :: preorderAll children := by
  rw [preorder]

@[simp]
theorem preorderAll_nil : preorderAll [] = [] := by
  rw [preorderAll]

@[simp]
theorem preorderAll_cons (n : Node) (rest : List Node) :
    preorderAll (n :: rest) = n.preorder ++ preorderAll rest := by
  rw [preorderAll]

/-- The trees of a forest come one after the other. -/
theorem preorderAll_eq_flatMap (ns : List Node) : preorderAll ns = ns.flatMap preorder := by
  induction ns with
  | nil => simp
  | cons n rest ih => simp [ih]

/-- Document order has each node once. -/
theorem length_preorderAll (ns : List Node) : (preorderAll ns).length = sizeAll ns := by
  induction ns using forest_induction with
  | nil => simp
  | cons info children rest ihChildren ihRest =>
    simp only [preorderAll_cons, preorder_mk, sizeAll_cons, size_mk, List.length_append,
      List.length_cons, ihChildren, ihRest]
    omega

theorem length_preorder (n : Node) : n.preorder.length = n.size := by
  cases n with
  | mk info children =>
    simp only [preorder_mk, size_mk, List.length_cons, length_preorderAll]
    omega

/-- The trees within a tree of a forest stand together, right behind the tree itself. -/
theorem exists_preorder_segment {ns : List Node} {k : Nat} {t : Node}
    (hget : (preorderAll ns)[k]? = some t) :
    ∃ before after, preorderAll ns = before ++ t.preorder ++ after ∧ before.length = k := by
  induction ns using forest_induction generalizing k with
  | nil => simp at hget
  | cons info children rest ihChildren ihRest =>
    simp only [preorderAll_cons, preorder_mk, List.cons_append] at hget ⊢
    cases k with
    | zero =>
      obtain rfl : Node.mk info children = t := by simpa using hget
      exact ⟨[], preorderAll rest, by simp, rfl⟩
    | succ k =>
      rw [List.getElem?_cons_succ] at hget
      by_cases hinside : k < (preorderAll children).length
      · rw [List.getElem?_append_left hinside] at hget
        obtain ⟨before, after, heq, hlength⟩ := ihChildren hget
        exact ⟨.mk info children :: before, after ++ preorderAll rest, by simp [heq],
          by simp [hlength]⟩
      · rw [List.getElem?_append_right (by omega)] at hget
        obtain ⟨before, after, heq, hlength⟩ := ihRest hget
        refine ⟨.mk info children :: (preorderAll children ++ before), after, by simp [heq], ?_⟩
        simp only [List.length_cons, List.length_append, hlength]
        omega

end MarkupAudit.Node
