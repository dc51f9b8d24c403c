import MarkupAudit.Document.Basic
import MarkupAudit.Proofs.Source.Forest

namespace MarkupAudit

@[simp]
theorem Entry.withChildren_nil (e : Entry) : e.withChildren [] = e := by
  simp [withChildren]

@[simp]
theorem Entry.withChildren_withChildren (e : Entry) (ids more : List Nat) :
    (e.withChildren ids).withChildren more = e.withChildren (ids ++ more) := by
  simp [withChildren]

/-- The numbers of the trees of a forest whose first tree has the number `id`. -/
def rootIds (id : Nat) : List Node → List Nat
  | [] => []
  | n :: rest => id :: rootIds (id + n.size) rest

mutual

/-- The numbered nodes of a tree whose root has the number `id`. -/
def entriesOf (parent : Option Nat) (id : Nat) : Node → List Entry
  | .mk info children =>
    ⟨info, parent, rootIds (id + 1) children⟩ :: entriesOfAll (some id) (id + 1) children

/-- The numbered nodes of a forest whose first tree has the number `id`. -/
def entriesOfAll (parent : Option Nat) (id : Nat) : List Node → List Entry
  | [] => []
  | n :: rest => entriesOf parent id n ++ entriesOfAll parent (id + n.size) rest

end

/-- A tree is stored as its root, which knows the numbers of its children, and then the children. -/
@[simp]
theorem entriesOf_mk (parent : Option Nat) (id : Nat) (info : NodeInfo) (children : List Node) :
    entriesOf parent id (.mk info children) =
      ⟨info, parent, rootIds (id + 1) children⟩ :: entriesOfAll (some id) (id + 1) children := by
  rw [entriesOf]

@[simp]
theorem entriesOfAll_nil (parent : Option Nat) (id : Nat) : entriesOfAll parent id [] = [] := by
  rw [entriesOfAll]

/-- The other trees of a forest follow behind as many numbers as the first one has nodes. -/
@[simp]
theorem entriesOfAll_cons (parent : Option Nat) (id : Nat) (n : Node) (rest : List Node) :
    entriesOfAll parent id (n :: rest) =
      entriesOf parent id n ++ entriesOfAll parent (id + n.size) rest := by
  rw [entriesOfAll]

/-- A forest takes as many entries as it has nodes. -/
theorem length_entriesOfAll (parent : Option Nat) (id : Nat) (ns : List Node) :
    (entriesOfAll parent id ns).length = Node.sizeAll ns := by
  induction ns using Node.forest_induction generalizing parent id with
  | nil => simp
  | cons info children rest ihChildren ihRest =>
    simp only [entriesOfAll_cons, entriesOf_mk, List.length_append, List.length_cons, ihChildren,
      ihRest, Node.sizeAll_cons, Node.size_mk]
    omega

theorem length_entriesOf (parent : Option Nat) (id : Nat) (n : Node) :
    (entriesOf parent id n).length = n.size := by
  have h := length_entriesOfAll parent id [n]
  simpa using h

private theorem modify_length_append {α : Type} (before after : List α) (a : α) (f : α → α) :
    (before ++ a :: after).modify before.length f = before ++ f a :: after := by
  induction before with
  | nil => simp
  | cons b before ih => simp [ih]

/-- Linking a child changes nothing but its parent. -/
theorem toList_linkChild {entries : Array Entry} {before after : List Entry} {e : Entry}
    (hentries : entries.toList = before ++ e :: after) (child : Nat) :
    (linkChild entries before.length child).toList = before ++ e.withChildren [child] :: after := by
  rw [linkChild, Array.toList_modify, hentries, modify_length_append]

mutual

/-- A tree enters behind all that is there, which stays as it is. -/
theorem toList_insertTree (entries : Array Entry) (parent : Option Nat) : ∀ n : Node,
    (insertTree entries parent n).toList = entries.toList ++ entriesOf parent entries.size n
  | .mk info children => by
    have hpush : (entries.push ⟨info, parent, []⟩).toList =
        entries.toList ++ ⟨info, parent, []⟩ :: [] := Array.toList_push
    have hchildren := toList_insertChildren hpush children
    rw [Array.length_toList, Array.size_push] at hchildren
    rw [insertTree, hchildren, entriesOf_mk]
    simp [Entry.withChildren]

/-- Children enter behind all that is there. Of what is there, only their parent changes: it gets
their numbers behind those of the children it has. -/
theorem toList_insertChildren {entries : Array Entry} {before after : List Entry} {e : Entry}
    (hentries : entries.toList = before ++ e :: after) : ∀ ns : List Node,
    (insertChildren entries before.length ns).toList =
      before ++ e.withChildren (rootIds entries.size ns) :: after ++
        entriesOfAll (some before.length) entries.size ns
  | [] => by simp [insertChildren, rootIds, hentries]
  | n :: rest => by
    have htree : (insertTree entries (some before.length) n).toList =
        before ++ e :: (after ++ entriesOf (some before.length) entries.size n) := by
      rw [toList_insertTree, hentries, List.append_assoc, List.cons_append]
    have hlinked := toList_linkChild htree entries.size
    have hsize : (linkChild (insertTree entries (some before.length) n) before.length
        entries.size).size = entries.size + n.size := by
      rw [← Array.length_toList, hlinked, ← Array.length_toList, hentries]
      simp only [List.length_append, List.length_cons, length_entriesOf]
      omega
    have hrest := toList_insertChildren hlinked rest
    rw [hsize] at hrest
    rw [insertChildren, hrest, rootIds, entriesOfAll_cons, Entry.withChildren_withChildren]
    simp

end

namespace Document

/-- Adding trees appends their nodes, and their roots to the roots. -/
theorem foldl_addTree (ns : List Node) (d : Document) :
    ns.foldl addTree d =
      { d with
        entries := (d.entries.toList ++ entriesOfAll none d.size ns).toArray
        roots := d.roots ++ rootIds d.size ns } := by
  induction ns generalizing d with
  | nil => simp [rootIds]
  | cons n rest ih =>
    have hsize : (d.addTree n).size = d.size + n.size := by
      simp only [size, addTree]
      rw [← Array.length_toList, toList_insertTree, List.length_append, length_entriesOf,
        Array.length_toList]
    rw [List.foldl_cons, ih, hsize]
    simp only [addTree, toList_insertTree, rootIds, entriesOfAll_cons, size, List.append_assoc,
      List.singleton_append]

/-- Insertion comes to what is described without it. -/
theorem toList_entries_ofForest (ns : List Node) :
    (ofForest ns).entries.toList = entriesOfAll none 0 ns := by
  rw [ofForest, foldl_addTree]
  simp [size]

/-- The numbers of the roots follow from the sizes of the trees. -/
theorem roots_ofForest (ns : List Node) : (ofForest ns).roots = rootIds 0 ns := by
  rw [ofForest, foldl_addTree]
  simp [size]

theorem size_ofForest (ns : List Node) : (ofForest ns).size = Node.sizeAll ns := by
  rw [size, ← Array.length_toList, toList_entries_ofForest, length_entriesOfAll]

end Document

end MarkupAudit
