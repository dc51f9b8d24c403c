import MarkupAudit.Source.Node

namespace MarkupAudit

/-- A numbered node: what it is, and the numbers of its parent and of its children. -/
structure Entry where
  info : NodeInfo
  parent : Option Nat
  children : List Nat
  deriving DecidableEq, Repr

/-- The entry with more children behind those it has. -/
def Entry.withChildren (e : Entry) (ids : List Nat) : Entry :=
  { e with children := e.children ++ ids }

/-- A document: a forest of nodes, numbered in document order. A node comes before its children, and
the descendants of a node have the numbers right after its own. -/
structure Document where
  path : Option String := none
  entries : Array Entry := #[]
  roots : List Nat := []

/-- The numbered nodes with one more child for a node. -/
def linkChild (entries : Array Entry) (id child : Nat) : Array Entry :=
  entries.modify id (·.withChildren [child])

mutual

/-- The numbered nodes with a tree behind them. Its root has the next number. -/
def insertTree (entries : Array Entry) (parent : Option Nat) : Node → Array Entry
  | .mk info children =>
    let id := entries.size
    insertChildren (entries.push ⟨info, parent, []⟩) id children

/-- The numbered nodes with trees behind them that are children of a node. A child is known to its
parent as soon as its own tree is complete. -/
def insertChildren (entries : Array Entry) (id : Nat) : List Node → Array Entry
  | [] => entries
  | n :: rest =>
    let child := entries.size
    insertChildren (linkChild (insertTree entries (some id) n) id child) id rest

end

namespace Document

/-- The document with one more tree. -/
def addTree (d : Document) (n : Node) : Document :=
  let id := d.entries.size
  { d with entries := insertTree d.entries none n, roots := d.roots ++ [id] }

/-- The document of a forest. -/
def ofForest (nodes : List Node) : Document :=
  nodes.foldl addTree {}

/-- The document under a path. -/
def withPath (d : Document) (path : String) : Document :=
  { d with path := some path }

/-- How many nodes the document has. -/
def size (d : Document) : Nat :=
  d.entries.size

/-- The node of a number. -/
def entry? (d : Document) (id : Nat) : Option Entry :=
  d.entries[id]?

/-- What the node of a number is by itself. -/
def info? (d : Document) (id : Nat) : Option NodeInfo :=
  (d.entry? id).map (·.info)

/-- The number of a node's parent. -/
def parent? (d : Document) (id : Nat) : Option Nat :=
  (d.entry? id).bind (·.parent)

/-- The numbers of a node's children. -/
def children (d : Document) (id : Nat) : List Nat :=
  ((d.entry? id).map (·.children)).getD []

/-- What the children of a node are by themselves, in source order. -/
def childInfos (d : Document) (e : Entry) : List NodeInfo :=
  e.children.filterMap d.info?

end Document

/-- A walk: it looks for nodes of a kind, and has come to a number. -/
structure Walk where
  document : Document
  kind : NodeKind
  position : Nat := 0

namespace Walk

/-- How many numbers are ahead. -/
def ahead (w : Walk) : Nat :=
  w.document.size - w.position

/-- The next node of the kind, if there is one, and the walk behind it. Other nodes are passed
over. -/
def next (w : Walk) : Option Nat × Walk :=
  if w.position < w.document.size then
    let behind := { w with position := w.position + 1 }
    if (w.document.info? w.position).any (·.kind == w.kind) then (some w.position, behind)
    else behind.next
  else (none, w)
termination_by w.ahead
decreasing_by simp only [ahead]; omega

/-- Finding a node takes the walk ahead. -/
theorem ahead_lt_of_next {w behind : Walk} {id : Nat} (hnext : w.next = (some id, behind)) :
    behind.ahead < w.ahead := by
  fun_induction next w with
  | case1 w hinside after _ =>
    obtain rfl : after = behind := congrArg Prod.snd hnext
    simp only [after, ahead]
    omega
  | case2 w hinside after _ ih =>
    have hstep : after.ahead < w.ahead := by
      simp only [after, ahead]
      omega
    exact Nat.lt_trans (ih hnext) hstep
  | case3 => cases hnext

/-- The nodes that the walk finds until there is none. -/
def toList (w : Walk) : List Nat :=
  match hnext : w.next with
  | (some id, behind) =>
    have := ahead_lt_of_next hnext
    id :: behind.toList
  | (none, _) => []
termination_by w.ahead

/-- Visits the nodes that the walk finds, each before the next one is looked for. -/
def forM {m : Type → Type} [Monad m] (w : Walk) (visit : Nat → m Unit) : m Unit :=
  match hnext : w.next with
  | (some id, behind) => do
    have := ahead_lt_of_next hnext
    visit id
    behind.forM visit
  | (none, _) => pure ()
termination_by w.ahead

end Walk

namespace Document

/-- The numbers of the nodes of a kind, in document order. -/
def walk (d : Document) (kind : NodeKind) : List Nat :=
  Walk.toList { document := d, kind }

/-- Visits the nodes of a kind in document order. In a monad with errors the first one ends the
walk. -/
def walkOn {m : Type → Type} [Monad m] (d : Document) (kind : NodeKind) (visit : Nat → m Unit) :
    m Unit :=
  Walk.forM { document := d, kind } visit

/-- The elements, in document order. -/
def elements (d : Document) : List Entry :=
  d.entries.toList.filter (·.info.kind == .element)

/-- The text of a node, looking at most so many levels deep. -/
def textWithin (d : Document) : Nat → Nat → String
  | 0, _ => ""
  | depth + 1, id =>
    match d.entry? id with
    | none => ""
    | some e =>
      match e.info.kind with
      | .text => e.info.value
      | .element => String.join (e.children.map (d.textWithin depth))
      | .comment => ""
      | .doctype => ""

/-- The visible text of a node: the value of a text, and for an element what its children show. No
path through the document is longer than its number of nodes. -/
def textContent (d : Document) (id : Nat) : String :=
  d.textWithin d.size id

end Document

end MarkupAudit
