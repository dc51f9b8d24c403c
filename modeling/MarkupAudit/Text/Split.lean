namespace MarkupAudit.Text

/-- Cuts a list at the first element that satisfies `p`: what stands before it, and, if there is
such an element, what stands after it. -/
def cut {α : Type} (p : α → Bool) : List α → List α × Option (List α)
  | [] => ([], none)
  | a :: rest =>
    if p a then ([], some rest)
    else
      let (before, after) := cut p rest
      (a :: before, after)

/-- What follows `start` in a list that starts with it. -/
def dropStart? {α : Type} [BEq α] : List α → List α → Option (List α)
  | [], cs => some cs
  | _ :: _, [] => none
  | a :: start, c :: cs => if a == c then dropStart? start cs else none

end MarkupAudit.Text
