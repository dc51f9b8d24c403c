import MarkupAudit.Text.Split

namespace MarkupAudit.Text

variable {α : Type} {p : α → Bool}

/-- Induction over the separators of a list: a list without separators, or a piece and a separator
before another list. -/
@[elab_as_elim]
theorem separator_induction {motive : List α → Prop}
    (last : ∀ piece, (∀ x ∈ piece, p x = false) → motive piece)
    (more : ∀ piece a rest, (∀ x ∈ piece, p x = false) → p a = true → motive rest →
      motive (piece ++ a :: rest)) (xs : List α) : motive xs := by
  -- A piece is read from its front, so what has been read of it is carried along.
  have hread : ∀ read : List α, (∀ x ∈ read, p x = false) → motive (read ++ xs) := by
    induction xs with
    | nil =>
      intro read hread
      rw [List.append_nil]
      exact last read hread
    | cons a rest ih =>
      intro read hread
      cases ha : p a with
      | true => exact more read a rest hread ha (ih [] (by simp))
      | false =>
        rw [List.append_cons]
        apply ih
        intro x hx
        rcases List.mem_append.mp hx with hx | hx
        · exact hread x hx
        · rw [List.mem_singleton.mp hx, ha]
  exact hread [] (by simp)

theorem cut_of_forall {xs : List α} (hxs : ∀ x ∈ xs, p x = false) : cut p xs = (xs, none) := by
  induction xs with
  | nil => rfl
  | cons x xs ih =>
    have hx : p x = false := hxs x List.mem_cons_self
    have hrest := ih fun y hy => hxs y (List.mem_cons_of_mem x hy)
    simp [cut, hx, hrest]

/-- A cut is made at the first separator. -/
theorem cut_append {xs : List α} {a : α} (hxs : ∀ x ∈ xs, p x = false) (ha : p a = true)
    (rest : List α) : cut p (xs ++ a :: rest) = (xs, some rest) := by
  induction xs with
  | nil => simp [cut, ha]
  | cons x xs ih =>
    have hx : p x = false := hxs x List.mem_cons_self
    have hrest := ih fun y hy => hxs y (List.mem_cons_of_mem x hy)
    simp [cut, hx, hrest]

/-- What is cut has no separator and stays whole, or is cut at its first one. -/
theorem cut_cases (p : α → Bool) (xs : List α) :
    cut p xs = (xs, none) ∨
      ∃ piece a rest, xs = piece ++ a :: rest ∧ p a = true ∧ cut p xs = (piece, some rest) := by
  induction xs using separator_induction (p := p) with
  | last piece hpiece => exact .inl (cut_of_forall hpiece)
  | more piece a rest hpiece ha _ =>
    exact .inr ⟨piece, a, rest, rfl, ha, cut_append hpiece ha rest⟩

end MarkupAudit.Text
