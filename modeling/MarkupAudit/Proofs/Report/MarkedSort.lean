import MarkupAudit.Proofs.Report.StableSort

namespace MarkupAudit

namespace Violation

variable {κ : Type}

/-- Marked violations in the order of their places. -/
def sortMarked (marked : List (κ × Violation)) : List (κ × Violation) :=
  marked.mergeSort fun a b => a.2.noLater b.2

/-- Without their marks, violations are sorted as usual. -/
theorem map_snd_sortMarked (marked : List (κ × Violation)) :
    (sortMarked marked).map (·.2) = (marked.map (·.2)).mergeSort noLater :=
  List.map_mergeSort fun _ _ _ _ => rfl

/-- Sorting keeps some of the marked violations as it keeps all. -/
theorem filter_sortMarked (p : κ × Violation → Bool) (marked : List (κ × Violation)) :
    (sortMarked marked).filter p = sortMarked (marked.filter p) :=
  filter_mergeSort (fun a b c => noLater_trans a.2 b.2 c.2) (fun a b => noLater_total a.2 b.2) p
    marked

theorem mem_sortMarked {marked : List (κ × Violation)} {t : κ × Violation} :
    t ∈ sortMarked marked ↔ t ∈ marked :=
  List.mem_mergeSort

end Violation

end MarkupAudit
