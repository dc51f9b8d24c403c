import Mathlib.Algebra.GroupWithZero.Nat
import MarkupAudit.Report.LintResult

namespace MarkupAudit.LintResult

/-- Outcomes one after the other, from a first one on. -/
theorem foldl_append (results : List LintResult) (first : LintResult) :
    results.foldl append first =
      { violations := first.violations ++ results.flatMap (·.violations)
        documentsChecked := first.documentsChecked + (results.map (·.documentsChecked)).sum } := by
  induction results generalizing first with
  | nil => simp
  | cons r rest ih =>
    simp only [List.foldl_cons, ih, append, List.flatMap_cons, List.map_cons, List.sum_cons,
      List.append_assoc, Nat.add_assoc]

end MarkupAudit.LintResult
