import Mathlib.Data.List.Perm.Basic
import MarkupAudit.Command.Basic
import MarkupAudit.Proofs.Linter.Independence
import MarkupAudit.Proofs.Report.Totals

namespace MarkupAudit.Command

/-- A document, checked by itself in a build, has an outcome. -/
def Lints (b : Build) (files : Files) (linter : Linter) (path : String) (r : LintResult) : Prop :=
  ∃ d, loadDocument files path = .ok d ∧ (linter.verify d).Gives b r

/-- A check comes to its documents, with a threshold and a linter. -/
def Prepared (files : Files) (source : ConfigSource) (o : CheckOptions) (failOn : Severity)
    (linter : Linter) : Prop :=
  ∃ config rules, loadConfig files source = .ok config ∧ config.failOnSeverity = .ok failOn ∧
    chooseRules config o.rules = .ok rules ∧
    Linter.build rules config none o.locale SpecTable.html.lookup = .ok linter

theorem Lints.documentsChecked {b : Build} {files : Files} {linter : Linter} {path : String}
    {r : LintResult} (hlints : Lints b files linter path r) : r.documentsChecked = 1 := by
  obtain ⟨d, _, hverify⟩ := hlints
  obtain ⟨_, rfl⟩ := Linter.verify_eq_ok_iff.mp (Guarded.gives_iff.mp hverify).1
  rfl

/-- There is one way only to be prepared. -/
theorem Prepared.unique {files : Files} {source : ConfigSource} {o : CheckOptions}
    {failOn failOn' : Severity} {linter linter' : Linter}
    (h : Prepared files source o failOn linter) (h' : Prepared files source o failOn' linter') :
    failOn' = failOn ∧ linter' = linter := by
  obtain ⟨config, rules, hload, hfailOn, hrules, hlinter⟩ := h
  obtain ⟨_, _, hload', hfailOn', hrules', hlinter'⟩ := h'
  cases hload.symm.trans hload'
  cases hrules.symm.trans hrules'
  exact ⟨Except.ok.inj (hfailOn'.symm.trans hfailOn), Except.ok.inj (hlinter'.symm.trans hlinter)⟩

end MarkupAudit.Command
