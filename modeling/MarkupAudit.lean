import MarkupAudit.Main
import MarkupAudit.Proofs.Document.Faithful
import MarkupAudit.Proofs.Linter.Verify
import MarkupAudit.Proofs.Rule.Compositional
import MarkupAudit.Proofs.Rule.Configured
import MarkupAudit.Proofs.Linter.Independence
import MarkupAudit.Proofs.Config.Edits
import MarkupAudit.Proofs.Linter.Shadowed
import MarkupAudit.Proofs.Rule.Presets
import MarkupAudit.Proofs.Rule.Selected
import MarkupAudit.Proofs.Linter.SeverityTable
import MarkupAudit.Proofs.Linter.NameCase
import MarkupAudit.Proofs.Linter.Dynamic
import MarkupAudit.Proofs.Linter.Presets
import MarkupAudit.Proofs.Report.MarkedSort
import MarkupAudit.Proofs.Document.Encoded
import MarkupAudit.Proofs.Spec.NormalForm
import MarkupAudit.Proofs.Command.Check
import MarkupAudit.Proofs.Rule.CustomOrder
import MarkupAudit.Proofs.Message.Expansion
import MarkupAudit.Proofs.Rule.ClassRuns
import MarkupAudit.Proofs.Rule.ClassPlaces
import MarkupAudit.Proofs.Number.Integer
import MarkupAudit.Proofs.Spec.Complaints
import MarkupAudit.Proofs.Spec.IntegerTypes
import MarkupAudit.Proofs.Spec.Silence
import MarkupAudit.Proofs.Rule.RejectedAttributes
import MarkupAudit.Proofs.Rule.RepeatedAttributes
import MarkupAudit.Proofs.Spec.Builders
import MarkupAudit.Proofs.Document.Text
import MarkupAudit.Proofs.Document.Walk
import MarkupAudit.Proofs.Document.VisibleText
import MarkupAudit.Proofs.Rule.EmptyElements
import MarkupAudit.Proofs.Number.FloatLiteral
import MarkupAudit.Proofs.Number.RationalBounds
import MarkupAudit.Proofs.Spec.FractionTypes
import MarkupAudit.Proofs.Spec.UnitTypes
import MarkupAudit.Proofs.Spec.Enumerations
import MarkupAudit.Proofs.Number.Productions
import MarkupAudit.Proofs.Message.Alternatives
import MarkupAudit.Proofs.Linter.ClassColumns
