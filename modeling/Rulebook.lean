import Rulebook.Conversion
import Rulebook.DataPath
import Rulebook.Rule
import Rulebook.Settings.App
import Rulebook.Settings.Output
import Rulebook.Proofs.Compile.Cases
import Rulebook.Proofs.Condition.Basic
import Rulebook.Proofs.Compile.Meaning
import Rulebook.Proofs.Condition.Footprint
import Rulebook.Proofs.Condition.Skipping
import Rulebook.Proofs.Condition.Regrouping
import Rulebook.Proofs.Compile.RequiredFields
import Rulebook.Proofs.Compile.FirstFault
import Rulebook.Proofs.Template.Grammar
import Rulebook.Proofs.Template.Scanning
import Rulebook.Proofs.Template.Decomposition
import Rulebook.Proofs.Template.Content
import Rulebook.Proofs.Comparison.Basic
import Rulebook.Proofs.Comparison.CaseIgnored
import Rulebook.Proofs.Compile.Regular
import Rulebook.Proofs.Condition.TermText
import Rulebook.Proofs.Compile.Batch
import Rulebook.Proofs.Compile.History
import Rulebook.Proofs.Template.Filling
import Rulebook.Proofs.Engine.History
import Rulebook.Proofs.Text.NumeralCase
import Rulebook.Proofs.Comparison.Equality
import Rulebook.Proofs.Definition.Encoding
import Rulebook.Proofs.Compile.Blueprint
import Rulebook.Proofs.Compile.Singleton
import Rulebook.Proofs.Compile.Opposites
import Rulebook.Proofs.Number.Digits
import Rulebook.Proofs.DataPath
import Rulebook.Proofs.Number.DecimalText
import Rulebook.Proofs.Number.Rounding
import Rulebook.Proofs.Number.Range
import Rulebook.Proofs.Comparison.NumericOrder
import Rulebook.Proofs.Comparison.WholeNumbers
import Rulebook.Proofs.Comparison.Parts
import Rulebook.Proofs.Conversion.Reading
import Rulebook.Proofs.Conversion.WholePart
import Rulebook.Proofs.Template.Concatenation
import Rulebook.Proofs.Conversion.Registry
import Rulebook.Proofs.Template.Resolution
import Rulebook.Proofs.Number.DecimalValue
import Rulebook.Proofs.Number.ShortestText
import Rulebook.Proofs.Conversion.SameNumber
import Rulebook.Proofs.Number.PlusSign
import Rulebook.Proofs.Text.Utf8
import Rulebook.Proofs.Text.Percent
import Rulebook.Proofs.Template.UrlSafe
import Rulebook.Proofs.Template.StringCall
import Rulebook.Proofs.Template.Offsets
import Rulebook.Proofs.Settings.Layering
import Rulebook.Proofs.Settings.Fields
import Rulebook.Proofs.Settings.Override
import Rulebook.Proofs.Settings.EnvironmentText
import Rulebook.Proofs.Settings.Variable
import Rulebook.Proofs.Json.Numbers
