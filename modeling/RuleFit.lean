import RuleFit.Binary64.Decimal
import RuleFit.Text.Utf8
import RuleFit.Text.Width
import RuleFit.Sorting.Merge
import RuleFit.Datum.Equality
import RuleFit.Datum.Json
import RuleFit.Candidate.Distinct
import RuleFit.Schema.Reading
import RuleFit.Schema.Fit
import RuleFit.RuleTable
import RuleFit.Expansion
import RuleFit.Splice.Values
import RuleFit.Catalog.Basic
import RuleFit.Settings.Basic
import RuleFit.Choice
import RuleFit.Engine.Scripted
import RuleFit.Trial
import RuleFit.Inference
import RuleFit.Report.Porcelain
import RuleFit.Report.Table
import RuleFit.Yaml.Source
import RuleFit.Corpus
import RuleFit.Catalog.File
import RuleFit.Settings.File
import RuleFit.Engine.Lookup
import RuleFit.Command.Basic
import RuleFit.Main
import RuleFit.Proofs.Batching
import RuleFit.Proofs.Failure
import RuleFit.Proofs.Generation
import RuleFit.Proofs.Attribution
import RuleFit.Proofs.Enumeration
import RuleFit.Proofs.Distinctness
import RuleFit.Proofs.Partition
import RuleFit.Proofs.History
import RuleFit.Proofs.Reordering
import RuleFit.Proofs.Fixpoint
import RuleFit.Proofs.Log
import RuleFit.Proofs.Provenance
import RuleFit.Proofs.Specificity
import RuleFit.Proofs.Evidence
import RuleFit.Proofs.Inertness
import RuleFit.Proofs.Embedding
import RuleFit.Proofs.Selection
import RuleFit.Proofs.CatalogFile
import RuleFit.Proofs.SettingsFile
import RuleFit.Proofs.Transposition
import RuleFit.Proofs.Counting
import RuleFit.Proofs.Growth
import RuleFit.Proofs.Assembly
import RuleFit.Proofs.Native
import RuleFit.Proofs.Calls
import RuleFit.Proofs.Keys
import RuleFit.Proofs.Rejection
import RuleFit.Proofs.CatalogForm
import RuleFit.Proofs.CatalogRules
import RuleFit.Proofs.SettingsForm
import RuleFit.Proofs.Porcelain
