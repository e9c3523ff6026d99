import VersionFloor.Main
import VersionFloor.Proofs.Analysis.Accumulation
import VersionFloor.Proofs.Analysis.Failure
import VersionFloor.Proofs.Analysis.MinimumVersion
import VersionFloor.Proofs.Analysis.Repetition
import VersionFloor.Version.Json
import VersionFloor.Proofs.Analysis.ImportForm
import VersionFloor.Proofs.Analysis.Rebinding
import VersionFloor.Proofs.Analysis.RelativeImport
import VersionFloor.Proofs.Json.ReadBack
import VersionFloor.Proofs.Version.Text
import VersionFloor.Proofs.Changelog.Built
import VersionFloor.Proofs.Changelog.Text
import VersionFloor.Proofs.Analysis.Baseline
import VersionFloor.Proofs.Analysis.Independence
import VersionFloor.Proofs.Analysis.StatementOrder
import VersionFloor.Proofs.Changelog.Search
import VersionFloor.Proofs.Changelog.WellFormed
import VersionFloor.Proofs.Cache.History
import VersionFloor.Proofs.Changelog.Rows
import VersionFloor.Proofs.Settings.Layers
import VersionFloor.Proofs.Walk.Batch
import VersionFloor.Proofs.Path
import VersionFloor.Proofs.FileTree.Resolution
import VersionFloor.Proofs.FileTree.WellFormed
import VersionFloor.Proofs.Walk.Discovery
import VersionFloor.Proofs.Glob.Plain
import VersionFloor.Proofs.Glob.Expand
import VersionFloor.Proofs.Changelog.Folder
import VersionFloor.Proofs.Changelog.Merge
import VersionFloor.Proofs.Changelog.Written
import VersionFloor.Proofs.Order
import VersionFloor.Proofs.Version.Grammar
import VersionFloor.Proofs.Requirement.Order
import VersionFloor.Proofs.Report.Listing
import VersionFloor.Proofs.Changelog.Records
import VersionFloor.Proofs.Json.Value
import VersionFloor.Proofs.Output.Csv
import VersionFloor.Proofs.Output.Structured
import VersionFloor.Proofs.Text.Lines
import VersionFloor.Proofs.Output.Colors
import VersionFloor.Proofs.Settings.Availability
import VersionFloor.Proofs.Settings.Soundness
import VersionFloor.Proofs.Settings.Refusal
import VersionFloor.Proofs.FileTree.Writing
import VersionFloor.Proofs.Settings.Template
import VersionFloor.Proofs.Changelog.Lookup
import VersionFloor.Proofs.Cache.Interleaving
import VersionFloor.Proofs.Script.LineNumber
