import WalkFilter.CommandLine.Help
import WalkFilter.CommandLine.Intake
import WalkFilter.CommandLine.Reading
import WalkFilter.CommandLine.Run
import WalkFilter.CommandLine.Settings
import WalkFilter.CommandLine.Switch
import WalkFilter.CommandLine.Word
import WalkFilter.Decision
import WalkFilter.Files.Content
import WalkFilter.Files.Path
import WalkFilter.Files.Tree
import WalkFilter.Filter.Audit
import WalkFilter.Filter.Builder
import WalkFilter.Filter.Group
import WalkFilter.Filter.Matcher
import WalkFilter.Filter.Operation
import WalkFilter.Filter.Operator
import WalkFilter.Filter.Source
import WalkFilter.Filter.Token
import WalkFilter.Json.Fault
import WalkFilter.Json.Numeral
import WalkFilter.Json.Reader
import WalkFilter.Json.StringLiteral
import WalkFilter.Json.Token
import WalkFilter.Json.Value
import WalkFilter.Json.Writer
import WalkFilter.LabelSet
import WalkFilter.Main
import WalkFilter.Node.Listing
import WalkFilter.Node.Sample
import WalkFilter.Proofs.CommandLine.AllOrNothing
import WalkFilter.Proofs.CommandLine.Course
import WalkFilter.Proofs.CommandLine.Effect
import WalkFilter.Proofs.CommandLine.FilterOrder
import WalkFilter.Proofs.CommandLine.JsonReport
import WalkFilter.Proofs.CommandLine.OptionOrder
import WalkFilter.Proofs.CommandLine.Reading
import WalkFilter.Proofs.CommandLine.Reported
import WalkFilter.Proofs.CommandLine.Scan
import WalkFilter.Proofs.CommandLine.Sorting
import WalkFilter.Proofs.CommandLine.Spelling
import WalkFilter.Proofs.Except
import WalkFilter.Proofs.Filter.RawDecision
import WalkFilter.Proofs.Filter.RawTokens
import WalkFilter.Proofs.Filter.SourceTokens
import WalkFilter.Proofs.Json.Document
import WalkFilter.Proofs.Json.Layout
import WalkFilter.Proofs.Json.Numeral
import WalkFilter.Proofs.Json.RoundTrip
import WalkFilter.Proofs.Json.StringLiteral
import WalkFilter.Proofs.LabelSet
import WalkFilter.Proofs.Node.Listing
import WalkFilter.Proofs.Node.ReadBack
import WalkFilter.Proofs.Node.Written
import WalkFilter.Proofs.Text.Blank
import WalkFilter.Proofs.Text.Lines
import WalkFilter.Proofs.Text.Split
import WalkFilter.Proofs.Text.Utf8
import WalkFilter.Report.Format
import WalkFilter.Report.JsonLines
import WalkFilter.Report.Table
import WalkFilter.Report.Tabular
import WalkFilter.Text.Blank
import WalkFilter.Text.CharClass
import WalkFilter.Text.Digit
import WalkFilter.Text.Hex
import WalkFilter.Text.Integer
import WalkFilter.Text.Lines
import WalkFilter.Text.Printable
import WalkFilter.Text.Quoted
import WalkFilter.Text.Split
import WalkFilter.Text.Utf8
import WalkFilter.Workbench
import WalkFilter.Proofs.Files.Content
import WalkFilter.Proofs.Filter.InlineFile
import WalkFilter.Proofs.Filter.History
import WalkFilter.Proofs.Filter.Canonical
import WalkFilter.Heap
import WalkFilter.Proofs.Heap.Memory
import WalkFilter.Proofs.Heap.Sound
import WalkFilter.Proofs.Heap.Steps
import WalkFilter.Proofs.Heap.View
import WalkFilter.Proofs.Heap.Isolation
import WalkFilter.Proofs.Filter.Loading
import WalkFilter.Proofs.Filter.Precedence
import WalkFilter.Proofs.Json.Overlong
import WalkFilter.Proofs.Node.Acceptance
import WalkFilter.Proofs.Node.Diagnosis
import WalkFilter.Proofs.Filter.Verdict
import WalkFilter.Proofs.Filter.OneMoreToken
import WalkFilter.Proofs.Node.MinLevel
import WalkFilter.Proofs.CommandLine.Limit
import WalkFilter.Proofs.Report.Description
import WalkFilter.Proofs.Heap.Description
import WalkFilter.Proofs.Text.Newlines
import WalkFilter.Proofs.CommandLine.Intake
import WalkFilter.Proofs.Files.LineEndings
import WalkFilter.Proofs.Report.Agreement
import WalkFilter.Proofs.Report.Rows
import WalkFilter.Proofs.Report.Lines
import WalkFilter.Proofs.Node.LabelList
import WalkFilter.Proofs.Text.Quoted
import WalkFilter.Proofs.Filter.Audit
import WalkFilter.Proofs.Heap.Matchers
import WalkFilter.CodeText
import WalkFilter.Proofs.CodeText
import WalkFilter.Proofs.Json.FewDigits
import WalkFilter.Proofs.Report.Request
