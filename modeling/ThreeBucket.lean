import ThreeBucket.Bench
import ThreeBucket.Binary64
import ThreeBucket.Binary64.Shortest
import ThreeBucket.Binary64.Text
import ThreeBucket.Buckets
import ThreeBucket.Check
import ThreeBucket.Choice
import ThreeBucket.CommandLine
import ThreeBucket.CommandLine.Help
import ThreeBucket.CommandLine.Reader
import ThreeBucket.CommandLine.Resolve
import ThreeBucket.Comparator
import ThreeBucket.Explanation
import ThreeBucket.Failure
import ThreeBucket.Log
import ThreeBucket.Log.Filter
import ThreeBucket.Main
import ThreeBucket.Memory
import ThreeBucket.Program
import ThreeBucket.Proofs.CallTree
import ThreeBucket.Proofs.Calls
import ThreeBucket.Proofs.CanonicalForm
import ThreeBucket.Proofs.Certificate
import ThreeBucket.Proofs.Checks
import ThreeBucket.Proofs.Completion
import ThreeBucket.Proofs.Conservation
import ThreeBucket.Proofs.CounterWords
import ThreeBucket.Proofs.CsvReport
import ThreeBucket.Proofs.DeepRecursion
import ThreeBucket.Proofs.Descent
import ThreeBucket.Proofs.Discipline
import ThreeBucket.Proofs.DocumentLines
import ThreeBucket.Proofs.Explanations
import ThreeBucket.Proofs.FirstMissing
import ThreeBucket.Proofs.FullPeriod
import ThreeBucket.Proofs.Images
import ThreeBucket.Proofs.Inputs
import ThreeBucket.Proofs.Invocation
import ThreeBucket.Proofs.JsonReport
import ThreeBucket.Proofs.Lines
import ThreeBucket.Proofs.LoopInvariant
import ThreeBucket.Proofs.Mirror
import ThreeBucket.Proofs.Nearest
import ThreeBucket.Proofs.NumberOrder
import ThreeBucket.Proofs.NumberSort
import ThreeBucket.Proofs.Numerals
import ThreeBucket.Proofs.Outcome
import ThreeBucket.Proofs.PartialOrder
import ThreeBucket.Proofs.PartitionLaw
import ThreeBucket.Proofs.PartitionRecord
import ThreeBucket.Proofs.Permutation
import ThreeBucket.Proofs.Precedence
import ThreeBucket.Proofs.Profile
import ThreeBucket.Proofs.PureComparison
import ThreeBucket.Proofs.Recursion
import ThreeBucket.Proofs.Rounding
import ThreeBucket.Proofs.Separation
import ThreeBucket.Proofs.SettingView
import ThreeBucket.Proofs.SettingsText
import ThreeBucket.Proofs.ShortestDecimal
import ThreeBucket.Proofs.Simulation
import ThreeBucket.Proofs.StableSort
import ThreeBucket.Proofs.StatusText
import ThreeBucket.Proofs.Table
import ThreeBucket.Proofs.TimestampText
import ThreeBucket.Proofs.Verification
import ThreeBucket.Proofs.WorkStack
import ThreeBucket.Proofs.WorstCase
import ThreeBucket.Report
import ThreeBucket.Report.Format
import ThreeBucket.Settings
import ThreeBucket.Settings.File
import ThreeBucket.Shape
import ThreeBucket.Sort
import ThreeBucket.Sort.Fallible
import ThreeBucket.Sort.Profile
import ThreeBucket.Sort.WorkStack
import ThreeBucket.Strategy
import ThreeBucket.Text.Alphanumeric
import ThreeBucket.Text.Blank
import ThreeBucket.Text.Hidden
import ThreeBucket.Text.Numeral
import ThreeBucket.Text.Plain
import ThreeBucket.Text.Quoted
import ThreeBucket.Text.Ranges
import ThreeBucket.Timestamp
import ThreeBucket.Toml.Cursor
import ThreeBucket.Toml.Diagnostic
import ThreeBucket.Toml.Document
import ThreeBucket.Toml.Node
import ThreeBucket.Toml.Quoted
import ThreeBucket.Toml.Value
import ThreeBucket.Toml.Word
import ThreeBucket.Workdir
