import FunctionIndex.Backend
import FunctionIndex.Batch
import FunctionIndex.Classify
import FunctionIndex.CommandLine
import FunctionIndex.Config
import FunctionIndex.Converter
import FunctionIndex.Decimal.Binary64
import FunctionIndex.Decimal.Shortest
import FunctionIndex.Decimal.Wide
import FunctionIndex.Disk.Basic
import FunctionIndex.Disk.Edit
import FunctionIndex.Disk.Walk
import FunctionIndex.Element
import FunctionIndex.FanOut
import FunctionIndex.Fingerprint
import FunctionIndex.Function
import FunctionIndex.Grammar
import FunctionIndex.Host
import FunctionIndex.Json.Doc
import FunctionIndex.Json.Fault
import FunctionIndex.Json.Language
import FunctionIndex.Json.Numeral
import FunctionIndex.Json.Read
import FunctionIndex.Json.Value
import FunctionIndex.Language
import FunctionIndex.Main
import FunctionIndex.Outcome
import FunctionIndex.Path
import FunctionIndex.Proofs.Abstraction
import FunctionIndex.Proofs.Availability
import FunctionIndex.Proofs.Batch
import FunctionIndex.Proofs.ByLanguage
import FunctionIndex.Proofs.Clock
import FunctionIndex.Proofs.Counters
import FunctionIndex.Proofs.Deadline
import FunctionIndex.Proofs.Exchange
import FunctionIndex.Proofs.Extraction
import FunctionIndex.Proofs.FanOut
import FunctionIndex.Proofs.Findings
import FunctionIndex.Proofs.Isolation
import FunctionIndex.Proofs.Join
import FunctionIndex.Proofs.Metadata
import FunctionIndex.Proofs.Names
import FunctionIndex.Proofs.Provenance
import FunctionIndex.Proofs.Renaming
import FunctionIndex.Proofs.Routing
import FunctionIndex.Proofs.Settle
import FunctionIndex.Proofs.Simulation
import FunctionIndex.Proofs.Spelling
import FunctionIndex.Proofs.Threshold
import FunctionIndex.Proofs.Traversal
import FunctionIndex.Proofs.Tree
import FunctionIndex.Proofs.Utf8
import FunctionIndex.Proofs.Walk
import FunctionIndex.Registry
import FunctionIndex.Report
import FunctionIndex.Run
import FunctionIndex.ScanError
import FunctionIndex.Sha256
import FunctionIndex.Shell.Arithmetic
import FunctionIndex.Shell.Awk.Channel
import FunctionIndex.Shell.Awk.Format
import FunctionIndex.Shell.Awk.Function
import FunctionIndex.Shell.Awk.Grammar
import FunctionIndex.Shell.Awk.Interpret
import FunctionIndex.Shell.Awk.Memory
import FunctionIndex.Shell.Awk.Pattern
import FunctionIndex.Shell.Awk.Record
import FunctionIndex.Shell.Awk.Syntax
import FunctionIndex.Shell.Awk.Table
import FunctionIndex.Shell.Awk.Token
import FunctionIndex.Shell.Awk.Value
import FunctionIndex.Shell.Builtin
import FunctionIndex.Shell.Condition
import FunctionIndex.Shell.Digest
import FunctionIndex.Shell.Digest.Blake
import FunctionIndex.Shell.Digest.Sm3
import FunctionIndex.Shell.Eval
import FunctionIndex.Shell.Expand
import FunctionIndex.Shell.Machine
import FunctionIndex.Shell.Mode
import FunctionIndex.Shell.Pattern
import FunctionIndex.Shell.Printf
import FunctionIndex.Shell.Program
import FunctionIndex.Shell.Quote
import FunctionIndex.Shell.Read
import FunctionIndex.Shell.Redirect
import FunctionIndex.Shell.Regex
import FunctionIndex.Shell.Regex.Rich
import FunctionIndex.Shell.Run
import FunctionIndex.Shell.Search
import FunctionIndex.Shell.Signal
import FunctionIndex.Shell.Start
import FunctionIndex.Shell.Starter
import FunctionIndex.Shell.Starter.Awk
import FunctionIndex.Shell.Starter.Find
import FunctionIndex.Shell.Starter.Xargs
import FunctionIndex.Shell.Subshell
import FunctionIndex.Shell.Syntax
import FunctionIndex.Shell.Utility
import FunctionIndex.Shell.Utility.Calendar
import FunctionIndex.Shell.Utility.Checksum
import FunctionIndex.Shell.Utility.Column
import FunctionIndex.Shell.Utility.Copy
import FunctionIndex.Shell.Utility.Count
import FunctionIndex.Shell.Utility.Diff
import FunctionIndex.Shell.Utility.Difference
import FunctionIndex.Shell.Utility.Divide
import FunctionIndex.Shell.Utility.Dump
import FunctionIndex.Shell.Utility.Encoding
import FunctionIndex.Shell.Utility.File
import FunctionIndex.Shell.Utility.Grep
import FunctionIndex.Shell.Utility.Identity
import FunctionIndex.Shell.Utility.Listing
import FunctionIndex.Shell.Utility.Number
import FunctionIndex.Shell.Utility.Paragraph
import FunctionIndex.Shell.Utility.Predicate
import FunctionIndex.Shell.Utility.Quantity
import FunctionIndex.Shell.Utility.Section
import FunctionIndex.Shell.Utility.Sed
import FunctionIndex.Shell.Utility.Sed.Script
import FunctionIndex.Shell.Utility.Shuffle
import FunctionIndex.Shell.Utility.Sort
import FunctionIndex.Shell.Utility.Stream
import FunctionIndex.Shell.Utility.Template
import FunctionIndex.Shell.Utility.Tree
import FunctionIndex.Shell.Utility.Version
import FunctionIndex.Shell.Utility.Wrap
import FunctionIndex.Shell.Work
import FunctionIndex.SyntaxTree.Basic
import FunctionIndex.SyntaxTree.Extract
import FunctionIndex.SyntaxTree.Walk
import FunctionIndex.SystemError
import FunctionIndex.Text.Blank
import FunctionIndex.Text.Lines
import FunctionIndex.Text.Quoted
import FunctionIndex.Text.Shapeless
import FunctionIndex.Text.Utf8
import FunctionIndex.Proofs.Relative
import FunctionIndex.Proofs.Base
import FunctionIndex.Proofs.Lines
import FunctionIndex.Proofs.Size
import FunctionIndex.Proofs.Nesting
import FunctionIndex.Proofs.Ancestry
import FunctionIndex.Proofs.Checked
import FunctionIndex.Proofs.Comments
import FunctionIndex.Proofs.Words
import FunctionIndex.Proofs.Leaves
import FunctionIndex.Proofs.Blanks
import FunctionIndex.Proofs.Places
import FunctionIndex.Proofs.History
import FunctionIndex.Proofs.Detection
import FunctionIndex.Proofs.Quotes
import FunctionIndex.Proofs.Notation
import FunctionIndex.Proofs.Reading
import FunctionIndex.Proofs.Settings
import FunctionIndex.Proofs.Loop
import FunctionIndex.Proofs.Installed
