import Underwriting.Calendar.Age
import Underwriting.Calendar.Date
import Underwriting.Calendar.Reading
import Underwriting.Command.Arguments
import Underwriting.Command.Failure
import Underwriting.Command.Files
import Underwriting.Command.Grid
import Underwriting.Command.Loading
import Underwriting.Command.Locator
import Underwriting.Command.Opening
import Underwriting.Command.Options
import Underwriting.Command.Perform
import Underwriting.Command.Report
import Underwriting.Command.Run
import Underwriting.Coverage
import Underwriting.Decimal.Basic
import Underwriting.Decimal.Literal
import Underwriting.Exchange.Records
import Underwriting.Exchange.Reports
import Underwriting.Exchange.Snapshot
import Underwriting.Gate.Admission
import Underwriting.Gate.Doctor
import Underwriting.Gate.Failure
import Underwriting.Gate.Lookup
import Underwriting.Gate.Rules
import Underwriting.Json.Basic
import Underwriting.Json.Record
import Underwriting.Json.Scalar
import Underwriting.Json.Skip
import Underwriting.Json.Token
import Underwriting.Log.Directive
import Underwriting.Log.Filter
import Underwriting.Log.Layout
import Underwriting.Log.Level
import Underwriting.Main
import Underwriting.Number.Binary64
import Underwriting.Number.Power
import Underwriting.Number.Rounding
import Underwriting.Number.Shortest
import Underwriting.Pattern.Basic
import Underwriting.Pattern.Reading
import Underwriting.Rule.Age
import Underwriting.Rule.Amount
import Underwriting.Rule.Evaluation
import Underwriting.Rule.Fault
import Underwriting.Settings.Atom
import Underwriting.Settings.Basic
import Underwriting.Settings.Statement
import Underwriting.Settings.Token
import Underwriting.Store.Database
import Underwriting.Store.Declaration
import Underwriting.Store.Fault
import Underwriting.Store.Holding
import Underwriting.Store.Numeral
import Underwriting.Store.Query
import Underwriting.Store.Sample
import Underwriting.Store.Schema
import Underwriting.Store.Search
import Underwriting.Store.Statement
import Underwriting.Store.Table
import Underwriting.Store.Value
import Underwriting.Store.Word
import Underwriting.Text.Blank
import Underwriting.Text.Bytes
import Underwriting.Text.Control
import Underwriting.Text.Digits
import Underwriting.Text.Emoji
import Underwriting.Text.Glyph
import Underwriting.Text.Letter
import Underwriting.Text.Printable
import Underwriting.Text.Quoted
import Underwriting.Text.Split
import Underwriting.Text.Width
import Underwriting.Trace
import Underwriting.Proofs.Store.Insertion
import Underwriting.Proofs.Gate.Ledger
import Underwriting.Proofs.Store.Answers
import Underwriting.Proofs.Gate.RuleRows
import Underwriting.Proofs.Gate.FirstFailure
import Underwriting.Proofs.Gate.FailClosed
import Underwriting.Proofs.Gate.StoredAmount
import Underwriting.Proofs.Gate.Explanation
import Underwriting.Proofs.Store.ValueOrder
import Underwriting.Proofs.Store.Agreement
import Underwriting.Proofs.Gate.Noninterference
import Underwriting.Proofs.Store.PairKeys
import Underwriting.Proofs.Gate.Independence
import Underwriting.Proofs.Command.StoredFiles
import Underwriting.Proofs.Command.Transaction
import Underwriting.Proofs.Command.Work
import Underwriting.Proofs.Command.Turns
import Underwriting.Proofs.Command.Sequence
import Underwriting.Proofs.Calendar.ElapsedMonths
import Underwriting.Proofs.Store.SortedRules
import Underwriting.Proofs.Gate.RuleOrder
import Underwriting.Proofs.Number.Rounding
import Underwriting.Proofs.Text.Digits
import Underwriting.Proofs.Decimal.Value
import Underwriting.Proofs.Decimal.Reading
import Underwriting.Proofs.Store.Scaling
import Underwriting.Proofs.Store.AmountNumeral
import Underwriting.Proofs.Store.ShownNumeral
import Underwriting.Proofs.Store.AmountColumn
import Underwriting.Proofs.Gate.AmountScale
import Underwriting.Proofs.Store.KeptAmount
import Underwriting.Proofs.Gate.PersistedRecord
import Underwriting.Proofs.Calendar.AgeOrder
import Underwriting.Proofs.Text.Trimming
import Underwriting.Proofs.Text.IntegerLiteral
import Underwriting.Proofs.Rule.AgeGrammar
import Underwriting.Proofs.Decimal.Alphabet
import Underwriting.Proofs.Rule.AmountGrammar
import Underwriting.Proofs.Decimal.PlainLiteral
import Underwriting.Proofs.Rule.AmountFloor
import Underwriting.Proofs.Gate.LookupOrder
import Underwriting.Proofs.Rule.PrintedRule
import Underwriting.Proofs.Rule.EvaluatedRule
import Underwriting.Proofs.Decimal.NumberLiteral
import Underwriting.Proofs.Decimal.Exactness
import Underwriting.Proofs.Calendar.DateText
import Underwriting.Proofs.Store.DateColumn
import Underwriting.Proofs.Gate.PriceWindow
import Underwriting.Proofs.Command.DryRun
import Underwriting.Proofs.Gate.Logging
import Underwriting.Proofs.Gate.IgnoredAges
import Underwriting.Proofs.Gate.FailureLog
import Underwriting.Proofs.Command.RuleLabels
import Underwriting.Proofs.Gate.ShownAmount
import Underwriting.Proofs.Json.Quotation
import Underwriting.Proofs.Json.WholeNumber
import Underwriting.Proofs.Json.Writing
import Underwriting.Proofs.Json.Members
import Underwriting.Proofs.Exchange.WrittenRecord
import Underwriting.Proofs.Gate.RequiredTables
import Underwriting.Proofs.Command.BusyTimeout
