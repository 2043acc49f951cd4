import LogView.Annotation
import LogView.Command.Basic
import LogView.Command.Line
import LogView.Command.Opening
import LogView.Command.Option
import LogView.Command.Run
import LogView.Config.File
import LogView.Config.Schema
import LogView.Config.Setting
import LogView.Config.Viewer
import LogView.Diagnostics.Event
import LogView.Diagnostics.Session
import LogView.Diagnostics.Threshold
import LogView.Document
import LogView.Files
import LogView.Filter.Highlight
import LogView.Filter.Predicate
import LogView.Filter.Run
import LogView.Markup
import LogView.Number.Binary64
import LogView.Number.Shortest
import LogView.Number.Typed
import LogView.Paging.Basic
import LogView.Pattern.Automaton
import LogView.Pattern.Basic
import LogView.Pattern.ByteRange
import LogView.Pattern.CharSet
import LogView.Pattern.Expr
import LogView.Pattern.Fault
import LogView.Pattern.Match
import LogView.Pattern.Meaning
import LogView.Pattern.Node
import LogView.Pattern.Reader.Class
import LogView.Pattern.Reader.Count
import LogView.Pattern.Reader.Escape
import LogView.Pattern.Reader.Group
import LogView.Pattern.Reader.Layout
import LogView.Pattern.Reader.Text
import LogView.Pattern.Size
import LogView.Rule.Basic
import LogView.Rule.List
import LogView.Rule.Term
import LogView.Session.Basic
import LogView.Session.Operation
import LogView.Text.Blank
import LogView.Text.Lines
import LogView.Text.Quoted
import LogView.Text.Utf8
import LogView.Token.Scan
import LogView.Token.Severity
import LogView.Toml.Document
import LogView.Toml.Moment
import LogView.Toml.Number
import LogView.Toml.Reader
import LogView.Toml.Table
import LogView.Toml.Text
import LogView.Toml.Value
import LogView.Unicode.Age
import LogView.Unicode.CaseChange
import LogView.Unicode.Category
import LogView.Unicode.Folding
import LogView.Unicode.Property
import LogView.Unicode.Query
import LogView.Unicode.RangeTable
import LogView.Unicode.Script
import LogView.Unicode.Segmentation
import LogView.View.Html
import LogView.View.Json
import LogView.View.Levels
import LogView.View.Lines
import LogView.View.Report
import LogView.View.Terminal
import LogView.Main
import LogView.Proofs.Paging
import LogView.Proofs.Session.Outcome
import LogView.Proofs.Session.InSync
import LogView.Proofs.Filter.Membership
import LogView.Proofs.Annotation.Pieces
import LogView.Proofs.Markup
import LogView.Proofs.Annotation.Lossless
import LogView.Proofs.Pattern.CharSet
import LogView.Proofs.Pattern.ByteRange
import LogView.Proofs.Pattern.Size
import LogView.Proofs.Pattern.SmallSet
import LogView.Proofs.Pattern.Literal
import LogView.Proofs.Unicode.Folding
import LogView.Proofs.Pattern.LiteralMatch
import LogView.Proofs.Text.Blank
import LogView.Proofs.Filter.LiteralRules
import LogView.Proofs.Document
import LogView.Proofs.Rule.Term
import LogView.Proofs.Rule.List
import LogView.Proofs.Session.Refusal
import LogView.Proofs.Session.PageThrough
import LogView.Proofs.Pattern.Onward.Basic
import LogView.Proofs.Pattern.Onward.Escape
import LogView.Proofs.Pattern.Onward.Class
import LogView.Proofs.Pattern.Onward.Count
import LogView.Proofs.Pattern.Onward.Group
import LogView.Proofs.Pattern.Onward.Parts
import LogView.Proofs.Pattern.Parenthesized
import LogView.Proofs.Pattern.CaseFlag
import LogView.Proofs.Pattern.Alternatives
import LogView.Proofs.Filter.Highlight
import LogView.Proofs.Session.Status
import LogView.Proofs.Text.Lines
import LogView.Proofs.Files
import LogView.Proofs.Filter.Failure
import LogView.Proofs.Command.Opening
import LogView.Proofs.Command.Run
import LogView.Proofs.Command.Export
import LogView.Proofs.Markup.Tags
import LogView.Proofs.View.PageTags
import LogView.Proofs.View.Agreement
import LogView.Proofs.Pattern.Search
import LogView.Proofs.Annotation.Coverage
import LogView.Proofs.Annotation.Marks
import LogView.Proofs.Filter.RuleMatch
import LogView.Proofs.Filter.FirstMatch
import LogView.Proofs.Pattern.LiteralAlternatives
import LogView.Proofs.Filter.LiteralHighlight
import LogView.Proofs.Annotation.Places
import LogView.Proofs.Annotation.KeptTokens
import LogView.Proofs.Filter.Accounting
import LogView.Proofs.Filter.Alike
import LogView.Proofs.Filter.Rejoined
import LogView.Proofs.Token.Words
import LogView.Proofs.Token.LevelPattern
import LogView.Proofs.Annotation.Levels
import LogView.Proofs.Filter.Barring
import LogView.Proofs.Filter.Appended
import LogView.Proofs.Session.Removal
import LogView.Proofs.Paging.Partition
import LogView.Proofs.Paging.Words
import LogView.Proofs.Text.EndedLines
import LogView.Proofs.Rule.Grammar
import LogView.Proofs.Number.Whole
import LogView.Proofs.Number.Typed
import LogView.Proofs.Session.Navigation
import LogView.Proofs.View.Colors
import LogView.Proofs.View.Levels
import LogView.Proofs.Markup.Entities
