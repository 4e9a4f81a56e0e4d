import CustomElement.Command.Arguments
import CustomElement.Command.Build
import CustomElement.Command.Help
import CustomElement.Command.Interface
import CustomElement.Command.Outcome
import CustomElement.Command.Run
import CustomElement.Config.Load
import CustomElement.Config.Reader
import CustomElement.Config.Settings
import CustomElement.Element.Build
import CustomElement.Element.Compile
import CustomElement.Element.Name
import CustomElement.Element.Plan
import CustomElement.Element.Program
import CustomElement.Element.Session
import CustomElement.Element.SourceText
import CustomElement.Files.Disk
import CustomElement.Files.Path
import CustomElement.Files.Sources
import CustomElement.Grammar.Automaton
import CustomElement.Grammar.Item
import CustomElement.Grammar.Production
import CustomElement.Grammar.Rule
import CustomElement.Grammar.Symbol
import CustomElement.Interchange.Dump
import CustomElement.Interchange.Load
import CustomElement.Json.Binary
import CustomElement.Json.Printer
import CustomElement.Json.Reader
import CustomElement.Json.Validation
import CustomElement.Json.Value
import CustomElement.Lexing.Layout
import CustomElement.Lexing.Lexeme
import CustomElement.Lexing.Token
import CustomElement.Parsing.Node
import CustomElement.Parsing.Parser
import CustomElement.Parsing.Recovery
import CustomElement.Parsing.Run
import CustomElement.Parsing.Stack
import CustomElement.Parsing.Tree
import CustomElement.Proofs.Command.Again
import CustomElement.Proofs.Command.Copying
import CustomElement.Proofs.Command.Endings
import CustomElement.Proofs.Command.Overwriting
import CustomElement.Proofs.Command.Steps
import CustomElement.Proofs.Command.Targets
import CustomElement.Proofs.Config.Document
import CustomElement.Proofs.Config.Lookup
import CustomElement.Proofs.Config.Validity
import CustomElement.Proofs.Element.Agreement
import CustomElement.Proofs.Element.Binding
import CustomElement.Proofs.Element.ClassText
import CustomElement.Proofs.Element.Closure
import CustomElement.Proofs.Element.Collision
import CustomElement.Proofs.Element.Edit
import CustomElement.Proofs.Element.Planning
import CustomElement.Proofs.Element.Repetition
import CustomElement.Proofs.Element.Replacing
import CustomElement.Proofs.Element.Selection
import CustomElement.Proofs.Element.SourceText
import CustomElement.Proofs.Element.Splicing
import CustomElement.Proofs.Element.SyntaxReport
import CustomElement.Proofs.Element.Tag
import CustomElement.Proofs.Files.Change
import CustomElement.Proofs.Files.Hidden
import CustomElement.Proofs.Files.Path
import CustomElement.Proofs.Files.Place
import CustomElement.Proofs.Files.Search
import CustomElement.Proofs.Files.Walk
import CustomElement.Proofs.Files.Writing
import CustomElement.Proofs.Interchange.Fields
import CustomElement.Proofs.Interchange.Kinds
import CustomElement.Proofs.Interchange.RoundTrip
import CustomElement.Proofs.Json.Checked
import CustomElement.Proofs.Json.Documents
import CustomElement.Proofs.Parsing.FirstError
import CustomElement.Proofs.Parsing.Order
import CustomElement.Proofs.Parsing.Placed
import CustomElement.Proofs.Report.Hint
import CustomElement.Proofs.Syntax.Decoding
import CustomElement.Proofs.Syntax.FunctionText
import CustomElement.Proofs.Syntax.Indentation
import CustomElement.Proofs.Syntax.Literal
import CustomElement.Proofs.Syntax.Location
import CustomElement.Proofs.Syntax.Lossless
import CustomElement.Proofs.Syntax.NodeText
import CustomElement.Proofs.Syntax.Parts
import CustomElement.Proofs.Syntax.Printing
import CustomElement.Proofs.Syntax.Spelling
import CustomElement.Proofs.Syntax.Tiling
import CustomElement.Proofs.Text.Case
import CustomElement.Proofs.Text.Fault
import CustomElement.Proofs.Text.Offsets
import CustomElement.Proofs.Text.Position
import CustomElement.Proofs.Text.Slice
import CustomElement.Proofs.Text.Utf8
import CustomElement.Report.Diagnostic
import CustomElement.Report.Hint
import CustomElement.Syntax.Expression
import CustomElement.Syntax.Literal
import CustomElement.Syntax.Module
import CustomElement.Syntax.Node
import CustomElement.Syntax.Printer
import CustomElement.Syntax.Reader
import CustomElement.Text.Blank
import CustomElement.Text.Case
import CustomElement.Text.CaseTable
import CustomElement.Text.Hex
import CustomElement.Text.LetterTable
import CustomElement.Text.Lines
import CustomElement.Text.NumeralTable
import CustomElement.Text.Offsets
import CustomElement.Text.PrintableTable
import CustomElement.Text.Quoted
import CustomElement.Text.Slice
import CustomElement.Text.Utf8
import CustomElement.Proofs.Files.Listing
