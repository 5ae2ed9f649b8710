import GrammarWorkbench.Address.Basic
import GrammarWorkbench.Address.Escape
import GrammarWorkbench.Address.Host
import GrammarWorkbench.Address.HostLetter
import GrammarWorkbench.Address.Punycode
import GrammarWorkbench.Address.Segments
import GrammarWorkbench.Brace
import GrammarWorkbench.Command.Arguments
import GrammarWorkbench.Command.Run
import GrammarWorkbench.Completion
import GrammarWorkbench.Editor.Document
import GrammarWorkbench.Editor.Server
import GrammarWorkbench.Files.Path
import GrammarWorkbench.Files.Tree
import GrammarWorkbench.Highlight
import GrammarWorkbench.Json.Basic
import GrammarWorkbench.Json.Editor
import GrammarWorkbench.Json.Grammar
import GrammarWorkbench.Json.Map
import GrammarWorkbench.Legal.Construct
import GrammarWorkbench.Legal.ConstructSet
import GrammarWorkbench.Legal.Table
import GrammarWorkbench.Lexeme.Basic
import GrammarWorkbench.Lexeme.Shape
import GrammarWorkbench.Lexeme.Token
import GrammarWorkbench.Log.Basic
import GrammarWorkbench.Log.Compiler
import GrammarWorkbench.Log.Generator
import GrammarWorkbench.Main
import GrammarWorkbench.Navigation
import GrammarWorkbench.Number.Binary
import GrammarWorkbench.Number.Shortest
import GrammarWorkbench.Parse.Checkpoint
import GrammarWorkbench.Parse.Diagnostic
import GrammarWorkbench.Parse.Goal
import GrammarWorkbench.Parse.Notification
import GrammarWorkbench.Parse.Run
import GrammarWorkbench.PositionMap.Basic
import GrammarWorkbench.PositionMap.Format
import GrammarWorkbench.PositionMap.Output
import GrammarWorkbench.Proofs.Completion.Candidates
import GrammarWorkbench.Proofs.Completion.Cursor
import GrammarWorkbench.Proofs.Completion.Independence
import GrammarWorkbench.Proofs.Completion.Offers
import GrammarWorkbench.Proofs.Completion.OpenGroups
import GrammarWorkbench.Proofs.Completion.Reading
import GrammarWorkbench.Proofs.Editor.Answers
import GrammarWorkbench.Proofs.Editor.Deltas
import GrammarWorkbench.Proofs.Editor.Positions
import GrammarWorkbench.Proofs.Editor.Ranges
import GrammarWorkbench.Proofs.Editor.Segments
import GrammarWorkbench.Proofs.Files.Spellings
import GrammarWorkbench.Proofs.Highlight.HostCode
import GrammarWorkbench.Proofs.Highlight.Regions
import GrammarWorkbench.Proofs.Language.Acceptance
import GrammarWorkbench.Proofs.Language.Completeness
import GrammarWorkbench.Proofs.Language.Rules
import GrammarWorkbench.Proofs.Language.Soundness
import GrammarWorkbench.Proofs.Legal.Histories
import GrammarWorkbench.Proofs.Legal.Members
import GrammarWorkbench.Proofs.Lexeme.Alone
import GrammarWorkbench.Proofs.Lexeme.Comments
import GrammarWorkbench.Proofs.Lexeme.Edges
import GrammarWorkbench.Proofs.Lexeme.Longest
import GrammarWorkbench.Proofs.Lexeme.Order
import GrammarWorkbench.Proofs.Lexeme.Rules
import GrammarWorkbench.Proofs.Lexeme.Spelling
import GrammarWorkbench.Proofs.Lexeme.Spots
import GrammarWorkbench.Proofs.Lexeme.Tiling
import GrammarWorkbench.Proofs.Log.Compiler
import GrammarWorkbench.Proofs.Log.Generator
import GrammarWorkbench.Proofs.Log.Parts
import GrammarWorkbench.Proofs.Log.Pattern
import GrammarWorkbench.Proofs.Lookup
import GrammarWorkbench.Proofs.Navigation.Bytes
import GrammarWorkbench.Proofs.Navigation.Words
import GrammarWorkbench.Proofs.Parse.Announced
import GrammarWorkbench.Proofs.Parse.Brackets
import GrammarWorkbench.Proofs.Parse.Clean
import GrammarWorkbench.Proofs.Parse.Layout
import GrammarWorkbench.Proofs.Parse.Order
import GrammarWorkbench.Proofs.Parse.Progress
import GrammarWorkbench.Proofs.Parse.Replay
import GrammarWorkbench.Proofs.Parse.Sections
import GrammarWorkbench.Proofs.Parse.Spacing
import GrammarWorkbench.Proofs.Parse.Spots
import GrammarWorkbench.Proofs.Parse.Steps
import GrammarWorkbench.Proofs.Parse.Taken
import GrammarWorkbench.Proofs.Parse.Wording
import GrammarWorkbench.Proofs.PositionMap.Acceptance
import GrammarWorkbench.Proofs.PositionMap.Coalescing
import GrammarWorkbench.Proofs.PositionMap.Counting
import GrammarWorkbench.Proofs.PositionMap.Place
import GrammarWorkbench.Proofs.PositionMap.RoundTrip
import GrammarWorkbench.Proofs.PositionMap.Rows
import GrammarWorkbench.Proofs.PositionMap.TraceBack
import GrammarWorkbench.Proofs.Remap.Coherence
import GrammarWorkbench.Proofs.Source.Cursor
import GrammarWorkbench.Proofs.Source.Cuts
import GrammarWorkbench.Proofs.Source.LineTexts
import GrammarWorkbench.Proofs.Source.Lines
import GrammarWorkbench.Proofs.Source.Offsets
import GrammarWorkbench.Proofs.Symbols.Collection
import GrammarWorkbench.Proofs.Symbols.Identifiers
import GrammarWorkbench.Proofs.Symbols.Layout
import GrammarWorkbench.Proofs.Symbols.Occurrences
import GrammarWorkbench.Proofs.Symbols.References
import GrammarWorkbench.Proofs.Text.Blanks
import GrammarWorkbench.Proofs.Text.Bytes
import GrammarWorkbench.Proofs.Text.Lines
import GrammarWorkbench.Proofs.Text.Numerals
import GrammarWorkbench.Proofs.Text.Order
import GrammarWorkbench.Proofs.Text.Split
import GrammarWorkbench.Proofs.Text.Units
import GrammarWorkbench.Remap
import GrammarWorkbench.Sample
import GrammarWorkbench.Settings.Basic
import GrammarWorkbench.Settings.Key
import GrammarWorkbench.Settings.Layer
import GrammarWorkbench.Settings.Value
import GrammarWorkbench.Snapshot
import GrammarWorkbench.Source.Buffer
import GrammarWorkbench.Source.LineIndex
import GrammarWorkbench.Source.Position
import GrammarWorkbench.Symbol
import GrammarWorkbench.Text.Basic
import GrammarWorkbench.Text.Blank
import GrammarWorkbench.Text.Composition
import GrammarWorkbench.Text.DecimalDigit
import GrammarWorkbench.Text.Hidden
import GrammarWorkbench.Text.Lines
import GrammarWorkbench.Text.LowerCase
import GrammarWorkbench.Text.Numeral
import GrammarWorkbench.Text.Order
import GrammarWorkbench.Text.Quoted
import GrammarWorkbench.Text.Ranges
import GrammarWorkbench.Text.Scan
import GrammarWorkbench.Text.Split
import GrammarWorkbench.Toml.Document
import GrammarWorkbench.Toml.Line
import GrammarWorkbench.Toml.Moment
import GrammarWorkbench.Toml.Number
import GrammarWorkbench.Toml.Quoted
import GrammarWorkbench.Toml.Table
import GrammarWorkbench.Toml.Value
import GrammarWorkbench.Tracker
