import TinySql.Text.CodeRanges
import TinySql.Text.Blank
import TinySql.Text.Alphanumeric
import TinySql.Text.Cased
import TinySql.Text.Lower
import TinySql.Text.Upper
import TinySql.Text.Visible
import TinySql.Sql.Token
import TinySql.Sql.Lexer
import TinySql.Text.Integer
import TinySql.Schema
import TinySql.FileError
import TinySql.Text.Quoted
import TinySql.Decimal.Shortest
import TinySql.Json.ReadError
import TinySql.Error
import TinySql.Sql.Statement
import TinySql.Sql.Parser
import TinySql.Text.Order
import TinySql.Value
import TinySql.Store
import TinySql.Table
import TinySql.QueryResult
import TinySql.Json.Escape
import TinySql.Snapshot
import TinySql.Database
import TinySql.Json.Reader
import TinySql.Snapshot.Reader
import TinySql.Files
import TinySql.Snapshot.File
import TinySql.Text.Lines
import TinySql.Sql.Outline
import TinySql.Shell.Options
import TinySql.Shell.Log
import TinySql.Shell.History
import TinySql.Shell.Session
import TinySql.Main
import TinySql.Text.Grapheme
import TinySql.Shell.Input
import TinySql.Proofs.Except
import TinySql.Proofs.Atomicity
import TinySql.Proofs.WellTyped
import TinySql.Proofs.Grammar
import TinySql.Proofs.Parsing
import TinySql.Proofs.Lexing
import TinySql.Proofs.Printing
import TinySql.Proofs.Registry
import TinySql.Proofs.Restore
import TinySql.Proofs.LongestMatch
import TinySql.Proofs.JsonReading
import TinySql.Proofs.SnapshotRoundTrip
import TinySql.Proofs.InsertOutcome
import TinySql.Proofs.SelectOutcome
import TinySql.Proofs.UpdateOutcome
import TinySql.Proofs.ShellEffects
import TinySql.Proofs.ShellRefinement
import TinySql.Proofs.RowStore
import TinySql.Proofs.JoinedLexing
import TinySql.Proofs.GrammarSlots
import TinySql.Proofs.SyntaxErrors
import TinySql.Proofs.IntegerLiterals
import TinySql.Proofs.SuccessorBounds
import TinySql.Proofs.Rendering
import TinySql.Proofs.CursorBounds
import TinySql.Proofs.ByteOrder
