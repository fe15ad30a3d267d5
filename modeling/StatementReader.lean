import StatementReader.Layout.Screen
import StatementReader.Main
import StatementReader.Proofs.Parse.Finality
import StatementReader.Proofs.Parse.Delimiters
import StatementReader.Proofs.Parse.Language
import StatementReader.Proofs.Parse.Concatenation
import StatementReader.Proofs.Edit.Sides
import StatementReader.Proofs.Parse.Alone
import StatementReader.Proofs.Editor.Completion
import StatementReader.Proofs.Editor.Piped
import StatementReader.Proofs.Session.Course
import StatementReader.Proofs.History.File
import StatementReader.Proofs.Layout.Cursor
import StatementReader.Proofs.Edit.Recall
import StatementReader.Proofs.History.Malformed
import StatementReader.Proofs.Editor.Continuation
import StatementReader.Proofs.Edit.Walk
import StatementReader.Proofs.Lexeme.Cover
import StatementReader.Proofs.Lexeme.Slice
import StatementReader.Proofs.Layout.Wrapping
import StatementReader.Proofs.Layout.Gutter
import StatementReader.Proofs.Layout.Window
import StatementReader.Proofs.Layout.Order
import StatementReader.Proofs.Completion.CommonStart
import StatementReader.Proofs.Completion.Offer
import StatementReader.Proofs.Completion.LatestDefinition
import StatementReader.Proofs.Parse.SameTokens
import StatementReader.Proofs.Completion.Bindings
import StatementReader.Proofs.Parse.Unfinished
import StatementReader.Proofs.Recursion.Bound
import StatementReader.Proofs.Editor.Paste
import StatementReader.Proofs.Layout.Columns
import StatementReader.Proofs.Recursion.Returns
