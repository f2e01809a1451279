import Hyperfiction.Markup.Position
import Hyperfiction.Render.Passage
import Hyperfiction.Story.Session
import Hyperfiction.Story.Source
import Hyperfiction.Story.Exchange
import Hyperfiction.Story.Lantern
import Hyperfiction.Lint.Report
import Hyperfiction.Preview.Basic
import Hyperfiction.Main
import Hyperfiction.Proofs.Markup.Search
import Hyperfiction.Proofs.Markup.Found
import Hyperfiction.Proofs.Markup.Links
import Hyperfiction.Proofs.Eval.Related
import Hyperfiction.Proofs.Expr.Enclosed
import Hyperfiction.Proofs.Markup.Pass
import Hyperfiction.Proofs.Document.Basic
import Hyperfiction.Proofs.Document.Meaning
import Hyperfiction.Proofs.Document.Reduced
import Hyperfiction.Proofs.Document.Compiled
import Hyperfiction.Proofs.Table
import Hyperfiction.Proofs.Render.Depth
import Hyperfiction.Proofs.Render.Orphan
import Hyperfiction.Proofs.Render.Unchosen
import Hyperfiction.Proofs.Render.Choices
import Hyperfiction.Proofs.Fallible
import Hyperfiction.Proofs.Render.Changes
import Hyperfiction.Proofs.Story.Tables
import Hyperfiction.Proofs.Lint.Sound
import Hyperfiction.Proofs.Lint.Files
import Hyperfiction.Proofs.InPlace.Passage
import Hyperfiction.Proofs.Eval.Made
import Hyperfiction.Proofs.Eval.Steady
import Hyperfiction.Proofs.Eval.Asked
import Hyperfiction.Proofs.Condition.Parts
import Hyperfiction.Proofs.Condition.Queries
import Hyperfiction.Proofs.Condition.Asking
import Hyperfiction.Proofs.Markup.Runs
import Hyperfiction.Proofs.Token.Followed
import Hyperfiction.Proofs.Render.Drafted
import Hyperfiction.Proofs.Story.Kept
import Hyperfiction.Proofs.Render.Visits
import Hyperfiction.Proofs.Render.Guards
import Hyperfiction.Proofs.Preview.Journal
import Hyperfiction.Proofs.InPlace.Written
import Hyperfiction.Proofs.InPlace.Counted
import Hyperfiction.Proofs.InPlace.OnePass
import Hyperfiction.Proofs.Render.Levels
import Hyperfiction.Proofs.Token.Front
import Hyperfiction.Proofs.Expr.Grammar
import Hyperfiction.Proofs.Condition.Nested
import Hyperfiction.Proofs.Assignment.Joined
import Hyperfiction.Proofs.Assignment.Single
import Hyperfiction.Proofs.Assignment.Calls
import Hyperfiction.Proofs.Assignment.Outside
import Hyperfiction.Proofs.Render.Inline
import Hyperfiction.Proofs.Render.Verbatim
import Hyperfiction.Proofs.Assignment.Pairs
import Hyperfiction.Proofs.Text.Lines
import Hyperfiction.Proofs.Markup.Walk
import Hyperfiction.Proofs.Markup.Groups
import Hyperfiction.Proofs.Markup.Joints
import Hyperfiction.Proofs.Lint.Unlinked
import Hyperfiction.Proofs.Random.Wrapped
import Hyperfiction.Proofs.Token.Pieces
import Hyperfiction.Proofs.Expr.Kinds
import Hyperfiction.Proofs.Assignment.Written
import Hyperfiction.Proofs.Assignment.Frame
import Hyperfiction.Proofs.Markup.Separators
import Hyperfiction.Proofs.InPlace.Prints
import Hyperfiction.Proofs.Token.Tiled
import Hyperfiction.Proofs.InPlace.Collected
import Hyperfiction.Proofs.InPlace.Closers
import Hyperfiction.Proofs.Markup.Whole
import Hyperfiction.Proofs.Markup.Lined
import Hyperfiction.Proofs.Text.Words
import Hyperfiction.Proofs.Render.Printed
import Hyperfiction.Proofs.Eval.Squares
import Hyperfiction.Proofs.Script.Path
import Hyperfiction.Proofs.Script.Links
import Hyperfiction.Proofs.Script.Basic
import Hyperfiction.Proofs.Script.Settled
import Hyperfiction.Proofs.Script.Lines
import Hyperfiction.Proofs.Script.Replaced
import Hyperfiction.Proofs.Script.Written
import Hyperfiction.Proofs.Script.Inert
import Hyperfiction.Proofs.Script.Shown
