import FormulaArt.AffineMap
import FormulaArt.Channels
import FormulaArt.Command.Arguments
import FormulaArt.Command.Folder
import FormulaArt.Command.Path
import FormulaArt.Command.Run
import FormulaArt.Command.Workspace
import FormulaArt.Decimal.Fixed
import FormulaArt.Decimal.Layout
import FormulaArt.Decimal.Shortest
import FormulaArt.Expr.Basic
import FormulaArt.Expr.Builder
import FormulaArt.Expr.Formula
import FormulaArt.Expr.Operator
import FormulaArt.Fault
import FormulaArt.FileError
import FormulaArt.Frame
import FormulaArt.Grid
import FormulaArt.Image.Png
import FormulaArt.Level
import FormulaArt.Main
import FormulaArt.Proofs.Builder.Calls
import FormulaArt.Proofs.Builder.Completeness
import FormulaArt.Proofs.Builder.Consumption
import FormulaArt.Proofs.Builder.Dialogue
import FormulaArt.Proofs.Builder.Growth
import FormulaArt.Proofs.Builder.PairTree
import FormulaArt.Proofs.Builder.Replay
import FormulaArt.Proofs.Command.Bench
import FormulaArt.Proofs.Command.Directories
import FormulaArt.Proofs.Command.Failure
import FormulaArt.Proofs.Command.Flags
import FormulaArt.Proofs.Command.Folder
import FormulaArt.Proofs.Command.Path
import FormulaArt.Proofs.Command.Render
import FormulaArt.Proofs.Command.Stages
import FormulaArt.Proofs.Command.Workspace
import FormulaArt.Proofs.Decimal
import FormulaArt.Proofs.Double
import FormulaArt.Proofs.Expr.Addresses
import FormulaArt.Proofs.Expr.Formula
import FormulaArt.Proofs.Expr.Measures
import FormulaArt.Proofs.Expr.Normal
import FormulaArt.Proofs.Frame
import FormulaArt.Proofs.Frame.Places
import FormulaArt.Proofs.Grid
import FormulaArt.Proofs.Random.Draw
import FormulaArt.Proofs.Random.Fairness
import FormulaArt.Proofs.Random.Lockstep
import FormulaArt.Proofs.Random.SplitMix
import FormulaArt.Proofs.Render.Answers
import FormulaArt.Proofs.Render.Checks
import FormulaArt.Proofs.Render.Draws
import FormulaArt.Proofs.Render.Interleaving
import FormulaArt.Proofs.Render.Picture
import FormulaArt.Proofs.Render.Random
import FormulaArt.Proofs.Render.Ranges
import FormulaArt.Proofs.Render.Requests
import FormulaArt.Proofs.Render.Resolution
import FormulaArt.Proofs.Rounded.Arithmetic
import FormulaArt.Proofs.Rounded.Intervals
import FormulaArt.Proofs.Rounded.Levels
import FormulaArt.Proofs.Rounded.PixelOrder
import FormulaArt.Proofs.Rounded.UnitRange
import FormulaArt.Proofs.Runs
import FormulaArt.Proofs.Settings.Field
import FormulaArt.Proofs.Settings.Flaw
import FormulaArt.Proofs.Settings.Number
import FormulaArt.Proofs.Settings.Object
import FormulaArt.Proofs.Settings.Position
import FormulaArt.Proofs.Settings.StringLiteral
import FormulaArt.Proofs.Settings.Tokens
import FormulaArt.Proofs.Settings.Value
import FormulaArt.Random.Draw
import FormulaArt.Random.Source
import FormulaArt.Random.SplitMix
import FormulaArt.Render
import FormulaArt.Render.Parallel
import FormulaArt.Render.Strategy
import FormulaArt.Scalar
import FormulaArt.Settings
import FormulaArt.Settings.Byte
import FormulaArt.Settings.Field
import FormulaArt.Settings.Number
import FormulaArt.Settings.Printer
import FormulaArt.Settings.ReadError
import FormulaArt.Settings.Reader
import FormulaArt.Settings.StringLiteral
import FormulaArt.Text.Quoted
import FormulaArt.Text.Visible
