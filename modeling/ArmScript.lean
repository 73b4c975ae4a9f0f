import ArmScript.Main
import ArmScript.Proofs.Script.Sentence
import ArmScript.Proofs.Analysis.Added
import ArmScript.Proofs.Analysis.Names
import ArmScript.Proofs.Analysis.Syntax
import ArmScript.Proofs.Script.Segments
import ArmScript.Proofs.Analysis.Braces
import ArmScript.Proofs.Token.Layout
import ArmScript.Proofs.Token.Lossless
import ArmScript.Proofs.Token.Classes
import ArmScript.Proofs.Script.Places
import ArmScript.Proofs.Analysis.Order
import ArmScript.Proofs.Analysis.Outline
import ArmScript.Proofs.Token.Columns
import ArmScript.Proofs.Token.Stops
import ArmScript.Proofs.Analysis.Sequence
import ArmScript.Proofs.Script.Subjects
import ArmScript.Proofs.Analysis.Anchors
import ArmScript.Proofs.Token.Unique
import ArmScript.Proofs.Token.Gaps
import ArmScript.Proofs.Token.Lines
import ArmScript.Proofs.Token.Spread
import ArmScript.Proofs.Analysis.Spans
import ArmScript.Proofs.Analysis.Renaming
import ArmScript.Proofs.Analysis.Spacing
import ArmScript.Proofs.Analysis.Blanked
import ArmScript.Proofs.Analysis.LineEnds
import ArmScript.Proofs.Robot.History
import ArmScript.Proofs.Text.Runs
import ArmScript.Proofs.Command.Outcome
import ArmScript.Proofs.Command.Marks
import ArmScript.Proofs.Robot.Values
import ArmScript.Proofs.Analysis.Growth
import ArmScript.Proofs.Analysis.Nesting
import ArmScript.Proofs.Script.Steps
import ArmScript.Proofs.Analysis.Safety
import ArmScript.Proofs.Report.Tables
import ArmScript.Proofs.Command.Precedence
import ArmScript.Proofs.Analysis.Messages
import ArmScript.Proofs.Analysis.Records
