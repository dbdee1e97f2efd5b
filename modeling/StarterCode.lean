import StarterCode.Main
import StarterCode.Proofs.CommandLine.DryRun
import StarterCode.Proofs.Document.LineEnds
import StarterCode.Proofs.Document.Markup
import StarterCode.Proofs.Emission.Agreement
import StarterCode.Proofs.Emission.Capture
import StarterCode.Proofs.Emission.Comment
import StarterCode.Proofs.Emission.DefaultName
import StarterCode.Proofs.Emission.DocComment
import StarterCode.Proofs.Emission.Expressible
import StarterCode.Proofs.Emission.Includes
import StarterCode.Proofs.Emission.Order
import StarterCode.Proofs.Emission.ProblemName
import StarterCode.Proofs.Emission.Traversal
import StarterCode.Proofs.Emission.Tuples
import StarterCode.Proofs.Emission.Unambiguous
import StarterCode.Proofs.Generation.Atomicity
import StarterCode.Proofs.Generation.Repetition
import StarterCode.Proofs.Generation.Report
import StarterCode.Proofs.Inspection.FunctionName
import StarterCode.Proofs.Inspection.Listing
import StarterCode.Proofs.Inspection.Pairing
import StarterCode.Proofs.Problem.Data
import StarterCode.Proofs.Problem.Formats
import StarterCode.Proofs.Problem.Ignored
import StarterCode.Proofs.Problem.Modes
import StarterCode.Proofs.Problem.Order
import StarterCode.Proofs.Problem.Written
import StarterCode.Proofs.TypeExpr.Depth
import StarterCode.Proofs.TypeExpr.Derivation
import StarterCode.Proofs.TypeExpr.Height
import StarterCode.Proofs.TypeExpr.LetterCase
