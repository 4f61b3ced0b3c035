import Reckoner.Code
import Reckoner.Comparison
import Reckoner.Main
import Reckoner.Proofs.Grammar.Derivation
import Reckoner.Proofs.Parse.Reads
import Reckoner.Workspace
import Reckoner.Proofs.Grammar.Acceptance
import Reckoner.Proofs.Scan.Cut
import Reckoner.Proofs.Scan.Location
import Reckoner.Proofs.Scan.Reads
import Reckoner.Proofs.Scan.Occurrences
import Reckoner.Proofs.Scan.Composition
import Reckoner.Proofs.Scan.Stops
import Reckoner.Proofs.Scan.Layout
import Reckoner.Proofs.Grammar.Rendering
import Reckoner.Proofs.Grammar.RoundTrip
import Reckoner.Proofs.Parse.Automaton
import Reckoner.Proofs.Evaluation.Exact
import Reckoner.Proofs.Evaluation.Machine
import Reckoner.Proofs.Grammar.Height
import Reckoner.Proofs.Parse.Viable
import Reckoner.Proofs.Parse.Limit
import Reckoner.Proofs.Evaluation.Completion
import Reckoner.Proofs.Evaluation.Dependence
import Reckoner.Proofs.Run.Commutation
import Reckoner.Proofs.Run.Events
import Reckoner.Proofs.Parse.EndMarker
import Reckoner.Proofs.Parse.Alike
import Reckoner.Proofs.Grammar.Turns
import Reckoner.Proofs.Scan.Spacing
import Reckoner.Proofs.Parse.Enclosing
import Reckoner.Proofs.Scan.Priority
import Reckoner.Proofs.Run.Numerals
import Reckoner.Proofs.Display.Word
import Reckoner.Proofs.Display.Tree
import Reckoner.Proofs.Display.Environment
import Reckoner.Proofs.Run.Names
import Reckoner.Proofs.Environment.Writes
import Reckoner.Proofs.Parse.Descent
import Reckoner.Proofs.CommandLine.Dialogue
import Reckoner.Proofs.CommandLine.Lines
import Reckoner.Proofs.CommandLine.Script
