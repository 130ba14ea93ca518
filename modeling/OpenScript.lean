import OpenScript.Program.Encode
import OpenScript.Describe
import OpenScript.Main
import OpenScript.Machine.Lemmas
import OpenScript.State.Lemmas
import OpenScript.Proofs.Code
import OpenScript.Proofs.Contract
import OpenScript.Proofs.Ends
import OpenScript.Proofs.Change
import OpenScript.Proofs.Discipline
import OpenScript.Proofs.Natives
import OpenScript.Proofs.Evaluation
import OpenScript.Proofs.Termination
import OpenScript.Proofs.Alike
import OpenScript.Proofs.Signals
import OpenScript.Proofs.Tracks
import OpenScript.Proofs.Limit
import OpenScript.Proofs.Growth
import OpenScript.Proofs.WellFormed
import OpenScript.Proofs.Initial
import OpenScript.Proofs.Reachable
import OpenScript.Proofs.Privacy
import OpenScript.Proofs.Later
import OpenScript.Proofs.Tree
import OpenScript.Proofs.Tables
import OpenScript.Proofs.Activations
import OpenScript.Proofs.Super
import OpenScript.Proofs.Forwarding
import OpenScript.Proofs.Checked.Lookup
import OpenScript.Proofs.Checked.Run
import OpenScript.Proofs.Checked.Library
import OpenScript.Proofs.Checked.Node
import OpenScript.Proofs.Extension
import OpenScript.Proofs.Lambdas
import OpenScript.Proofs.Programs
import OpenScript.Proofs.Constants
import OpenScript.Proofs.Depths.Noted
import OpenScript.Proofs.Depths.Balanced
import OpenScript.Proofs.Written.Accepted
import OpenScript.Proofs.Naming
import OpenScript.Proofs.Namespaces
import OpenScript.Proofs.Captures
import OpenScript.Proofs.Answers
import OpenScript.Proofs.Properties
import OpenScript.Proofs.Entries
import OpenScript.Proofs.Boxes
import OpenScript.Proofs.Sparing
import OpenScript.Proofs.Equality
import OpenScript.Proofs.Cells
import OpenScript.Proofs.Overriding
import OpenScript.Proofs.Refusals
import OpenScript.Proofs.Arities
import OpenScript.Proofs.Markers
import OpenScript.Proofs.Interpolation
import OpenScript.Proofs.Escapes
import OpenScript.Proofs.Loops
import OpenScript.Proofs.Assignments
import OpenScript.Proofs.Integers
import OpenScript.Proofs.Symbols
