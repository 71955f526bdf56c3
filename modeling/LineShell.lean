import LineShell.Main
import LineShell.Package
import LineShell.Slice
import LineShell.Proofs.Reading.Protocol
import LineShell.Proofs.Session.LineOrder
import LineShell.Proofs.Session.Course
import LineShell.Proofs.Session.RoundTrip
import LineShell.Proofs.Arguments.ByName
import LineShell.Proofs.Arguments.Delivery
import LineShell.Proofs.Arguments.Arity
import LineShell.Proofs.Session.Dismissal
import LineShell.Proofs.Arguments.Typing
import LineShell.Proofs.Session.Rest
import LineShell.Proofs.Tokens.Fields
import LineShell.Proofs.Session.Signals
import LineShell.Proofs.Session.Requests
import LineShell.Proofs.Session.Controls
import LineShell.Proofs.Registry.Shadowing
import LineShell.Proofs.Session.Reachability
import LineShell.Proofs.Session.Acceptance
import LineShell.Proofs.Arguments.ReadingBack
import LineShell.Proofs.Literals.Agreement
import LineShell.Proofs.Arguments.Inference
import LineShell.Proofs.Arguments.Leniency
import LineShell.Proofs.Arguments.Transparency
import LineShell.Proofs.Tokens.Enclosing
import LineShell.Proofs.Tokens.Pieces
import LineShell.Proofs.Commands.Declaring
import LineShell.Proofs.Help.Listing
import LineShell.Proofs.Faults.Placement
