import LineShell.Fault.Basic

/-! # Failures

What may leave an operation other than a result. Only faults of the recoverable kinds are survived
by the read loop.
-/
namespace LineShell

inductive Failure where
  | fault (f : Fault)
  | misuse (m : Misuse)
  /-- The stream has no more lines. -/
  | endOfInput
  /-- Raised by a handler, a hook or a stream: the name of its kind and its text. -/
  | foreign (kind message : String)
  /-- Lines that execute lines are nested too deeply. -/
  | tooDeep

namespace Failure

def isRecoverable : Failure → Bool
  | fault f => f.kind.isRecoverable
  | _ => false

/-- Kinds that are to end a program or a thread of it, so that whoever catches failures in general
lets them pass. -/
def endingKinds : List String :=
  ["BaseException", "GeneratorExit", "KeyboardInterrupt", "SystemExit"]

/-- The failure is caught by whoever catches failures in general. -/
def isOrdinary : Failure → Bool
  | foreign kind _ => !endingKinds.contains kind
  | _ => true

def kindName : Failure → String
  | fault f => f.kind.name
  | misuse m => m.kind.name
  | endOfInput => "EOFError"
  | foreign kind _ => kind
  | tooDeep => "RecursionError"

def message : Failure → String
  | fault f => f.message
  | misuse m => m.message
  | endOfInput => "end of input stream"
  | foreign _ message => message
  | tooDeep => "maximum recursion depth exceeded"

end Failure
end LineShell
