import LineShell.Source

/-! # Behaviours

What a handler or a callback does is a tree: it ends with a result or a failure, or it acts on the
session and goes on, having seen whether the action failed. Behaviours that act for ever do not
exist, but lines that execute lines may still nest without end.
-/
namespace LineShell

/-- What a setting is given: a value, or a stream. A text can be read and written, a script only
read, a sink both, a trap only written. A trap writes to its sink, and after its first write does
something of its own. -/
inductive Given (B : Type) where
  | value (v : Value)
  | text (s : String)
  | script (items : List Source.Item)
  | sink (name : String)
  | trap (name : String) (body : B)

inductive Moment where
  | invoking
  | invoked
deriving DecidableEq

def Moment.name : Moment → String
  | invoking => "invoking"
  | invoked => "invoked"

inductive Action (B : Type) where
  | stop
  /-- Set the cancel event of the latest run that has one. -/
  | cancel
  | execute (line : Value)
  | run
  /-- Note the state of the session. -/
  | probe
  /-- Note a text. -/
  | note (text : String)
  /-- Note a line and the failure that it led to, if any. -/
  | noteAttempt (line : Value) (failure : Option Failure)
  /-- Write to the output. -/
  | print (text : String)
  | report (f : Fault)
  | assign (setting : String) (given : Given B)
  | connect (moment : Moment) (name : String)
  | disconnect (moment : Moment) (name : String)

inductive Behaviour where
  | finish (result : Value)
  | fail (f : Failure)
  | act (a : Action Behaviour) (next : Option Failure → Behaviour)
deriving Inhabited

namespace Behaviour

def andThen (a : Action Behaviour) (next : Behaviour) : Behaviour :=
  act a fun
    | none => next
    | some f => fail f

/-- Execute a line, note how it ended, and go on. -/
def attempt (line : Value) (next : Behaviour) : Behaviour :=
  act (.execute line) fun failure => andThen (.noteAttempt line failure) next

end Behaviour
end LineShell
