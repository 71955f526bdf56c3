import LineShell.Session.Engine
import LineShell.Maker.Handler

/-! # Operations of a host

What a host does with a session from outside: it executes lines, runs the read loop with or without
a cancel event, and connects and disconnects callbacks.
-/
namespace LineShell.Session

/-- What a host gives the read loop to watch. -/
inductive Watch where
  | nothing
  /-- A cancel event of its own, set already or not. -/
  | event (isSet : Bool)
  | other

def executeLine (line : Value) : Act Unit := execute fullEngine line

def runLoop : Watch → Act Unit
  | .nothing => run fullEngine false
  | .event isSet => do
    modify fun s => { s with cancelled := isSet }
    run fullEngine true
  | .other => throw (.misuse .notEvent)

def reportFault (f : Fault) : Act Unit := report fullEngine f

def callHandler (h : Handler) (arguments : List Value) : Act Value :=
  call fullEngine h arguments

/-- Connect the callback of a name, or a new one if it is to do something. -/
def connectNamed (moment : Moment) (name : String) (body : Option Behaviour) : Act Unit :=
  modify fun s =>
    let (c, s) := match body with
      | some body => s.newCallback name body
      | none => s.callbackNamed name
    s.connect moment c

def callbackOf? (v : Value) : Option Callback := do
  let handler ← Handler.ofValue? v
  match v with
  | .type t => return .maker t handler.behaviour
  | _ => none

def connectValue (moment : Moment) (v : Value) : Act Unit := do
  match callbackOf? v with
  | some c => modify (·.connect moment c)
  | none => throw (.misuse (.notCallable (moment.name ++ ".connect() argument")))

def disconnectNamed (moment : Moment) (name : String) : Act Unit :=
  act fullEngine (.disconnect moment name)

def disconnectValue (moment : Moment) (v : Value) : Act Unit := do
  match callbackOf? v with
  | some c => set (← liftMisuse ((← get).disconnect moment c))
  | none => throw (.misuse (.notConnected (moment.name ++ ".disconnect() argument")))

def assignSetting (name : String) (given : Given Behaviour) : Act Unit :=
  act fullEngine (.assign name given)

def textOf (journal : List Event) (sink : String) : String :=
  String.join (journal.filterMap fun
    | .wrote (some name) text => if name = sink then some text else none
    | _ => none)

end LineShell.Session
