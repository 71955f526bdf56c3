import LineShell.Behaviour
import LineShell.Help
import LineShell.LineReader
import LineShell.Fault.Rendering

/-! # Sessions

A session holds the registered commands, the settings, the streams, the callbacks, what is being
executed, and a journal of what was done. The journal grows at its end; nothing in it changes.
-/
namespace LineShell

inductive Session.Phase where
  | idle
  | dispatching
  | invoking
  | halted
deriving DecidableEq

def Session.Phase.label : Phase → String
  | idle => "idle"
  | dispatching => "dispatching"
  | invoking => "invoking"
  | halted => "halted"

def Session.Phase.written (p : Phase) : String :=
  "<State." ++ p.label.toUpper ++ ": '" ++ p.label ++ "'>"

structure Session.Settings where
  interfaceName : String := "helmsman"
  entryMarker : String := ">"
  flagMarker : String := "--"
  ignoreCase : Bool := false
  lenientEnums : Bool := false

/-- What one execution is about: the line, its tokens, the flags among them, and the name of the
command. -/
structure Session.Context where
  line : String
  tokens : List String
  flags : List String
  command : Option String
deriving DecidableEq

namespace Session.Context

def textOrNone : Option String → Value
  | some s => .text s
  | none => .none

def written (c : Context) : String :=
  let texts (xs : List String) := (Value.tuple (xs.map .text)).written ""
  "context(line=" ++ Text.quoted c.line ++ ", tokens=" ++ texts c.tokens ++ ", flags="
    ++ texts c.flags ++ ", command=" ++ (textOrNone c.command).written "" ++ ")"

end Session.Context

/-- A callback. Two scripts of the same name differ by their serial numbers. A class is called with
the session and the command, and its calls are not noted. -/
inductive Session.Callback where
  | script (name : String) (serial : Nat) (body : Behaviour)
  | maker (t : TypeExpr) (body : List Value → Behaviour)

namespace Session.Callback

def name? : Callback → Option String
  | script name .. => some name
  | maker .. => none

def same : Callback → Callback → Bool
  | script _ m _, script _ n _ => m = n
  | maker t _, maker u _ => t.same u
  | _, _ => false

end Session.Callback

/-- Where output goes: to a sink if it has one, and to what a trap does after its first write. -/
structure Session.Outlet where
  sink : Option String
  armed : Option Behaviour := none

structure Session.Snapshot where
  phase : Session.Phase
  stopping : Bool
  executing : Option String
  context : Option Session.Context
deriving DecidableEq

inductive Session.Event where
  | wrote (sink : Option String) (text : String)
  /-- The read loop took a line. -/
  | received (line : String)
  /-- A handler was called. -/
  | called (label : String) (arguments : List Value)
  /-- A callback was fired. -/
  | fired (callback command : String)
  | noted (text : String)
  | probed (s : Session.Snapshot)
  | attempted (line : Value) (failure : Option Failure)

structure Session where
  registry : Registry
  host : Host := {}
  settings : Session.Settings := {}
  sources : List Source
  outlets : List Session.Outlet
  /-- The numbers of the source and of the two outlets in use. -/
  input : Nat := 0
  output : Nat := 0
  errors : Nat := 1
  invoking : List Session.Callback := []
  invoked : List Session.Callback := []
  /-- Callbacks that have a name, the latest first. -/
  known : List Session.Callback := []
  executing : Option Command := none
  context : Option Session.Context := none
  phase : Session.Phase := .idle
  stopping : Bool := false
  /-- All line readers with the numbers of their sources. -/
  readers : List (Nat × LineReader) := []
  /-- The number of the reader in use. -/
  reader : Option Nat := none
  /-- The cancel event of the latest run that has one is set. -/
  cancelled : Bool := false
  /-- The streams as they were given, and what was assigned under names of no setting, the latest
  first. -/
  assigned : List (String × Value) := []
  journal : List Session.Event := []

namespace Session

def prompt (s : Session) : String := s.settings.interfaceName ++ s.settings.entryMarker

def written (s : Session) : String :=
  "shell(interface_name=" ++ Text.quoted s.settings.interfaceName ++ ", commands="
    ++ (Value.tuple (s.registry.names.map .text)).written "" ++ ", state=" ++ s.phase.written ++ ")"

def snapshot (s : Session) : Snapshot :=
  ⟨s.phase, s.stopping, s.executing.map (·.name), s.context⟩

def record (s : Session) (e : Event) : Session := { s with journal := s.journal ++ [e] }

/-- A stop is asked for or no more asked for; asking for it halts the session. -/
def setStopping (s : Session) (stopping : Bool) : Session :=
  if stopping then { s with stopping := true, phase := .halted } else { s with stopping := false }

def restingPhase (s : Session) : Phase := if s.stopping then .halted else .idle

def callbacks (s : Session) : Moment → List Callback
  | .invoking => s.invoking
  | .invoked => s.invoked

def setCallbacks (s : Session) (callbacks : List Callback) : Moment → Session
  | .invoking => { s with invoking := callbacks }
  | .invoked => { s with invoked := callbacks }

/-- The callback of a name; one that is not known yet does nothing. -/
def callbackNamed (s : Session) (name : String) : Callback × Session :=
  match s.known.find? (·.name? = some name) with
  | some c => (c, s)
  | none =>
    let c := .script name s.known.length (.finish .none)
    (c, { s with known := c :: s.known })

def newCallback (s : Session) (name : String) (body : Behaviour) : Callback × Session :=
  let c := .script name s.known.length body
  (c, { s with known := c :: s.known })

def connect (s : Session) (m : Moment) (c : Callback) : Session :=
  s.setCallbacks (s.callbacks m ++ [c]) m

/-- The first connection of a callback is undone. -/
def disconnect (s : Session) (m : Moment) (c : Callback) : Except Misuse Session :=
  if (s.callbacks m).any (·.same c) then
    .ok (s.setCallbacks ((s.callbacks m).eraseP (·.same c)) m)
  else .error (.notConnected (m.name ++ ".disconnect() argument"))

end Session
end LineShell
