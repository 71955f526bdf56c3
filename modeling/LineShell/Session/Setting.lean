import LineShell.Session.Basic

/-! # Settings

Settings are checked when they are assigned. A stream that is given becomes a new source or a new
outlet; nothing at the place of a stream stands for that of the process.
-/
namespace LineShell.Session

def openInput (s : Session) : Given Behaviour → Except Misuse (Nat × Session)
  | .value .none => .ok (0, s)
  | .text text => .ok (s.sources.length, { s with sources := s.sources ++ [.ofText text] })
  | .script items => .ok (s.sources.length, { s with sources := s.sources ++ [⟨items, false⟩] })
  | .sink _ => .ok (s.sources.length, { s with sources := s.sources ++ [⟨[], false⟩] })
  | _ => .error (.notStream "shell 'stdin'")

/-- A stream to write to; `process` is the number of that of the process. -/
def openOutput (s : Session) (what : String) (process : Nat) :
    Given Behaviour → Except Misuse (Nat × Session)
  | .value .none => .ok (process, s)
  | .text _ => .ok (s.outlets.length, { s with outlets := s.outlets ++ [⟨none, none⟩] })
  | .sink name => .ok (s.outlets.length, { s with outlets := s.outlets ++ [⟨some name, none⟩] })
  | .trap name body =>
    .ok (s.outlets.length, { s with outlets := s.outlets ++ [⟨some name, some body⟩] })
  | _ => .error (.notStream ("shell '" ++ what ++ "'"))

def textGiven (name : String) : Given Behaviour → Except Misuse String
  | .value (.text s) => .ok s
  | _ => .error (.notText ("shell '" ++ name ++ "'"))

def boolGiven (name : String) : Given Behaviour → Except Misuse Bool
  | .value (.bool b) => .ok b
  | _ => .error (.notBoolean ("shell '" ++ name ++ "'"))

def markerGiven (given : Given Behaviour) : Except Misuse String := do
  let marker ← textGiven "flag_marker" given
  if marker = "" then throw (.isEmpty "shell 'flag_marker'") else return marker

/-- What can be seen of a session and not assigned. -/
def readOnly : List String := ["prompt", "commands", "executing", "context", "state"]

def valueGiven : Given Behaviour → Value
  | .value v => v
  | .text _ => .stream true true "<text>"
  | .script _ => .stream true false "<script>"
  | .sink _ => .stream true true "<sink>"
  | .trap .. => .stream false true "<trap>"

def keep (s : Session) (name : String) (given : Given Behaviour) : Session :=
  { s with assigned := (name, valueGiven given) :: s.assigned }

/-- Assign a setting. What is not a setting is kept, and changes nothing else. -/
def assign (s : Session) (name : String) (given : Given Behaviour) : Except Misuse Session := do
  match name with
  | "interface_name" =>
    let text ← textGiven name given
    return { s with settings.interfaceName := text }
  | "entry_marker" =>
    let text ← textGiven name given
    return { s with settings.entryMarker := text }
  | "flag_marker" =>
    let marker ← markerGiven given
    return { s with settings.flagMarker := marker }
  | "ignore_case" =>
    let b ← boolGiven name given
    return { s with settings.ignoreCase := b }
  | "lenient_enums" =>
    let b ← boolGiven name given
    return { s with settings.lenientEnums := b }
  | "stopping" =>
    let b ← boolGiven name given
    return s.setStopping b
  | "stdin" =>
    let (number, s) ← s.openInput given
    return { s.keep name given with input := number }
  | "stdout" =>
    let (number, s) ← s.openOutput name 0 given
    return { s.keep name given with output := number }
  | "stderr" =>
    let (number, s) ← s.openOutput name 1 given
    return { s.keep name given with errors := number }
  | name =>
    if readOnly.contains name then throw (.readOnly name "Shell")
    else return s.keep name given

/-- The settings that a session is made with, in the order in which they are checked. -/
def options : List String :=
  ["interface_name", "entry_marker", "flag_marker", "ignore_case", "lenient_enums", "stdin",
   "stdout", "stderr"]

def ofProcess (input : String) (host : Host) : Session where
  registry := ⟨[]⟩
  host := host
  sources := [.ofText input]
  outlets := [⟨some "sys.out", none⟩, ⟨some "sys.err", none⟩]

/-- A session of commands with the given settings. The commands are checked before the settings. -/
def start (input : String) (host : Host) (items : List Registry.Item)
    (given : List (String × Given Behaviour)) : Except Failure Session := do
  for (name, _) in given do
    unless options.contains name do throw (.misuse (.unknownOption name))
  let registry ← (Registry.ofItems items).mapError Registry.Error.failure
  options.foldlM (fun s name =>
    match given.find? (·.1 = name) with
    | some (_, g) => (s.assign name g).mapError .misuse
    | none => pure s) { ofProcess input host with registry }

inductive Reading where
  | value (v : Value)
  | command (name : String)
  | registry (names : List String)
  | context (c : Context)

def hookText (s : Session) (moment : Moment) : String :=
  "hook(" ++ moment.name ++ ", callbacks=" ++ toString (s.callbacks moment).length ++ ")"

def methods : List String := ["execute", "report", "run", "stop"]

/-- What was assigned under a name, or what a session comes with under it. -/
def readOther (s : Session) (name : String) : Except Misuse Value :=
  match s.assigned.find? (·.1 = name) with
  | some (_, v) => .ok v
  | none =>
    match [Moment.invoking, .invoked].find? (·.name = name) with
    | some moment => .ok (.object "Hook" (s.hookText moment))
    | none =>
      if methods.contains name then .ok (.object "method" name)
      else .error (.noAttribute name "Shell")

def read (s : Session) : String → Except Misuse Reading
  | "interface_name" => .ok (.value (.text s.settings.interfaceName))
  | "entry_marker" => .ok (.value (.text s.settings.entryMarker))
  | "flag_marker" => .ok (.value (.text s.settings.flagMarker))
  | "ignore_case" => .ok (.value (.bool s.settings.ignoreCase))
  | "lenient_enums" => .ok (.value (.bool s.settings.lenientEnums))
  | "stopping" => .ok (.value (.bool s.stopping))
  | "prompt" => .ok (.value (.text s.prompt))
  | "state" => .ok (.value (.text s.phase.label))
  | "commands" => .ok (.registry s.registry.names)
  | "executing" => .ok (match s.executing with
    | some c => .command c.name
    | none => .value .none)
  | "context" => .ok (match s.context with
    | some c => .context c
    | none => .value .none)
  | name => (s.readOther name).map .value

end LineShell.Session
