import LineShell.Session.Setting
import LineShell.Binding
import LineShell.Token

/-! # The engine

The engine executes lines and runs the read loop. Handlers, callbacks and traps may execute lines
and run the loop in their turn; how deeply that may nest is limited, and each level is defined from
the one inside it. No failure is swallowed by the execution of a line; the read loop shows the
recoverable ones and goes on.
-/
namespace LineShell.Session

/-- A computation on a session that may fail. What it did before it failed stays done. -/
abbrev Act (α : Type) := ExceptT Failure (StateM Session) α

/-- What a level of nesting offers to the one around it. -/
structure Engine where
  execute : Value → Act Unit
  run : Act Unit
  perform : Behaviour → Act Value

def Engine.exhausted : Engine :=
  ⟨fun _ => throw .tooDeep, throw .tooDeep, fun _ => throw .tooDeep⟩

/-- Whatever happens, `last` is done to the session at the end. -/
def ensure {α : Type} (act : Act α) (last : Session → Session) : Act α :=
  fun s => let (result, s) := act s; (result, last s)

def caught {α : Type} (act : Act α) : Act (Option Failure) :=
  fun s => match act s with
    | (.ok _, s) => (.ok none, s)
    | (.error f, s) => (.ok (some f), s)

def liftMisuse {α : Type} : Except Misuse α → Act α
  | .ok a => pure a
  | .error m => throw (.misuse m)

def note (e : Event) : Act Unit := modify (·.record e)

/-- Write to an outlet. The first write to a trap sets it off. -/
def write (e : Engine) (outlet : Nat) (text : String) : Act Unit := do
  match (← get).outlets[outlet]? with
  | none => pure ()
  | some o =>
    note (.wrote o.sink text)
    match o.armed with
    | none => pure ()
    | some body =>
      modify fun s => { s with outlets := s.outlets.set outlet ⟨o.sink, none⟩ }
      discard (e.perform body)

def printLine (e : Engine) (outlet : Nat) (text : String) : Act Unit :=
  write e outlet ((Styled.ofText text "").printed ++ "\n")

def printPrompt (e : Engine) : Act Unit := do
  let s ← get
  write e s.output (Styled.ofText s.prompt "").printed

def report (e : Engine) (f : Fault) : Act Unit := do
  let s ← get
  let shown ← liftMisuse (f.printed s.host (.text s.settings.interfaceName))
  write e s.errors shown

def act (e : Engine) : Action Behaviour → Act Unit
  | .stop => modify (·.setStopping true)
  | .cancel => modify fun s => { s with cancelled := true }
  | .execute line => e.execute line
  | .run => e.run
  | .probe => do note (.probed (← get).snapshot)
  | .note text => note (.noted text)
  | .noteAttempt line failure => note (.attempted line failure)
  | .print text => do write e (← get).output text
  | .report f => report e f
  | .assign setting given => do set (← liftMisuse ((← get).assign setting given))
  | .connect moment name => modify fun s =>
    let (c, s) := s.callbackNamed name
    s.connect moment c
  | .disconnect moment name => do
    let (c, s) := (← get).callbackNamed name
    set s
    set (← liftMisuse (s.disconnect moment c))

def perform (e : Engine) : Behaviour → Act Value
  | .finish result => pure result
  | .fail f => throw f
  | .act a next => do
    let failure ← caught (act e a)
    perform e (next failure)

def fireAll (e : Engine) (command : String) : List Callback → Act Unit
  | [] => pure ()
  | .script name _ body :: rest => do
    note (.fired name command)
    discard (perform e body)
    fireAll e command rest
  | .maker _ body :: rest => do
    let shown := (← get).written
    discard (perform e (body [Value.session.outside shown, .object "Command" command]))
    fireAll e command rest

/-- Fire the callbacks that are connected now. -/
def fire (e : Engine) (moment : Moment) (command : String) : Act Unit := do
  fireAll e command ((← get).callbacks moment)

/-- Call a handler. A call with a number of values that it does not take never reaches it. -/
def call (e : Engine) (h : Handler) (arguments : List Value) : Act Value := do
  match h.arity.misuse? h.identifier arguments.length with
  | some m => throw (.misuse m)
  | none =>
    match h.label with
    | some label =>
      note (.called label arguments)
      perform e (h.behaviour arguments)
    | none => do
      let shown := (← get).written
      perform e (h.behaviour (arguments.map (·.outside shown)))

def printListing (e : Engine) : Act Unit := do
  let s ← get
  let listing ← liftMisuse (Help.listing s.written s.registry.commands)
  if listing = "" then pure () else printLine e s.output listing

def printHelp (e : Engine) : List String → Act Unit
  | [] => printListing e
  | topic :: _ => do
    let s ← get
    match s.registry.find topic s.settings.ignoreCase with
    | some c =>
      let shown ← liftMisuse (Help.full s.written c)
      printLine e s.output shown
    | none =>
      printLine e s.output ("command " ++ Text.quoted topic ++ " not found")
      printListing e

def asksForHelp (name : String) : Bool := Text.foldCase name.toList = "help".toList

def isFlag (marker token : String) : Bool := marker.toList.isPrefixOf token.toList

def unknownCommandFault (name : String) : Fault :=
  .ofKind .commandNotFound ("unknown command " ++ Text.quoted name)
    [("input", .text name), ("hint", .text "run 'help' to list the available commands")]

def arityFault (name : String) (required given : Nat) : Fault :=
  .ofKind .arity
    ("not enough positional arguments for " ++ Text.quoted name ++ ", required "
      ++ toString required ++ ", given " ++ toString given)
    [("input", .text name), ("required", .int required), ("given", .int given),
     ("hint", .text ("run 'help " ++ name ++ "' to see its parameters"))]

/-- Fire the callbacks, bind the tokens and call the handler, with the command on record. -/
def invoke (e : Engine) (c : Command) (context : Context) (positionals : List String) :
    Act Value := do
  modify fun s => { s with executing := some c, context := some context, phase := .invoking }
  let body : Act Value := do
    fire e .invoking c.name
    let lenient := (← get).settings.lenientEnums
    match Binding.bind c.signature.parameters positionals context.flags .session lenient with
    | .error failure => throw failure.failure
    | .ok values => call e c.handler values
  ensure body fun s => { s with executing := none, context := none }

/-- Show the result of a command, unless it is nothing, and fire the callbacks that come after. -/
def conclude (e : Engine) (c : Command) (result : Value) : Act Unit := do
  unless result.isNone do
    let s ← get
    let shown ← liftMisuse (result.shown s.written)
    printLine e s.errors ("on execution of " ++ c.name ++ ": " ++ shown)
  fire e .invoked c.name

def carryOut (e : Engine) (c : Command) (line : String) (tokens rest : List String) :
    Act Unit := do
  let marker := (← get).settings.flagMarker
  let positionals := rest.filter (!isFlag marker ·)
  let flags := rest.filter (isFlag marker ·)
  if positionals.length < c.required then
    throw (.fault (arityFault c.name c.required positionals.length))
  let result ← invoke e c ⟨line, tokens, flags, some c.name⟩ positionals
  conclude e c result

def dispatch (e : Engine) (line : String) : Act Unit := do
  match Token.split line {} {} with
  | .error unclosed => throw (.fault unclosed.fault)
  | .ok [] => pure ()
  | .ok (name :: rest) =>
    let s ← get
    match s.registry.find name s.settings.ignoreCase with
    | some c => carryOut e c line (name :: rest) rest
    | none =>
      if asksForHelp name then printHelp e rest
      else throw (.fault (unknownCommandFault name))

/-- Execute a line; nothing and a blank line ask for nothing. -/
def execute (e : Engine) : Value → Act Unit
  | .none => pure ()
  | .text line =>
    if Text.trimmed line = "" then pure ()
    else do
      modify fun s => { s with phase := .dispatching }
      ensure (dispatch e line) fun s => { s with phase := s.restingPhase }
  | _ => throw (.misuse (.notText "execute() argument"))

/-- The number of the reader in use, if it reads the present input and is not exhausted. -/
def usableReader (s : Session) : Option Nat :=
  s.reader.filter fun number => match s.readers[number]? with
    | some (input, r) => input = s.input && !r.exhausted
    | none => false

def currentReader : Act Nat := do
  let s ← get
  match s.usableReader with
  | some number => return number
  | none =>
    set { s with
      readers := s.readers ++ [(s.input, ({} : LineReader))], reader := some s.readers.length }
    return s.readers.length

def readLine (number : Nat) (watching : Bool) : Act LineReader.Answer := do
  let s ← get
  match s.readers[number]? with
  | none => return .interrupted
  | some (input, r) => match s.sources[input]? with
    | none => return .interrupted
    | some source =>
      let (answer, r, source) := r.readLine source (watching && s.cancelled) [s.stopping]
      set { s with
        readers := s.readers.set number (input, r)
        sources := s.sources.set input source }
      return answer

/-- One call for a line, which is noted if it comes. -/
def fetch (number : Nat) (watching : Bool) : Act LineReader.Answer := do
  let answer ← readLine number watching
  match answer with
  | .line line => note (.received line)
  | _ => pure ()
  return answer

def isEndOfInput : Failure → Bool
  | .endOfInput => true
  | .foreign kind _ => kind = "EOFError"
  | _ => false

/-- Execute a line that was taken, show a recoverable fault, and go on. -/
def obey (e : Engine) (line : String) (next : Act Unit) : Act Unit := do
  match ← caught (execute e (.text line)) with
  | none => next
  | some (.fault f) =>
    if f.kind.isRecoverable then
      report e f
      next
    else throw (.fault f)
  | some f => throw f

def loop (e : Engine) (number : Nat) (watching : Bool) : Nat → Act Unit
  | 0 => pure ()
  | rounds + 1 => do
    let s ← get
    if s.stopping || (watching && s.cancelled) then pure ()
    else
      printPrompt e
      match ← fetch number watching with
      | .interrupted => pure ()
      | .failed f => if isEndOfInput f then pure () else throw f
      | .line line => obey e line (loop e number watching rounds)

/-- Each round takes a line that the reader holds or its source still has. -/
def rounds (s : Session) (number : Nat) : Nat :=
  match s.readers[number]? with
  | none => 0
  | some (input, r) => r.queue.length + ((s.sources[input]?.map (·.items.length)).getD 0) + 1

/-- Read and execute lines until a stop, a cancellation, the end of the input, or a failure that is
not recoverable. -/
def run (e : Engine) (watching : Bool) : Act Unit := do
  let number ← currentReader
  let limit := (← get).rounds number
  ensure (loop e number watching limit) fun s => { s with stopping := false, phase := .idle }

def engine : Nat → Engine
  | 0 => .exhausted
  | depth + 1 =>
    let inner := engine depth
    ⟨execute inner, run inner false, perform inner⟩

def nestingLimit : Nat := 160

def fullEngine : Engine := engine nestingLimit

end LineShell.Session
