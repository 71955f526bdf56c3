import LineShell.Handler
import LineShell.Signature

/-! # Commands

A command pairs a handler with a signature, under a name that is a single token. It is declared at
once, or step by step with a draft that collects parameters and is built at the end; both ways make
the same checks in the same order.
-/
namespace LineShell

namespace Command

/-- The text is a single token: blanks and quotes do not occur in it. -/
def isSingleToken (name : String) : Bool :=
  !name.toList.any Text.isBlank && !name.toList.contains '"'

inductive Error where
  | notCallable
  | parameter (e : Parameter.Error)
  | signature (e : Signature.Error)
  | nameNotText
  | nameEmpty
  | nameNotToken (name : String)
  | descrNotText
  | descrEmpty
  | handlerArity (name : String) (count : Nat)
deriving DecidableEq

namespace Error

def message : Error → String
  | notCallable => "command 'callback' must be callable"
  | parameter e => e.message
  | signature e => e.message
  | nameNotText => "command 'name' must be a string"
  | nameEmpty => "command 'name' cannot be empty"
  | nameNotToken name => "command name " ++ Text.quoted name ++ " must be a single token"
  | descrNotText => "command 'descr' must be a string"
  | descrEmpty => "command 'descr' cannot be empty"
  | handlerArity name count =>
    "handler of " ++ Text.quoted name ++ " cannot accept " ++ toString count
      ++ " positional argument(s)"

def hint? : Error → Option String
  | nameNotToken _ => some "remove spaces and quotes from the name"
  | handlerArity .. =>
    some "declare one handler parameter per command parameter, in the same order"
  | _ => none

def fault : Error → Fault
  | parameter e => e.fault
  | signature e => e.fault
  | e => .coded .signature e.message .invalidParameter
      (e.hint?.toList.map fun hint => ("hint", .text hint))

def failure : Error → Failure
  | parameter e => e.failure
  | e => .fault e.fault

end Error

abbrev Name := { name : String // name ≠ "" ∧ isSingleToken name = true }

def checkName : Value → Except Error Name
  | .text s =>
    let name := Text.trimmed s
    if empty : name = "" then .error .nameEmpty
    else if single : isSingleToken name = true then .ok ⟨name, empty, single⟩
    else .error (.nameNotToken name)
  | _ => .error .nameNotText

def checkDescr : Value → Except Error (Option String)
  | .text s =>
    let descr := Text.trimmed s
    if descr = "" then .error .descrEmpty else .ok (some descr)
  | .unset => .ok none
  | _ => .error .descrNotText

end Command

structure Command where
  name : String
  handler : Handler
  signature : Signature
  descr : Option String
  name_ne : name ≠ ""
  name_single : Command.isSingleToken name = true
  accepts_values : handler.mayAccept signature.parameters.length = true

namespace Command

def identifier (c : Command) : String := c.handler.identifier

def required (c : Command) : Nat := c.signature.required

def declare (handler : Handler) (signature : Signature) (name descr : Value) :
    Except Error Command := do
  let ⟨name, name_ne, name_single⟩ ← checkName (name.orElse handler.name)
  let descr ← checkDescr descr
  if accepted : handler.mayAccept signature.parameters.length = true then
    return { name, handler, signature, descr, name_ne, name_single, accepts_values := accepted }
  else throw (.handlerArity name signature.parameters.length)

def ofItems (handler : Option Handler) (items : List Signature.Item) (name descr : Value) :
    Except Error Command := do
  let some handler := handler | throw .notCallable
  let signature ← (Signature.ofItems items).mapError .signature
  declare handler signature name descr

def descrValue (c : Command) : Value :=
  match c.descr with
  | some s => .text s
  | none => .none

def written (c : Command) (session : String) : Except Misuse String := do
  let signature ← c.signature.written session
  return "command(name=" ++ Text.quoted c.name ++ ", identifier=" ++ Text.quoted c.identifier
    ++ ", signature=" ++ signature ++ ", descr=" ++ c.descrValue.written session ++ ")"

structure Draft where
  handler : Handler
  name : Value := .unset
  descr : Value := .unset
  parameters : List Parameter := []

namespace Draft

def start (handler : Option Handler) (name descr : Value) : Except Error Draft :=
  match handler with
  | some handler => .ok { handler, name, descr }
  | none => .error .notCallable

/-- The steps of a declaration. A `param` is positional without a default and named with one. -/
inductive Step where
  | positional
  | named
  | param
  | flags
  | caller
  | variadic
deriving DecidableEq

namespace Step

def all : List Step := [positional, named, param, flags, caller, variadic]

def label : Step → String
  | positional => "positional"
  | named => "named"
  | param => "param"
  | flags => "with_flags"
  | caller => "with_caller"
  | variadic => "variadic"

def ofLabel? (s : String) : Option Step := all.find? (·.label = s)

def isValued : Step → Bool
  | positional | named | param => true
  | flags | caller | variadic => false

end Step

/-- What a step is given: values by position, at most two, and others by name. What is left out
has a default that depends on the step. -/
structure Step.Given where
  values : List Value := []
  default : Option Value := none
  descr : Value := .unset

/-- The default of a step: the second value of a step that declares no type, or what is given by
name. -/
def Step.default? (s : Step) (g : Step.Given) : Option Value :=
  if s.isValued then g.default else g.values[1]? <|> g.default

def Step.misuse? (s : Step) (g : Step.Given) : Option Misuse :=
  if s = .positional && g.default.isSome then some (.stepDefault s.label)
  else if !s.isValued && g.values[1]?.isSome && g.default.isSome then
    some (.repeatedDefault s.label)
  else if s.isValued && g.values.isEmpty then some (.noStepName s.label)
  else none

def Step.parameter (s : Step) (g : Step.Given) : Parameter.Draft :=
  let name := g.values.headD .unset
  let nameOr (own : String) := g.values.headD (.text own)
  let type := g.values[1]?.getD (.type (.ofValueType .text))
  let default := (s.default? g).getD .unset
  match s with
  | positional => { name, role := some .positional, type, descr := g.descr }
  | named => { name, role := some .named, type, default, descr := g.descr }
  | param =>
    { name, role := some (if default.isUnset then .positional else .named), type, default
      descr := g.descr }
  | flags =>
    { name := nameOr "flags", role := some .flags, default := (s.default? g).getD (.tuple [])
      descr := g.descr }
  | caller =>
    { name := nameOr "caller", role := some .caller, default := (s.default? g).getD .none
      descr := g.descr }
  | variadic =>
    { name := nameOr "extra", role := some .variadic, default := (s.default? g).getD (.tuple [])
      descr := g.descr }

/-- One parameter more, or the draft as it was and what is wrong. -/
def add (d : Draft) (s : Step) (g : Step.Given) : Except Error Draft := do
  let p ← (Parameter.declare (s.parameter g)).mapError .parameter
  return { d with parameters := d.parameters ++ [p] }

def build (d : Draft) : Except Error Command := do
  let signature ← (Signature.ofParameters d.parameters).mapError .signature
  declare d.handler signature d.name d.descr

def written (d : Draft) (session : String) : Except Misuse String := do
  let shown ← d.parameters.mapM (·.written session)
  return "command-builder(callback=" ++ d.handler.shows ++ ", parameters=["
    ++ Value.commaed shown ++ "])"

end Draft
end Command
end LineShell
