import LineShell.Value.Text
import LineShell.Value.Equality
import LineShell.Misuse

/-! # Faults

A fault is an error or a warning that a user sees. Its kind fixes its family and the code and
title that it has unless it is given others; the options carry what the message speaks of. Faults
of the operation and argument families end a line and not the read loop.
-/
namespace LineShell

inductive Fault.Kind where
  | command
  | signature
  | operation
  | commandNotFound
  | arity
  | argument
  | format
  | bind
  | conversion
  | warning
  | shadowedCommand
deriving DecidableEq

namespace Fault.Kind

def all : List Kind :=
  [command, signature, operation, commandNotFound, arity, argument, format, bind, conversion,
   warning, shadowedCommand]

def name : Kind → String
  | command => "CommandException"
  | signature => "SignatureError"
  | operation => "OperationError"
  | commandNotFound => "CommandNotFoundError"
  | arity => "ArityError"
  | argument => "ArgumentError"
  | format => "FormatError"
  | bind => "BindError"
  | conversion => "ConversionError"
  | warning => "CommandWarning"
  | shadowedCommand => "ShadowedCommandWarning"

def ofName? (s : String) : Option Kind := all.find? (·.name = s)

def code : Kind → Code
  | command | operation => .delegatedOperation
  | signature => .invalidParameter
  | commandNotFound => .unknownCommand
  | arity => .notEnoughArguments
  | argument => .delegatedArgument
  | format => .unterminatedQuote
  | bind => .missingArgument
  | conversion => .uncastableValue
  | warning | shadowedCommand => .shadowedCommand

def title : Kind → String
  | command => "command error"
  | signature => "invalid signature"
  | operation => "invalid operation"
  | commandNotFound => "unknown command"
  | arity => "not enough arguments"
  | argument => "invalid argument"
  | format => "unterminated quote"
  | bind => "missing argument"
  | conversion => "uncastable value"
  | warning => "command warning"
  | shadowedCommand => "shadowed command"

def isWarning : Kind → Bool
  | warning | shadowedCommand => true
  | _ => false

def isOperation : Kind → Bool
  | operation | commandNotFound | arity => true
  | _ => false

def isArgument : Kind → Bool
  | argument | format | bind | conversion => true
  | _ => false

/-- The read loop shows such a fault and goes on. -/
def isRecoverable (k : Kind) : Bool := k.isOperation || k.isArgument

end Fault.Kind

structure Fault where
  kind : Fault.Kind
  message : String
  options : List (String × Value)
  code : Fault.Code
  title : String

namespace Fault

def ofKind (kind : Kind) (message : String) (options : List (String × Value)) : Fault :=
  ⟨kind, message, options, kind.code, kind.title⟩

/-- A fault that is given its code, which is among the options too. -/
def coded (kind : Kind) (message : String) (code : Code) (options : List (String × Value)) :
    Fault :=
  ⟨kind, message, ("code", .code code) :: options, code, kind.title⟩

def option? (f : Fault) (name : String) : Option Value :=
  (f.options.find? (·.1 = name)).map (·.2)

def hint (f : Fault) : Value := (f.option? "hint").getD .none

/-- The code that a value denotes: a code, or a number of the same amount. -/
def Code.ofValue (v : Value) : Except Misuse Code :=
  if v.isSignalling then .error .signalled
  else match Code.all.find? fun c => (Value.code c).equals v with
    | some c => .ok c
    | none => do throw (.notOneOf (← v.spelled "") "FaultCode")

/-- A fault as a host raises it. The options of an error may set its code and its title; those of
a warning do not. -/
def make (kind : Kind) (message : Value) (options : List (String × Value)) :
    Except Misuse Fault := do
  let text ← match message with
    | .text s => pure s
    | .unset => pure ""
    | _ => throw (.notText (kind.name ++ "() message"))
  let fault := ofKind kind text options
  if kind.isWarning then return fault
  let code ← match fault.option? "code" with
    | some v => Code.ofValue v
    | none => pure kind.code
  let title ← match fault.option? "title" with
    | some v => v.shown ""
    | none => pure kind.title
  return { fault with code, title }

end Fault
end LineShell
