import LineShell.Text.Quoted
import LineShell.Number.Whole

/-! # Misuse

A misuse is a mistake of the host program, not of the line that was typed: a value of the wrong
kind, an empty marker, an index that is out of range. It ends the read loop.
-/
namespace LineShell

inductive Misuse where
  | notText (what : String)
  | notInteger (what : String)
  | notBoolean (what : String)
  | notCallable (what : String)
  | notReadable
  | notStream (what : String)
  | notEvent
  | isEmpty (what : String)
  | notPositive (what : String)
  | notConnected (what : String)
  /-- No code, or no role, has this value. -/
  | notOneOf (shown what : String)
  /-- A type has less than no bit for the size of its values. -/
  | noWidth
  /-- A type has more bits than can be counted. -/
  | tooWide
  /-- A number does not fit into memory. -/
  | beyondMemory
  /-- A number that has too many digits is to be shown. -/
  | tooManyDigits
  | indexOutOfRange
  /-- An index is too large to count with. -/
  | indexTooLarge
  | zeroStep
  | badOperands (left right : String)
  | notUnitable (shown : String)
  | notOptional (shown : String)
  /-- A union of nothing at all. -/
  | noTypes
  /-- A text at the place of a type that is no expression. -/
  | notExpression (text : String)
  | unhashable (kind : String)
  /-- A decimal that signals is put where it has to be found again. -/
  | unhashableSignal
  /-- A decimal that signals is compared with a number. -/
  | signalled
  | readOnly (property owner : String)
  | noAttribute (name owner : String)
  | unknownOption (name : String)
  /-- A handler is called with more values than it takes. -/
  | tooManyValues (handler : String) (least most given : Nat)
  /-- A handler is called with fewer values than it needs. -/
  | tooFewValues (handler : String) (missing : Nat)
  /-- A handler needs values that no call gives. -/
  | keywordsMissing (handler : String) (missing : Nat)
  /-- A step of a declaration lacks its name. -/
  | noStepName (step : String)
  /-- A step of a declaration is given a default that it does not take. -/
  | stepDefault (step : String)
  /-- A step of a declaration is given its default twice. -/
  | repeatedDefault (step : String)
deriving DecidableEq

namespace Misuse

/-- What is wrong in general: a kind of value, the value itself, an index, a property, a text that
is no expression, an operation on what is no number, a number that cannot be counted to, or one
that cannot be held. -/
inductive Kind where
  | type
  | value
  | index
  | property
  | expression
  | operation
  | overflow
  | memory
deriving DecidableEq

def kind : Misuse → Kind
  | isEmpty _ | notPositive _ | notConnected _ | notOneOf .. | noWidth | tooManyDigits | zeroStep =>
    .value
  | tooWide => .overflow
  | beyondMemory => .memory
  | indexOutOfRange | indexTooLarge => .index
  | readOnly .. | noAttribute .. => .property
  | notExpression _ => .expression
  | signalled => .operation
  | _ => .type

def Kind.name : Kind → String
  | type => "TypeError"
  | value => "ValueError"
  | index => "IndexError"
  | property => "AttributeError"
  | expression => "SyntaxError"
  | operation => "InvalidOperation"
  | overflow => "OverflowError"
  | memory => "MemoryError"

/-- The most characters of a value that a message shows. -/
def shownLength : Nat := 100

def shortened (s : String) : String := String.ofList (s.toList.take shownLength)

def plural (count : Nat) : String := if count = 1 then "" else "s"

def message : Misuse → String
  | notText what => what ++ " must be a string"
  | notInteger what => what ++ " must be an integer"
  | notBoolean what => what ++ " must be a boolean"
  | notCallable what => what ++ " must be callable"
  | notReadable => "LineReader() argument must be a readable text stream"
  | notStream what => what ++ " must be a text stream or None"
  | notEvent => "run() argument must be a threading.Event"
  | isEmpty what => what ++ " cannot be empty"
  | notPositive what => what ++ " must be a positive number"
  | notConnected what => what ++ " is not connected"
  | notOneOf shown what => shown ++ " is not a valid " ++ what
  | noWidth => "negative shift count"
  | tooWide => "too many digits in integer"
  | beyondMemory => ""
  | tooManyDigits =>
    "Exceeds the limit (" ++ toString Number.maxDigits ++ " digits) for integer string conversion; "
      ++ "use sys.set_int_max_str_digits() to increase the limit"
  | indexOutOfRange => "tuple index out of range"
  | indexTooLarge => "cannot fit 'int' into an index-sized integer"
  | zeroStep => "slice step cannot be zero"
  | badOperands left right =>
    "unsupported operand type(s) for |: '" ++ left ++ "' and '" ++ right ++ "'"
  | notUnitable shown => "Union[arg, ...]: each arg must be a type. Got " ++ shortened shown ++ "."
  | notOptional shown => "typing.Optional requires a single type. Got " ++ shortened shown ++ "."
  | noTypes => "Cannot take a Union of no types."
  | notExpression text => "Forward reference must be an expression -- got " ++ Text.quoted text
  | unhashableSignal => "Cannot hash a signaling NaN value"
  | signalled => "[<class 'decimal.InvalidOperation'>]"
  | unhashable kind => "unhashable type: '" ++ kind ++ "'"
  | readOnly property owner =>
    "property '" ++ property ++ "' of '" ++ owner ++ "' object has no setter"
  | noAttribute name owner => "'" ++ owner ++ "' object has no attribute '" ++ name ++ "'"
  | unknownOption name => "Shell.__init__() got an unexpected keyword argument '" ++ name ++ "'"
  | tooManyValues handler least most given =>
    let range := if least = most then toString most else
      "from " ++ toString least ++ " to " ++ toString most
    handler ++ "() takes " ++ range ++ " positional argument" ++ plural most ++ " but "
      ++ toString given ++ (if given = 1 then " was" else " were") ++ " given"
  | tooFewValues handler missing =>
    handler ++ "() missing " ++ toString missing ++ " required positional argument"
      ++ plural missing
  | keywordsMissing handler missing =>
    handler ++ "() missing " ++ toString missing ++ " required keyword-only argument"
      ++ plural missing
  | noStepName step =>
    "CommandBuilder." ++ step ++ "() missing 1 required positional argument: 'name'"
  | stepDefault step =>
    "CommandBuilder." ++ step ++ "() got an unexpected keyword argument 'default'"
  | repeatedDefault step =>
    "CommandBuilder." ++ step ++ "() got multiple values for argument 'default'"

end Misuse
end LineShell
