import LineShell.Failure
import LineShell.Literal

/-! # Conversion of tokens

A token is read strictly as a value of one type, or refused. Texts are taken unchanged, numbers and
truth values are read as literals, fixed-width integers are checked against their bounds, and
members are looked up by name. Tokens without a declared type are read as the first kind of literal
that they fit, or else as texts.
-/
namespace LineShell.Conversion

structure Leniency where
  /-- The declared type allows nothing. -/
  nullable : Bool := false
  /-- Unknown names of nullable enumerations stand for nothing. -/
  lenient : Bool := false

inductive Reason where
  /-- It is no literal of the type. -/
  | literal
  /-- The number is out of bounds. -/
  | range (lower upper : Int)
  /-- No member has this name. -/
  | name
deriving DecidableEq

inductive Refusal where
  | uncastable (token : String) (type : ValueType) (reason : Reason)
  /-- The fixed-width type has no bounds, or none that can be told. -/
  | misuse (m : Misuse)
deriving DecidableEq

namespace Refusal

def choices : ValueType → List String
  | .enumeration e => e.names
  | _ => []

def hint (type : ValueType) : Reason → String
  | .literal => "provide a valid " ++ type.label ++ " value"
  | .range lower upper =>
    type.label ++ " values range from " ++ toString lower ++ " to " ++ toString upper
  | .name => "choose one of: " ++ ", ".intercalate (choices type)

def uncastableFault (token : String) (type : ValueType) (reason : Reason) : Fault :=
  .ofKind .conversion ("cannot convert " ++ Text.quoted token ++ " to " ++ type.label)
    ([("input", .text token), ("type", .type (.ofValueType type)),
      ("hint", .text (hint type reason))]
    ++ if reason = .name then [("choices", .tuple ((choices type).map .text))] else [])

def failure : Refusal → Failure
  | uncastable token type reason => .fault (uncastableFault token type reason)
  | misuse m => .misuse m

end Refusal

/-- A number is out of bounds. The bounds are told, so they have to have texts. -/
def outOfRange (width : FixedWidth) (token : String) (lower upper : Int) : Refusal :=
  if Number.hasText lower && Number.hasText upper then
    .uncastable token (.fixed width) (.range lower upper)
  else .misuse .tooManyDigits

def readFixed (width : FixedWidth) (token : String) : Except Refusal Value :=
  match Literal.int? token.toList with
  | none => .error (.uncastable token (.fixed width) .literal)
  | some n => match width.bounds with
    | .error m => .error (.misuse m)
    | .ok (lower, upper) =>
      if lower ≤ n ∧ n ≤ upper then .ok (.int n)
      else .error (outOfRange width token lower upper)

def readMember (e : Enumeration) (leniency : Leniency) (token : String) : Except Refusal Value :=
  match e.member? token with
  | some m => .ok (.member m)
  | none =>
    if leniency.lenient && leniency.nullable then .ok .none
    else .error (.uncastable token (.enumeration e) .name)

def readLiteral (type : ValueType) (token : String) : Option Value → Except Refusal Value
  | some v => .ok v
  | none => .error (.uncastable token type .literal)

def read (type : ValueType) (leniency : Leniency) (token : String) : Except Refusal Value :=
  match type with
  | .text => .ok (.text token)
  | .bool => readLiteral type token ((Literal.bool? token.toList).map .bool)
  | .int => readLiteral type token ((Literal.int? token.toList).map .int)
  | .real => readLiteral type token ((Literal.real token.toList).map .real)
  | .decimal => readLiteral type token ((Literal.decimal? token.toList).map .decimal)
  | .fixed width => readFixed width token
  | .enumeration e => readMember e leniency token

def infer (token : String) : Value :=
  match Literal.bool? token.toList with
  | some b => .bool b
  | none => match Literal.int? token.toList with
    | some n => .int n
    | none => match Literal.real token.toList with
      | some x => .real x
      | none => .text token

/-- The short name of what stands at the place of a type. It is told only of what can be shown. -/
def typeLabel (type : Value) : Except Misuse String := do
  let shown ← type.spelled ""
  match type with
  | .type t => return t.label
  | _ => return shown

def unsupportedFault (label : String) : Fault :=
  .coded .signature ("unsupported type " ++ label) .unsupportedType []

def readGiven (token type : Value) (leniency : Leniency) : Except Failure Value :=
  match token, type with
  | .text token, .type (.atom (.value t)) => (read t leniency token).mapError Refusal.failure
  | .text _, type => match typeLabel type with
    | .ok label => .error (.fault (unsupportedFault label))
    | .error m => .error (.misuse m)
  | _, _ => .error (.misuse (.notText "convert() first argument"))

/-- Whether a declared type can be read from a token, alone or in a union with nothing. -/
def isSupported : Value → Bool
  | .type t => t.target?.isSome
  | _ => false

end LineShell.Conversion
