/-! # Fault codes

Every fault carries a number that stays the same from one release to the next. The numbers are
grouped: declaration, routing, input, handlers, warnings.
-/
namespace LineShell.Fault

inductive Code where
  | unsupportedType
  | duplicatedRole
  | missingDefault
  | misplacedVariadic
  | invalidParameter
  | unknownCommand
  | notEnoughArguments
  | unterminatedQuote
  | missingArgument
  | uncastableValue
  | delegatedOperation
  | delegatedArgument
  | shadowedCommand
deriving DecidableEq

namespace Code

def all : List Code :=
  [unsupportedType, duplicatedRole, missingDefault, misplacedVariadic, invalidParameter,
   unknownCommand, notEnoughArguments, unterminatedQuote, missingArgument, uncastableValue,
   delegatedOperation, delegatedArgument, shadowedCommand]

def number : Code → Nat
  | unsupportedType => 10101
  | duplicatedRole => 10102
  | missingDefault => 10103
  | misplacedVariadic => 10104
  | invalidParameter => 10105
  | unknownCommand => 11101
  | notEnoughArguments => 11102
  | unterminatedQuote => 11201
  | missingArgument => 11202
  | uncastableValue => 11203
  | delegatedOperation => 11301
  | delegatedArgument => 11302
  | shadowedCommand => 12101

def name : Code → String
  | unsupportedType => "UNSUPPORTED_TYPE"
  | duplicatedRole => "DUPLICATED_ROLE"
  | missingDefault => "MISSING_DEFAULT"
  | misplacedVariadic => "MISPLACED_VARIADIC"
  | invalidParameter => "INVALID_PARAMETER"
  | unknownCommand => "UNKNOWN_COMMAND"
  | notEnoughArguments => "NOT_ENOUGH_ARGUMENTS"
  | unterminatedQuote => "UNTERMINATED_QUOTE"
  | missingArgument => "MISSING_ARGUMENT"
  | uncastableValue => "UNCASTABLE_VALUE"
  | delegatedOperation => "DELEGATED_OPERATION"
  | delegatedArgument => "DELEGATED_ARGUMENT"
  | shadowedCommand => "SHADOWED_COMMAND"

def written (c : Code) : String := "<FaultCode." ++ c.name ++ ": " ++ toString c.number ++ ">"

end Code
end LineShell.Fault
