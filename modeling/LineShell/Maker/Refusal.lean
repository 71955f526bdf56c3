import LineShell.Failure
import LineShell.Literal
import LineShell.Enumeration

/-! # Refusals

Why a class makes nothing of the values that it is called with.
-/
namespace LineShell.Maker

/-- Why nothing is made. What is shown is the written form of a value or a class; a kind is the name
of the kind of a value. -/
inductive Refusal where
  | misuse (m : Misuse)
  /-- A maker of one value is given more. -/
  | moreThanOne (maker : String) (given : Nat)
  | tooMany (maker : String) (most given : Nat)
  | noArguments (shown : String)
  | notIterable (kind : String)
  | notInteger (kind : String)
  | notNumeral (base : Int) (shown : String)
  | tooManyDigits (count : Nat)
  | badBase
  | baseWithoutText
  | notIntegral (kind : String)
  | undefinedInteger (what : String)
  | infiniteInteger (what : String)
  | notRealText (shown : String)
  | notReal (kind : String)
  | tooLarge
  | signallingReal
  | notDecimalText
  /-- The exponent is one that no decimal holds. -/
  | beyondLimits
  | notDecimal (kind : String)
  | notTriple
  | badSign
  | badExponent
  | badExponentText
  | badCoefficient
  | notContext
  | underscores (shown : String)
  | notComplexText
  | notComplex (isFirst : Bool) (kind : String)
  | secondAfterText
  | textSecond
  | encoding (maker argument kind : String)
  | unknownEncoding (name : String)
  | decodingText
  | decoding (kind : String)
  | encodingWithoutText
  | textWithoutEncoding
  | negativeCount
  | countBeyondIndex
  | notByte
  | notBytes (kind : String)
  | notPair (position : Nat)
  | pairLength (position length : Nat)
  | abstract
  | abstractUnion
  | noMemberValue
  | noMembers (shown : String)
  | notMember (shown name : String)
  /-- A class with members is to be extended. -/
  | extending (shown enumeration : String)
  | memberArguments (given : Nat)

namespace Refusal

def kindName : Refusal → String
  | misuse m => m.kind.name
  | notNumeral .. | tooManyDigits _ | badBase | undefinedInteger _ | notRealText _ | signallingReal
  | notTriple | badSign | badExponent | badExponentText | badCoefficient | underscores _
  | notComplexText | negativeCount | notByte | pairLength .. | notMember .. => "ValueError"
  | infiniteInteger _ | tooLarge | countBeyondIndex => "OverflowError"
  | notDecimalText | beyondLimits => "InvalidOperation"
  | unknownEncoding _ => "LookupError"
  | _ => "TypeError"

def message : Refusal → String
  | misuse m => m.message
  | moreThanOne maker given =>
    maker ++ " expected at most 1 argument, got " ++ toString given
  | tooMany maker most given =>
    maker ++ " takes at most " ++ toString most ++ " arguments (" ++ toString given ++ " given)"
  | noArguments shown => shown ++ " takes no arguments"
  | notIterable kind => "'" ++ kind ++ "' object is not iterable"
  | notInteger kind => "'" ++ kind ++ "' object cannot be interpreted as an integer"
  | notNumeral base shown =>
    "invalid literal for int() with base " ++ toString base ++ ": "
      ++ String.ofList (shown.toList.take 200)
  | tooManyDigits count =>
    "Exceeds the limit (" ++ toString Number.maxDigits ++ " digits) for integer string conversion: "
      ++ "value has " ++ toString count
      ++ " digits; use sys.set_int_max_str_digits() to increase the limit"
  | badBase => "int() base must be >= 2 and <= 36, or 0"
  | baseWithoutText => "int() can't convert non-string with explicit base"
  | notIntegral kind =>
    "int() argument must be a string, a bytes-like object or a real number, not '" ++ kind ++ "'"
  | undefinedInteger what | infiniteInteger what => "cannot convert " ++ what ++ " to integer"
  | notRealText shown => "could not convert string to float: " ++ shown
  | notReal kind => "float() argument must be a string or a real number, not '" ++ kind ++ "'"
  | tooLarge => "int too large to convert to float"
  | signallingReal => "cannot convert signaling NaN to float"
  | notDecimalText => "[<class 'decimal.ConversionSyntax'>]"
  | beyondLimits => "[<class 'decimal.InvalidOperation'>]"
  | notDecimal kind => "conversion from " ++ kind ++ " to Decimal is not supported"
  | notTriple => "argument must be a sequence of length 3"
  | badSign => "sign must be an integer with the value 0 or 1"
  | badExponent => "exponent must be an integer"
  | badExponentText => "string argument in the third position must be 'F', 'n' or 'N'"
  | badCoefficient => "coefficient must be a tuple of digits"
  | notContext => "optional argument must be a context"
  | underscores shown => "could not convert string to complex: " ++ shown
  | notComplexText => "complex() arg is a malformed string"
  | notComplex isFirst kind =>
    "complex() " ++ (if isFirst then "first argument must be a string or a number"
      else "second argument must be a number") ++ ", not '" ++ kind ++ "'"
  | secondAfterText => "complex() can't take second arg if first is a string"
  | textSecond => "complex() second arg can't be a string"
  | encoding maker argument kind =>
    maker ++ "() argument '" ++ argument ++ "' must be str, not " ++ kind
  | unknownEncoding name => "unknown encoding: " ++ name
  | decodingText => "decoding str is not supported"
  | decoding kind => "decoding to str: need a bytes-like object, " ++ kind ++ " found"
  | encodingWithoutText => "encoding without a string argument"
  | textWithoutEncoding => "string argument without an encoding"
  | negativeCount => "negative count"
  | countBeyondIndex => "cannot fit 'int' into an index-sized integer"
  | notByte => "bytes must be in range(0, 256)"
  | notBytes kind => "cannot convert '" ++ kind ++ "' object to bytes"
  | notPair position =>
    "cannot convert dictionary update sequence element #" ++ toString position ++ " to a sequence"
  | pairLength position length =>
    "dictionary update sequence element #" ++ toString position ++ " has length "
      ++ toString length ++ "; 2 is required"
  | abstract => "Any cannot be instantiated"
  | abstractUnion => "Cannot instantiate typing.Union"
  | noMemberValue => "EnumType.__call__() missing 1 required positional argument: 'value'"
  | noMembers shown => shown ++ " has no members defined"
  | notMember shown name => shown ++ " is not a valid " ++ name
  | extending shown enumeration => "<enum " ++ shown ++ "> cannot extend " ++ enumeration
  | memberArguments given =>
    "EnumType.__call__() takes from 2 to 3 positional arguments but " ++ toString given
      ++ " were given"

def failure : Refusal → Failure
  | misuse m => .misuse m
  | r => .foreign r.kindName r.message

end Refusal

end LineShell.Maker
