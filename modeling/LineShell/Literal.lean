import LineShell.Text.Blank
import LineShell.Text.Digit
import LineShell.Number.Decimal

/-! # Literals

Truth values, whole numbers and real numbers are read from whole tokens. Each reader answers
nothing if the token is not of its form; blanks around a literal are passed over.
-/
namespace LineShell.Literal
open Text Number

/-- A truth value in any mixture of ASCII cases. -/
def bool? (token : List Char) : Option Bool :=
  let word := (trim token).map Char.toLower
  if word = "true".toList then some true
  else if word = "false".toList then some false
  else none

def sign : List Char → Bool × List Char
  | '-' :: rest => (true, rest)
  | '+' :: rest => (false, rest)
  | rest => (false, rest)

def signed (negative : Bool) (n : Nat) : Int := if negative then -(n : Int) else n

/-- The four separator controls are blank, but no whole number may stand beside them. -/
def isSeparatorControl (c : Char) : Bool := 0x1C ≤ c.toNat && c.toNat ≤ 0x1F

def int? (token : List Char) : Option Int :=
  let (negative, ds) := sign (trim token)
  if ds ≠ [] ∧ ds.all isDigit ∧ ds.length ≤ maxDigits ∧ !token.any isSeparatorControl then
    some (signed negative (numeral ds))
  else none

structure Real where
  negative : Bool
  whole : List Char
  fraction : List Char
  exponent : Int

/-- The fraction and what follows it; a point without digits is allowed. -/
def fraction (cs : List Char) : List Char × List Char :=
  match cs with
  | '.' :: rest => rest.span isDigit
  | rest => ([], rest)

/-- An exponent that ends the literal, or nothing at all, which stands for zero. -/
def exponent? : List Char → Option Int
  | [] => some 0
  | c :: rest =>
    let (negative, ds) := sign rest
    if (c = 'e' ∨ c = 'E') ∧ ds ≠ [] ∧ ds.all isDigit then some (signed negative (numeral ds))
    else none

/-- A plain decimal literal with an optional exponent; there is a digit before or after the
point. -/
def real? (token : List Char) : Option Real :=
  let (negative, unsigned) := sign (trim token)
  let (whole, rest) := unsigned.span isDigit
  let (fraction, rest) := fraction rest
  if whole = [] ∧ fraction = [] then none
  else (exponent? rest).map (⟨negative, whole, fraction, ·⟩)

namespace Real

def digits (r : Real) : List Char := r.whole ++ r.fraction

def scale (r : Real) : Int := r.exponent - r.fraction.length

/-- The nearest binary number; beyond the range the result is infinite or zero. -/
def toFloat (r : Real) : Float :=
  let n := numeral r.digits
  let lead := r.scale + (digitsOf n).length
  let size :=
    if n = 0 ∨ lead < -400 then 0.0
    else if 400 < lead then 1.0 / 0.0
    else Float.ofScientific n (r.scale < 0) r.scale.natAbs
  if r.negative then -size else size

def toDecimal? (r : Real) : Option Decimal :=
  let n := numeral r.digits
  if Decimal.fits n r.scale then some (.finite r.negative n r.scale) else none

end Real

def real (token : List Char) : Option Float := (real? token).map Real.toFloat

def decimal? (token : List Char) : Option Decimal := (real? token).bind Real.toDecimal?

end LineShell.Literal
