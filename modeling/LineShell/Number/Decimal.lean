import LineShell.Number.RealText

/-! # Decimals

A decimal keeps its coefficient and its exponent apart, so `1.50` and `1.5` are equal in value and
different in form. Two limits bound the exponents that can be held.
-/
namespace LineShell.Number

inductive Decimal where
  | finite (negative : Bool) (coefficient : Nat) (exponent : Int)
  | infinite (negative : Bool)
  | undefined (negative signalling : Bool) (payload : Nat)
deriving DecidableEq

namespace Decimal

/-- The largest place that a leading digit may stand at. -/
def maxLead : Int := 999999999999999999

def minExponent : Int := -1999999999999999997

def fits (coefficient : Nat) (exponent : Int) : Bool :=
  minExponent ≤ exponent && exponent + (digitsOf coefficient).length - 1 ≤ maxLead

def signedText (n : Int) : List Char :=
  (if n < 0 then '-' else '+') :: digitsOf n.natAbs

/-- Digits and exponent: positionally if the exponent is not positive and the leading digit stands
at `10 ^ -6` or above, otherwise with one digit before the point. -/
def magnitudeText (ds : List Char) (exponent : Int) : List Char :=
  let lead := exponent + ds.length - 1
  if exponent ≤ 0 ∧ -6 ≤ lead then
    if lead < 0 then '0' :: '.' :: List.replicate (-lead - 1).toNat '0' ++ ds
    else if exponent = 0 then ds
    else ds.take (lead.toNat + 1) ++ '.' :: ds.drop (lead.toNat + 1)
  else
    let mantissa := match ds with
      | d :: e :: rest => d :: '.' :: e :: rest
      | short => short
    mantissa ++ (if lead = 0 then [] else 'E' :: signedText lead)

def signText (negative : Bool) : List Char := if negative then ['-'] else []

def chars : Decimal → List Char
  | finite negative coefficient exponent =>
    signText negative ++ magnitudeText (digitsOf coefficient) exponent
  | infinite negative => signText negative ++ "Infinity".toList
  | undefined negative signalling payload =>
    signText negative ++ (if signalling then ['s'] else []) ++ "NaN".toList
      ++ (if payload = 0 then [] else digitsOf payload)

def text (d : Decimal) : String := String.ofList d.chars

end Decimal
end LineShell.Number
