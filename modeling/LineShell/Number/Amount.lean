import LineShell.Number.Decimal

/-! # Amounts

Whole numbers, binary numbers and decimals are compared by their exact amounts. An amount is kept
in one form: no zero ends its digits, and zero has no sign and no exponent.
-/
namespace LineShell.Number

/-- An amount that numbers of different kinds can share. -/
inductive Amount where
  | finite (negative : Bool) (size : Scaled)
  | infinite (negative : Bool)
deriving DecidableEq

namespace Amount

def ofScaled (negative : Bool) (d : Scaled) : Amount :=
  if d.digits = 0 then finite false ⟨0, 0⟩
  else finite negative (d.strip (digitsOf d.digits).length)

def ofInt (n : Int) : Amount := ofScaled (n < 0) ⟨n.natAbs, 0⟩

/-- A value that is no number has no amount. -/
def ofFloat? (x : Float) : Option Amount :=
  let negative := x.toBits >>> 63 = 1
  if x.isNaN then none
  else if x.isInf then some (infinite negative)
  else some (ofScaled negative (Binary.ofBits x.toBits).exact)

def ofDecimal? : Decimal → Option Amount
  | .finite negative coefficient exponent => some (ofScaled negative ⟨coefficient, exponent⟩)
  | .infinite negative => some (infinite negative)
  | .undefined .. => none

end Amount
end LineShell.Number
