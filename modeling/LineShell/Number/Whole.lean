/-! # Whole numbers

A whole number is written with its decimal digits, and there is a limit to how many: a number with
more of them has no text, and neither has what shows it. The limit on digits holds for what is read
as well.
-/
namespace LineShell.Number

/-- The power of a base, which is one for an exponent below nought. -/
def power (base : Nat) (exponent : Int) : Nat := base.pow exponent.toNat

theorem power_pos {base : Nat} {exponent : Int} (h : 0 < base) : 0 < power base exponent :=
  Nat.pow_pos h

theorem power_le_power {base : Nat} {m n : Int} (positive : 0 < base) (h : m ≤ n) :
    power base m ≤ power base n :=
  Nat.pow_le_pow_right positive (Int.toNat_le_toNat h)

def digitsOf (n : Nat) : List Char := Nat.toDigits 10 n

/-- The most digits that a whole number is read from or written with. Zeros in front count, a sign
does not. -/
def maxDigits : Nat := 4300

/-- The most bits of a whole number that memory holds. -/
def maxBits : Nat := power 2 35

@[irreducible] def hasText (n : Int) : Bool := n.natAbs < power 10 maxDigits

theorem hasText_of_le {n : Int} (h : n.natAbs ≤ power 2 64) : hasText n = true := by
  have hlimit : power 2 64 < power 10 maxDigits := by
    calc power 2 64 < power 10 20 := by decide
      _ ≤ power 10 maxDigits := power_le_power (by decide) (by decide)
  unfold hasText
  exact decide_eq_true (by omega)

theorem hasText_power_maxDigits : hasText (power 10 maxDigits) = false := by
  unfold hasText
  rw [Int.natAbs_natCast]
  exact decide_eq_false (Nat.lt_irrefl _)

end LineShell.Number
