import LineShell.Misuse

/-! # Fixed-width integers

A fixed-width integer type has a name, a number of bits and a sign. Its values are those that the
bits can hold, in two's complement if the type is signed. A type can be declared with any number of
bits; whether there are values for them is found out when a value is checked against the bounds.
-/
namespace LineShell

/-- A fixed-width integer type. `serial` tells declarations apart: zero for the standard widths,
another number for each type that a host declares. -/
structure FixedWidth where
  name : String
  bits : Int
  signed : Bool
  serial : Nat := 0
deriving DecidableEq

namespace FixedWidth

/-- The bits that the size of a value may take: all, or all but the one for the sign. -/
def magnitude (w : FixedWidth) : Int := if w.signed then w.bits - 1 else w.bits

def lower (w : FixedWidth) : Int := if w.signed then -Number.power 2 w.magnitude else 0

def upper (w : FixedWidth) : Int := Number.power 2 w.magnitude - 1

/-- The most bits that can be counted, in groups of thirty. -/
def countableBits : Int := 30 * (Number.power 2 61 - 8)

/-- The least and the greatest value, if there are bits for the size and memory holds so many. -/
def bounds (w : FixedWidth) : Except Misuse (Int × Int) :=
  if w.magnitude < 0 then .error .noWidth
  else if countableBits < w.magnitude then .error .tooWide
  else if Number.maxBits < w.magnitude then .error .beyondMemory
  else .ok (w.lower, w.upper)

def int8 : FixedWidth := { name := "int8", bits := 8, signed := true }
def int16 : FixedWidth := { name := "int16", bits := 16, signed := true }
def int32 : FixedWidth := { name := "int32", bits := 32, signed := true }
def int64 : FixedWidth := { name := "int64", bits := 64, signed := true }
def uint8 : FixedWidth := { name := "uint8", bits := 8, signed := false }
def uint16 : FixedWidth := { name := "uint16", bits := 16, signed := false }
def uint32 : FixedWidth := { name := "uint32", bits := 32, signed := false }
def uint64 : FixedWidth := { name := "uint64", bits := 64, signed := false }

def standard : List FixedWidth := [int8, int16, int32, int64, uint8, uint16, uint32, uint64]

theorem bounds_eq_ok {w : FixedWidth} (some_bits : 0 < w.bits) (held : w.bits ≤ Number.maxBits) :
    w.bounds = .ok (w.lower, w.upper) := by
  have size : 0 ≤ w.magnitude ∧ w.magnitude ≤ Number.maxBits := by
    unfold magnitude
    split <;> omega
  have countable : (Number.maxBits : Int) ≤ countableBits := by decide
  simp only [bounds]
  rw [if_neg (by omega), if_neg (by omega), if_neg (by omega)]

end FixedWidth
end LineShell
