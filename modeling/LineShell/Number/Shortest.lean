import LineShell.Number.Whole

/-! # The shortest decimal that reads back

A finite binary number stands for the interval of reals that round to it. Among the decimals in
that interval the one with the fewest digits is chosen, of two the nearer, and of two equally near
the even one. All tests are exact comparisons of naturals.
-/
namespace LineShell.Number

/-- The number `mantissa · 2 ^ exponent`. -/
structure Binary where
  mantissa : Nat
  exponent : Int
  /-- The gap to the number below is half the gap to the number above. -/
  narrowBelow : Bool

def Binary.ofBits (bits : UInt64) : Binary :=
  let field := ((bits >>> 52) &&& 0x7FF).toNat
  let fraction := (bits &&& 0xFFFFFFFFFFFFF).toNat
  if field = 0 then ⟨fraction, -1074, false⟩
  else ⟨power 2 52 + fraction, field - 1075, fraction = 0 && 1 < field⟩

/-- The number `digits · 10 ^ exponent`. -/
structure Scaled where
  digits : Nat
  exponent : Int
deriving DecidableEq

/-- The order of `a · 10 ^ i` and `n · 2 ^ j`. -/
def compareScaled (a : Nat) (i : Int) (n : Nat) (j : Int) : Ordering :=
  compare (a * power 10 i * power 2 (-j)) (n * power 2 j * power 10 (-i))

/-- The decimal lies in the interval of reals that round to the number; the ends count if the
mantissa is even. -/
def Binary.holds (x : Binary) (d : Scaled) : Bool :=
  let low := 4 * x.mantissa - (if x.narrowBelow then 1 else 2)
  let high := 4 * x.mantissa + 2
  let closed := x.mantissa % 2 = 0
  let below := compareScaled d.digits d.exponent low (x.exponent - 2)
  let above := compareScaled d.digits d.exponent high (x.exponent - 2)
  (below = .gt || (closed && below = .eq)) && (above = .lt || (closed && above = .eq))

def Binary.steps (x : Binary) (k : Int) : Nat :=
  x.mantissa * power 2 x.exponent * power 10 (-k) / (power 2 (-x.exponent) * power 10 k)

/-- The nearer of two neighbours `a` and `a + 1` on the grid `10 ^ k`. -/
def Binary.nearer (x : Binary) (a : Nat) (k : Int) : Nat :=
  match compareScaled (2 * a + 1) k (2 * x.mantissa) x.exponent with
  | .lt => a + 1
  | .gt => a
  | .eq => if a % 2 = 0 then a else a + 1

/-- The decimal on the grid `10 ^ k` that reads back, if one of the two neighbours does. -/
def Binary.onGrid? (x : Binary) (k : Int) : Option Scaled :=
  let a := x.steps k
  match x.holds ⟨a, k⟩, x.holds ⟨a + 1, k⟩ with
  | true, true => some ⟨x.nearer a k, k⟩
  | true, false => some ⟨a, k⟩
  | false, true => some ⟨a + 1, k⟩
  | false, false => none

def Binary.search (x : Binary) (k : Int) : Nat → Option Scaled
  | 0 => none
  | count + 1 => match x.onGrid? k with
    | some d => some d
    | none => x.search (k - 1) count

def Binary.exact (x : Binary) : Scaled :=
  if 0 ≤ x.exponent then ⟨x.mantissa * power 2 x.exponent, 0⟩
  else ⟨x.mantissa * power 5 (-x.exponent), x.exponent⟩

/-- Zeros at the end of the digits go into the exponent; `fuel` bounds their number. -/
def Scaled.strip : Nat → Scaled → Scaled
  | 0, d => d
  | fuel + 1, d =>
    if d.digits ≠ 0 ∧ d.digits % 10 = 0 then Scaled.strip fuel ⟨d.digits / 10, d.exponent + 1⟩
    else d

/-- The fewest digits that read back. The first grid lies above the number's leading digit. -/
def Binary.shortest (x : Binary) : Scaled :=
  let top : Int := ((x.mantissa.log2 : Int) + x.exponent) * 30103 / 100000 + 2
  let d := (x.search top 22).getD x.exact
  d.strip ((Nat.toDigits 10 d.digits).length)

end LineShell.Number
