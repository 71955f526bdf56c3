/-! # Character mappings as shifted runs

A mapping between cases moves runs of code points by a constant, every one of a run or every
second one; a few characters map to more than one and are listed apart.
-/
namespace LineShell.Text

/-- The code points `low`, `low + step`, … up to `high`, all moved by `delta`. -/
structure Shift where
  low : Nat
  high : Nat
  step : Nat
  delta : Int

def shifted? : List Shift → Nat → Option Nat
  | [], _ => none
  | s :: rest, n =>
    if n < s.low then none
    else if n ≤ s.high ∧ (n - s.low) % s.step = 0 then some (n + s.delta).toNat
    else shifted? rest n

/-- A mapping of single characters to texts; what is not listed stays. -/
structure CaseMap where
  runs : List Shift
  expanding : List (Nat × List Nat)

def CaseMap.image (m : CaseMap) (c : Char) : List Char :=
  match m.expanding.find? (fun e => e.1 = c.toNat) with
  | some (_, parts) => parts.map Char.ofNat
  | none => match shifted? m.runs c.toNat with
    | some n => [Char.ofNat n]
    | none => [c]

end LineShell.Text
