import LineShell.Misuse

/-! # Positions and slices

A position counts from the start, or from the end if it is negative. A slice goes from a start
towards a stop by steps of either sign; ends that lie outside the list are moved to it.
-/
namespace LineShell

/-- The bounds of a slice; what is left out goes to the end of the list on that side. -/
structure Slice where
  start : Option Int
  stop : Option Int
  step : Option Int

namespace Slice

/-- The limit of the positions that can be counted to, on either side. -/
def limit : Int := Number.power 2 63

def item {α : Type} (items : List α) (position : Int) : Except Misuse α :=
  let place := if position < 0 then position + items.length else position
  if position < -limit ∨ limit ≤ position then .error .indexTooLarge
  else match if 0 ≤ place then items[place.toNat]? else none with
    | some item => .ok item
    | none => .error .indexOutOfRange

def clamp (low high length bound : Int) : Int :=
  let place := if bound < 0 then bound + length else bound
  if place < low then low else if high < place then high else place

def items {α : Type} (items : List α) (s : Slice) : Except Misuse (List α) :=
  let length : Int := items.length
  let step := s.step.getD 1
  if step = 0 then .error .zeroStep
  else
    let (low, high) := if 0 < step then (0, length) else (-1, length - 1)
    let first := if 0 < step then low else high
    let last := if 0 < step then high else low
    let start := (s.start.map (clamp low high length)).getD first
    let stop := (s.stop.map (clamp low high length)).getD last
    let span := if 0 < step then stop - start else start - stop
    let count := ((span + step.natAbs - 1) / step.natAbs).toNat
    .ok ((List.range count).filterMap fun (k : Nat) => items[(start + step * (k : Int)).toNat]?)

end Slice
end LineShell
