import LineShell.Number.Shortest
import LineShell.Number.Whole

/-! # The text of a real number

A real number is written with the fewest digits that read back: positionally while its leading
digit stands at a place from `10 ^ -4` to `10 ^ 15`, otherwise with an exponent that has a sign and
two digits at least. A whole number keeps one zero after the point.
-/
namespace LineShell.Number

def exponentText (e : Int) : List Char :=
  let ds := digitsOf e.natAbs
  (if e < 0 then '-' else '+') :: (if ds.length < 2 then '0' :: ds else ds)

/-- Digits whose leading one stands at the place `10 ^ lead`. -/
def positional (ds : List Char) (lead : Int) : List Char :=
  if lead < 0 then
    '0' :: '.' :: List.replicate (-lead - 1).toNat '0' ++ ds
  else
    let whole := lead.toNat + 1
    if ds.length ≤ whole then ds ++ List.replicate (whole - ds.length) '0' ++ ['.', '0']
    else ds.take whole ++ '.' :: ds.drop whole

def scientific (ds : List Char) (lead : Int) : List Char :=
  match ds with
  | [] => []
  | [d] => d :: 'e' :: exponentText lead
  | d :: rest => d :: '.' :: rest ++ 'e' :: exponentText lead

def Scaled.text (d : Scaled) : List Char :=
  if d.digits = 0 then "0.0".toList
  else
    let ds := digitsOf d.digits
    let lead := d.exponent + ds.length - 1
    if -4 ≤ lead ∧ lead < 16 then positional ds lead else scientific ds lead

def realText (x : Float) : String :=
  if x.isNaN then "nan"
  else
    let sign := if x.toBits >>> 63 = 1 then "-" else ""
    if x.isInf then sign ++ "inf"
    else sign ++ String.ofList (Binary.ofBits x.toBits).shortest.text

end LineShell.Number
