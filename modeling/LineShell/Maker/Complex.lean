import LineShell.Maker.Number

/-! # Complex numbers

No parameter is of a complex type. A complex number is made by its class only, and is known by how
it is shown.
-/
namespace LineShell.Maker
open Number

/-- A part of a complex number, without the zero after the point of a whole number. -/
def partText (x : Float) : String :=
  let text := realText x
  if text.endsWith ".0" then (text.dropEnd 2).toString else text

def complexOf (re im : Float) : Value :=
  let imaginary := partText im ++ "j"
  let signed := if imaginary.startsWith "-" then imaginary else "+" ++ imaginary
  .object "complex"
    (if re.toBits = 0 then imaginary else "(" ++ partText re ++ signed ++ ")")

/-- The imaginary part in front of its mark; a sign alone stands for one. -/
def imaginaryOf? (cs : List Char) : Option Float :=
  if cs = [] ∨ cs = ['+'] then some 1.0 else if cs = ['-'] then some (-1.0) else realOf? cs

/-- The place of the sign between the two parts: the last sign that belongs to no exponent. -/
def middle (cs : List Char) : Nat :=
  ((List.range cs.length).reverse.find? fun k =>
    0 < k && (cs[k]? = some '+' || cs[k]? = some '-')
      && !(cs[k - 1]? = some 'e' || cs[k - 1]? = some 'E')).getD 0

def complexOfText? (cs : List Char) : Option Value := do
  if cs.any Literal.isSeparatorControl then none
  let cs := Text.trim cs
  let bracketed := cs.head? = some '(' && cs.getLast? = some ')'
  let cs := if bracketed then Text.trim (cs.drop 1).dropLast else cs
  if cs.getLast? = some 'j' || cs.getLast? = some 'J' then
    let body := cs.dropLast
    let k := middle body
    let im ← imaginaryOf? (body.drop k)
    let re ← if k = 0 then some 0.0 else realOf? (body.take k)
    return complexOf re im
  else return complexOf (← realOf? cs) 0.0

def complexPart (isFirst : Bool) (v : Value) : Except Refusal Float :=
  if v.isNumeric then makeReal v else .error (.notComplex isFirst v.fullKind)

def makeComplex : List Value → Except Refusal Value
  | [] => .ok (complexOf 0.0 0.0)
  | [.text s] =>
    if (withoutUnderscores? none s.toList).isNone then .error (.underscores (Text.quoted s))
    else match complexOfText? s.toList with
      | some v => .ok v
      | none => .error .notComplexText
  | [v] => do return complexOf (← complexPart true v) 0.0
  | [.text _, _] => .error .secondAfterText
  | [_, .text _] => .error .textSecond
  | [v, w] => do
    let re ← complexPart true v
    return complexOf re (← complexPart false w)
  | vs => .error (.tooMany "complex()" 2 vs.length)

end LineShell.Maker
