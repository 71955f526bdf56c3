import LineShell.Maker.Refusal
import LineShell.Text.Encoding
import LineShell.Value.Declared
import LineShell.Expression.Lexeme

/-! # Numbers made of values

Numbers are read more freely here than from tokens: single underscores may stand between digits, and
a binary number may be infinite or no number.
-/
namespace LineShell.Maker
open Number

/-- A text without its underscores, if each of them stands between two digits. -/
def withoutUnderscores? (before : Option Char) : List Char → Option (List Char)
  | [] => some []
  | '_' :: rest =>
    if before.any Text.isDigit && rest.head?.any Text.isDigit then
      withoutUnderscores? (some '_') rest
    else none
  | c :: rest => (withoutUnderscores? (some c) rest).map (c :: ·)

def digitValue? (c : Char) : Option Nat :=
  match Text.digit? c with
  | some d => some d
  | none =>
    if 'a' ≤ c ∧ c ≤ 'z' then some (c.toNat - 87)
    else if 'A' ≤ c ∧ c ≤ 'Z' then some (c.toNat - 55)
    else none

def prefixBase? : List Char → Option Nat
  | '0' :: c :: _ =>
    match c.toLower with
    | 'x' => some 16
    | 'o' => some 8
    | 'b' => some 2
    | _ => none
  | _ => none

def withoutPrefix (base : Nat) (cs : List Char) : Nat × List Char :=
  match prefixBase? cs with
  | some b =>
    if base = 0 ∨ base = b then
      let rest := cs.drop 2
      (b, if rest.head? = some '_' then rest.drop 1 else rest)
    else (base, cs)
  | none => (if base = 0 then 10 else base, cs)

/-- The whole number that a text stands for in a base; the base nought is told by the prefix, and
allows no zeros in front. -/
def numeralIn (base : Nat) (shown : String) (cs : List Char) : Except Refusal Int :=
  let refused : Except Refusal Int := .error (.notNumeral base shown)
  let (negative, unsigned) := Literal.sign (Text.trim cs)
  let (actual, digits) := withoutPrefix base unsigned
  let isDigit (c : Char) : Bool := (digitValue? c).any (· < actual)
  let plain := digits.filter (· ≠ '_')
  if cs.any Literal.isSeparatorControl || Expression.digits? isDigit false digits ≠ some [] then
    refused
  else if maxDigits < plain.length && ([2, 4, 8, 16, 32].all (· ≠ actual)) then
    .error (.tooManyDigits plain.length)
  else if base = 0 && actual = 10 && plain.head? = some '0' && plain.any (· ≠ '0') then refused
  else
    .ok (Literal.signed negative
      (plain.foldl (fun n c => n * actual + (digitValue? c).getD 0) 0))

def truncated (x : Float) : Int :=
  let b := Binary.ofBits x.toBits
  let size := b.mantissa * power 2 b.exponent / power 2 (-b.exponent)
  Literal.signed (x.toBits >>> 63 = 1) size

/-- The whole part of `coefficient · 10 ^ exponent`, which is nought if all digits stand behind the
point. A digit takes more than three bits. -/
def wholePart (coefficient : Nat) (exponent : Int) : Except Refusal Nat :=
  if coefficient = 0 ∨ exponent + (digitsOf coefficient).length ≤ 0 then .ok 0
  else if (maxBits : Int) < 3 * exponent then .error (.misuse .beyondMemory)
  else .ok (coefficient * power 10 exponent / power 10 (-exponent))

def makeInt : Value → Except Refusal Int
  | .text s => numeralIn 10 (Text.quoted s) s.toList
  | .bytes bs => numeralIn 10 (Text.quotedBytes bs) (bs.map Text.charOfByte)
  | .real x =>
    if x.isNaN then .error (.undefinedInteger "float NaN")
    else if x.isInf then .error (.infiniteInteger "float infinity")
    else .ok (truncated x)
  | .decimal (.finite negative coefficient exponent) =>
    (wholePart coefficient exponent).map (Literal.signed negative)
  | .decimal (.infinite _) => .error (.infiniteInteger "Infinity")
  | .decimal (.undefined ..) => .error (.undefinedInteger "NaN")
  | v => match v.whole? with
    | some n => .ok n
    | none => .error (.notIntegral v.fullKind)

def makeIntIn (v base : Value) : Except Refusal Int :=
  match base.whole? with
  | none => .error (.notInteger base.fullKind)
  | some base =>
    if base < 0 ∨ base = 1 ∨ 36 < base then .error .badBase
    else match v with
      | .text s => numeralIn base.toNat (Text.quoted s) s.toList
      | .bytes bs => numeralIn base.toNat (Text.quotedBytes bs) (bs.map Text.charOfByte)
      | _ => .error .baseWithoutText

def realOf? (cs : List Char) : Option Float := do
  if cs.any Literal.isSeparatorControl then none
  let cs ← withoutUnderscores? none (Text.trim cs)
  let (negative, unsigned) := Literal.sign cs
  let word := String.ofList (unsigned.map Char.toLower)
  let signed (x : Float) : Float := if negative then -x else x
  if word = "inf" || word = "infinity" then some (signed (1.0 / 0.0))
  else if word = "nan" then some (0.0 / 0.0)
  else Literal.real cs

def realOfInt (n : Int) : Except Refusal Float :=
  let x := Float.ofScientific n.natAbs false 0
  if x.isInf then .error .tooLarge else .ok (if n < 0 then -x else x)

def makeReal : Value → Except Refusal Float
  | .real x => .ok x
  | .text s => match realOf? s.toList with
    | some x => .ok x
    | none => .error (.notRealText (Text.quoted s))
  | .bytes bs => match realOf? (bs.map Text.charOfByte) with
    | some x => .ok x
    | none => .error (.notRealText (Text.quotedBytes bs))
  | .decimal (.undefined _ signalling _) =>
    if signalling then .error .signallingReal else .ok (0.0 / 0.0)
  | .decimal d => .ok ((realOf? d.chars).getD 0.0)
  | v => match v.whole? with
    | some n => realOfInt n
    | none => .error (.notReal v.fullKind)

def decimalOfReal (x : Float) : Decimal :=
  let negative := x.toBits >>> 63 = 1
  if x.isNaN then .undefined negative false 0
  else if x.isInf then .infinite negative
  else
    let b := Binary.ofBits x.toBits
    let halvings := if b.mantissa = 0 then 0 else
      ((List.range (-b.exponent).toNat).find? fun (k : Nat) => b.mantissa / power 2 k % 2 = 1).getD
        (-b.exponent).toNat
    let d := Binary.exact { b with
      mantissa := b.mantissa / power 2 halvings
      exponent := if b.mantissa = 0 then 0 else b.exponent + halvings }
    .finite negative d.digits d.exponent

/-- No number, if its payload consists of digits. -/
def undefined (negative signalling : Bool) (digits : List Char) : Except Refusal Decimal :=
  if digits.all Text.isDigit then .ok (.undefined negative signalling (Text.numeral digits))
  else .error .notDecimalText

def finite (negative : Bool) (coefficient : Nat) (exponent : Int) : Except Refusal Decimal :=
  if Decimal.fits coefficient exponent then .ok (.finite negative coefficient exponent)
  else .error .beyondLimits

def decimalOf (cs : List Char) : Except Refusal Decimal :=
  let cs := (Text.trim cs).filter (· ≠ '_')
  let (negative, unsigned) := Literal.sign cs
  let (word, digits) := (unsigned.map Char.toLower).span fun c => 'a' ≤ c && c ≤ 'z'
  match String.ofList word with
  | "inf" | "infinity" =>
    if digits = [] then .ok (.infinite negative) else .error .notDecimalText
  | "nan" => undefined negative false digits
  | "snan" => undefined negative true digits
  | _ => match Literal.real? cs with
    | some r => finite r.negative (Text.numeral r.digits) r.scale
    | none => .error .notDecimalText

def coefficient? (digits : List Value) : Option Nat :=
  digits.foldlM (fun n d => match d.whole? with
    | some d => if 0 ≤ d ∧ d ≤ 9 then some (10 * n + d.toNat) else none
    | none => none) 0

def decimalOfTriple : List Value → Except Refusal Decimal
  | [sign, digits, exponent] => do
    let negative ← match sign.whole? with
      | some 0 => pure false
      | some 1 => pure true
      | _ => throw Refusal.badSign
    let ofCoefficient : Nat → Except Refusal Decimal ← match exponent with
      | .text "F" => pure fun _ => .ok (.infinite negative)
      | .text "n" => pure fun n => .ok (.undefined negative false n)
      | .text "N" => pure fun n => .ok (.undefined negative true n)
      | .text _ => throw Refusal.badExponentText
      | v => match v.whole? with
        | some e => pure fun n => finite negative n e
        | none => throw Refusal.badExponent
    match digits with
    | .tuple ds | .list ds => match coefficient? ds with
      | some coefficient => ofCoefficient coefficient
      | none => throw Refusal.badCoefficient
    | _ => throw Refusal.badCoefficient
  | _ => .error .notTriple

def makeDecimal : Value → Except Refusal Decimal
  | .decimal d => .ok d
  | .real x => .ok (decimalOfReal x)
  | .text s => decimalOf s.toList
  | .tuple items | .list items => decimalOfTriple items
  | v => match v.whole? with
    | some n => .ok (.finite (n < 0) n.natAbs 0)
    | none => .error (.notDecimal v.fullKind)

end LineShell.Maker
