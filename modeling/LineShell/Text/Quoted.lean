import LineShell.Text.Printable

/-! # Quoted texts

A text is shown between apostrophes, or between double quotes if it holds an apostrophe and no
double quote. The chosen quote, the backslash and what cannot be printed are escaped, so a quoted
text stays on one line.
-/
namespace LineShell.Text

def apostrophe : Char := Char.ofNat 39

def hexDigit (n : Nat) : Char := Char.ofNat (if n < 10 then 48 + n else 87 + n)

def hexadecimal : Nat → Nat → List Char
  | 0, _ => []
  | width + 1, n => hexadecimal width (n / 16) ++ [hexDigit (n % 16)]

def quoteFor (cs : List Char) : Char :=
  if cs.contains apostrophe && !cs.contains '"' then '"' else apostrophe

/-- The escape of a character by its number, as short as the number allows. -/
def numberEscape (n : Nat) : List Char :=
  if n < 0x100 then '\\' :: 'x' :: hexadecimal 2 n
  else if n < 0x10000 then '\\' :: 'u' :: hexadecimal 4 n
  else '\\' :: 'U' :: hexadecimal 8 n

def shown (quote : Char) (c : Char) : List Char :=
  if c = quote ∨ c = '\\' then ['\\', c]
  else if c = '\n' then ['\\', 'n']
  else if c = '\r' then ['\\', 'r']
  else if c = '\t' then ['\\', 't']
  else if isPrintable c then [c]
  else numberEscape c.toNat

def quotedChars (cs : List Char) : List Char :=
  quoteFor cs :: cs.flatMap (shown (quoteFor cs)) ++ [quoteFor cs]

def quoted (s : String) : String := String.ofList (quotedChars s.toList)

/-- A byte between the given quotes: only printable ASCII stands for itself. -/
def shownByte (quote : Char) (b : UInt8) : List Char :=
  if b < 0x7F then shown quote (Char.ofNat b.toNat) else numberEscape b.toNat

def quotedBytes (bytes : List UInt8) : String :=
  let quote := quoteFor (bytes.map fun b => Char.ofNat b.toNat)
  String.ofList ('b' :: quote :: bytes.flatMap (shownByte quote) ++ [quote])

end LineShell.Text
