import LineShell.Text.Ranges

/-! # Blank characters and trimming

Blank are the white space of Unicode 14 and the four separator controls. Trimming removes blanks
at both ends and leaves those inside.
-/
namespace LineShell.Text

def blanks : List (Nat × Nat) := [
  (0x9, 0xD), (0x1C, 0x20), (0x85, 0x85), (0xA0, 0xA0), (0x1680, 0x1680), (0x2000, 0x200A),
  (0x2028, 0x2029), (0x202F, 0x202F), (0x205F, 0x205F), (0x3000, 0x3000)]

def isBlank (c : Char) : Bool := covers blanks c.toNat

theorem isBlank_space : isBlank ' ' = true := by decide

theorem isBlank_quote : isBlank '"' = false := by decide

def trimStart (cs : List Char) : List Char := cs.dropWhile isBlank

def trimEnd (cs : List Char) : List Char := (cs.reverse.dropWhile isBlank).reverse

def trim (cs : List Char) : List Char := trimEnd (trimStart cs)

def trimmed (s : String) : String := String.ofList (trim s.toList)

end LineShell.Text
