/-! # Encodings

A text is written as bytes by an encoding that goes by several names.
-/
namespace LineShell.Text

def charOfByte (b : UInt8) : Char := Char.ofNat b.toNat

/-- An encoding of texts as bytes: of all characters in up to four bytes, of those below 256 in one
byte, or of the ASCII characters in one. -/
inductive Encoding where
  | universal
  | western
  | ascii

def Encoding.ofName? (name : String) : Option Encoding :=
  let name := name.map fun c => if c = '_' then '-' else c.toLower
  if ["utf-8", "utf8"].contains name then some universal
  else if ["latin-1", "latin1", "iso-8859-1"].contains name then some western
  else if ["ascii", "us-ascii"].contains name then some ascii
  else none

def Encoding.decode? (e : Encoding) (bs : List UInt8) : Option String :=
  match e with
  | universal => String.fromUTF8? ⟨bs.toArray⟩
  | western => some (String.ofList (bs.map charOfByte))
  | ascii => if bs.all (· < 0x80) then some (String.ofList (bs.map charOfByte)) else none

def Encoding.encode? (e : Encoding) (s : String) : Option (List UInt8) :=
  let single (limit : Nat) : Option (List UInt8) :=
    if s.toList.all (·.toNat < limit) then some (s.toList.map (·.toNat.toUInt8)) else none
  match e with
  | universal => some s.toUTF8.data.toList
  | western => single 0x100
  | ascii => single 0x80

end LineShell.Text
