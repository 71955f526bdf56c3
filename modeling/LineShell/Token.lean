import LineShell.Failure
import LineShell.Ordinal
import LineShell.Text.Blank

/-! # Tokens

A line is trimmed and cut into tokens at a delimiter, except inside quoted regions. A region runs
from an opening marker to the next closing marker; equal markers toggle it. Delimiters that follow
one another make empty tokens, and a delimiter at the very end makes none. The scan reads each
character once, so a line yields a token at least, and fails only if a region stays open.
-/
namespace LineShell.Token

structure Marker where
  first : Char
  more : List Char := []
deriving DecidableEq

namespace Marker

def chars (m : Marker) : List Char := m.first :: m.more

def text (m : Marker) : String := String.ofList m.chars

def ofChars? : List Char → Option Marker
  | [] => none
  | c :: rest => some ⟨c, rest⟩

def opens (m : Marker) (cs : List Char) : Bool := m.chars.isPrefixOf cs

end Marker

structure Marks where
  delimiter : Marker := ⟨' ', []⟩
  opening : Marker := ⟨'"', []⟩
  closing : Marker := ⟨'"', []⟩

/-- Markers that stay in the tokens. A delimiter stays at the end of the token it ends. -/
structure Keep where
  quotes : Bool := false
  delimiters : Bool := false

/-- Where the scan stands. A region remembers the number of the token it was opened in. -/
inductive Region where
  | outside
  | inside (opened : Nat)
deriving DecidableEq

def lead (cs : List Char) : List (List Char) → List (List Char)
  | [] => [cs]
  | token :: rest => (cs ++ token) :: rest

def kept (keep : Bool) (m : Marker) : List Char := if keep then m.chars else []

/-- The tokens of what remains of a line, or the number of the token in which a region was left
open. `skip` characters of a marker are still to be passed over, and `count` tokens were begun. -/
def scan (marks : Marks) (keep : Keep) :
    (skip count : Nat) → Region → List Char → Except Nat (List (List Char))
  | _, _, .outside, [] => .ok [[]]
  | _, _, .inside opened, [] => .error opened
  | skip + 1, count, region, _ :: rest => scan marks keep skip count region rest
  | 0, count, .inside opened, c :: rest =>
    if marks.closing.opens (c :: rest) then
      (scan marks keep marks.closing.more.length count .outside rest).map
        (lead (kept keep.quotes marks.closing))
    else
      (scan marks keep 0 count (.inside opened) rest).map (lead [c])
  | 0, count, .outside, c :: rest =>
    if marks.opening.opens (c :: rest) then
      (scan marks keep marks.opening.more.length count (.inside count) rest).map
        (lead (kept keep.quotes marks.opening))
    else if marks.delimiter.opens (c :: rest) then
      let width := marks.delimiter.more.length
      if rest.drop width = [] then .ok [kept keep.delimiters marks.delimiter]
      else
        (scan marks keep width (count + 1) .outside rest).map
          (kept keep.delimiters marks.delimiter :: ·)
    else
      (scan marks keep 0 count .outside rest).map (lead [c])

def splitChars (marks : Marks) (keep : Keep) (line : List Char) : Except Nat (List (List Char)) :=
  scan marks keep 0 1 .outside (Text.trim line)

structure Unclosed where
  line : String
  opened : Nat
  closing : String
deriving DecidableEq

def Unclosed.fault (u : Unclosed) : Fault :=
  .ofKind .format
    ("quoted region opened at " ++ Ordinal.label u.opened ++ " token was never closed")
    [("input", .text u.line), ("index", .int u.opened),
     ("hint", .text ("add the missing " ++ u.closing ++ " to close the value"))]

def split (line : String) (marks : Marks) (keep : Keep) : Except Unclosed (List String) :=
  match splitChars marks keep line.toList with
  | .ok tokens => .ok (tokens.map String.ofList)
  | .error opened => .error ⟨line, opened, marks.closing.text⟩

def Marker.ofValue (name : String) : Value → Except Misuse Marker
  | .text s => match Marker.ofChars? s.toList with
    | some m => .ok m
    | none => .error (.isEmpty ("tokenize() '" ++ name ++ "'"))
  | _ => .error (.notText ("tokenize() '" ++ name ++ "'"))

def splitGiven (line delimiter opening closing : Value) (keep : Keep) :
    Except Failure (List String) := do
  let .text line := line | throw (.misuse (.notText "tokenize() argument"))
  let delimiter ← (Marker.ofValue "delimiter" delimiter).mapError .misuse
  let opening ← (Marker.ofValue "opening" opening).mapError .misuse
  let closing ← (Marker.ofValue "closing" closing).mapError .misuse
  (split line { delimiter, opening, closing } keep).mapError fun u => .fault u.fault

end LineShell.Token
