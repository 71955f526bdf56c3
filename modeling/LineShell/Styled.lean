import LineShell.Text.Tabs

/-! # Styled text

A styled text is a plain text with a style of its own and spans of other styles. It is put together
from pieces; a piece that is not empty and has a style leaves a span.
-/
namespace LineShell

/-- Characters `start` to `stop`, the last one excluded, have a style. -/
structure Styled.Span where
  start : Nat
  stop : Nat
  style : String
deriving DecidableEq

structure Styled where
  plain : String
  style : String := ""
  spans : List Styled.Span := []
deriving DecidableEq

namespace Styled

/-- A text in one style, without the controls that are never printed. -/
def ofText (s : String) (style : String) : Styled := { plain := Text.withoutControls s, style }

def empty : Styled := { plain := "" }

def append (t piece : Styled) : Styled :=
  let start := t.plain.length
  let stop := start + piece.plain.length
  if piece.plain = "" then t
  else if piece.style = "" then { t with plain := t.plain ++ piece.plain }
  else { t with
    plain := t.plain ++ piece.plain
    spans := t.spans ++ [⟨start, stop, piece.style⟩] }

def assemble (pieces : List Styled) : Styled := pieces.foldl append empty

def printed (t : Styled) : String := Text.spreadTabs t.plain

end Styled
end LineShell
