import LineShell.Fault.Basic
import LineShell.Styled
import LineShell.Text.Headline

/-! # Rendering of faults

A fault is shown as a header with the program, the code and the title, then its message, then its
hint if it has one. A host may name the program, restyle the pieces and relabel the codes; none of
this changes the text of the other pieces. A fault is not shown if a piece of it has no text.
-/
namespace LineShell

structure Host where
  /-- The program's label. -/
  prog : Option Value := none
  /-- Styles of pieces by name. -/
  styles : List (String × String) := []
  /-- Labels of codes by number. -/
  codes : List (Int × Value) := []

namespace Fault

def Code.labelValue (host : Host) (c : Code) : Value :=
  match host.codes.find? (·.1 = (c.number : Int)) with
  | some (_, v) => v
  | none => .int c.number

def Code.label (host : Host) (c : Code) : Except Misuse String := (c.labelValue host).shown ""

def family (f : Fault) : String := if f.kind.isWarning then "warning" else "error"

def errorStyles : List (String × String) :=
  [("prog-name", "bold #E6E6F0"), ("code", "bold #00E5FF"), ("error-title", "bold #FF4DA6"),
   ("error-message", "#C8C8D0"), ("hint-arrow", "#9CE19C dim"), ("hint", "italic #9CE19C")]

def warningStyles : List (String × String) :=
  [("prog-name", "bold #E6E6F0"), ("code", "bold #FFB400"), ("warning-title", "bold #FFC2E0"),
   ("warning-message", "#D6D6DE"), ("hint-arrow", "#B8EFAF dim"), ("hint", "italic #B8EFAF")]

/-- The style of a piece: the host's, else that of the family, else none. -/
def styleOf (host : Host) (f : Fault) (name : String) : String :=
  let own := if f.kind.isWarning then warningStyles else errorStyles
  match (host.styles ++ own).find? (·.1 = name) with
  | some (_, style) => style
  | none => ""

/-- A value as a piece. What does not count as true is an empty piece, and a text that is styled
already keeps its style. -/
def piece (v : Value) (style : String) : Except Misuse Styled :=
  match v with
  | .styled plain own => .ok (if plain = "" then .empty else { plain, style := own })
  | v => if v.isTrue then (v.shown "").map (.ofText · style) else .ok .empty

def textPiece (s : String) (style : String) : Styled :=
  if s = "" then .empty else .ofText s style

/-- The label of the program: the given one, else the host's, else the fault's, else the shell's
own name. -/
def progLabel (host : Host) (f : Fault) (prog : Value) : Value :=
  prog.orElse (host.prog.getD ((f.option? "prog").getD (.text "helmsman")))

def header (host : Host) (f : Fault) (prog : Value) : Except Misuse Styled := do
  let label ← piece (f.progLabel host prog) (f.styleOf host "prog-name")
  let code ← f.code.label host
  return .assemble [
    .ofText "[ " "",
    label,
    .ofText " — " "",
    textPiece code (f.styleOf host "code"),
    .ofText " | " "",
    textPiece (Text.headline f.title) (f.styleOf host (f.family ++ "-title")),
    .ofText " ]" ""]

def messageLine (host : Host) (f : Fault) : Styled :=
  textPiece f.message (f.styleOf host (f.family ++ "-message"))

def hintLine (host : Host) (f : Fault) : Except Misuse Styled := do
  let hint ← piece f.hint (f.styleOf host "hint")
  return .assemble [textPiece " → " (f.styleOf host "hint-arrow"), hint]

def hintLines (host : Host) (f : Fault) : Except Misuse (List Styled) :=
  if f.hint.isTrue then (f.hintLine host).map ([·]) else .ok []

def render (host : Host) (f : Fault) (prog : Value) : Except Misuse (List Styled) := do
  let header ← f.header host prog
  let hints ← f.hintLines host
  return header :: f.messageLine host :: hints

def printed (host : Host) (f : Fault) (prog : Value) : Except Misuse String := do
  let lines ← f.render host prog
  return String.join (lines.map fun line => line.printed ++ "\n")

end Fault
end LineShell
