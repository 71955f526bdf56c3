import LineShell.Failure

/-! # Sources of lines

A source yields one item at each read: a line with its ending, or a failure. The empty line stands
for the end of the input; the items after it stay there. A gated item cannot be read before the
gate is opened. After the last item every read finds the end.
-/
namespace LineShell

inductive Source.Item where
  | line (s : String)
  | failing (f : Failure)
  | gated (s : String)

inductive Delivery where
  | line (s : String)
  | ended
  | failed (f : Failure)

/-- What was handed over reaches the one who waits for it; a failure that is not ordinary never
does. -/
def Delivery.isPassedOn : Delivery → Bool
  | failed f => f.isOrdinary
  | _ => true

/-- A source and whether its gate was opened. -/
structure Source where
  items : List Source.Item
  isOpen : Bool := false

namespace Source

def withoutEnding (s : String) : String :=
  String.ofList (s.toList.reverse.dropWhile fun c => c = '\n' || c = '\r').reverse

/-- A line as it is handed over; the empty one is the end. -/
def deliver (s : String) : Delivery := if s = "" then .ended else .line (withoutEnding s)

def read? (s : Source) : Option (Delivery × Source) :=
  match s.items with
  | [] => some (.ended, s)
  | .line text :: rest => some (deliver text, { s with items := rest })
  | .failing f :: rest => some (.failed f, { s with items := rest })
  | .gated text :: rest =>
    if s.isOpen then some (deliver text, { s with items := rest }) else none

/-- Pieces that end at a line feed each, the last one perhaps without. -/
def pieces (piece : List Char) : List Char → List (List Char)
  | [] => if piece = [] then [] else [piece.reverse]
  | c :: rest =>
    if c = '\n' then (c :: piece).reverse :: pieces [] rest else pieces (c :: piece) rest

def ofText (s : String) : Source :=
  { items := (pieces [] s.toList).map fun piece => .line (String.ofList piece) }

end Source
end LineShell
