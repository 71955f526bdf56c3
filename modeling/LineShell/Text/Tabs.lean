import LineShell.Text.Cells

/-! # Tabs and controls

A tab becomes one space and then the spaces that reach the next multiple of eight cells. Five
controls never enter a printed text.
-/
namespace LineShell.Text

def tabStop : Nat := 8

/-- A column moved on to the next stop, if it is not on one. -/
def nextStop (column : Nat) : Nat := column + (tabStop - column % tabStop) % tabStop

/-- A text with its tabs spread, of which the given extent was measured since the last stop. What
follows a tab is measured anew, and a line starts at the first column. -/
def spreadTabsFrom (e : Extent) : List Char → List Char
  | [] => []
  | c :: rest =>
    if c = '\t' then
      let column := (e.add ' ').filled
      let stop := nextStop column
      ' ' :: List.replicate (stop - column) ' ' ++ spreadTabsFrom { filled := stop } rest
    else if c = '\n' then c :: spreadTabsFrom {} rest
    else c :: spreadTabsFrom (e.add c) rest

def spreadTabs (s : String) : String := String.ofList (spreadTabsFrom {} s.toList)

/-- Bell, backspace, vertical tab, form feed and carriage return. -/
def isDropped (c : Char) : Bool :=
  c.toNat = 7 || c.toNat = 8 || c.toNat = 11 || c.toNat = 12 || c.toNat = 13

def withoutControls (s : String) : String :=
  String.ofList (s.toList.filter fun c => !isDropped c)

end LineShell.Text
