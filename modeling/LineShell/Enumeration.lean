import LineShell.Number.Amount

/-! # Enumerations

An enumeration lists names for its members. A name whose datum was given before is an alias of the
member that has it: it can be written for the member, and is not listed as one.
-/
namespace LineShell

/-- A name of an enumeration. The member it stands for goes by its canonical name. -/
structure Enumeration.Entry where
  name : String
  canonical : String
  /-- The member's datum, as it is shown. -/
  datum : String
  /-- The amount of a datum that is a number. -/
  amount : Option Number.Amount := none
  descr : Option String := none
  /-- The datum can be shown. -/
  isShowable : Bool := true
deriving DecidableEq

/-- An enumeration; `home` is the place it is declared at. -/
structure Enumeration where
  name : String
  home : String
  entries : List Enumeration.Entry
deriving DecidableEq

structure Member where
  enumeration : Enumeration
  entry : Enumeration.Entry
deriving DecidableEq

namespace Enumeration

def names (e : Enumeration) : List String := e.entries.map (·.name)

def Entry.isAlias (entry : Entry) : Bool := entry.name != entry.canonical

/-- The members in order, each once. -/
def members (e : Enumeration) : List Entry := e.entries.filter (!·.isAlias)

/-- The member that a name stands for; names differ if their case does. -/
def member? (e : Enumeration) (name : String) : Option Member := do
  let entry ← e.entries.find? (·.name = name)
  let canonical ← e.entries.find? (·.name = entry.canonical)
  return ⟨e, canonical⟩

def fullName (e : Enumeration) : String := e.home ++ "." ++ e.name

end Enumeration

namespace Member

def name (m : Member) : String := m.entry.canonical

def plain (m : Member) : String := m.enumeration.name ++ "." ++ m.name

def written (m : Member) : String := "<" ++ m.plain ++ ": " ++ m.entry.datum ++ ">"

end Member
end LineShell
