import LineShell.Handler
import LineShell.Maker.Make

/-! # Classes as handlers

A class that is a handler makes its value of what it is called with. Of some classes a host finds
out how many values they take.
-/
namespace LineShell

namespace Maker

/-- The numbers of values that the maker takes, as far as a host finds out. Unions, and what is
known only by a word, are said to take any number. -/
def found : Maker → Option Arity
  | real | list | tuple => some { required := 0, optional := 1, rest := false }
  | decimal | complex => some { required := 0, optional := 2, rest := false }
  | object => some { required := 0, optional := 0, rest := false }
  | enumeration _ => some { required := 1, optional := 1, rest := false }
  | any | union _ | applied _ => some .any
  | bool | int | text | bytes | set | dict | absent => none

def behaviour (m : Maker) (vs : List Value) : Behaviour :=
  match m.make vs with
  | .ok v => .finish v
  | .error r => .fail r.failure

end Maker

/-- The handler that a value is, if it can be called. Its calls are not noted. -/
def Handler.ofValue? (v : Value) : Option Handler :=
  (Maker.ofValue? v).map fun m =>
    { label := none
      name := .text m.name
      qualifiedName := some m.name
      shows := v.written ""
      arity := .any
      found := m.found
      behaviour := m.behaviour }

end LineShell
