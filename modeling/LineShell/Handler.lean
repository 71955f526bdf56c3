import LineShell.Behaviour

/-! # Handlers

A handler is what a command calls. It takes a range of values by position. What a host finds out
about the range is checked when a command is declared; for some handlers that is nothing.
-/
namespace LineShell

/-- The values that a handler takes by position: so many at least, some more, perhaps any number.
Values that it needs by keyword are never given. -/
structure Arity where
  required : Nat
  optional : Nat
  rest : Bool
  keywords : Nat := 0
deriving DecidableEq

namespace Arity

def any : Arity := { required := 0, optional := 0, rest := true }

def accepts (a : Arity) (count : Nat) : Bool :=
  a.required ≤ count && (a.rest || count ≤ a.required + a.optional) && a.keywords = 0

def misuse? (a : Arity) (handler : String) (count : Nat) : Option Misuse :=
  if count < a.required then some (.tooFewValues handler (a.required - count))
  else if !a.rest && a.required + a.optional < count then
    some (.tooManyValues handler a.required (a.required + a.optional) count)
  else if a.keywords ≠ 0 then some (.keywordsMissing handler a.keywords)
  else none

theorem misuse?_eq_none_iff {a : Arity} {handler : String} {count : Nat} :
    a.misuse? handler count = none ↔ a.accepts count = true := by
  unfold misuse? accepts
  cases a.rest <;> grind

end Arity

structure Handler where
  /-- The name that calls are noted under, if they are noted. -/
  label : Option String
  /-- The name that a command takes if it is given none. -/
  name : Value
  /-- The qualified name. -/
  qualifiedName : Option String
  /-- The written form. -/
  shows : String
  /-- The values that it takes. -/
  arity : Arity
  /-- The values that it takes as far as a host finds out, if a host finds out. -/
  found : Option Arity := some arity
  /-- What it does with the values that it is called with. -/
  behaviour : List Value → Behaviour

namespace Handler

/-- What identifies the handler: its qualified name, or its written form if it has none. -/
def identifier (h : Handler) : String :=
  match h.qualifiedName with
  | some name => if name = "" then h.shows else name
  | none => h.shows

/-- As far as a host can find out, the handler can be called with so many values. -/
def mayAccept (h : Handler) (count : Nat) : Bool :=
  match h.found with
  | some arity => arity.accepts count
  | none => true

theorem accepts_of_mayAccept {h : Handler} {count : Nat} (truth : h.found = some h.arity)
    (may : h.mayAccept count = true) : h.arity.accepts count = true := by
  simpa [mayAccept, truth] using may

end Handler
end LineShell
