import LineShell.Enumeration

/-! # Roles

A role says how a parameter receives its value: from one token, by order or by name; or from the
flags, the running session, or all tokens that remain.
-/
namespace LineShell

inductive Role where
  | positional
  | named
  | flags
  | caller
  | variadic
deriving DecidableEq

namespace Role

def label : Role → String
  | positional => "positional"
  | named => "named"
  | flags => "flags"
  | caller => "caller"
  | variadic => "variadic"

def all : List Role := [positional, named, flags, caller, variadic]

def isSpecial : Role → Bool
  | flags | caller | variadic => true
  | positional | named => false

/-- The role takes a position among the positional tokens. -/
def isIndexed : Role → Bool
  | positional | named | variadic => true
  | flags | caller => false

def ofLabel? (s : String) : Option Role := all.find? (·.label = s)

def name (r : Role) : String := r.label.toUpper

/-- The roles as an enumeration that a parameter may be declared with. -/
def enumeration : Enumeration where
  name := "Role"
  home := "helmsman.arguments"
  entries := all.map fun r =>
    { name := r.name, canonical := r.name, datum := "'" ++ r.label ++ "'" }

def written (r : Role) : String := "<Role." ++ r.name ++ ": '" ++ r.label ++ "'>"

end Role
end LineShell
