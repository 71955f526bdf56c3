import LineShell.Value.Declared

/-! # Makers

A class can be called, and makes a value of what it is called with, or refuses. What a class makes
is known from its name, and for an enumeration from its members.
-/
namespace LineShell

/-- A class that can be called. -/
inductive Maker where
  | bool
  | int
  | real
  | decimal
  | complex
  | text
  | bytes
  | list
  /-- The class of lists with an argument, which makes no difference. -/
  | applied (name : String)
  | tuple
  | set
  | dict
  | object
  /-- The class of nothing. -/
  | absent
  | any
  /-- A union that is shown by a word. -/
  | union (word : String)
  | enumeration (e : Enumeration)

namespace Maker

def ofValue? : Value → Option Maker
  | .type (.atom (.value .bool)) => some bool
  | .type (.atom (.value .int)) => some int
  | .type (.atom (.value .real)) => some real
  | .type (.atom (.value .decimal)) => some decimal
  | .type (.atom (.value .text)) => some text
  | .type (.atom (.value (.enumeration e))) => some (enumeration e)
  | .type (.atom (.plain "complex")) => some complex
  | .type (.atom (.plain "bytes")) => some bytes
  | .type (.atom (.plain "list")) => some list
  | .type (.atom (.plain "tuple")) => some tuple
  | .type (.atom (.plain "set")) => some set
  | .type (.atom (.plain "dict")) => some dict
  | .type (.atom (.plain "object")) => some object
  | .type (.atom (.applied name _)) => some (applied name)
  | .type (.atom .absent) => some absent
  | .type (.atom .any) => some any
  | .type (.union false members) => some (union (TypeExpr.unionWord members))
  | _ => none

def name : Maker → String
  | bool => "bool"
  | int => "int"
  | real => "float"
  | decimal => "Decimal"
  | complex => "complex"
  | text => "str"
  | bytes => "bytes"
  | list => "list"
  | applied name => name
  | tuple => "tuple"
  | set => "set"
  | dict => "dict"
  | object => "object"
  | absent => "NoneType"
  | any => "Any"
  | union word => word
  | enumeration e => e.name

end Maker
end LineShell
