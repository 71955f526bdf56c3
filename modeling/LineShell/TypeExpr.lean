import LineShell.FixedWidth
import LineShell.Enumeration
import LineShell.Number.Amount
import LineShell.Text.Quoted

/-! # Type expressions

A parameter is declared with a type expression: a type, or a union of types. What can be read from
a token is a value type, alone or in a union with the type of nothing.
-/
namespace LineShell

inductive ValueType where
  | text
  | bool
  | int
  | real
  | decimal
  | fixed (width : FixedWidth)
  | enumeration (e : Enumeration)
deriving DecidableEq

namespace ValueType

def label : ValueType → String
  | text => "str"
  | bool => "bool"
  | int => "int"
  | real => "float"
  | decimal => "Decimal"
  | fixed width => width.name
  | enumeration e => e.name

def fullName : ValueType → String
  | decimal => "decimal.Decimal"
  | enumeration e => e.fullName
  | t => t.label

def written : ValueType → String
  | fixed width => width.name
  | enumeration e => "<enum '" ++ e.name ++ "'>"
  | t => "<class '" ++ t.fullName ++ "'>"

end ValueType

/-- One type, or what stands at the place of one. -/
inductive Atom where
  | value (t : ValueType)
  /-- The type of nothing. -/
  | absent
  /-- A class that no token is read as. -/
  | plain (name : String)
  /-- A class with an argument. -/
  | applied (name argument : String)
  | any
  /-- A type that is named by a text, to be looked up later. -/
  | forward (name : String)
  /-- No type at all; the text shows it, if it can be shown. A number stands with its amount. -/
  | other (shows : String) (amount : Option Number.Amount) (isShowable : Bool)
  /-- No type either, and the same as nothing else. -/
  | undefined (shows : String)
deriving DecidableEq

namespace Atom

def label : Atom → String
  | value t => t.label
  | absent => "NoneType"
  | plain name => name
  | applied name _ => name
  | any => "Any"
  | forward name => "ForwardRef(" ++ Text.quoted name ++ ")"
  | other shows .. | undefined shows => shows

def fullName : Atom → String
  | value t => t.fullName
  | absent => "None"
  | plain name => name
  | applied name argument => name ++ "[" ++ argument ++ "]"
  | any => "typing.Any"
  | a => a.label

def written : Atom → String
  | value t => t.written
  | absent => "<class 'NoneType'>"
  | plain name => "<class '" ++ name ++ "'>"
  | applied name argument => name ++ "[" ++ argument ++ "]"
  | any => "typing.Any"
  | a => a.label

/-- Two that cannot be told apart; numbers are told apart by their amounts. -/
def same : Atom → Atom → Bool
  | other _ (some x) _, other _ (some y) _ => x = y
  | undefined _, undefined _ => false
  | a, b => a = b

/-- Each once, where it first stood. -/
def distinct (atoms : List Atom) : List Atom :=
  atoms.foldl (fun kept a => if kept.any a.same then kept else kept ++ [a]) []

def isClass : Atom → Bool
  | value (.fixed _) | forward _ | other .. | undefined _ => false
  | _ => true

def isShowable : Atom → Bool
  | other _ _ isShowable => isShowable
  | _ => true

end Atom

/-- A declared type. A union of classes is shown by its members, any other union by a word. -/
inductive TypeExpr where
  | atom (a : Atom)
  | union (ofClasses : Bool) (members : List Atom)
deriving DecidableEq

namespace TypeExpr

def ofValueType (t : ValueType) : TypeExpr := atom (.value t)

def members : TypeExpr → List Atom
  | atom a => [a]
  | union _ members => members

def isShowable (t : TypeExpr) : Bool := t.members.all (·.isShowable)

/-- The union of members, each taken once; a single one stands for itself. -/
def unite (ofClasses : Bool) (members : List Atom) : TypeExpr :=
  match Atom.distinct members with
  | [a] => atom a
  | distinct => union ofClasses distinct

def isUnionOfClasses : TypeExpr → Bool
  | atom a => a.isClass
  | union ofClasses _ => ofClasses

def unionWord (members : List Atom) : String :=
  if members.length = 2 && members.contains .absent then "Optional" else "Union"

def label : TypeExpr → String
  | atom a => a.label
  | union true members => " | ".intercalate (members.map Atom.fullName)
  | union false members => unionWord members

def written : TypeExpr → String
  | atom a => a.written
  | union true members => " | ".intercalate (members.map Atom.fullName)
  | union false members => match members with
    | [a, .absent] => "typing.Optional[" ++ a.fullName ++ "]"
    | [.absent, a] => "typing.Optional[" ++ a.fullName ++ "]"
    | members => "typing.Union[" ++ ", ".intercalate (members.map fun a =>
        if a = .absent then "NoneType" else a.fullName) ++ "]"

/-- The type inside "this or nothing", and whether the expression is of that form. -/
def unwrap : TypeExpr → TypeExpr × Bool
  | union _ [a, .absent] => (atom a, true)
  | union _ [.absent, a] => (atom a, true)
  | t => (t, false)

/-- The value type to read tokens as, and whether nothing is allowed too. -/
def target? (t : TypeExpr) : Option (ValueType × Bool) :=
  match t.unwrap with
  | (atom (.value inner), nullable) => some (inner, nullable)
  | _ => none

/-- Unions are the same if they have the same members in any order. -/
def same : TypeExpr → TypeExpr → Bool
  | atom a, atom b => a.same b
  | union _ xs, union _ ys => xs.all (fun x => ys.any x.same) && ys.all (fun y => xs.any y.same)
  | _, _ => false

end TypeExpr
end LineShell
