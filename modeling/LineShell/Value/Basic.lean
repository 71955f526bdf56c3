import LineShell.TypeExpr
import LineShell.Fault.Code
import LineShell.Number.Decimal

/-! # Values

The values that parameters default to, that tokens are read as, that handlers receive and return,
and that faults carry.
-/
namespace LineShell

inductive Value where
  | none
  | bool (b : Bool)
  | int (n : Int)
  | real (x : Float)
  | decimal (d : Number.Decimal)
  | text (s : String)
  | bytes (bs : List UInt8)
  | list (items : List Value)
  | tuple (items : List Value)
  | dict (entries : List (Value × Value))
  | set (items : List Value)
  | frozenDict (entries : List (Value × Value))
  | frozenSet (items : List Value)
  | member (m : Member)
  /-- The marker for "no value was given", which is no default. -/
  | unset
  | type (t : TypeExpr)
  | code (c : Fault.Code)
  /-- A text with a style. -/
  | styled (plain style : String)
  /-- A handle on the running session. -/
  | session
  /-- A stream, by what it can do; the text shows it. -/
  | stream (readable writable : Bool) (shows : String)
  /-- Any other object, by the name of its kind; the text shows it. -/
  | object (kind shows : String)
deriving Inhabited

namespace Value

def isUnset : Value → Bool
  | unset => true
  | _ => false

def isNone : Value → Bool
  | none => true
  | _ => false

/-- The value outside of the session, which is known there by its text. -/
def outside (shows : String) : Value → Value
  | session => object "Shell" shows
  | v => v

/-- `other` in place of the marker, and only of the marker. -/
def orElse (v other : Value) : Value := if v.isUnset then other else v

def text? : Value → Option String
  | text s => some s
  | _ => Option.none

/-- Containers cannot be changed through the frozen form; what they hold stays as it is. -/
def freeze : Value → Value
  | list items => tuple items
  | dict entries => frozenDict entries
  | set items => frozenSet items
  | v => v

def isFrozen : Value → Bool
  | list _ | dict _ | set _ => false
  | _ => true

def isTrue : Value → Bool
  | none | unset => false
  | bool b => b
  | int n => n != 0
  | real x => x != 0
  | decimal (.finite _ coefficient _) => coefficient != 0
  | text s => s != ""
  | bytes bs => !bs.isEmpty
  | list items | tuple items | set items | frozenSet items => !items.isEmpty
  | dict entries | frozenDict entries => !entries.isEmpty
  | styled plain _ => plain != ""
  | _ => true

def exprKind : TypeExpr → String
  | .atom (.value (.fixed _)) => "Integral"
  | .atom (.value (.enumeration _)) => "EnumType"
  | .atom (.applied ..) => "GenericAlias"
  | .atom .any => "_AnyMeta"
  | .atom (.forward _) => "ForwardRef"
  | .atom _ => "type"
  | .union true _ => "UnionType"
  | .union false _ => "_UnionGenericAlias"

def kindName : Value → String
  | none => "NoneType"
  | bool _ => "bool"
  | int _ => "int"
  | real _ => "float"
  | decimal _ => "Decimal"
  | text _ => "str"
  | bytes _ => "bytes"
  | list _ => "list"
  | tuple _ => "tuple"
  | dict _ => "dict"
  | set _ => "set"
  | frozenDict _ => "mappingproxy"
  | frozenSet _ => "frozenset"
  | member m => m.enumeration.name
  | unset => "UnsetType"
  | type t => exprKind t
  | code _ => "FaultCode"
  | styled .. => "Text"
  | session => "Shell"
  | stream .. => "StringIO"
  | object kind _ => kind

def fullKind (v : Value) : String :=
  match v.kindName with
  | "UnionType" => "types.UnionType"
  | "GenericAlias" => "types.GenericAlias"
  | "Decimal" => "decimal.Decimal"
  | kind => kind

end Value
end LineShell
