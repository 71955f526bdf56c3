import LineShell.Value.Text
import LineShell.Value.Equality
import LineShell.Expression.Grammar

/-! # Declared enumerations, unions and containers

A host declares an enumeration by names and data, a union by types or by values at the place of
types, and a set or a dictionary by what it holds.
-/
namespace LineShell

/-- One more name: an alias if an earlier name has the same datum. -/
def Enumeration.addName (known : List (Value × Enumeration.Entry))
    (declared : String × Value × Option String) : List (Value × Enumeration.Entry) :=
  let (name, datum, descr) := declared
  let canonical := match known.find? fun k => k.1.equals datum with
    | some (_, entry) => entry.canonical
    | none => name
  known ++ [(datum, ⟨name, canonical, datum.written "", datum.amount?, descr, datum.isShowable⟩)]

def Enumeration.declare (name home : String) (names : List (String × Value × Option String)) :
    Enumeration :=
  ⟨name, home, (names.foldl addName []).map (·.2)⟩

namespace Value

mutual

/-- Why a value cannot be found again by its contents: it can be changed, or holds what can be, or
signals. No set holds such a value, no dictionary has it as a key, and no union has it as a
member. -/
def unhashable? : Value → Option Misuse
  | tuple items | frozenSet items => unhashableIn? items
  | list _ => some (.unhashable "list")
  | dict _ => some (.unhashable "dict")
  | set _ => some (.unhashable "set")
  | frozenDict _ => some (.unhashable "mappingproxy")
  | styled .. => some (.unhashable "Text")
  | decimal (.undefined _ true _) => some .unhashableSignal
  | _ => Option.none

def unhashableIn? : List Value → Option Misuse
  | [] => Option.none
  | v :: rest => v.unhashable? <|> unhashableIn? rest

end

def unionMembers (v : Value) : List Atom :=
  match v with
  | none => [.absent]
  | type t => t.members
  | text name => [.forward name]
  | real x =>
    if x.isNaN then [.undefined (v.written "")] else [.other (v.written "") v.amount? true]
  | decimal (.undefined ..) => [.undefined (v.written "")]
  | v => [.other (v.written "") v.amount? v.isShowable]

def isTuple : Value → Bool
  | tuple _ => true
  | _ => false

def checkForward : Value → Except Misuse Unit
  | text name => if Expression.isForward name then .ok () else .error (.notExpression name)
  | _ => .ok ()

/-- What stands in a union: no tuple, and no text that is no expression. -/
def checkMember (v : Value) : Except Misuse Unit := do
  if v.isTuple then throw (.notUnitable (← v.spelled "")) else v.checkForward

/-- The union of types and values. One value that is alone in it stands for itself. -/
def unite (members : List Value) : Except Misuse Value := do
  if members.isEmpty then throw .noTypes
  members.forM checkMember
  match unhashableIn? members with
  | some m => throw m
  | Option.none => match members, TypeExpr.unite false (members.flatMap unionMembers) with
    | v :: _, .atom (.other ..) | v :: _, .atom (.undefined _) => return v
    | _, t => return type t

def optional (v : Value) : Except Misuse Value := do
  if v.isTuple then throw (.notOptional (← v.spelled "")) else unite [v, none]

def isFixedWidth : Value → Bool
  | type (.atom (.value (.fixed _))) => true
  | _ => false

def isUnionOfClasses : Value → Bool
  | none => true
  | type t => t.isUnionOfClasses
  | _ => false

/-- A union that is not of classes, or a type named by a text: what unites with any value. -/
def isWordUnion : Value → Bool
  | type (.union false _) | type (.atom (.forward _)) => true
  | _ => false

/-- The bits of either of two whole numbers, in two's complement without end. -/
def eitherBits (a b : Int) : Int :=
  match a, b with
  | .ofNat m, .ofNat n => .ofNat (m ||| n)
  | .ofNat m, .negSucc n => .negSucc (n - (m &&& n))
  | .negSucc m, .ofNat n => .negSucc (m - (m &&& n))
  | .negSucc m, .negSucc n => .negSucc (m &&& n)

def whole? : Value → Option Int
  | bool b => some (if b then 1 else 0)
  | int n => some n
  | code c => some c.number
  | _ => Option.none

def joined? : Value → Value → Option Value
  | bool a, bool b => some (bool (a || b))
  | set xs, set ys => some (set (setItems (xs ++ ys)))
  | dict xs, dict ys => some (dict (keyed (xs ++ ys)))
  | a, b => match a.whole?, b.whole? with
    | some m, some n => some (int (eitherBits m n))
    | _, _ => Option.none

/-- Either of two types, or two values joined. Beside a fixed width or a union any value goes that
can stand in a union; else both sides are classes, and one of them is not the value of nothing. -/
def either (left right : Value) : Except Misuse Value :=
  let refused : Except Misuse Value := .error (.badOperands left.fullKind right.fullKind)
  if left.isWordUnion || right.isWordUnion then unite [left, right]
  else if left.isFixedWidth || right.isFixedWidth then
    match unite [left, right] with
    | .ok v => .ok v
    | .error m => if m.kind = .type then refused else .error m
  else if left.isNone && right.isNone then refused
  else if left.isUnionOfClasses && right.isUnionOfClasses then
    .ok (type (.unite true (left.unionMembers ++ right.unionMembers)))
  else match joined? left right with
    | some v => .ok v
    | Option.none => refused

def ofSetItems (items : List Value) : Except Misuse Value :=
  match unhashableIn? items with
  | some m => .error m
  | Option.none => .ok (set (setItems items))

def ofEntries (entries : List (Value × Value)) : Except Misuse Value :=
  match unhashableIn? (entries.map (·.1)) with
  | some m => .error m
  | Option.none => .ok (dict (keyed entries))

end Value
end LineShell
