import LineShell.Misuse
import LineShell.Value.Basic
import LineShell.Number.Amount

/-! # Equality of values

Numbers are equal if their amounts are, whatever their kind; a truth value counts as zero or one
and a code as its number. Sets and dictionaries are equal whatever the order of arrival. What is
no number equals nothing; a decimal that signals cannot even be compared with a number.
-/
namespace LineShell.Value
open Number

def amount? : Value → Option Amount
  | bool b => some (.ofInt (if b then 1 else 0))
  | int n => some (.ofInt n)
  | real x => Amount.ofFloat? x
  | decimal d => Amount.ofDecimal? d
  | code c => some (.ofInt c.number)
  | _ => Option.none

/-- Whether the two are the same amount; two values without one are not. -/
def sameAmount (a b : Value) : Bool :=
  match a.amount?, b.amount? with
  | some x, some y => x = y
  | _, _ => false

mutual

def equals : Value → Value → Bool
  | none, none | unset, unset | session, session => true
  | text s, text t => s = t
  | bytes s, bytes t => s = t
  | list xs, list ys | tuple xs, tuple ys => equalItems xs ys
  | set xs, set ys | set xs, frozenSet ys | frozenSet xs, set ys | frozenSet xs, frozenSet ys =>
    xs.length = ys.length && within xs ys
  | dict xs, dict ys | dict xs, frozenDict ys | frozenDict xs, dict ys
  | frozenDict xs, frozenDict ys => xs.length = ys.length && entriesWithin xs ys
  | member m, member n => m = n
  | type t, type u => t.same u
  | styled s _, styled t _ => s = t
  | a, b => sameAmount a b

def equalItems : List Value → List Value → Bool
  | [], [] => true
  | x :: xs, y :: ys => x.equals y && equalItems xs ys
  | _, _ => false

def within : List Value → List Value → Bool
  | [], _ => true
  | x :: xs, ys => ys.any x.equals && within xs ys

def entriesWithin : List (Value × Value) → List (Value × Value) → Bool
  | [], _ => true
  | (key, v) :: xs, ys => ys.any (fun e => key.equals e.1 && v.equals e.2) && entriesWithin xs ys

end

def isNumeric : Value → Bool
  | bool _ | int _ | real _ | decimal _ | code _ => true
  | _ => false

/-- A decimal that is no number and signals when it is used. -/
def isSignalling : Value → Bool
  | decimal (.undefined _ signalling _) => signalling
  | _ => false

mutual

/-- The comparison of the two meets a signal before it is decided. -/
def signals : Value → Value → Bool
  | list xs, list ys => xs.length = ys.length && signalsItems xs ys
  | tuple xs, tuple ys => signalsItems xs ys
  | dict xs, dict ys | dict xs, frozenDict ys | frozenDict xs, dict ys
  | frozenDict xs, frozenDict ys => xs.length = ys.length && signalsEntries xs ys
  | a, b => a.isNumeric && b.isNumeric && (a.isSignalling || b.isSignalling)

def signalsItems : List Value → List Value → Bool
  | x :: xs, y :: ys => x.signals y || (x.equals y && signalsItems xs ys)
  | _, _ => false

/-- Entries are compared by key, up to the first that differ. -/
def signalsEntries : List (Value × Value) → List (Value × Value) → Bool
  | [], _ => false
  | (key, v) :: xs, ys => match ys.find? fun e => key.equals e.1 with
    | some e => v.signals e.2 || (v.equals e.2 && signalsEntries xs ys)
    | Option.none => false

end

/-- Whether two values are equal, if that can be told. The entries of a frozen dictionary on the
right lead the comparison. -/
def compare (a b : Value) : Except Misuse Bool :=
  let signal := match b with
    | frozenDict _ => b.signals a
    | _ => a.signals b
  if signal then .error .signalled else .ok (a.equals b)

/-- Each value once, where it first stood. -/
def distinct (items : List Value) : List Value :=
  items.foldl (fun kept v => if kept.any v.equals then kept else kept ++ [v]) []

def int? : Value → Option Int
  | int n => some n
  | _ => Option.none

def insertInt (n : Int) : List Int → List Int
  | [] => [n]
  | m :: rest => if n ≤ m then n :: m :: rest else m :: insertInt n rest

/-- The items of a set: whole numbers first and ascending, then the rest as they came. -/
def setItems (items : List Value) : List Value :=
  let kept := distinct items
  ((kept.filterMap int?).foldr insertInt []).map int ++ kept.filter (·.int?.isNone)

/-- The entries of a dictionary: a key that comes again keeps its place and takes the new value. -/
def keyed (entries : List (Value × Value)) : List (Value × Value) :=
  entries.foldl (fun kept e =>
    if kept.any (fun k => k.1.equals e.1) then
      kept.map fun k => if k.1.equals e.1 then (k.1, e.2) else k
    else kept ++ [e]) []

end LineShell.Value
