import LineShell.Value.Basic
import LineShell.Misuse
import LineShell.Ordinal

/-! # Texts of values

The written form of a value shows its kind: a text is quoted, a container shows its brackets. The
plain form differs from it for texts, members, codes, decimals and styled texts. A value has its
forms only if each whole number in it has a text.
-/
namespace LineShell.Value

def commaed (parts : List String) : String := ", ".intercalate parts

/-- A tuple of one item keeps its comma. -/
def inTuple : List String → String
  | [part] => "(" ++ part ++ ",)"
  | parts => "(" ++ commaed parts ++ ")"

def inBraces (parts : List String) : String := "\x7b" ++ commaed parts ++ "\x7d"

def inSet (parts : List String) : String :=
  if parts.isEmpty then "set()" else inBraces parts

def inFrozenSet (parts : List String) : String :=
  if parts.isEmpty then "frozenset()" else "frozenset(" ++ inBraces parts ++ ")"

mutual

/-- The written form; `session` is that of the running session. -/
def written (session : String) : Value → String
  | none => "None"
  | bool b => if b then "True" else "False"
  | int n => toString n
  | real x => Number.realText x
  | decimal d => "Decimal('" ++ d.text ++ "')"
  | text s => Text.quoted s
  | bytes bs => Text.quotedBytes bs
  | list items => "[" ++ commaed (writtenItems session items) ++ "]"
  | tuple items => inTuple (writtenItems session items)
  | dict entries => inBraces (writtenEntries session entries)
  | set items => inSet (writtenItems session items)
  | frozenDict entries => "mappingproxy(" ++ inBraces (writtenEntries session entries) ++ ")"
  | frozenSet items => inFrozenSet (writtenItems session items)
  | member m => m.written
  | unset => "Unset"
  | type t => t.written
  | code c => c.written
  | styled plain style => "<text " ++ Text.quoted plain ++ " [] " ++ Text.quoted style ++ ">"
  | .session => session
  | stream _ _ shows | object _ shows => shows

def writtenItems (session : String) : List Value → List String
  | [] => []
  | v :: rest => v.written session :: writtenItems session rest

def writtenEntries (session : String) : List (Value × Value) → List String
  | [] => []
  | (key, v) :: rest =>
    (key.written session ++ ": " ++ v.written session) :: writtenEntries session rest

end

def plain (session : String) : Value → String
  | text s => s
  | decimal d => d.text
  | member m => m.plain
  | code c => toString c.number
  | styled shown _ => shown
  | v => v.written session

mutual

/-- Each whole number in the value has a text. -/
def isShowable : Value → Bool
  | int n => Number.hasText n
  | list items | tuple items | set items | frozenSet items => areShowable items
  | dict entries | frozenDict entries => areShowableEntries entries
  | member m => m.entry.isShowable
  | type t => t.isShowable
  | _ => true

def areShowable : List Value → Bool
  | [] => true
  | v :: rest => v.isShowable && areShowable rest

def areShowableEntries : List (Value × Value) → Bool
  | [] => true
  | (key, v) :: rest => key.isShowable && v.isShowable && areShowableEntries rest

end

/-- The value has a plain form. That of a member does not tell the datum. -/
def hasPlain : Value → Bool
  | member _ => true
  | v => v.isShowable

@[simp] theorem hasPlain_int (n : Int) : (int n).hasPlain = Number.hasText n := rfl

def shown (session : String) (v : Value) : Except Misuse String :=
  if v.hasPlain then .ok (v.plain session) else .error .tooManyDigits

def spelled (session : String) (v : Value) : Except Misuse String :=
  if v.isShowable then .ok (v.written session) else .error .tooManyDigits

/-- The ordinal of a value that a host gives for a position. -/
def ordinal : Value → Except Misuse String
  | int n => if Number.hasText n then .ok (Ordinal.label n) else .error .tooManyDigits
  | code c => .ok (Ordinal.label c.number)
  | _ => .error (.notInteger "ordinal() argument")

end LineShell.Value
