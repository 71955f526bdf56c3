import LineShell.Maker.Basic
import LineShell.Maker.Complex
import LineShell.Text.Encoding

/-! # What makers make

Containers take the items that a value yields one by one, and an enumeration finds the member of a
datum.
-/
namespace LineShell.Maker
open Number

def ofMisuse {α : Type} (e : Except Misuse α) : Except Refusal α := e.mapError .misuse

def items : Value → Except Refusal (List Value)
  | .text s => .ok (s.toList.map fun c => .text (String.ofList [c]))
  | .bytes bs => .ok (bs.map fun b => .int b.toNat)
  | .list items | .tuple items | .set items | .frozenSet items => .ok items
  | .dict entries | .frozenDict entries => .ok (entries.map (·.1))
  | .type (.atom (.value (.enumeration e))) => .ok (e.members.map fun entry => .member ⟨e, entry⟩)
  | v => .error (.notIterable v.fullKind)

/-! ## Texts and bytes -/

/-- The kind of an argument; that of nothing is shown as nothing is. -/
def shownKind (v : Value) : String := if v.isNone then "None" else v.fullKind

/-- The arguments after the first name an encoding and a way to treat errors. -/
def checkEncoding (maker : String) : List Value → Except Refusal Unit
  | [] => .ok ()
  | encoding :: more => match encoding with
    | .text _ => match more with
      | .text _ :: _ | [] => .ok ()
      | errors :: _ => .error (.encoding maker "errors" (shownKind errors))
    | v => .error (.encoding maker "encoding" (shownKind v))

def makeText : List Value → Except Refusal Value
  | [] => .ok (.text "")
  | [.session] => .ok .session
  | [v] => do return .text (← ofMisuse (v.shown ""))
  | v :: more => do
    if 2 < more.length then throw (Refusal.tooMany "str()" 3 (more.length + 1))
    checkEncoding "str" more
    match v, more with
    | .text _, _ => throw Refusal.decodingText
    | .bytes bs, .text name :: _ => match (Text.Encoding.ofName? name).bind (·.decode? bs) with
      | some s => return .text s
      | none => throw (Refusal.unknownEncoding name)
    | v, _ => throw (Refusal.decoding v.fullKind)

def byteOf (v : Value) : Except Refusal UInt8 :=
  match v.whole? with
  | some n => if 0 ≤ n ∧ n < 256 then .ok n.toNat.toUInt8 else .error .notByte
  | none => .error (.notInteger v.fullKind)

def zeros (n : Int) : Except Refusal Value :=
  if power 2 63 ≤ n.natAbs then .error .countBeyondIndex
  else if n < 0 then .error .negativeCount
  else if power 2 32 ≤ n.natAbs then .error (.misuse .beyondMemory)
  else .ok (.bytes (List.replicate n.toNat 0))

def makeBytes : List Value → Except Refusal Value
  | [] => .ok (.bytes [])
  | [v] => match v with
    | .text _ => .error .textWithoutEncoding
    | .bytes bs => .ok (.bytes bs)
    | v => match v.whole? with
      | some n => zeros n
      | none => match items v with
        | .ok vs => do return .bytes (← vs.mapM byteOf)
        | .error _ => .error (.notBytes v.fullKind)
  | v :: more => do
    if 2 < more.length then throw (Refusal.tooMany "bytes()" 3 (more.length + 1))
    checkEncoding "bytes" more
    match v, more with
    | .text s, .text name :: _ => match (Text.Encoding.ofName? name).bind (·.encode? s) with
      | some bs => return .bytes bs
      | none => throw (Refusal.unknownEncoding name)
    | _, _ => throw Refusal.encodingWithoutText

/-! ## Containers -/

def single (m : Maker) (empty : Value) (make : Value → Except Refusal Value) :
    List Value → Except Refusal Value
  | [] => .ok empty
  | [v] => make v
  | vs => .error (.moreThanOne m.name vs.length)

def alone (shown : String) (made : Value) : List Value → Except Refusal Value
  | [] => .ok made
  | _ => .error (.noArguments shown)

def entryOf (position : Nat) (v : Value) : Except Refusal (Value × Value) :=
  match items v with
  | .error _ => .error (.notPair position)
  | .ok [key, value] => .ok (key, value)
  | .ok vs => .error (.pairLength position vs.length)

/-- The entries of a dictionary given in pairs, up to the first that is none. -/
def entriesOf (position : Nat) : List Value → Except Refusal (List (Value × Value))
  | [] => .ok []
  | v :: rest => do
    let entry ← entryOf position v
    match entry.1.unhashable? with
    | some m => throw (Refusal.misuse m)
    | none => return entry :: (← entriesOf (position + 1) rest)

def makeDict : Value → Except Refusal Value
  | .dict entries | .frozenDict entries => .ok (.dict entries)
  | v => do ofMisuse (Value.ofEntries (← entriesOf 0 (← items v)))

/-! ## Members -/

def hasDatum (v : Value) (entry : Enumeration.Entry) : Bool :=
  match entry.amount, v.amount? with
  | some x, some y => x = y
  | none, none => entry.datum = v.written ""
  | _, _ => false

def memberOf (e : Enumeration) (v : Value) : Except Refusal Value :=
  let own := match v with
    | .member m => if m.enumeration = e then some m else none
    | _ => none
  match own with
  | some m => .ok (.member m)
  | none =>
    if e.members.isEmpty then .error (.noMembers (ValueType.enumeration e).written)
    else match e.members.find? (hasDatum v) with
      | some entry => .ok (.member ⟨e, entry⟩)
      | none => do throw (.notMember (← ofMisuse (v.spelled "")) e.name)

def makeMember (e : Enumeration) : List Value → Except Refusal Value
  | [] => .error .noMemberValue
  | [v] | [v, .none] => memberOf e v
  | [v, names] => do
    if e.members.isEmpty then discard (items names)
    let shown ← ofMisuse (v.spelled "")
    throw (Refusal.extending shown (ValueType.enumeration e).written)
  | vs => .error (.memberArguments (vs.length + 1))

def make (m : Maker) (vs : List Value) : Except Refusal Value :=
  match m with
  | bool => single m (.bool false) (fun v => .ok (.bool v.isTrue)) vs
  | int => match vs with
    | [v, base] => (makeIntIn v base).map .int
    | [v] => (makeInt v).map .int
    | [] => .ok (.int 0)
    | vs => .error (.tooMany "int()" 2 vs.length)
  | real => single m (.real 0.0) (fun v => (makeReal v).map .real) vs
  | decimal => match vs with
    | [] => .ok (.decimal (.finite false 0 0))
    | [v] | [v, .none] => (makeDecimal v).map .decimal
    | [_, _] => .error .notContext
    | vs => .error (.tooMany "function" 2 vs.length)
  | complex => makeComplex vs
  | text => makeText vs
  | bytes => makeBytes vs
  | list | applied _ => single m (.list []) (fun v => (items v).map .list) vs
  | tuple => single m (.tuple []) (fun v => (items v).map .tuple) vs
  | set => single m (.set []) (fun v => do ofMisuse (Value.ofSetItems (← items v))) vs
  | dict => single m (.dict []) makeDict vs
  | object => alone "object()" (.object "object" "<object object>") vs
  | absent => alone "NoneType" .none vs
  | any => .error .abstract
  | union _ => .error .abstractUnion
  | enumeration e => makeMember e vs

end LineShell.Maker
