import LineShell.Parameter
import LineShell.Ordinal

/-! # Binding

The tokens of a line are bound to parameters. First every valued parameter claims the first token
of the form `name=value` that is still there; claimed tokens leave the line. Then the parameters
are resolved in order, each indexed one taking the next position among the tokens that remain: a
claim comes before the token at the position, and that before the default. Either every parameter
is resolved or nothing is bound.
-/
namespace LineShell.Binding

inductive Failure where
  /-- A parameter has no token at its position, counted from zero, and no default. -/
  | missing (index : Nat) (name : String)
  | refused (r : Conversion.Refusal)
deriving DecidableEq

namespace Failure

def missingFault (index : Nat) (name : String) : Fault :=
  .ofKind .bind
    ("missing required argument at position " ++ toString (index + 1)
      ++ " (" ++ Text.quoted name ++ ")")
    [("input", .text name), ("index", .int (index + 1)),
     ("hint", .text ("pass the " ++ Ordinal.label (index + 1) ++ " value or use " ++ name
       ++ "=<value>"))]

def failure : Failure → LineShell.Failure
  | missing index name => .fault (missingFault index name)
  | refused r => r.failure

end Failure

def lead (name : String) : List Char := name.toList ++ ['=']

/-- The text after the lead in the first token that has it, and the other tokens. -/
def takeLed (lead : List Char) : List String → Option (String × List String)
  | [] => none
  | token :: rest => match lead.isPrefixOf? token.toList with
    | some text => some (String.ofList text, rest)
    | none => (takeLed lead rest).map fun (text, others) => (text, token :: others)

/-- The texts claimed by name, the latest first, and the tokens that remain. -/
structure Claims where
  named : List (String × String) := []
  remaining : List String

namespace Claims

def add (c : Claims) (p : Parameter) : Claims :=
  if p.isValued then
    match takeLed (lead p.name) c.remaining with
    | some (text, remaining) => ⟨(p.name, text) :: c.named, remaining⟩
    | none => c
  else c

def ofParameters (parameters : List Parameter) (positionals : List String) : Claims :=
  parameters.foldl add { remaining := positionals }

def text? (c : Claims) (name : String) : Option String :=
  (c.named.find? (·.1 = name)).map (·.2)

end Claims

structure Offer where
  claims : Claims
  flags : List String
  caller : Value
  lenient : Bool

namespace Offer

def token? (o : Offer) (p : Parameter) (index : Nat) : Option String :=
  match o.claims.text? p.name with
  | some text => some text
  | none => o.claims.remaining[index]?

def resolve (o : Offer) (p : Parameter) (index : Nat) : Except Failure Value :=
  match o.token? p index with
  | some token =>
    (Conversion.read (p.type.getD .text) { nullable := p.nullable, lenient := o.lenient } token)
      |>.mapError .refused
  | none => match p.default with
    | some v => .ok v
    | none => .error (.missing index p.name)

def value (o : Offer) (p : Parameter) (index : Nat) : Except Failure Value :=
  match p.role with
  | .flags => .ok (.tuple (o.flags.map .text))
  | .caller => .ok o.caller
  | .variadic => .ok (.tuple ((o.claims.remaining.drop index).map Conversion.infer))
  | .positional | .named => o.resolve p index

def next (p : Parameter) (index : Nat) : Nat := if p.role.isIndexed then index + 1 else index

/-- The values of the parameters from a position on, up to the first failure. -/
def values (o : Offer) : Nat → List Parameter → Except Failure (List Value)
  | _, [] => .ok []
  | index, p :: rest => do
    let v ← o.value p index
    let vs ← o.values (next p index) rest
    return v :: vs

end Offer

def bind (parameters : List Parameter) (positionals flags : List String) (caller : Value)
    (lenient : Bool) : Except Failure (List Value) :=
  Offer.values ⟨.ofParameters parameters positionals, flags, caller, lenient⟩ 0 parameters

end LineShell.Binding
