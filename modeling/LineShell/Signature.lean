import LineShell.Parameter
import LineShell.Ordinal

/-! # Signatures

A signature is a list of parameters in which names are distinct, each special role occurs once at
most and has a default, and a variadic parameter comes last. The rules are tried parameter by
parameter; the first that is broken is told.
-/
namespace LineShell

namespace Signature

inductive Item where
  | parameter (p : Parameter)
  | other

inductive Error where
  | notParameter
  | duplicateName (name : String)
  | duplicateRole (role : Role) (name first : String)
  | specialWithoutDefault (role : Role) (name : String)
  | misplacedVariadic (name : String) (position : Nat)
deriving DecidableEq

namespace Error

def code : Error → Fault.Code
  | notParameter | duplicateName _ => .invalidParameter
  | duplicateRole .. => .duplicatedRole
  | specialWithoutDefault .. => .missingDefault
  | misplacedVariadic .. => .misplacedVariadic

def message : Error → String
  | notParameter => "signature items must be parameters"
  | duplicateName name => "parameter name " ++ Text.quoted name ++ " is declared twice"
  | duplicateRole role name first =>
    role.label ++ " parameter " ++ Text.quoted name ++ " duplicates " ++ Text.quoted first
  | specialWithoutDefault role name =>
    role.label ++ " parameter " ++ Text.quoted name ++ " must declare a default"
  | misplacedVariadic name position =>
    "variadic parameter " ++ Text.quoted name ++ " must be the last one, found at "
      ++ Ordinal.label position ++ " position"

def hint? : Error → Option String
  | duplicateName _ => some "give every parameter a distinct name"
  | duplicateRole role .. => some ("a command accepts at most one " ++ role.label ++ " parameter")
  | misplacedVariadic name _ => some ("move " ++ Text.quoted name ++ " to the end of the signature")
  | _ => none

def fault (e : Error) : Fault :=
  .coded .signature e.message e.code (e.hint?.toList.map fun hint => ("hint", .text hint))

end Error

/-- The rule that a parameter breaks after those before it. -/
def breach? (before : List Parameter) (p : Parameter) (isLast : Bool) : Option Error :=
  if before.any (·.name = p.name) then some (.duplicateName p.name)
  else if p.role.isSpecial then
    match before.find? (·.role = p.role) with
    | some first => some (.duplicateRole p.role p.name first.name)
    | none =>
      if p.default.isNone then some (.specialWithoutDefault p.role p.name)
      else if p.role = .variadic ∧ !isLast then
        some (.misplacedVariadic p.name (before.length + 1))
      else none
  else none

/-- The first rule that is broken in a list after the parameters before it. -/
def firstBreach? (before : List Parameter) : List Item → Option Error
  | [] => none
  | .other :: _ => some .notParameter
  | .parameter p :: rest => match breach? before p rest.isEmpty with
    | some e => some e
    | none => firstBreach? (before ++ [p]) rest

def parametersOf : List Item → List Parameter
  | [] => []
  | .other :: rest => parametersOf rest
  | .parameter p :: rest => p :: parametersOf rest

end Signature

structure Signature where
  parameters : List Parameter
  legal : Signature.firstBreach? [] (parameters.map .parameter) = none

namespace Signature

def empty : Signature := ⟨[], rfl⟩

theorem map_parametersOf {before : List Parameter} {items : List Item}
    (h : firstBreach? before items = none) : (parametersOf items).map .parameter = items := by
  induction items generalizing before with
  | nil => rfl
  | cons item rest ih =>
    cases item with
    | other => simp [firstBreach?] at h
    | parameter p =>
      unfold firstBreach? at h
      split at h
      · simp at h
      · simp [parametersOf, ih h]

def ofItems (items : List Item) : Except Error Signature :=
  match h : firstBreach? [] items with
  | some e => .error e
  | none => .ok ⟨parametersOf items, by rw [map_parametersOf h]; exact h⟩

def ofParameters (parameters : List Parameter) : Except Error Signature :=
  ofItems (parameters.map .parameter)

def required (s : Signature) : Nat := s.parameters.countP (·.isRequired)

def names (s : Signature) : List String := s.parameters.map (·.name)

/-- Whether two lists hold the same parameters in the same order; the first that differ tell. -/
def sameParameters : List Parameter → List Parameter → Except Misuse Bool
  | [], [] => .ok true
  | p :: ps, q :: qs => do
    if ← p.same q then sameParameters ps qs else return false
  | _, _ => .ok false

def same (s t : Signature) : Except Misuse Bool :=
  sameParameters s.parameters t.parameters

def written (s : Signature) (session : String) : Except Misuse String := do
  let shown ← s.parameters.mapM (·.written session)
  return "signature(" ++ Value.commaed shown ++ ")"

end Signature
end LineShell
