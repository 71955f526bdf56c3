import LineShell.Conversion
import LineShell.Role
import LineShell.Text.Identifier

/-! # Parameters

A parameter has a name that is an identifier, a role, and, unless its role is special, a type that
tokens are read as. A positional parameter has no default and a named one has; these rules are part
of the type. Declaring a parameter checks what a host gives in a fixed order and tells the first
thing that is wrong.
-/
namespace LineShell

/-- A declared parameter. Its default is kept as it cannot be changed, and is never the marker for
"no value". -/
structure Parameter where
  name : String
  role : Role
  /-- The type to read tokens as; special roles have none. -/
  type : Option ValueType
  /-- Nothing was allowed beside the type. -/
  nullable : Bool
  default : Option Value
  descr : Option String
  name_identifier : Text.isIdentifier name.toList = true
  type_isSome : type.isSome = !role.isSpecial
  default_of_positional : role = .positional → default = none
  default_of_named : role = .named → default.isSome = true

namespace Parameter

structure Draft where
  name : Value
  /-- Nothing, if what was given is no role. -/
  role : Option Role
  type : Value := .type (.ofValueType .text)
  default : Value := .unset
  descr : Value := .unset

inductive Error where
  | nameNotText
  | notIdentifier (name : String)
  | notRole (name : String)
  | descrNotText (name : String)
  | unsupported (name type : String)
  /-- The type is not supported and cannot be told either. -/
  | misuse (m : Misuse)
  | positionalDefault (name : String)
  | namedWithoutDefault (name : String)
deriving DecidableEq

namespace Error

def code : Error → Fault.Code
  | unsupported .. => .unsupportedType
  | namedWithoutDefault _ => .missingDefault
  | _ => .invalidParameter

def message : Error → String
  | nameNotText => "parameter name must be a string"
  | notIdentifier name => "parameter name " ++ Text.quoted name ++ " is not a valid identifier"
  | notRole name => "parameter " ++ Text.quoted name ++ " role must be a Role"
  | descrNotText name => "parameter " ++ Text.quoted name ++ " 'descr' must be a string"
  | unsupported name type => "parameter " ++ Text.quoted name ++ " has unsupported type " ++ type
  | misuse m => m.message
  | positionalDefault name =>
    "positional parameter " ++ Text.quoted name ++ " cannot declare a default"
  | namedWithoutDefault name => "named parameter " ++ Text.quoted name ++ " must declare a default"

def hint? : Error → Option String
  | notIdentifier _ => some "use letters, digits and underscores, not starting with a digit"
  | unsupported .. =>
    some "use str, bool, int, float, Decimal, a fixed-width integer or an Enum"
  | positionalDefault _ => some "declare it as a named parameter instead"
  | _ => none

def fault (e : Error) : Fault :=
  .coded .signature e.message e.code (e.hint?.toList.map fun hint => ("hint", .text hint))

def failure : Error → Failure
  | misuse m => .misuse m
  | e => .fault e.fault

def ofType (name : String) (type : Value) : Error :=
  match Conversion.typeLabel type with
  | .ok label => unsupported name label
  | .error m => misuse m

end Error

def kept (default : Value) : Option Value :=
  if default.isUnset then none else some default.freeze

/-- A description without the blanks around it; an empty one is none. -/
def keptDescr : Value → Option String
  | .text s => if Text.trimmed s = "" then none else some (Text.trimmed s)
  | _ => none

theorem kept_isSome {v : Value} (h : v.isUnset = false) : (kept v).isSome = true := by
  simp [kept, h]

theorem kept_eq_none {v : Value} (h : v.isUnset = true) : kept v = none := by
  simp [kept, h]

def declare (d : Draft) : Except Error Parameter :=
  match d.name with
  | .text name =>
    if identifier : Text.isIdentifier name.toList = true then
      match d.role with
      | none => .error (.notRole name)
      | some role =>
        if d.descr.text?.isNone && !d.descr.isUnset then .error (.descrNotText name)
        else if special : role.isSpecial = true then
          .ok {
            name, role, type := none, nullable := false
            default := kept d.default
            descr := keptDescr d.descr
            name_identifier := identifier
            type_isSome := by simp [special]
            default_of_positional := by intro h; subst h; simp [Role.isSpecial] at special
            default_of_named := by intro h; subst h; simp [Role.isSpecial] at special }
        else
          match (match d.type with | .type t => t.target? | _ => none) with
          | none => .error (.ofType name d.type)
          | some (type, nullable) =>
            if positional : role = .positional ∧ d.default.isUnset = false then
              .error (.positionalDefault name)
            else if named : role = .named ∧ d.default.isUnset = true then
              .error (.namedWithoutDefault name)
            else
              .ok {
                name, role, type := some type, nullable
                default := kept d.default
                descr := keptDescr d.descr
                name_identifier := identifier
                type_isSome := by simpa using special
                default_of_positional := fun h => kept_eq_none (by
                  cases hd : d.default.isUnset
                  · exact absurd ⟨h, hd⟩ positional
                  · rfl)
                default_of_named := fun h => kept_isSome (by
                  cases hd : d.default.isUnset
                  · rfl
                  · exact absurd ⟨h, hd⟩ named) }
    else .error (.notIdentifier name)
  | _ => .error .nameNotText

def isRequired (p : Parameter) : Bool := p.role = .positional

def isValued (p : Parameter) : Bool := !p.role.isSpecial

/-- The default as a value, the marker if there is none. -/
def defaultValue (p : Parameter) : Value := p.default.getD .unset

def typeValue (p : Parameter) : Value :=
  match p.type with
  | some t => .type (.ofValueType t)
  | none => .none

def descrValue (p : Parameter) : Value :=
  match p.descr with
  | some s => .text s
  | none => .none

/-- Whether two parameters cannot be told apart, if their defaults can be compared. -/
def same (p q : Parameter) : Except Misuse Bool :=
  if p.name = q.name && p.role = q.role && p.type = q.type then
    (p.defaultValue.compare q.defaultValue).map fun equal =>
      equal && p.nullable = q.nullable && p.descr = q.descr
  else .ok false

def written (p : Parameter) (session : String) : Except Misuse String := do
  let default ← p.defaultValue.spelled session
  return "parameter(name=" ++ Text.quoted p.name ++ ", role=" ++ p.role.written
    ++ ", type=" ++ p.typeValue.written session ++ ", default=" ++ default
    ++ ", nullable=" ++ (Value.bool p.nullable).written session
    ++ ", descr=" ++ p.descrValue.written session ++ ")"

end Parameter
end LineShell
