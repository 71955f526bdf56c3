import LineShell.Command
import LineShell.Text.Folding

/-! # Registries

A registry holds commands in the order of their registration. A name finds the first command that
has it. A command whose name an earlier one has too is never found, and one whose name differs from
an earlier one in case only is not found where case is ignored; both are warned of.
-/
namespace LineShell

structure Registry where
  commands : List Command

namespace Registry

inductive Item where
  | command (c : Command)
  | draft (d : Command.Draft)
  /-- Something else, by the name of its kind. -/
  | other (kind : String)

inductive Error where
  | notCommand (kind : String)
  | command (e : Command.Error)
deriving DecidableEq

def Error.fault : Error → Fault
  | notCommand kind =>
    .coded .signature ("registry items must be commands, got " ++ kind) .invalidParameter
      [("hint", .text "declare handlers with command(...).build()")]
  | command e => e.fault

def Error.failure : Error → Failure
  | command e => e.failure
  | e => .fault e.fault

def key (name : String) (ignoreCase : Bool) : List Char :=
  if ignoreCase then Text.foldCase name.toList else name.toList

def Item.command? : Item → Except Error Command
  | command c => .ok c
  | draft d => d.build.mapError .command
  | other kind => .error (.notCommand kind)

def findIn (commands : List Command) (name : String) (ignoreCase : Bool) : Option Command :=
  commands.find? fun c => key c.name ignoreCase = key name ignoreCase

structure Shadowing where
  name : String
  /-- The position of the command, counted from one. -/
  position : Nat
  /-- The name of the earlier command. -/
  first : String
deriving DecidableEq

namespace Shadowing

def message (s : Shadowing) : String :=
  if s.first = s.name then
    "command " ++ Text.quoted s.name ++ " at " ++ Ordinal.label s.position
      ++ " position is shadowed by an earlier one"
  else
    "command " ++ Text.quoted s.name ++ " at " ++ Ordinal.label s.position
      ++ " position may be shadowed by " ++ Text.quoted s.first
      ++ " when ignore_case is enabled"

def fault (s : Shadowing) : Fault :=
  .ofKind .shadowedCommand s.message
    [("input", .text s.name), ("index", .int s.position),
     ("hint", .text "rename one of the handlers; lookups return the first match")]

end Shadowing

def shadowing? (before : List Command) (c : Command) : Option Shadowing :=
  (findIn before c.name true).map fun first => ⟨c.name, before.length + 1, first.name⟩

def shadowingsFrom (before : List Command) : List Command → List Shadowing
  | [] => []
  | c :: rest => (shadowing? before c).toList ++ shadowingsFrom (before ++ [c]) rest

def shadowings (r : Registry) : List Shadowing := shadowingsFrom [] r.commands

/-- The registry of the items; the first that is no command is told. -/
def ofItems (items : List Item) : Except Error Registry := do
  return ⟨← items.mapM Item.command?⟩

def find (r : Registry) (name : String) (ignoreCase : Bool) : Option Command :=
  findIn r.commands name ignoreCase

/-- The position, counted from zero, of the command that a name of any kind finds. -/
def findIndex (r : Registry) (name : Value) (ignoreCase : Bool) : Except Misuse (Option Nat) :=
  match name with
  | .text name => .ok (r.commands.findIdx? fun c => key c.name ignoreCase = key name ignoreCase)
  | _ => .error (.notText "find() argument")

def names (r : Registry) : List String := r.commands.map (·.name)

def written (r : Registry) : String := "registry(" ++ ", ".intercalate r.names ++ ")"

end Registry
end LineShell
