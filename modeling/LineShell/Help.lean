import LineShell.Registry

/-! # Help

A command is described by a line with its name, its parameters and its description. The longer form
adds an indented line for each parameter that has a description or an enumeration as its type, and
one for each member of the enumeration. A command is not described if a default that is to be told
has no text.
-/
namespace LineShell.Help

def indent : String := "    "

/-- A default as it is shown: members and codes by their names, other values in written form. -/
def defaultText (session : String) : Value → Except Misuse String
  | .member m => .ok m.name
  | .code c => .ok c.name
  | v => v.spelled session

def parameterText (session : String) (p : Parameter) : Except Misuse String :=
  let label := (p.type.map (·.label)).getD "" ++ (if p.nullable then "?" else "")
  match p.role with
  | .flags => .ok ("flags " ++ p.name)
  | .caller => .ok ("caller " ++ p.name)
  | .variadic => .ok ("..." ++ p.name)
  | .named =>
    (defaultText session p.defaultValue).map fun shown => label ++ " " ++ p.name ++ "=" ++ shown
  | .positional => .ok (label ++ " " ++ p.name)

def nonEmpty? (s : Option String) : Option String := s.filter (· != "")

def memberLine (entry : Enumeration.Entry) : String :=
  indent ++ indent ++ entry.name ++ match nonEmpty? entry.descr with
    | some descr => ": " ++ descr
    | none => ""

def detailLines (p : Parameter) : List String :=
  let members := match p.type with
    | some (.enumeration e) => some e.members
    | _ => none
  if p.descr.isNone && members.isNone then []
  else
    (indent ++ p.name ++ ":" ++ match p.descr with
      | some descr => " " ++ descr
      | none => "")
    :: (members.getD []).map memberLine

def brief (session : String) (c : Command) : Except Misuse String := do
  let parameters ← c.signature.parameters.mapM (parameterText session)
  return c.name ++ "(" ++ ", ".intercalate parameters ++ ")" ++ match c.descr with
    | some descr => ":" ++ descr
    | none => ""

def full (session : String) (c : Command) : Except Misuse String := do
  let line ← brief session c
  return "\n".intercalate (line :: c.signature.parameters.flatMap detailLines)

def listing (session : String) (commands : List Command) : Except Misuse String := do
  return "\n".intercalate (← commands.mapM (brief session))

end LineShell.Help
