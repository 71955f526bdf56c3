import LineShell.Session.Operation
import LineShell.Value.Declared

/-! # A demonstration

A session of three commands: one greets, one reports the sea, one leaves.
-/
namespace LineShell.Demo

def moods : Enumeration :=
  .declare "Mood" "demo" [("Calm", .text "calm", none), ("Rough", .text "rough", none)]

def seaOf (m : Member) : String := if m.name = "Calm" then "calm" else "rough"

def printTimes (text : String) : Nat → Behaviour
  | 0 => .finish .none
  | times + 1 => .andThen (.print text) (printTimes text times)

def greeting (name : String) (isLoud : Bool) : String :=
  if isLoud then "HELLO " ++ name ++ "!\n" else "hello " ++ name ++ "\n"

def isLoud : Value → Bool
  | .tuple flags => flags.any (·.equals (.text "--loud"))
  | _ => false

def handler (name : String) (required : Nat) (behaviour : List Value → Behaviour) : Handler where
  label := name
  name := .text name
  qualifiedName := some name
  shows := "<function " ++ name ++ ">"
  arity := { required, optional := 0, rest := false }
  behaviour := behaviour

def greet : Handler := handler "greet" 3 fun
  | [.text name, .int times, flags] => printTimes (greeting name (isLoud flags)) times.toNat
  | _ => .finish .none

def weather : Handler := handler "weather" 1 fun
  | [.member m] => .finish (.text ("the sea is " ++ seaOf m))
  | _ => .finish .none

def quit : Handler := handler "quit" 1 fun _ => .andThen .stop (.finish .none)

def commands : Except Command.Error (List Registry.Item) := do
  let greet ← Command.Draft.start (some greet) .unset (.text "greets someone")
  let greet ← greet.add .positional { values := [.text "name"] }
  let greet ← greet.add .named {
    values := [.text "times", .type (.ofValueType (.fixed .uint8))]
    default := some (.int 1) }
  let greet ← greet.add .flags {}
  let weather ← Command.Draft.start (some weather) .unset (.text "reports the sea")
  let weather ← weather.add .positional {
    values := [.text "mood", .type (.ofValueType (.enumeration moods))] }
  let quit ← Command.Draft.start (some quit) .unset (.text "leaves the shell")
  let quit ← quit.add .caller {}
  return [.draft greet, .draft weather, .draft quit]

def session (input : String) : Except Failure Session := do
  let items ← commands.mapError Command.Error.failure
  Session.start input {} items
    [("interface_name", .value (.text "helm")), ("ignore_case", .value (.bool true))]

def run (input : String) : Except Failure Session := do
  let (result, s) := Session.runLoop .nothing (← session input)
  match result with
  | .ok () => return s
  | .error f => throw f

end LineShell.Demo
