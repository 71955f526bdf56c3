import LineShell.Demo

/-! # The demonstration as a program

The program reads its whole input, runs the demonstration on it, and writes what came out.
-/
open LineShell

partial def readAll (stream : IO.FS.Stream) (before : String) : IO String := do
  let line ← stream.getLine
  if line = "" then return before else readAll stream (before ++ line)

def main : IO UInt32 := do
  let input ← readAll (← IO.getStdin) ""
  match Demo.run input with
  | .ok s =>
    IO.print (Session.textOf s.journal "sys.out")
    IO.eprint (Session.textOf s.journal "sys.err")
    return 0
  | .error f =>
    IO.eprintln (f.kindName ++ ": " ++ f.message)
    return 1
