import LineShell.Source

/-! # Line readers

A line reader has two sides. The consumer asks for a line, watches for a cancellation or a stop
while it waits, and takes what has arrived. The pump reads the source once for each request and
queues what it finds; it ends with the source. A request that no line was taken for stays pending,
so the line it brings is kept for the next call. What is delivered last is the end of the input or a
failure; from then on the reader is exhausted. A failure that is not ordinary ends the pump and is
not delivered.
-/
namespace LineShell

inductive LineReader.Pump where
  | waiting
  | reading
  | finished
deriving DecidableEq

structure LineReader where
  /-- A line was asked for and not yet taken. -/
  pending : Bool := false
  /-- Requests that the pump has not seen. -/
  requests : Nat := 0
  pump : LineReader.Pump := .waiting
  /-- What has arrived and was not taken. -/
  queue : List Delivery := []
  exhausted : Bool := false

namespace LineReader

def request (r : LineReader) : LineReader :=
  if r.pending then r else { r with pending := true, requests := r.requests + 1 }

def begin? (r : LineReader) : Option LineReader :=
  if r.pump = .waiting ∧ 0 < r.requests then
    some { r with requests := r.requests - 1, pump := .reading }
  else none

/-- The pump after a read: only a line keeps it running. -/
def Pump.after : Delivery → Pump
  | .line _ => .waiting
  | _ => .finished

def receive (r : LineReader) (d : Delivery) : LineReader :=
  { r with pump := .after d, queue := if d.isPassedOn then r.queue ++ [d] else r.queue }

def finish? (r : LineReader) (s : Source) : Option (LineReader × Source) :=
  if r.pump = .reading then s.read?.map fun (d, s) => (r.receive d, s) else none

def take? (r : LineReader) : Option (Delivery × LineReader) :=
  match r.queue with
  | [] => none
  | .line s :: rest => some (.line s, { r with pending := false, queue := rest })
  | d :: rest => some (d, { r with pending := false, queue := rest, exhausted := true })

def advance (r : LineReader) (s : Source) : LineReader × Source :=
  let r := r.begin?.getD r
  (r.finish? s).getD (r, s)

/-- What ends a call: a line, or its absence if the consumer was told to stop waiting. -/
inductive Answer where
  | line (s : String)
  | interrupted
  | failed (f : Failure)

def Answer.ofDelivery : Delivery → Answer
  | .line s => .line s
  | .ended => .failed .endOfInput
  | .failed f => .failed f

/-- The consumer polls: a cancellation comes before a stop, and a stop before a line. Each poll
asks for the next of the stop answers, the last of which stays. Where nothing arrives and no stop
comes any more the wait would not end; it is given up. -/
def poll (r : LineReader) (cancelled : Bool) : List Bool → Answer × LineReader
  | [] =>
    if cancelled then (.interrupted, r)
    else match r.take? with
      | some (d, r) => (.ofDelivery d, r)
      | none => (.interrupted, r)
  | stop :: later =>
    if cancelled || stop then (.interrupted, r)
    else match r.take? with
      | some (d, r) => (.ofDelivery d, r)
      | none => r.poll cancelled later

def readLine (r : LineReader) (s : Source) (cancelled : Bool) (stops : List Bool) :
    Answer × LineReader × Source :=
  if r.exhausted then (.failed .endOfInput, r, s)
  else
    let (r, s) := r.request.advance s
    let (answer, r) := r.poll cancelled stops
    (answer, r, s)

/-- The time between two polls is a positive number; a truth value counts as a number. -/
def isInterval : Value → Bool
  | .bool b => b
  | .int n => 0 < n
  | .real x => !(x ≤ 0)
  | .code _ => true
  | _ => false

def check (stream interval : Value) : Except Misuse Unit := do
  match stream with
  | .stream true _ _ => pure ()
  | _ => throw .notReadable
  unless isInterval interval do throw (.notPositive "LineReader() 'interval'")

def written (r : LineReader) (stream : Value) : String :=
  "line-reader(stream=" ++ stream.written "" ++ ", exhausted="
    ++ (Value.bool r.exhausted).written "" ++ ")"

end LineReader
end LineShell
