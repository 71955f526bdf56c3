import LineShell.Proofs.Session.Steps

/-! # What is said about a stop

Handlers, callbacks and traps ask a session to stop, or take the request back, and every read loop
that ends lets go of it. These signals are listed here for each computation of the engine, in the
order in which they are given and however deeply lines and loops nest. An account goes with the very
computation that it is an account of, and is put together as the computation is. Nothing but signals
touches the request, so the last of them is what counts.
-/
namespace LineShell.Session
variable {α β : Type}

inductive Signal where
  | asked
  /-- The request is taken back by an assignment. -/
  | withdrawn
  /-- A read loop has ended. -/
  | left
deriving DecidableEq

/-- Whether a session is to stop after signals. -/
def Signal.flag (before : Bool) (signals : List Signal) : Bool :=
  signals.foldl (fun _ signal => signal = .asked) before

theorem Signal.flag_append (before : Bool) (first next : List Signal) :
    flag before (first ++ next) = flag (flag before first) next :=
  List.foldl_append

theorem Signal.flag_of_getLast? {signals : List Signal} {last : Signal} (before : Bool)
    (h : signals.getLast? = some last) : flag before signals = decide (last = .asked) := by
  obtain ⟨init, rfl⟩ := List.getLast?_eq_some_iff.mp h
  rw [flag_append]
  rfl

/-- The signals that a computation gives when it is started on a session. -/
structure Account (x : Act α) where
  signals : Session → List Signal
  heard (s : Session) : (x s).2.stopping = Signal.flag s.stopping (signals s)

namespace Account

def silent {x : Act α} (same : ∀ s, (x s).2.stopping = s.stopping) : Account x :=
  ⟨fun _ => [], same⟩

def pure {a : α} : Account (pure a) := silent fun _ => rfl

def throw {f : Failure} : Account (throw f : Act α) := silent fun _ => rfl

def note {event : Event} : Account (note event) := silent fun _ => rfl

def bind {x : Act α} {f : α → Act β} (hx : Account x) (hf : ∀ a, Account (f a)) :
    Account (x >>= f) where
  signals s := hx.signals s ++ match x s with
    | (.ok a, t) => (hf a).signals t
    | (.error _, _) => []
  heard s := by
    have hfirst := hx.heard s
    rcases h : x s with ⟨r, t⟩
    rw [h] at hfirst
    rw [Signal.flag_append, ← hfirst]
    cases r with
    | error f =>
      rw [bind_error h]
      rfl
    | ok a =>
      rw [bind_ok h]
      exact (hf a).heard t

def get_bind {f : Session → Act β} (hf : ∀ s, Account (f s)) : Account (get >>= f) :=
  ⟨fun s => (hf s).signals s, fun s => (hf s).heard s⟩

def modify_bind {g : Session → Session} {f : PUnit → Act β}
    (same : ∀ s, (g s).stopping = s.stopping) (hf : Account (f ⟨⟩)) :
    Account ((modify g : Act PUnit) >>= f) where
  signals s := hf.signals (g s)
  heard s := by
    have h := hf.heard (g s)
    rw [same] at h
    exact h

def discard {x : Act α} (hx : Account x) : Account (discard x : Act PUnit) where
  signals := hx.signals
  heard s := by
    rw [discard_snd]
    exact hx.heard s

def caught {x : Act α} (hx : Account x) : Account (caught x) where
  signals := hx.signals
  heard s := by
    obtain ⟨failure, h⟩ := exists_caught_ok x s
    rw [h]
    exact hx.heard s

def ensure {x : Act α} {last : Session → Session} (same : ∀ s, (last s).stopping = s.stopping)
    (hx : Account x) : Account (ensure x last) where
  signals := hx.signals
  heard s := (same _).trans (hx.heard s)

def ite {c : Prop} [Decidable c] {x y : Act α} (hx : Account x) (hy : Account y) :
    Account (if c then x else y) where
  signals s := if c then hx.signals s else hy.signals s
  heard s := by
    split
    · exact hx.heard s
    · exact hy.heard s

def lifted {y : Except Misuse α} : Account (liftMisuse y) :=
  .silent fun _ => by cases y <;> rfl

/-- Whatever a read loop has heard, it lets go of it when it ends. -/
def ended {x : Act α} (hx : Account x) :
    Account (Session.ensure x fun s => { s with stopping := false, phase := .idle }) where
  signals s := hx.signals s ++ [.left]
  heard s := by
    rw [Signal.flag_append]
    rfl

end Account

/-! ### What gives no signals -/

theorem stopping_callbackNamed (s : Session) (name : String) :
    (s.callbackNamed name).2.stopping = s.stopping :=
  eq_of_uncalled (fun _ => rfl) (uncalled_callbackNamed s name)

theorem stopping_connect (e : Engine) (m : Moment) (name : String) (s : Session) :
    (act e (.connect m name) s).2.stopping = s.stopping := by
  have hconnected := uncalled_setCallbacks (s.callbackNamed name).2
    ((s.callbackNamed name).2.callbacks m ++ [(s.callbackNamed name).1]) m
  exact eq_of_uncalled (fun _ => rfl) (hconnected.trans (uncalled_callbackNamed s name))

theorem stopping_disconnect (e : Engine) (m : Moment) (name : String) (s : Session) :
    (act e (.disconnect m name) s).2.stopping = s.stopping := by
  have hnamed := stopping_callbackNamed s name
  refine (Meets.adopt (P := fun t => t.stopping = s.stopping) hnamed ?_).left
  intro t h
  exact (eq_of_uncalled (fun _ => rfl) (uncalled_disconnect h)).trans hnamed

theorem stopping_of_assign {s t : Session} {setting : String} {given : Given Behaviour}
    (other : setting ≠ "stopping") (h : s.assign setting given = .ok t) :
    t.stopping = s.stopping := by
  cases assigned_of_assign h with
  | stopping b named => exact absurd named other
  | _ => rfl

theorem assign_stopping (s : Session) (given : Given Behaviour) :
    s.assign "stopping" given = (boolGiven "stopping" given).map s.setStopping := by
  change boolGiven "stopping" given >>= (fun b => .ok (s.setStopping b)) = _
  cases boolGiven "stopping" given <;> rfl

theorem act_assign_snd (e : Engine) (setting : String) (given : Given Behaviour) (s : Session) :
    (act e (.assign setting given) s).2 = (s.assign setting given).toOption.getD s := by
  change ((do set (← liftMisuse (s.assign setting given)) : Act PUnit) s).2 = _
  cases s.assign setting given <;> rfl

theorem stopping_fetch (number : ℕ) (watching : Bool) (s : Session) :
    (fetch number watching s).2.stopping = s.stopping := by
  rcases fetch_cases s number watching with ⟨input, r, source, there, wired⟩ | h
  · rw [fetch_of_wired there wired]
    rfl
  · rw [h]

theorem stopping_currentReader (s : Session) : (currentReader s).2.stopping = s.stopping := by
  cases h : s.usableReader with
  | some number => rw [currentReader_of_usable h]
  | none => rw [currentReader_of_none h]

/-! ### The engine -/

/-- The signals of whatever an engine is asked to do. -/
structure Accounts (e : Engine) where
  execute (line : Value) : Account (e.execute line)
  run : Account e.run
  perform (b : Behaviour) : Account (e.perform b)

namespace Accounts
variable {e : Engine} (h : Accounts e)

def write (outlet : ℕ) (text : String) : Account (write e outlet text) :=
  .get_bind fun s => match s.outlets[outlet]? with
    | none => .pure
    | some o => .bind .note fun _ => match o.armed with
      | none => .pure
      | some body => .modify_bind (fun _ => rfl) (.discard (h.perform body))

def report (f : Fault) : Account (report e f) :=
  .get_bind fun s => .bind .lifted fun _ => h.write s.errors _

def printListing : Account (printListing e) :=
  .get_bind fun s => .bind .lifted fun _ => .ite .pure (h.write s.output _)

def printHelp : (topics : List String) → Account (printHelp e topics)
  | [] => h.printListing
  | topic :: _ => .get_bind fun s => match s.registry.find topic s.settings.ignoreCase with
    | some _ => .bind .lifted fun _ => h.write s.output _
    | none => .bind (h.write s.output _) fun _ => h.printListing

def assign (setting : String) (given : Given Behaviour) :
    Account (Session.act e (.assign setting given)) where
  signals _ := if setting = "stopping" then
      match boolGiven setting given with
      | .ok true => [.asked]
      | .ok false => [.withdrawn]
      | .error _ => []
    else []
  heard s := by
    rw [act_assign_snd]
    split
    · subst setting
      rw [assign_stopping]
      cases boolGiven "stopping" given with
      | error m => rfl
      | ok b => cases b <;> rfl
    · rename_i other
      cases h : s.assign setting given with
      | error m => rfl
      | ok t => exact stopping_of_assign other h

def act : (a : Action Behaviour) → Account (act e a)
  | .stop => ⟨fun _ => [.asked], fun _ => rfl⟩
  | .cancel => .silent fun _ => rfl
  | .execute line => h.execute line
  | .run => h.run
  | .probe => .get_bind fun _ => .note
  | .note _ => .note
  | .noteAttempt .. => .note
  | .print text => .get_bind fun s => h.write s.output text
  | .report f => h.report f
  | .assign setting given => assign setting given
  | .connect moment name => .silent (stopping_connect e moment name)
  | .disconnect moment name => .silent (stopping_disconnect e moment name)

def performAll : (b : Behaviour) → Account (Session.perform e b)
  | .finish _ => .pure
  | .fail _ => .throw
  | .act a next => .bind (.caught (h.act a)) fun failure => performAll (next failure)

def fireAll (command : String) : (callbacks : List Callback) → Account (fireAll e command callbacks)
  | [] => .pure
  | .script _ _ body :: rest =>
    .bind .note fun _ => .bind (.discard (h.performAll body)) fun _ => fireAll command rest
  | .maker _ body :: rest =>
    .get_bind fun _ => .bind (.discard (h.performAll (body _))) fun _ => fireAll command rest

def fire (moment : Moment) (command : String) : Account (fire e moment command) :=
  .get_bind fun s => h.fireAll command (s.callbacks moment)

def call (handler : Handler) (arguments : List Value) : Account (call e handler arguments) := by
  delta Session.call
  exact match handler.arity.misuse? handler.identifier arguments.length with
    | some _ => .throw
    | none => match handler.label with
      | some _ => .bind .note fun _ => h.performAll _
      | none => .get_bind fun _ => h.performAll _

def invoke (c : Command) (context : Context) (positionals : List String) :
    Account (invoke e c context positionals) := by
  refine .modify_bind (fun _ => rfl) (.ensure (fun _ => rfl) (.bind (h.fire .invoking c.name) ?_))
  intro _
  refine .get_bind fun s => ?_
  dsimp only
  exact match Binding.bind c.signature.parameters positionals context.flags .session
      s.settings.lenientEnums with
    | .error _ => .throw
    | .ok values => h.call c.handler values

def conclude (c : Command) (result : Value) : Account (conclude e c result) :=
  .ite (h.fire .invoked c.name) <| .get_bind fun s => .bind .lifted fun _ =>
    .bind (h.write s.errors _) fun _ => h.fire .invoked c.name

def carryOut (c : Command) (line : String) (tokens rest : List String) :
    Account (carryOut e c line tokens rest) :=
  .get_bind fun _ => .ite .throw <| .bind (h.invoke _ _ _) fun result => h.conclude c result

def dispatch (line : String) : Account (dispatch e line) := by
  delta Session.dispatch
  exact match Token.split line {} {} with
    | .error _ => .throw
    | .ok [] => .pure
    | .ok (name :: rest) => .get_bind fun s =>
      match s.registry.find name s.settings.ignoreCase with
      | some c => h.carryOut c line (name :: rest) rest
      | none => .ite (h.printHelp rest) .throw

def executeText (line : String) : Account (Session.execute e (.text line)) :=
  .ite .pure <| .modify_bind (fun _ => rfl) <| .ensure (fun _ => rfl) (h.dispatch line)

def executeValue (line : Value) : Account (Session.execute e line) := by
  cases line with
  | text line => exact h.executeText line
  | none => exact .pure
  | _ => exact .throw

def obey (line : String) {next : Act Unit} (after : Account next) : Account (obey e line next) :=
  .bind (.caught (h.executeText line)) fun
    | none => after
    | some (.fault f) => .ite (.bind (h.report f) fun _ => after) .throw
    | some (.misuse _) => .throw
    | some .endOfInput => .throw
    | some (.foreign ..) => .throw
    | some .tooDeep => .throw

def loop (number : ℕ) (watching : Bool) : (rounds : ℕ) → Account (loop e number watching rounds)
  | 0 => .pure
  | rounds + 1 => .get_bind fun _ => .ite .pure <|
    .bind (.get_bind fun s => h.write s.output _) fun _ =>
      .bind (.silent (stopping_fetch number watching)) fun
        | .interrupted => .pure
        | .failed _ => .ite .pure .throw
        | .line line => h.obey line (loop number watching rounds)

def runLoop (watching : Bool) : Account (Session.run e watching) :=
  .bind (.silent stopping_currentReader) fun number => .get_bind fun s =>
    .ended (h.loop number watching (s.rounds number))

end Accounts

def accounts : (depth : ℕ) → Accounts (engine depth)
  | 0 => ⟨fun _ => .throw, .throw, fun _ => .throw⟩
  | depth + 1 =>
    let inner := accounts depth
    ⟨inner.executeValue, inner.runLoop false, inner.performAll⟩

end LineShell.Session
