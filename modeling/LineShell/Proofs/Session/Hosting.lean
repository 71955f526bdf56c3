import LineShell.Proofs.Arguments.Binding
import LineShell.Proofs.Faults.Placement
import LineShell.Proofs.Help.Listing
import LineShell.Proofs.Session.Computation

/-! # The engine and what it hosts

The engine keeps its own books: it notes, fetches lines, and puts on record what is being executed.
All else that happens to a session is done by what it hosts: handlers, callbacks and traps. What is
known of these carries over to lines and to whatever the engine does on their behalf.
-/
namespace LineShell.Session

def Event.line? : Event → Option String
  | .received line => some line
  | _ => none

def Callback.body : Callback → List Value → Behaviour
  | .script _ _ body, _ => body
  | .maker _ body, values => body values

/-- One thing that the engine does to a session by itself, other than to call for a line. -/
inductive Own (s : Session) : Session → Prop
  | noted (event : Event) (other : event.line? = none) : Own s (s.record event)
  /-- A trap is set off. -/
  | disarmed {n : Nat} {o : Outlet} (there : s.outlets[n]? = some o) :
    Own s { s with outlets := s.outlets.set n ⟨o.sink, none⟩ }
  | dispatching : Own s { s with phase := .dispatching }
  | rested : Own s { s with phase := s.restingPhase }
  | began {c : Command} (context : Context) (registered : c ∈ s.registry.commands) :
    Own s { s with executing := some c, context := some context, phase := .invoking }
  | cleared : Own s { s with executing := none, context := none }
  | opened : Own s (currentReader s).2
  | left : Own s { s with stopping := false, phase := .idle }

section
variable {e : Engine} {number rounds : Nat} {watching : Bool} {s t u : Session} {line : String}

theorem loop_of_told (told : (s.stopping || (watching && s.cancelled)) = true) :
    loop e number watching (rounds + 1) s = (.ok (), s) := by
  rw [loop, get_bind, told]
  rfl

theorem loop_of_line (go : (s.stopping || (watching && s.cancelled)) = false)
    (prompted : printPrompt e s = (.ok (), t))
    (fetched : fetch number watching t = (.ok (.line line), u)) :
    loop e number watching (rounds + 1) s = obey e line (loop e number watching rounds) u := by
  rw [loop, get_bind, go]
  simp only [Bool.false_eq_true, ↓reduceIte]
  rw [bind_ok prompted, bind_ok fetched]

theorem loop_of_interrupted (go : (s.stopping || (watching && s.cancelled)) = false)
    (prompted : printPrompt e s = (.ok (), t))
    (fetched : fetch number watching t = (.ok .interrupted, u)) :
    loop e number watching (rounds + 1) s = (.ok (), u) := by
  rw [loop, get_bind, go]
  simp only [Bool.false_eq_true, ↓reduceIte]
  rw [bind_ok prompted, bind_ok fetched]
  rfl

theorem loop_of_endOfInput (go : (s.stopping || (watching && s.cancelled)) = false)
    (prompted : printPrompt e s = (.ok (), t))
    (fetched : fetch number watching t = (.ok (.failed .endOfInput), u)) :
    loop e number watching (rounds + 1) s = (.ok (), u) := by
  rw [loop, get_bind, go]
  simp only [Bool.false_eq_true, ↓reduceIte]
  rw [bind_ok prompted, bind_ok fetched]
  rfl

theorem obey_of_ok {next : Act Unit} (done : execute e (.text line) s = (.ok (), t)) :
    obey e line next s = next t := by
  unfold obey
  rw [bind_ok (caught_ok done)]

theorem obey_of_fault {next : Act Unit} {f : Fault}
    (failed : execute e (.text line) s = (.error (.fault f), t))
    (recoverable : f.kind.isRecoverable = true) (reported : report e f t = (.ok (), u)) :
    obey e line next s = next u := by
  unfold obey
  rw [bind_ok (caught_error failed)]
  simp only [recoverable, ↓reduceIte]
  rw [bind_ok reported]

theorem obey_of_report_error {next : Act Unit} {f : Fault} {g : Failure}
    (failed : execute e (.text line) s = (.error (.fault f), t))
    (recoverable : f.kind.isRecoverable = true) (reported : report e f t = (.error g, u)) :
    obey e line next s = (.error g, u) := by
  unfold obey
  rw [bind_ok (caught_error failed)]
  simp only [recoverable, ↓reduceIte]
  rw [bind_error reported]

theorem obey_of_misuse {next : Act Unit} {m : Misuse}
    (failed : execute e (.text line) s = (.error (.misuse m), t)) :
    obey e line next s = (.error (.misuse m), t) := by
  unfold obey
  rw [bind_ok (caught_error failed)]
  rfl

/-- All that the report of the fault shows can be told. -/
def canReport (s : Session) (f : Fault) : Bool :=
  f.isTold s.host (.text s.settings.interfaceName)

theorem report_of_told {f : Fault} (told : s.canReport f = true) :
    ∃ text, f.printed s.host (.text s.settings.interfaceName) = .ok text ∧
      report e f s = write e s.errors text s := by
  obtain ⟨text, hprinted, _⟩ := (Fault.tells_printed _ _ _).exists_ok told
  refine ⟨text, hprinted, ?_⟩
  unfold report
  rw [get_bind, liftMisuse_bind_ok hprinted]

theorem report_of_untold {f : Fault} (untold : s.canReport f = false) :
    report e f s = (.error (.misuse .tooManyDigits), s) := by
  have hprinted := (Fault.tells_printed s.host f (.text s.settings.interfaceName)).eq_error
    (Bool.eq_false_iff.mp untold)
  unfold report
  rw [get_bind, liftMisuse_bind_error hprinted]

end

def AsksForHelp (s : Session) (line : String) (topics : List String) : Prop :=
  ∃ name, Token.split line {} {} = .ok (name :: topics) ∧
    s.registry.find name s.settings.ignoreCase = none ∧ asksForHelp name = true

def Hides (P : Session → Prop) : Prop :=
  ∃ s, P s ∧ ∃ c ∈ s.registry.commands, c.isTold = false

theorem isTold_or_hides {P : Session → Prop} {s : Session} {c : Command} (hP : P s)
    (hc : c ∈ s.registry.commands) : c.isTold = true ∨ Hides P := by
  cases htold : c.isTold with
  | true => exact Or.inl rfl
  | false => exact Or.inr ⟨s, hP, c, hc, htold⟩

/-- The failure is that of help that cannot be told. -/
def LacksHelp (P : Session → Prop) (f : Failure) : Prop := f = .misuse .tooManyDigits ∧ Hides P

/-- What the engine does by itself keeps the property `P`, and so do traps, whose failures are
`quiet`. -/
structure Keeps (e : Engine) (P : Session → Prop) (quiet : Failure → Prop) : Prop where
  own {s t : Session} : P s → Own s t → P t
  fetched {s : Session} (number : Nat) (watching : Bool) : P s → P (fetch number watching s).2
  trap {s t : Session} {n : Nat} {o : Outlet} {body : Behaviour} : P s → s.outlets[n]? = some o →
    o.armed = some body → P t → Meets P quiet (fun _ => True) (e.perform body) t

/-- What is known of all that the engine may call on sessions with the property `P`: the property
is kept, and failures of handlers and callbacks are `calm`. -/
structure Hosts (e : Engine) (P : Session → Prop) (calm quiet : Failure → Prop) : Prop
    extends Keeps e P quiet where
  calm_fault (f : Fault) : f.kind.isRecoverable = true → f.hint.hasPlain = true → calm (.fault f)
  calm_quiet (f : Failure) : quiet f → calm f
  handler {s t : Session} {c : Command} {values : List Value} : P s → c ∈ s.registry.commands →
    values.length = c.signature.parameters.length → P t →
      Meets P calm (fun v => v.hasPlain = true ∨ calm (.misuse .tooManyDigits))
        (perform e (c.handler.behaviour values)) t
  arity {s : Session} {c : Command} {m : Misuse} : P s → c ∈ s.registry.commands →
    c.handler.arity.misuse? c.identifier c.signature.parameters.length = some m → calm (.misuse m)
  binding {s : Session} {c : Command} {positionals flags : List String} {lenient : Bool}
    {f : Binding.Failure} : P s → c ∈ s.registry.commands →
      Binding.bind c.signature.parameters positionals flags .session lenient = .error f →
        calm f.failure
  callback {s t : Session} {m : Moment} {c : Callback} (values : List Value) : P s →
    c ∈ s.callbacks m → P t → Meets P calm (fun _ => True) (perform e (c.body values)) t

def onRecord (s : Session) : Option Command × Option Context := (s.executing, s.context)

/-- The engine keeps the property `P` as long as what is on record stays as it is, and so do traps,
whose failures are `quiet`. -/
structure Tends (e : Engine) (P : Session → Prop) (quiet : Failure → Prop) : Prop where
  own {s t : Session} : P s → Own s t → t.onRecord = s.onRecord → P t
  fetched {s : Session} (number : Nat) (watching : Bool) : P s → P (fetch number watching s).2
  trap {s t : Session} {n : Nat} {o : Outlet} {body : Behaviour} : P s → s.outlets[n]? = some o →
    o.armed = some body → P t → Meets P quiet (fun _ => True) (e.perform body) t

def Answers (e : Engine) (P : Session → Prop) (calm : Failure → Prop) : Prop :=
  ∀ {s t : Session} {m : Moment} {c : Callback} (values : List Value), P s → c ∈ s.callbacks m →
    P t → Meets P calm (fun _ => True) (perform e (c.body values)) t

/-- A whole invocation keeps the property. It may be lost in the meantime. -/
structure Serves (e : Engine) (P : Session → Prop) (calm quiet : Failure → Prop) : Prop
    extends Tends e P quiet where
  calm_fault (f : Fault) : f.kind.isRecoverable = true → f.hint.hasPlain = true → calm (.fault f)
  calm_quiet (f : Failure) : quiet f → calm f
  answers : Answers e P calm
  invoke {s : Session} {c : Command} (context : Context) (positionals : List String) : P s →
    c ∈ s.registry.commands →
      Meets P calm (fun v => v.hasPlain = true ∨ calm (.misuse .tooManyDigits))
        (invoke e c context positionals) s

theorem exists_readLine_ok (number : Nat) (watching : Bool) (s : Session) :
    ∃ answer t, readLine number watching s = (.ok answer, t) := by
  unfold readLine
  rw [get_bind]
  cases s.readers[number]? with
  | none => exact ⟨_, _, rfl⟩
  | some p =>
    simp only
    cases s.sources[p.1]? with
    | none => exact ⟨_, _, rfl⟩
    | some source => exact ⟨_, _, rfl⟩

theorem exists_fetch_ok (number : Nat) (watching : Bool) (s : Session) :
    ∃ answer t, fetch number watching s = (.ok answer, t) := by
  obtain ⟨answer, t, h⟩ := exists_readLine_ok number watching s
  unfold fetch
  rw [bind_ok h]
  cases answer <;> exact ⟨_, _, rfl⟩

theorem currentReader_of_usable {s : Session} {number : Nat} (h : s.usableReader = some number) :
    currentReader s = (.ok number, s) := by
  unfold currentReader
  rw [get_bind]
  rw [h]
  rfl

theorem currentReader_of_none {s : Session} (h : s.usableReader = none) :
    currentReader s = (.ok s.readers.length, { s with
      readers := s.readers ++ [(s.input, ({} : LineReader))]
      reader := some s.readers.length }) := by
  unfold currentReader
  rw [get_bind]
  rw [h]
  rfl

theorem exists_currentReader_ok (s : Session) :
    ∃ number t, currentReader s = (.ok number, t) := by
  cases h : s.usableReader with
  | some number => exact ⟨_, _, currentReader_of_usable h⟩
  | none => exact ⟨_, _, currentReader_of_none h⟩

theorem run_of_loop {e : Engine} {number : ℕ} {watching : Bool} {r : Except Failure Unit}
    {s t u : Session} (opened : currentReader s = (.ok number, t))
    (looped : loop e number watching (t.rounds number) t = (r, u)) :
    run e watching s = (r, { u with stopping := false, phase := .idle }) := by
  unfold run
  rw [bind_ok opened, get_bind]
  unfold ensure
  rw [looped]

theorem onRecord_currentReader (s : Session) : (currentReader s).2.onRecord = s.onRecord := by
  cases h : s.usableReader with
  | some number => rw [currentReader_of_usable h]
  | none =>
    rw [currentReader_of_none h]
    rfl

namespace Tends
variable {e : Engine} {P : Session → Prop} {calm quiet : Failure → Prop} {s : Session}

theorem note (h : Tends e P quiet) (hP : P s) {event : Event} (other : event.line? = none) :
    Meets P quiet (fun _ => True) (note event) s :=
  Meets.modify (h.own hP (.noted event other) rfl)

theorem write (h : Tends e P quiet) (hP : P s) (n : Nat) (text : String) :
    Meets P quiet (fun _ => True) (write e n text) s := by
  unfold Session.write
  refine Meets.get_bind ?_
  cases ho : s.outlets[n]? with
  | none => exact Meets.pure hP trivial
  | some o =>
    refine (h.note hP rfl).bind ?_
    intro _ t ht hPt _
    cases hb : o.armed with
    | none => exact Meets.pure hPt trivial
    | some body =>
      have hsame : t = s.record (.wrote o.sink text) := (congrArg Prod.snd ht).symm
      have hthere : t.outlets[n]? = some o := by rw [hsame]; exact ho
      refine (Meets.modify (h.own hPt (.disarmed hthere) rfl)).bind ?_
      intro _ u _ hPu _
      exact (h.trap hP ho hb hPu).discard

theorem printLine (h : Tends e P quiet) (hP : P s) (n : Nat) (text : String) :
    Meets P quiet (fun _ => True) (printLine e n text) s :=
  h.write hP n _

theorem printPrompt (h : Tends e P quiet) (hP : P s) :
    Meets P quiet (fun _ => True) (printPrompt e) s :=
  Meets.get_bind (h.write hP _ _)

theorem report (h : Tends e P quiet) (hP : P s) {f : Fault} (told : s.canReport f = true) :
    Meets P quiet (fun _ => True) (report e f) s := by
  obtain ⟨text, _, hreport⟩ := report_of_told (e := e) told
  unfold Meets
  rw [hreport]
  exact h.write hP _ _

theorem kept_report (h : Tends e P quiet) (hP : P s) (f : Fault) : P (Session.report e f s).2 := by
  cases htold : s.canReport f with
  | true => exact (h.report hP htold).left
  | false =>
    rw [report_of_untold htold]
    exact hP

theorem printListing (h : Tends e P quiet) (hP : P s) :
    Meets P (fun f => quiet f ∨ LacksHelp P f) (fun _ => True) (printListing e) s := by
  have htold : (∀ c ∈ s.registry.commands, c.isTold = true) ∨ Hides P := by
    by_cases hidden : Hides P
    · exact Or.inr hidden
    · exact Or.inl fun c hc => (isTold_or_hides hP hc).resolve_right hidden
  unfold Session.printListing
  refine Meets.get_bind ?_
  refine (Meets.liftTold hP (Help.tells_listing _ _)
    (htold.imp_right fun hidden => Or.inr ⟨rfl, hidden⟩)).bind ?_
  intro listing t _ hPt _
  split
  · exact Meets.pure hPt trivial
  · exact (h.printLine hPt _ _).mono_calm fun _ => Or.inl

theorem printHelp (h : Tends e P quiet) (hP : P s) (topics : List String) :
    Meets P (fun f => quiet f ∨ LacksHelp P f) (fun _ => True) (printHelp e topics) s := by
  have hquiet : ∀ {t} n text, P t →
      Meets P (fun f => quiet f ∨ LacksHelp P f) (fun _ => True) (Session.printLine e n text) t :=
    fun n text hPt => (h.printLine hPt n text).mono_calm fun _ => Or.inl
  cases topics with
  | nil => exact h.printListing hP
  | cons topic rest =>
    unfold Session.printHelp
    refine Meets.get_bind ?_
    cases hc : s.registry.find topic s.settings.ignoreCase with
    | some c =>
      have htold : c.isTold = true ∨ Hides P := isTold_or_hides hP (List.mem_of_find?_eq_some hc)
      refine (Meets.liftTold hP (Help.tells_full _ c)
        (htold.imp_right fun hidden => Or.inr ⟨rfl, hidden⟩)).bind ?_
      intro text t _ hPt _
      exact hquiet _ _ hPt
    | none =>
      refine (hquiet _ _ hP).bind ?_
      intro _ t _ hPt _
      exact h.printListing hPt

theorem fetch (h : Tends e P quiet) (hP : P s) (number : Nat) (watching : Bool) :
    Meets P quiet (fun _ => True) (fetch number watching) s := by
  obtain ⟨answer, t, ht⟩ := exists_fetch_ok number watching s
  have hPt := h.fetched number watching hP
  rw [ht] at hPt
  exact Meets.of_ok ht hPt trivial

theorem fireAll (h : Tends e P quiet) (calm_quiet : ∀ f, quiet f → calm f)
    (answers : Answers e P calm) {m : Moment} {callbacks : List Callback}
    {s₀ : Session} (hP₀ : P s₀) (connected : ∀ c ∈ callbacks, c ∈ s₀.callbacks m) (hP : P s)
    (command : String) : Meets P calm (fun _ => True) (fireAll e command callbacks) s := by
  induction callbacks generalizing s with
  | nil => exact Meets.pure hP trivial
  | cons c rest ih =>
    have hc := connected c List.mem_cons_self
    have hrest : ∀ c ∈ rest, c ∈ s₀.callbacks m := fun c hc =>
      connected c (List.mem_cons_of_mem _ hc)
    cases c with
    | script name serial body =>
      unfold Session.fireAll
      refine ((h.note hP rfl).mono_calm calm_quiet).bind ?_
      intro _ t _ hPt _
      refine (answers [] hP₀ hc hPt).discard.bind ?_
      intro _ u _ hPu _
      exact ih hrest hPu
    | maker type body =>
      unfold Session.fireAll
      refine Meets.get_bind ?_
      refine (answers _ hP₀ hc hP).discard.bind ?_
      intro _ u _ hPu _
      exact ih hrest hPu

theorem fire (h : Tends e P quiet) (calm_quiet : ∀ f, quiet f → calm f)
    (answers : Answers e P calm) (hP : P s) (m : Moment) (command : String) :
    Meets P calm (fun _ => True) (fire e m command) s :=
  Meets.get_bind (h.fireAll calm_quiet answers hP (fun _ hc => hc) hP command)

/-- A call either fails for its number of values or does what the handler does with as many. -/
theorem call (h : Tends e P quiet) (calm_quiet : ∀ f, quiet f → calm f) {good : Value → Prop}
    {handler : Handler} {values : List Value} (hP : P s)
    (arity : ∀ m, handler.arity.misuse? handler.identifier values.length = some m →
      calm (.misuse m))
    (body : ∀ values' t, values'.length = values.length → P t →
      Meets P calm good (perform e (handler.behaviour values')) t) :
    Meets P calm good (call e handler values) s := by
  unfold Session.call
  cases hm : handler.arity.misuse? handler.identifier values.length with
  | some m => exact Meets.throw hP (arity m hm)
  | none =>
    cases handler.label with
    | some label =>
      refine ((h.note hP rfl).mono_calm calm_quiet).bind ?_
      intro _ t _ hPt _
      exact body values t rfl hPt
    | none =>
      refine Meets.get_bind ?_
      exact body _ s (by simp) hP

end Tends

theorem Keeps.tends {e : Engine} {P : Session → Prop} {quiet : Failure → Prop}
    (h : Keeps e P quiet) : Tends e P quiet where
  own hP hOwn _ := h.own hP hOwn
  fetched := h.fetched
  trap := h.trap

namespace Hosts
variable {e : Engine} {P : Session → Prop} {calm quiet : Failure → Prop} {s : Session}

theorem call (h : Hosts e P calm quiet) {c : Command} {s₀ : Session} {values : List Value}
    (hP₀ : P s₀) (registered : c ∈ s₀.registry.commands)
    (count : values.length = c.signature.parameters.length) (hP : P s) :
    Meets P calm (fun v => v.hasPlain = true ∨ calm (.misuse .tooManyDigits))
      (call e c.handler values) s := by
  refine h.tends.call h.calm_quiet hP ?_ ?_
  · intro m hm
    rw [count] at hm
    exact h.arity hP₀ registered hm
  · intro values' t hlength hPt
    exact h.handler hP₀ registered (hlength.trans count) hPt

theorem invoke (h : Hosts e P calm quiet) {c : Command} (hP : P s)
    (registered : c ∈ s.registry.commands) (context : Context) (positionals : List String) :
    Meets P calm (fun v => v.hasPlain = true ∨ calm (.misuse .tooManyDigits))
      (invoke e c context positionals) s := by
  unfold Session.invoke
  refine (Meets.modify (h.own hP (.began context registered))).bind ?_
  intro _ t _ hPt _
  refine Meets.ensure ?_ fun u hPu => h.own hPu .cleared
  refine (h.tends.fire h.calm_quiet h.callback hPt _ _).bind ?_
  intro _ u _ hPu _
  refine Meets.get_bind ?_
  simp only
  cases hb : Binding.bind c.signature.parameters positionals context.flags .session
      u.settings.lenientEnums with
  | error f => exact Meets.throw hPu (h.binding hP registered hb)
  | ok values => exact h.call hP registered (Binding.length_bind hb) hPu

theorem serves (h : Hosts e P calm quiet) : Serves e P calm quiet where
  toTends := h.tends
  calm_fault := h.calm_fault
  calm_quiet := h.calm_quiet
  answers := h.callback
  invoke context positionals hP registered := h.invoke hP registered context positionals

end Hosts

namespace Serves
variable {e : Engine} {P : Session → Prop} {calm quiet : Failure → Prop} {s : Session}

theorem conclude (h : Serves e P calm quiet) (hP : P s) (c : Command) {result : Value}
    (shown : result.hasPlain = true ∨ calm (.misuse .tooManyDigits)) :
    Meets P calm (fun _ => True) (conclude e c result) s := by
  unfold Session.conclude
  split
  · exact h.fire h.calm_quiet h.answers hP _ _
  · refine Meets.get_bind ?_
    refine (Meets.liftTold hP (result.tells_shown _) shown).bind ?_
    intro text t _ hPt _
    refine ((h.printLine hPt _ _).mono_calm h.calm_quiet).bind ?_
    intro _ u _ hPu _
    exact h.fire h.calm_quiet h.answers hPu _ _

theorem carryOut (h : Serves e P calm quiet) {c : Command} (hP : P s)
    (registered : c ∈ s.registry.commands) (line : String) (tokens rest : List String) :
    Meets P calm (fun _ => True) (carryOut e c line tokens rest) s := by
  unfold Session.carryOut
  refine Meets.get_bind ?_
  simp only
  split
  · exact Meets.throw hP (h.calm_fault _ rfl rfl)
  · refine (h.invoke _ _ hP registered).bind ?_
    intro result t _ hPt shown
    exact h.conclude hPt c shown

theorem dispatch (h : Serves e P calm quiet) (hP : P s) (line : String) :
    Meets P (fun f => calm f ∨ (∃ topics, s.AsksForHelp line topics) ∧ LacksHelp P f)
      (fun _ => True) (dispatch e line) s := by
  unfold Session.dispatch
  split
  · exact Meets.throw hP (Or.inl (h.calm_fault _ rfl rfl))
  · exact Meets.pure hP trivial
  · rename_i name rest hsplit
    refine Meets.get_bind ?_
    cases hc : s.registry.find name s.settings.ignoreCase with
    | some c =>
      exact (h.carryOut hP (List.mem_of_find?_eq_some hc) _ _ _).mono_calm fun _ => Or.inl
    | none =>
      by_cases hhelp : asksForHelp name = true
      · simp only [hhelp, ↓reduceIte]
        have hasks : s.AsksForHelp line rest := ⟨name, hsplit, hc, hhelp⟩
        exact (h.printHelp hP rest).mono_calm fun f hf =>
          hf.imp (h.calm_quiet f) fun hlacks => ⟨⟨rest, hasks⟩, hlacks⟩
      · simp only [hhelp, Bool.false_eq_true, ↓reduceIte]
        exact Meets.throw hP (Or.inl (h.calm_fault _ rfl rfl))

theorem execute (h : Serves e P calm quiet) (hP : P s) (line : String) :
    Meets P (fun f => calm f ∨ (∃ topics, s.AsksForHelp line topics) ∧ LacksHelp P f)
      (fun _ => True) (execute e (.text line)) s := by
  unfold Session.execute
  simp only
  split
  · exact Meets.pure hP trivial
  · refine (Meets.modify (h.own hP .dispatching rfl)).bind ?_
    intro _ t ht hPt _
    have hsame : t = { s with phase := .dispatching } := (congrArg Prod.snd ht).symm
    subst hsame
    exact Meets.ensure (h.dispatch hPt line) fun u hPu => h.own hPu .rested rfl

theorem kept_execute (h : Serves e P calm quiet) (line : Value) (hP : P s) :
    P (Session.execute e line s).2 := by
  cases line with
  | text line => exact (h.execute hP line).left
  | _ => exact hP

theorem obey (h : Serves e P calm quiet) (hP : P s) (line : String) {next : Act Unit}
    (hnext : ∀ t, P t → Meets P (fun _ => True) (fun _ => True) next t) :
    Meets P (fun _ => True) (fun _ => True) (obey e line next) s := by
  unfold Session.obey
  refine (h.execute hP line).caught.bind ?_
  intro failure t _ hPt _
  cases failure with
  | none => exact hnext t hPt
  | some f =>
    cases f with
    | fault f =>
      simp only
      split
      · refine (Meets.of_left (h.kept_report hPt f)).bind ?_
        intro _ u _ hPu _
        exact hnext u hPu
      · exact Meets.throw hPt trivial
    | _ => exact Meets.throw hPt trivial

theorem loop (h : Serves e P calm quiet) (hP : P s) (number : Nat) (watching : Bool)
    (rounds : Nat) :
    Meets P (fun _ => True) (fun _ => True) (loop e number watching rounds) s := by
  induction rounds generalizing s with
  | zero => exact Meets.pure hP trivial
  | succ rounds ih =>
    unfold Session.loop
    refine Meets.get_bind ?_
    split
    · exact Meets.pure hP trivial
    · refine (Meets.of_left (h.printPrompt hP).left).bind ?_
      intro _ t _ hPt _
      refine (Meets.of_left (h.fetch hPt number watching).left).bind ?_
      intro answer u _ hPu _
      cases answer with
      | interrupted => exact Meets.pure hPu trivial
      | failed f =>
        simp only
        split
        · exact Meets.pure hPu trivial
        · exact Meets.throw hPu trivial
      | line line => exact h.obey hPu line fun _ hPt => ih hPt

theorem run (h : Serves e P calm quiet) (hP : P s) (watching : Bool) :
    Meets P (fun _ => True) (fun _ => True) (run e watching) s := by
  obtain ⟨number, t, ht⟩ := exists_currentReader_ok s
  have hPt := h.own hP .opened (onRecord_currentReader s)
  rw [ht] at hPt
  have hopen : Meets P (fun _ => True) (fun _ => True) currentReader s :=
    Meets.of_ok ht hPt trivial
  unfold Session.run
  refine hopen.bind ?_
  intro _ u _ hPu _
  refine Meets.get_bind ?_
  exact Meets.ensure (h.loop hPu _ _ _) fun v hPv => h.own hPv .left rfl

end Serves
end LineShell.Session
