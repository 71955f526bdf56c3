import LineShell.Proofs.Session.Dismissal

/-! # How a command is invoked

An execution that is not turned away calls the callbacks that come before its command, binds the
tokens, calls the handler, reports the result, and calls the callbacks that come after. The first of
these that fails ends it, and its failure leaves the execution as it is. What a call does to the
session is left open, and so is how deeply it executes lines in its turn.
-/
namespace LineShell.Session

/-- The session when the callbacks before a command are fired. -/
def invokingWith (s : Session) (c : Command) (context : Context) : Session :=
  { s with executing := some c, context := some context, phase := .invoking }

def cleared (s : Session) : Session := { s with executing := none, context := none }

section
variable {e : Engine} {c : Command} {context : Context} {positionals : List String}
  {s t : Session}

theorem invoke_of_stopped {f : Failure}
    (fired : fire e .invoking c.name (s.invokingWith c context) = (.error f, t)) :
    invoke e c context positionals s = (.error f, t.cleared) := by
  unfold invoke
  rw [modify_bind]
  refine (ensure_congr (s := s.invokingWith c context) (y := throw f) (t := t) ?_ _).trans rfl
  exact bind_error fired

theorem invoke_of_unbound {f : Binding.Failure}
    (fired : fire e .invoking c.name (s.invokingWith c context) = (.ok (), t))
    (refused : Binding.bind c.signature.parameters positionals context.flags .session
      t.settings.lenientEnums = .error f) :
    invoke e c context positionals s = (.error f.failure, t.cleared) := by
  unfold invoke
  rw [modify_bind]
  refine (ensure_congr (s := s.invokingWith c context) (y := throw f.failure) (t := t)
    ?_ _).trans rfl
  rw [bind_ok fired, get_bind]
  simp only [refused]

theorem invoke_of_bound {values : List Value}
    (fired : fire e .invoking c.name (s.invokingWith c context) = (.ok (), t))
    (bound : Binding.bind c.signature.parameters positionals context.flags .session
      t.settings.lenientEnums = .ok values) :
    invoke e c context positionals s =
      ensure (call e c.handler values)
        (fun u => { u with executing := none, context := none }) t := by
  unfold invoke
  rw [modify_bind]
  refine ensure_congr (s := s.invokingWith c context) ?_ _
  rw [bind_ok fired, get_bind]
  simp only [bound]

end

/-! ### Calls -/

def calledWith (s : Session) (h : Handler) (values : List Value) : Session :=
  match h.label with
  | some label => s.record (.called label values)
  | none => s

/-- The values as the handler finds them: whoever notes no calls sees the session from outside. -/
def handed (s : Session) (h : Handler) (values : List Value) : List Value :=
  match h.label with
  | some _ => values
  | none => values.map (·.outside s.written)

section
variable {h : Handler} {values : List Value} {s : Session}

@[simp] theorem length_handed : (s.handed h values).length = values.length := by
  unfold handed
  cases h.label <;> simp

theorem handed_eq_self (inside : values.map (·.outside s.written) = values) :
    s.handed h values = values := by
  unfold handed
  cases h.label with
  | some label => rfl
  | none => exact inside

theorem call_eq_perform (e : Engine) (taken : h.arity.misuse? h.identifier values.length = none) :
    call e h values s = perform e (h.behaviour (s.handed h values)) (s.calledWith h values) := by
  unfold call calledWith handed
  rw [taken]
  cases h.label with
  | some label => rfl
  | none => rfl

theorem call_of_misuse (e : Engine) {m : Misuse}
    (misused : h.arity.misuse? h.identifier values.length = some m) :
    call e h values s = (.error (.misuse m), s) := by
  unfold call
  rw [misused]
  rfl

end

inductive Callee where
  | callback (m : Moment) (k : Callback)
  | handler (values : List Value)

structure Call where
  callee : Callee
  found : Session
  result : Except Failure Value
  left : Session

def Call.Returned (x : Call) : Prop := ∃ v, x.result = .ok v

def Callback.calling (k : Callback) (e : Engine) (command : String) : Act Value :=
  match k with
  | script name _ body => do
    note (.fired name command)
    perform e body
  | maker _ body => do
    let shown := (← get).written
    perform e (body [Value.session.outside shown, .object "Command" command])

/-- Callbacks are called one after the other, up to the first that fails. -/
inductive Fires (e : Engine) (c : Command) (m : Moment) :
    List Callback → Session → List Call → Except Failure Unit → Session → Prop
  | done {s : Session} : Fires e c m [] s [] (.ok ()) s
  | stopped {k : Callback} {rest : List Callback} {s t : Session} {f : Failure}
    (failed : k.calling e c.name s = (.error f, t)) :
    Fires e c m (k :: rest) s [⟨.callback m k, s, .error f, t⟩] (.error f) t
  | next {k : Callback} {rest : List Callback} {s t u : Session} {v : Value} {calls : List Call}
    {r : Except Failure Unit} (returned : k.calling e c.name s = (.ok v, t))
    (more : Fires e c m rest t calls r u) :
    Fires e c m (k :: rest) s (⟨.callback m k, s, .ok v, t⟩ :: calls) r u

section
variable {e : Engine} {c : Command} {m : Moment} {k : Callback} {callbacks rest : List Callback}
  {s t u : Session} {v : Value} {f : Failure} {calls : List Call} {r : Except Failure Unit}

theorem fireAll_of_returned (returned : k.calling e c.name s = (.ok v, t)) :
    fireAll e c.name (k :: rest) s = fireAll e c.name rest t := by
  cases k with
  | script name serial body =>
    have hbody : perform e body (s.record (.fired name c.name)) = (.ok v, t) := returned
    rw [fireAll, note, modify_bind, bind_ok (discard_ok hbody)]
  | maker type body =>
    have hbody : perform e (body [Value.session.outside s.written, .object "Command" c.name]) s =
      (.ok v, t) := returned
    rw [fireAll, get_bind, bind_ok (discard_ok hbody)]

theorem fireAll_of_failed (failed : k.calling e c.name s = (.error f, t)) :
    fireAll e c.name (k :: rest) s = (.error f, t) := by
  cases k with
  | script name serial body =>
    have hbody : perform e body (s.record (.fired name c.name)) = (.error f, t) := failed
    rw [fireAll, note, modify_bind, bind_error (discard_error hbody)]
  | maker type body =>
    have hbody : perform e (body [Value.session.outside s.written, .object "Command" c.name]) s =
      (.error f, t) := failed
    rw [fireAll, get_bind, bind_error (discard_error hbody)]

theorem exists_fires (e : Engine) (c : Command) (m : Moment) (callbacks : List Callback)
    (s : Session) : ∃ calls r t, fireAll e c.name callbacks s = (r, t) ∧
      Fires e c m callbacks s calls r t := by
  induction callbacks generalizing s with
  | nil => exact ⟨[], _, s, rfl, .done⟩
  | cons k rest ih =>
    rcases hk : k.calling e c.name s with ⟨result, t⟩
    cases result with
    | error f => exact ⟨_, _, t, fireAll_of_failed hk, .stopped hk⟩
    | ok v =>
      obtain ⟨calls, r, u, hrest, hfires⟩ := ih t
      exact ⟨_, r, u, (fireAll_of_returned hk).trans hrest, .next hk hfires⟩

/-- The first callbacks are called in their order, none after one that failed, and none is left out
but behind one that failed. -/
def Follows (m : Moment) (callbacks : List Callback) (calls : List Call) : Prop :=
  calls.map (·.callee) = (callbacks.take calls.length).map (.callback m) ∧
    (∀ x ∈ calls.dropLast, x.Returned) ∧
    (calls.length = callbacks.length ∨ ∃ x ∈ calls, ¬ x.Returned)

namespace Fires

theorem map_callee (h : Fires e c m callbacks s calls r t) :
    calls.map (·.callee) = (callbacks.take calls.length).map (.callback m) := by
  induction h with
  | done => rfl
  | stopped _ => simp
  | next _ _ ih => simp [ih]

theorem returned_of_mem_dropLast (h : Fires e c m callbacks s calls r t) :
    ∀ x ∈ calls.dropLast, x.Returned := by
  induction h with
  | done | stopped _ => simp
  | @next _ _ _ _ _ v calls _ _ _ ih =>
    cases calls with
    | nil => simp
    | cons y more =>
      intro x hx
      rw [List.dropLast_cons_cons] at hx
      rcases List.mem_cons.mp hx with rfl | hx
      · exact ⟨v, rfl⟩
      · exact ih x hx

theorem ok_iff (h : Fires e c m callbacks s calls r t) :
    r = .ok () ↔ calls.length = callbacks.length ∧ ∀ x ∈ calls, x.Returned := by
  induction h with
  | done => simp
  | stopped _ => simp [Call.Returned]
  | next _ _ ih => simp [ih, Call.Returned]

theorem error_iff (h : Fires e c m callbacks s calls r t) :
    r = .error f ↔ ∃ x ∈ calls, x.result = .error f := by
  induction h with
  | done => simp
  | stopped _ => simp
  | next _ _ ih => simp [ih]

theorem follows (h : Fires e c m callbacks s calls r t) : Follows m callbacks calls := by
  refine ⟨h.map_callee, h.returned_of_mem_dropLast, ?_⟩
  cases r with
  | ok => exact Or.inl (h.ok_iff.mp rfl).1
  | error f =>
    obtain ⟨x, hx, hf⟩ := h.error_iff.mp rfl
    refine Or.inr ⟨x, hx, ?_⟩
    rintro ⟨v, hv⟩
    rw [hf] at hv
    cases hv

end Fires
end

/-! ### Invocations -/

def announce (e : Engine) (c : Command) (result : Value) : Act Unit := do
  unless result.isNone do
    let s ← get
    let shown ← liftMisuse (result.shown s.written)
    printLine e s.errors ("on execution of " ++ c.name ++ ": " ++ shown)

theorem conclude_eq (e : Engine) (c : Command) (result : Value) :
    conclude e c result = announce e c result >>= fun _ => fire e .invoked c.name := by
  unfold conclude announce
  split
  · rfl
  · simp only [bind_assoc]

/-- The calls of an execution: of callbacks, of the handler, and of callbacks again. The session
stands as the callbacks have left it when the tokens are bound. -/
structure Invocation where
  before : List Call
  fired : Session
  handled : Option Call
  after : List Call

namespace Invocation

def calls (x : Invocation) : List Call := x.before ++ x.handled.toList ++ x.after

/-- No callback stands in the way of the handler. -/
def Passed (x : Invocation) (s : Session) : Prop :=
  x.before.length = (s.callbacks .invoking).length ∧ ∀ y ∈ x.before, y.Returned

def binding (x : Invocation) (c : Command) (context : Context) (positionals : List String) :
    Except Binding.Failure (List Value) :=
  Binding.bind c.signature.parameters positionals context.flags .session
    x.fired.settings.lenientEnums

def Reports (x : Invocation) (e : Engine) (c : Command) (r : Except Failure Unit) (t : Session) :
    Prop :=
  ∃ y v, x.handled = some y ∧ y.result = .ok v ∧ announce e c v y.left.cleared = (r, t)

section
variable {e : Engine} {c : Command} {before after : List Call} {callee : Callee} {v : Value}
  {s t u w : Session} {f : Failure} {r : Except Failure Unit}

@[simp] theorem not_reports_none : ¬ Reports ⟨before, s, none, after⟩ e c r w := by
  simp [Reports]

@[simp] theorem not_reports_error :
    ¬ Reports ⟨before, s, some ⟨callee, t, .error f, u⟩, after⟩ e c r w := by
  simp [Reports]

theorem reports_iff {told : Except Failure Unit} {z : Session}
    (h : announce e c v u.cleared = (told, z)) :
    Reports ⟨before, s, some ⟨callee, t, .ok v, u⟩, after⟩ e c r w ↔ told = r ∧ z = w := by
  constructor
  · rintro ⟨_, _, ⟨⟩, ⟨⟩, h'⟩
    rw [h] at h'
    cases h'
    exact ⟨rfl, rfl⟩
  · rintro ⟨rfl, rfl⟩
    exact ⟨_, v, rfl, rfl, h⟩

end
end Invocation

structure Admits (e : Engine) (c : Command) (context : Context) (positionals : List String)
    (s : Session) (before : List Call) (values : List Value) (t : Session) : Prop where
  fires : Fires e c .invoking (s.callbacks .invoking) (s.invokingWith c context) before (.ok ()) t
  bound : Binding.bind c.signature.parameters positionals context.flags .session
    t.settings.lenientEnums = .ok values

/-- An invocation takes place, in one of the ways in which it may end. -/
inductive Invokes (e : Engine) (c : Command) (context : Context) (positionals : List String)
    (s : Session) : Invocation → Except Failure Unit → Session → Prop
  | stopped {before : List Call} {f : Failure} {t : Session}
    (fires : Fires e c .invoking (s.callbacks .invoking) (s.invokingWith c context) before
      (.error f) t) :
    Invokes e c context positionals s ⟨before, t, none, []⟩ (.error f) t.cleared
  | unbound {before : List Call} {f : Binding.Failure} {t : Session}
    (fires : Fires e c .invoking (s.callbacks .invoking) (s.invokingWith c context) before
      (.ok ()) t)
    (refused : Binding.bind c.signature.parameters positionals context.flags .session
      t.settings.lenientEnums = .error f) :
    Invokes e c context positionals s ⟨before, t, none, []⟩ (.error f.failure) t.cleared
  | failed {before : List Call} {values : List Value} {f : Failure} {t u : Session}
    (admits : Admits e c context positionals s before values t)
    (failed : call e c.handler values t = (.error f, u)) :
    Invokes e c context positionals s ⟨before, t, some ⟨.handler values, t, .error f, u⟩, []⟩
      (.error f) u.cleared
  | untold {before : List Call} {values : List Value} {v : Value} {f : Failure} {t u w : Session}
    (admits : Admits e c context positionals s before values t)
    (returned : call e c.handler values t = (.ok v, u))
    (untold : announce e c v u.cleared = (.error f, w)) :
    Invokes e c context positionals s ⟨before, t, some ⟨.handler values, t, .ok v, u⟩, []⟩
      (.error f) w
  | concluded {before after : List Call} {values : List Value} {v : Value}
    {r : Except Failure Unit} {t u w x : Session}
    (admits : Admits e c context positionals s before values t)
    (returned : call e c.handler values t = (.ok v, u))
    (told : announce e c v u.cleared = (.ok (), w))
    (concludes : Fires e c .invoked (w.callbacks .invoked) w after r x) :
    Invokes e c context positionals s ⟨before, t, some ⟨.handler values, t, .ok v, u⟩, after⟩ r x

section
variable {e : Engine} {c : Command} {context : Context} {positionals : List String}
  {s t : Session} {r : Except Failure Unit} {x : Invocation}

theorem exists_invokes (e : Engine) (c : Command) (context : Context) (positionals : List String)
    (s : Session) : ∃ x r t, (invoke e c context positionals >>= conclude e c) s = (r, t) ∧
      Invokes e c context positionals s x r t := by
  obtain ⟨before, fired, t, hfire, hfires⟩ :=
    exists_fires e c .invoking (s.callbacks .invoking) (s.invokingWith c context)
  have hfire : fire e .invoking c.name (s.invokingWith c context) = (fired, t) := hfire
  cases fired with
  | error f =>
    have hinvoke : invoke e c context positionals s = (.error f, t.cleared) :=
      invoke_of_stopped hfire
    exact ⟨_, _, _, bind_error hinvoke, .stopped hfires⟩
  | ok =>
    cases hbind : Binding.bind c.signature.parameters positionals context.flags .session
        t.settings.lenientEnums with
    | error f =>
      have hinvoke : invoke e c context positionals s = (.error f.failure, t.cleared) :=
        invoke_of_unbound hfire hbind
      exact ⟨_, _, _, bind_error hinvoke, .unbound hfires hbind⟩
    | ok values =>
      have hinvoke := invoke_of_bound hfire hbind
      have hadmits : Admits e c context positionals s before values t := ⟨hfires, hbind⟩
      rcases hcall : call e c.handler values t with ⟨result, u⟩
      have hensured : invoke e c context positionals s = (result, u.cleared) := by
        rw [hinvoke]
        unfold ensure
        rw [hcall]
        rfl
      cases result with
      | error f => exact ⟨_, _, _, bind_error hensured, .failed hadmits hcall⟩
      | ok v =>
        rw [bind_ok hensured, conclude_eq]
        rcases htold : announce e c v u.cleared with ⟨told, w⟩
        cases told with
        | error f =>
          exact ⟨_, _, _, bind_error htold, .untold hadmits hcall htold⟩
        | ok =>
          obtain ⟨after, r, x, hfire, hfires'⟩ :=
            exists_fires e c .invoked (w.callbacks .invoked) w
          refine ⟨_, r, x, ?_, .concluded hadmits hcall htold hfires'⟩
          rw [bind_ok htold]
          exact hfire

theorem exists_execute_invokes {line name : String} {rest : List String}
    (e : Engine) (asks : s.Asks line name rest c)
    (enough : c.required ≤ (s.positionalsOf rest).length) :
    ∃ x r t, execute e (.text line) s = (r, { t with phase := t.restingPhase }) ∧
      Invokes e c ⟨line, name :: rest, s.flagsOf rest, some c.name⟩ (s.positionalsOf rest)
        s x r t := by
  obtain ⟨x, r, t, hinvoke, hinvokes⟩ := exists_invokes e c
    ⟨line, name :: rest, s.flagsOf rest, some c.name⟩ (s.positionalsOf rest) s
  have hdispatch := dispatch_of_enough (e := e) (asks.inPhase .dispatching) enough
  exact ⟨x, r, t, execute_of_dispatch asks.notBlank (hdispatch.trans hinvoke), hinvokes⟩

/-- The law of the calls of an execution. A firing follows the callbacks that are connected when it
begins, the handler is called in the session that the first firing has left, no call comes after one
that fails, and nothing but what fails first is the failure of the execution. -/
structure Invocation.IsLawful (x : Invocation) (e : Engine) (c : Command) (context : Context)
    (positionals : List String) (s : Session) (r : Except Failure Unit) : Prop where
  before : Follows .invoking (s.callbacks .invoking) x.before
  handled : x.handled.isSome ↔
    x.Passed s ∧ ∃ values, x.binding c context positionals = .ok values
  handler : ∀ y ∈ x.handled, ∃ values, y.callee = .handler values ∧
    x.binding c context positionals = .ok values ∧ y.found = x.fired ∧
    call e c.handler values y.found = (y.result, y.left)
  after : ∀ t, x.Reports e c (.ok ()) t → Follows .invoked (t.callbacks .invoked) x.after
  unreported : x.after ≠ [] → ∃ t, x.Reports e c (.ok ()) t
  last : ∀ y ∈ x.calls.dropLast, y.Returned
  failure (f : Failure) : r = .error f ↔ (∃ y ∈ x.calls, y.result = .error f) ∨
    (x.Passed s ∧ ∃ g, x.binding c context positionals = .error g ∧ g.failure = f) ∨
    ∃ t, x.Reports e c (.error f) t

theorem Fires.passed_iff {fired : Except Failure Unit}
    (h : Fires e c .invoking (s.callbacks .invoking) (s.invokingWith c context) x.before fired t) :
    fired = .ok () ↔ x.Passed s :=
  h.ok_iff

theorem Admits.not_failed {before : List Call} {values : List Value} {f : Failure}
    (h : Admits e c context positionals s before values t) :
    ¬ ∃ y ∈ before, y.result = .error f :=
  h.fires.error_iff.not.mp (by simp)

namespace Invokes

theorem before_follows (h : Invokes e c context positionals s x r t) :
    Follows .invoking (s.callbacks .invoking) x.before := by
  cases h with
  | stopped fires | unbound fires _ => exact fires.follows
  | failed admits _ | untold admits _ _ | concluded admits _ _ _ => exact admits.fires.follows

theorem handled_iff (h : Invokes e c context positionals s x r t) :
    x.handled.isSome ↔ x.Passed s ∧ ∃ values, x.binding c context positionals = .ok values := by
  cases h with
  | @stopped before f u fires =>
    have hpassed := fires.passed_iff (x := ⟨before, u, none, []⟩)
    simp [← hpassed]
  | unbound fires refused => simp [Invocation.binding, refused]
  | failed admits _ | untold admits _ _ | concluded admits _ _ _ =>
    simpa using ⟨admits.fires.passed_iff.mp rfl, _, admits.bound⟩

theorem returned_of_mem_dropLast (h : Invokes e c context positionals s x r t) :
    ∀ y ∈ x.calls.dropLast, y.Returned := by
  unfold Invocation.calls
  cases h with
  | stopped fires | unbound fires _ => simpa using fires.returned_of_mem_dropLast
  | failed admits _ | untold admits _ _ => simpa using (admits.fires.ok_iff.mp rfl).2
  | @concluded before after values v _ _ _ _ _ admits _ _ concludes =>
    have hbefore := (admits.fires.ok_iff.mp rfl).2
    have hafter := concludes.returned_of_mem_dropLast
    cases after with
    | nil => simpa using hbefore
    | cons z more =>
      rw [List.dropLast_append_cons]
      intro y hy
      rcases List.mem_append.mp hy with hy | hy
      · rcases List.mem_append.mp hy with hy | hy
        · exact hbefore y hy
        · rw [List.mem_singleton.mp hy]
          exact ⟨v, rfl⟩
      · exact hafter y hy

theorem error_iff {f : Failure} (h : Invokes e c context positionals s x r t) :
    r = .error f ↔ (∃ y ∈ x.calls, y.result = .error f) ∨
      (x.Passed s ∧ ∃ g, x.binding c context positionals = .error g ∧ g.failure = f) ∨
      ∃ u, x.Reports e c (.error f) u := by
  cases h with
  | @stopped before g u fires =>
    have hpassed := fires.passed_iff (x := ⟨before, u, none, []⟩)
    have herror := fires.error_iff (f := f)
    simp only [reduceCtorEq, false_iff] at hpassed
    simp [Invocation.calls, hpassed, herror]
  | @unbound before g u fires refused =>
    have hpassed := (fires.passed_iff (x := ⟨before, u, none, []⟩)).mp rfl
    have herror := fires.error_iff (f := f)
    simp only [reduceCtorEq, false_iff] at herror
    simp [Invocation.calls, Invocation.binding, hpassed, herror, refused]
  | failed admits _ =>
    simp [Invocation.calls, Invocation.binding, admits.bound, admits.not_failed]
  | untold admits _ untold =>
    simp [Invocation.calls, Invocation.binding, admits.bound, admits.not_failed,
      Invocation.reports_iff untold]
  | concluded admits _ told concludes =>
    simp [Invocation.calls, Invocation.binding, admits.bound, or_and_right, exists_or,
      admits.not_failed, concludes.error_iff, Invocation.reports_iff told]

theorem isLawful (h : Invokes e c context positionals s x r t) :
    x.IsLawful e c context positionals s r := by
  refine ⟨h.before_follows, h.handled_iff, ?_, ?_, ?_, h.returned_of_mem_dropLast,
    fun _ => h.error_iff⟩
  · cases h with
    | stopped | unbound => simp
    | failed admits called | untold admits called _ | concluded admits called _ _ =>
      rintro y ⟨⟩
      exact ⟨_, rfl, admits.bound, rfl, called⟩
  · cases h with
    | stopped | unbound | failed => simp
    | untold _ _ untold => simp [Invocation.reports_iff untold]
    | concluded _ _ told concludes => simpa [Invocation.reports_iff told] using concludes.follows
  · cases h with
    | stopped | unbound | failed | untold => simp
    | concluded _ _ told _ => simp [Invocation.reports_iff told]

end Invokes
end

def greet : Callback := .script "greet" 0 (.act (.connect .invoking "late") fun _ => .finish .none)

end LineShell.Session
