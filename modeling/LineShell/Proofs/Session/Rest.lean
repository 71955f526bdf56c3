import LineShell.Proofs.Session.Dismissal
import LineShell.Proofs.Session.Steps

/-! # Sessions at rest

While a command is invoked, it is on record together with its context. Lines and loops that are
executed in the meantime put commands of their own on record and clear it, so nothing can be said of
the record while an invocation lasts. But every invocation ends with a clear record, and nothing
else writes to it. So what starts on a clear record ends on one, however deeply lines and loops
nest, and a session that has executed its line is idle again or halted.
-/
namespace LineShell.Session
variable {e : Engine} {s t : Session}

def IsVacant (s : Session) : Prop := s.executing = none ∧ s.context = none

theorem IsVacant.of_onRecord (h : s.IsVacant) (same : t.onRecord = s.onRecord) : t.IsVacant := by
  obtain ⟨hexecuting, hcontext⟩ := Prod.mk.inj same
  exact ⟨hexecuting.trans h.1, hcontext.trans h.2⟩

theorem onRecord_fetch (s : Session) (number : ℕ) (watching : Bool) :
    (fetch number watching s).2.onRecord = s.onRecord := by
  rcases fetch_cases s number watching with ⟨input, r, source, there, wired⟩ | h
  · rw [fetch_of_wired there wired]
    rfl
  · rw [h]

/-- Whatever the engine is asked to do, a clear record is clear again at the end. -/
structure Engine.IsTidy (e : Engine) : Prop where
  execute {s : Session} (line : Value) : s.IsVacant → (e.execute line s).2.IsVacant
  run {s : Session} : s.IsVacant → (e.run s).2.IsVacant
  perform {s : Session} (b : Behaviour) : s.IsVacant → (e.perform b s).2.IsVacant

namespace Engine.IsTidy

theorem allows (h : e.IsTidy) : Allows e IsVacant where
  step hs _ same := hs.of_onRecord same
  fetched number watching hs := hs.of_onRecord (onRecord_fetch _ number watching)
  execute line hs := h.execute line hs
  run hs := h.run hs
  perform b hs := h.perform b hs

/-- An invocation leaves a clear record, whatever was on it before and in between. -/
theorem isVacant_invoke (e : Engine) (c : Command) (context : Context) (positionals : List String)
    (s : Session) : (invoke e c context positionals s).2.IsVacant :=
  ⟨rfl, rfl⟩

theorem serves (h : e.IsTidy) : Serves e IsVacant (fun _ => True) (fun _ => True) where
  toTends := h.allows.tends
  calm_fault _ _ _ := trivial
  calm_quiet _ _ := trivial
  answers _ _ _ ht := Meets.of_left (h.allows.kept_perform _ ht)
  invoke context positionals _ _ :=
    (Meets.of_left (isVacant_invoke e _ context positionals _)).mono_good
      fun _ _ => Or.inr trivial

theorem isVacant_execute (h : e.IsTidy) (line : Value) (hs : s.IsVacant) :
    (Session.execute e line s).2.IsVacant :=
  h.serves.kept_execute line hs

theorem isVacant_run (h : e.IsTidy) (watching : Bool) (hs : s.IsVacant) :
    (Session.run e watching s).2.IsVacant :=
  (h.serves.run hs watching).left

end Engine.IsTidy

theorem isTidy_engine (depth : ℕ) : (engine depth).IsTidy := by
  -- what handlers and callbacks execute is executed by the engine one level further in
  induction depth with
  | zero => exact ⟨fun _ hs => hs, fun hs => hs, fun _ hs => hs⟩
  | succ depth ih => exact ⟨ih.isVacant_execute, ih.isVacant_run false, ih.allows.kept_perform⟩

/-! ### The end of a line and of a loop -/

theorem phase_execute {line : String} (notBlank : Text.trimmed line ≠ "") (e : Engine)
    (s : Session) :
    (execute e (.text line) s).2.phase = (execute e (.text line) s).2.restingPhase := by
  rw [execute_of_notBlank notBlank]
  rfl

theorem stopping_run (e : Engine) (watching : Bool) (s : Session) :
    (run e watching s).2.stopping = false ∧ (run e watching s).2.phase = .idle := by
  obtain ⟨number, t, ht⟩ := exists_currentReader_ok s
  rw [run_of_loop ht rfl]
  exact ⟨rfl, rfl⟩

/-- What starts on a clear record comes to rest. After a line that is not blank the record is clear,
and the session is halted if it is to stop and idle if it is not; after the read loop the record is
clear, and the session is idle and no longer to stop. It makes no difference how the line or the
loop ends, and what handlers, callbacks and traps have done to the session in the meantime. -/
theorem comes_to_rest (depth : ℕ) {s : Session} (vacant : s.IsVacant) :
    (∀ (line : String) (r : Except Failure Unit) (t : Session), Text.trimmed line ≠ "" →
      execute (engine depth) (.text line) s = (r, t) →
        t.executing = none ∧ t.context = none ∧ t.phase = if t.stopping then .halted else .idle) ∧
    ∀ (watching : Bool) (r : Except Failure Unit) (t : Session),
      run (engine depth) watching s = (r, t) →
        t.executing = none ∧ t.context = none ∧ t.stopping = false ∧ t.phase = .idle := by
  have htidy := isTidy_engine depth
  refine ⟨?_, ?_⟩
  · intro line r t hline hexecute
    have hvacant := htidy.isVacant_execute (.text line) vacant
    have hphase := phase_execute hline (engine depth) s
    rw [hexecute] at hvacant hphase
    exact ⟨hvacant.1, hvacant.2, hphase⟩
  · intro watching r t hrun
    have hvacant := htidy.isVacant_run watching vacant
    have hstopping := stopping_run (engine depth) watching s
    rw [hrun] at hvacant hstopping
    exact ⟨hvacant.1, hvacant.2, hstopping⟩

def upset : Command where
  name := "upset"
  handler := {
    label := some "upset", name := .text "upset", qualifiedName := some "upset", shows := "upset"
    arity := { required := 0, optional := 0, rest := false }
    behaviour := fun _ => .act .stop fun _ => .act (.execute (.text "upset")) fun _ =>
      .act .run fun _ => .fail .endOfInput }
  signature := .empty
  descr := none
  name_ne := by decide
  name_single := by decide
  accepts_values := by decide

theorem comes_to_rest_upset :
    ∃ s, start "upset\n" {} [.command upset] [] = .ok s ∧ s.IsVacant ∧
      (∃ r t, execute fullEngine (.text "upset") s = (r, t) ∧ t.IsVacant ∧
        t.phase = if t.stopping then .halted else .idle) ∧
      ∃ r t, run fullEngine false s = (r, t) ∧ t.IsVacant ∧ t.stopping = false ∧
        t.phase = .idle := by
  let s : Session := { ofProcess "upset\n" {} with registry := ⟨[upset]⟩ }
  have vacant : s.IsVacant := ⟨rfl, rfl⟩
  obtain ⟨hline, hloop⟩ := comes_to_rest nestingLimit vacant
  refine ⟨s, rfl, vacant, ?_, ?_⟩
  · rcases hexecute : execute fullEngine (.text "upset") s with ⟨r, t⟩
    obtain ⟨hexecuting, hcontext, hphase⟩ := hline "upset" r t (by decide) hexecute
    exact ⟨r, t, rfl, ⟨hexecuting, hcontext⟩, hphase⟩
  · rcases hrun : run fullEngine false s with ⟨r, t⟩
    obtain ⟨hexecuting, hcontext, hstopping, hphase⟩ := hloop false r t hrun
    exact ⟨r, t, rfl, ⟨hexecuting, hcontext⟩, hstopping, hphase⟩

/-! ### Between the operations of a host -/

theorem isVacant_of_start {input : String} {host : Host} {items : List Registry.Item}
    {given : List (String × Given Behaviour)} (h : start input host items given = .ok s) :
    s.IsVacant := by
  refine start_induction h (fun _ => ⟨rfl, rfl⟩) ?_
  intro s name _ given t hs ht
  exact hs.of_onRecord (onRecord_assigned (assigned_of_assign ht))

theorem Operation.isVacant (o : Operation) (hs : s.IsVacant) : (o.act s).2.IsVacant :=
  have htidy := isTidy_engine nestingLimit
  o.kept htidy.allows htidy.isVacant_execute htidy.isVacant_run hs

/-- Nothing is on record whenever the host is in control, from the start of the session on. -/
theorem isVacant_of_operations {input : String} {host : Host} {items : List Registry.Item}
    {given : List (String × Given Behaviour)} (h : start input host items given = .ok s)
    (operations : List Operation) :
    (operations.foldl (fun t o => (o.act t).2) s).IsVacant := by
  have hoperations : ∀ t : Session, t.IsVacant →
      (operations.foldl (fun t o => (o.act t).2) t).IsVacant := by
    induction operations with
    | nil => exact fun _ ht => ht
    | cons o rest ih =>
      intro t ht
      exact ih _ (o.isVacant ht)
  exact hoperations s (isVacant_of_start h)

end LineShell.Session
