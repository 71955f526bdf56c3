import LineShell.Proofs.Session.Signals
import LineShell.Proofs.Session.Wiring

/-! # Requests to stop

A line in whose course a stop is asked for is the last one that its read loop takes, whatever is
done about it afterwards: lines may be executed and fail, and the line itself may fail. But there is
one request for the whole session. It is taken back by an assignment, and a loop that is run within
the line lets go of it at its end, although it was asked for before the loop began. Then the outer
loop goes on.
-/
namespace LineShell.Session
variable {e : Engine} {number rounds left : ℕ} {watching : Bool} {s t u v : Session}
  {line : String}

theorem obey_of_failure {f : Failure} {next : Act Unit} (fatal : f.isRecoverable = false)
    (failed : execute e (.text line) s = (.error f, t)) : obey e line next s = (.error f, t) := by
  unfold obey
  rw [bind_ok (caught_error failed)]
  cases f with
  | fault f =>
    have hf : f.kind.isRecoverable = false := fatal
    simp only [hf, Bool.false_eq_true, ↓reduceIte]
    rfl
  | _ => rfl

theorem obey_of_unreported {f : Fault} {g : Failure} {next : Act Unit}
    (failed : execute e (.text line) s = (.error (.fault f), t))
    (recoverable : f.kind.isRecoverable = true) (unreported : report e f t = (.error g, u)) :
    obey e line next s = (.error g, u) := by
  unfold obey
  rw [bind_ok (caught_error failed)]
  simp only [recoverable, ↓reduceIte]
  exact bind_error unreported

/-- The read loop goes on after a line, or fails on it, whatever comes next. -/
theorem obey_cases (e : Engine) (line : String) (s : Session) :
    (∃ t, ∀ next, obey e line next s = next t) ∨
      ∃ f t, ∀ next, obey e line next s = (.error f, t) := by
  rcases hx : execute e (.text line) s with ⟨r, t⟩
  cases r with
  | ok => exact Or.inl ⟨t, fun _ => obey_of_ok hx⟩
  | error f =>
    cases hf : f.isRecoverable with
    | false => exact Or.inr ⟨f, t, fun _ => obey_of_failure hf hx⟩
    | true =>
      cases f with
      | fault f =>
        rcases hr : report e f t with ⟨r, u⟩
        cases r with
        | ok => exact Or.inl ⟨u, fun _ => obey_of_fault hx hf hr⟩
        | error g => exact Or.inr ⟨g, u, fun _ => obey_of_unreported hx hf hr⟩
      | _ => cases hf

theorem obey_of_survived (survived : obey e line (pure ()) s = (.ok (), t)) (next : Act Unit) :
    obey e line next s = next t := by
  rcases obey_cases e line s with ⟨u, h⟩ | ⟨f, u, h⟩
  · obtain rfl : u = t := congrArg Prod.snd ((h (pure ())).symm.trans survived)
    exact h next
  · cases (h (pure ())).symm.trans survived

/-- A read loop comes to take a line, with so many rounds left behind it. -/
inductive Takes (e : Engine) (number : ℕ) (watching : Bool) :
    ℕ → Session → String → ℕ → Session → Prop
  | now {rounds : ℕ} {s t u : Session} {line : String}
    (go : (s.stopping || (watching && s.cancelled)) = false)
    (prompted : printPrompt e s = (.ok (), t))
    (fetched : fetch number watching t = (.ok (.line line), u)) :
    Takes e number watching (rounds + 1) s line rounds u
  | later {rounds left : ℕ} {s t u v w : Session} {first line : String}
    (go : (s.stopping || (watching && s.cancelled)) = false)
    (prompted : printPrompt e s = (.ok (), t))
    (fetched : fetch number watching t = (.ok (.line first), u))
    (survived : obey e first (pure ()) u = (.ok (), v))
    (more : Takes e number watching rounds v line left w) :
    Takes e number watching (rounds + 1) s line left w

theorem loop_of_takes (taken : Takes e number watching rounds s line left u) :
    loop e number watching rounds s = obey e line (loop e number watching left) u := by
  induction taken with
  | now go prompted fetched => exact loop_of_line go prompted fetched
  | later go prompted fetched survived _ ih =>
    rw [loop_of_line go prompted fetched, obey_of_survived survived, ih]

/-- The signals while a line is executed and the fault that it ends with is shown. -/
def lineSignals (depth : ℕ) (line : String) (s : Session) : List Signal :=
  ((accounts depth).obey line (.pure : Account (pure ()))).signals s

/-- After a line the session is to stop exactly if the last signal was a request. -/
theorem stopping_of_survived {depth : ℕ} {last : Signal}
    (survived : obey (engine depth) line (pure ()) s = (.ok (), t))
    (h : (lineSignals depth line s).getLast? = some last) :
    t.stopping = decide (last = .asked) := by
  have hheard := ((accounts depth).obey line (.pure : Account (pure ()))).heard s
  rw [survived] at hheard
  exact hheard.trans (Signal.flag_of_getLast? _ h)

theorem last_of_asked {signals : List Signal} (asked : .asked ∈ signals)
    (kept : .withdrawn ∉ signals) (outer : signals.getLast? ≠ some .left) :
    signals.getLast? = some .asked := by
  cases h : signals.getLast? with
  | none =>
    rw [List.getLast?_eq_none_iff] at h
    rw [h] at asked
    cases asked
  | some last =>
    cases last with
    | asked => rfl
    | withdrawn => exact absurd (List.mem_of_getLast? h) kept
    | left => exact absurd h outer

/-- A line in whose course a stop is asked for is the last that its loop takes, and nothing more is
prompted, read or executed, unless the request is taken back or the last signal is the end of
another loop. If it is, the request is lost: the loop goes on as if nobody had asked for a stop. -/
theorem run_ends_when_asked {depth : ℕ} (opened : currentReader s = (.ok number, t))
    (taken : Takes (engine depth) number watching (t.rounds number) t line left u) :
    (.asked ∈ lineSignals depth line u → .withdrawn ∉ lineSignals depth line u →
      (lineSignals depth line u).getLast? ≠ some .left → ∃ r v,
        obey (engine depth) line (pure ()) u = (r, v) ∧
          run (engine depth) watching s = (r, { v with stopping := false, phase := .idle })) ∧
    ∀ v, (lineSignals depth line u).getLast? = some .left →
      obey (engine depth) line (pure ()) u = (.ok (), v) → v.stopping = false ∧ ∃ r w,
        loop (engine depth) number watching left v = (r, w) ∧
          run (engine depth) watching s = (r, { w with stopping := false, phase := .idle }) := by
  have hrun : ∀ r v,
      obey (engine depth) line (loop (engine depth) number watching left) u = (r, v) →
      run (engine depth) watching s = (r, { v with stopping := false, phase := .idle }) := by
    intro r v h
    rw [← loop_of_takes taken] at h
    exact run_of_loop opened h
  refine ⟨?_, ?_⟩
  · intro asked kept outer
    have hlast := last_of_asked asked kept outer
    rcases obey_cases (engine depth) line u with ⟨v, h⟩ | ⟨f, v, h⟩
    · have hstopping : v.stopping = true := stopping_of_survived (h (pure ())) hlast
      refine ⟨.ok (), v, h (pure ()), hrun _ _ ?_⟩
      rw [h]
      cases left with
      | zero => rfl
      | succ left => exact loop_of_told (by rw [hstopping]; rfl)
    · exact ⟨.error f, v, h (pure ()), hrun _ _ (h _)⟩
  · intro v hlast survived
    refine ⟨stopping_of_survived survived hlast, _, _, rfl, hrun _ _ ?_⟩
    exact obey_of_survived survived _

def halt (more : Behaviour) : Command where
  name := "halt"
  handler := {
    label := some "halt", name := .text "halt", qualifiedName := some "halt", shows := "halt"
    arity := { required := 0, optional := 0, rest := false }
    behaviour := fun _ => .act .stop fun _ => more }
  signature := .empty
  descr := none
  name_ne := by simp
  name_single := rfl
  accepts_values := rfl

def halting (more : Behaviour) : Session :=
  { ofProcess "halt\nhalt\n" {} with registry := ⟨[halt more]⟩ }

theorem run_ends_when_asked_halt :
    ∃ s number t u, start "halt\nhalt\n" {} [.command (halt (.finish .none))] [] = .ok s ∧
      currentReader s = (.ok number, t) ∧
      Takes fullEngine number false (t.rounds number) t "halt" 2 u ∧
      lineSignals nestingLimit "halt" u = [.asked] ∧
      ∃ r v, obey fullEngine "halt" (pure ()) u = (r, v) ∧
        run fullEngine false s = (r, { v with stopping := false, phase := .idle }) := by
  obtain ⟨number, t, u, opened, taken, hsignals⟩ : ∃ number t u,
      currentReader (halting (.finish .none)) = (.ok number, t) ∧
        Takes fullEngine number false (t.rounds number) t "halt" 2 u ∧
          lineSignals nestingLimit "halt" u = [.asked] :=
    ⟨_, _, _, rfl, .now rfl rfl rfl, by decide +kernel⟩
  refine ⟨_, number, t, u, rfl, opened, taken, hsignals, ?_⟩
  have hrun := run_ends_when_asked opened taken
  rw [hsignals] at hrun
  exact hrun.1 (by decide) (by decide) (by decide)

/-- A handler asks for a stop and runs the read loop, which ends at once and lets go of the request.
The outer loop takes the next line. -/
theorem exists_request_lost :
    ∃ s number t u, start "halt\nhalt\n" {}
        [.command (halt (.act .run fun _ => .finish .none))] [] = .ok s ∧
      currentReader s = (.ok number, t) ∧
      Takes fullEngine number false (t.rounds number) t "halt" 2 u ∧
      .asked ∈ lineSignals nestingLimit "halt" u ∧
      .withdrawn ∉ lineSignals nestingLimit "halt" u ∧
      u.received = ["halt"] ∧ (run fullEngine false s).2.received = ["halt", "halt"] := by
  refine ⟨halting (.act .run fun _ => .finish .none), _, _, _, rfl, rfl, .now rfl rfl rfl, ?_⟩
  decide +kernel

end LineShell.Session
