import LineShell.Proofs.Session.Rest
import LineShell.Proofs.Session.Signals

/-! # The phase of a session between controls

A host controls a session by lines, read loops and requests to stop. The phase that it finds in
between is to tell whether a stop is asked for. Lines and loops restore it at their end, whatever
has been done in their course, and a request sets it. But the assignment that takes a request back
leaves the phase as it is. So a session that was halted goes on telling of a stop that nobody asks
for, until a control restores the phase.
-/
namespace LineShell.Session
variable {e : Engine} {s : Session}

inductive Control where
  | execute (line : Value)
  | run (watch : Watch)
  | stop
  | assign (stopping : Bool)

namespace Control
variable {c : Control}

def act (e : Engine) : Control → Act Unit
  | .execute line => Session.execute e line
  | .run .nothing => Session.run e false
  | .run (.event isSet) => do
    modify fun s => { s with cancelled := isSet }
    Session.run e true
  | .run .other => throw (.misuse .notEvent)
  | .stop => Session.act e .stop
  | .assign stopping => Session.act e (.assign "stopping" (.value (.bool stopping)))

def operation : Control → Operation
  | .execute line => .execute line
  | .run watch => .run watch
  | .stop => .perform (.act .stop fun _ => .finish .none)
  | .assign stopping => .assign "stopping" (.value (.bool stopping))

theorem act_operation (c : Control) : c.operation.act = c.act fullEngine := by
  cases c with
  | execute line => rfl
  | run watch => cases watch <;> rfl
  | stop => rfl
  | assign stopping => rfl

/-- Whether a control leaves the phase that belongs to the session. Blank lines and what is refused
change nothing, and a request that is taken back does not change the phase. -/
def restores : Control → Bool
  | .execute (.text line) => Text.trimmed line ≠ ""
  | .execute _ => false
  | .run .other => false
  | .assign stopping => stopping
  | _ => true

theorem phase_of_restores (h : c.restores = true) (e : Engine) (s : Session) :
    (c.act e s).2.phase = (c.act e s).2.restingPhase := by
  have hrun : ∀ watching t,
      (Session.run e watching t).2.phase = (Session.run e watching t).2.restingPhase := by
    intro watching t
    obtain ⟨hstopping, hphase⟩ := stopping_run e watching t
    rw [hphase]
    unfold restingPhase
    rw [hstopping]
    rfl
  cases c with
  | execute line =>
    cases line with
    | text line => exact phase_execute (by simpa [restores] using h) e s
    | _ => cases h
  | run watch =>
    cases watch with
    | nothing => exact hrun false s
    | event isSet => exact hrun true _
    | other => cases h
  | stop => rfl
  | assign stopping =>
    obtain rfl : stopping = true := h
    rfl

theorem act_of_not_restores (h : c.restores = false) (e : Engine) (s : Session) :
    (c.act e s).2 = s ∨ c = .assign false ∧ (c.act e s).2 = { s with stopping := false } := by
  cases c with
  | execute line =>
    refine Or.inl ?_
    cases line with
    | text line =>
      have blank : Text.trimmed line = "" := by simpa [restores] using h
      have hexecute : Session.execute e (.text line) = pure () := if_pos blank
      change (Session.execute e (.text line) s).2 = s
      rw [hexecute]
      rfl
    | _ => rfl
  | run watch =>
    cases watch with
    | other => exact Or.inl rfl
    | _ => cases h
  | stop => cases h
  | assign stopping =>
    obtain rfl : stopping = false := h
    exact Or.inr ⟨rfl, rfl⟩

end Control

structure IsSettled (s : Session) : Prop where
  halted_iff : s.phase = .halted ↔ s.stopping = true
  idle_iff : s.phase = .idle ↔ s.stopping = false

theorem isSettled_iff : s.IsSettled ↔ s.phase = s.restingPhase := by
  unfold restingPhase
  constructor
  · intro h
    cases hs : s.stopping with
    | true => exact h.halted_iff.mpr hs
    | false => exact h.idle_iff.mpr hs
  · intro h
    cases hs : s.stopping <;> rw [hs] at h <;> constructor <;> simp [h, hs]

/-- The phase tells of a stop that is no longer asked for. -/
def IsStale (s : Session) : Prop := s.phase = .halted ∧ s.stopping = false

theorem IsStale.not_isSettled (h : s.IsStale) : ¬ s.IsSettled := by
  intro settled
  have hstopping := settled.halted_iff.mp h.1
  rw [h.2] at hstopping
  cases hstopping

theorem IsStale.act {c : Control} (h : s.IsStale) (idle : c.restores = false) :
    (c.act e s).2.IsStale := by
  rcases c.act_of_not_restores idle e s with hact | ⟨-, hact⟩
  · rw [hact]
    exact h
  · rw [hact]
    exact ⟨h.1, rfl⟩

def after (e : Engine) (s : Session) (controls : List Control) : Session :=
  controls.foldl (fun t c => (c.act e t).2) s

theorem after_append (controls : List Control) (c : Control) :
    s.after e (controls ++ [c]) = (c.act e (s.after e controls)).2 :=
  List.foldl_concat ..

/-- A request was taken back while the session was halted, and no control has restored the phase
since then. -/
def Lapses (e : Engine) (s : Session) (controls : List Control) : Prop :=
  ∃ before later, controls = before ++ .assign false :: later ∧
    (s.after e before).phase = .halted ∧ ∀ c ∈ later, c.restores = false

theorem Lapses.append {controls : List Control} {c : Control} (h : s.Lapses e controls)
    (idle : c.restores = false) : s.Lapses e (controls ++ [c]) := by
  obtain ⟨before, later, rfl, halted, hlater⟩ := h
  refine ⟨before, later ++ [c], by simp, halted, ?_⟩
  intro d hd
  rcases List.mem_append.mp hd with hd | hd
  · exact hlater d hd
  · rw [List.mem_singleton.mp hd]
    exact idle

theorem Lapses.isStale {controls : List Control} (h : s.Lapses e controls) :
    (s.after e controls).IsStale := by
  obtain ⟨before, later, rfl, halted, hlater⟩ := h
  induction later using List.reverseRecOn with
  | nil =>
    rw [after_append]
    exact ⟨halted, rfl⟩
  | append_singleton later c ih =>
    have hcontrols : before ++ .assign false :: (later ++ [c]) =
        (before ++ .assign false :: later) ++ [c] := by simp
    rw [hcontrols, after_append]
    exact (ih fun d hd => hlater d (by simp [hd])).act (hlater c (by simp))

/-- What one more control does. -/
theorem settles_or_lapses_append {controls : List Control} (c : Control)
    (h : (s.after e controls).IsSettled ∨ s.Lapses e controls) :
    (s.after e (controls ++ [c])).IsSettled ∨ s.Lapses e (controls ++ [c]) := by
  rw [after_append]
  cases hc : c.restores with
  | true => exact Or.inl (isSettled_iff.mpr (c.phase_of_restores hc e _))
  | false =>
    rcases h with settled | lapses
    · rcases c.act_of_not_restores hc e (s.after e controls) with hact | ⟨rfl, hact⟩
      · rw [hact]
        exact Or.inl settled
      · by_cases halted : (s.after e controls).phase = .halted
        · exact Or.inr ⟨controls, [], rfl, halted, by simp⟩
        · -- no stop was asked for, so that nothing is taken back
          have hstopping : (s.after e controls).stopping = false :=
            Bool.eq_false_iff.mpr fun asked => halted (settled.halted_iff.mpr asked)
          rw [hact]
          refine Or.inl (isSettled_iff.mpr ?_)
          exact settled.idle_iff.mpr hstopping
    · exact Or.inr (lapses.append hc)

theorem settles_or_lapses (settled : s.IsSettled) (controls : List Control) :
    (s.after e controls).IsSettled ∨ s.Lapses e controls := by
  induction controls using List.reverseRecOn with
  | nil => exact Or.inl settled
  | append_singleton controls c ih => exact settles_or_lapses_append c ih

theorem isSettled_of_start {input : String} {host : Host} {items : List Registry.Item}
    {given : List (String × Given Behaviour)} (h : start input host items given = .ok s) :
    s.IsSettled := by
  refine start_induction h (fun _ => isSettled_iff.mpr rfl) ?_
  intro s name option given t hs ht
  cases assigned_of_assign ht with
  | stopping b named =>
    have hoptions : "stopping" ∉ options := by decide
    rw [named] at option
    exact absurd option hoptions
  | _ => exact ⟨hs.halted_iff, hs.idle_iff⟩

/-- Between controls a session is halted if a stop is asked for and idle if not, unless a request
was taken back while it was halted. Then it is halted although no stop is asked for, for as long as
no line is executed, no read loop is run and no stop is asked for again. -/
theorem settled_between_controls {input : String} {host : Host} {items : List Registry.Item}
    {given : List (String × Given Behaviour)} (started : start input host items given = .ok s)
    (e : Engine) (controls : List Control) :
    ((s.after e controls).IsSettled ↔ ¬ s.Lapses e controls) ∧
      (s.Lapses e controls → (s.after e controls).IsStale) := by
  refine ⟨⟨?_, ?_⟩, Lapses.isStale⟩
  · intro settled lapses
    exact lapses.isStale.not_isSettled settled
  · intro kept
    exact (settles_or_lapses (isSettled_of_start started) controls).resolve_right kept

theorem settled_between_controls_stop :
    ∃ s, start "" {} [] [] = .ok s ∧
      (s.after fullEngine [.stop, .assign false, .stop]).IsSettled ∧
      s.Lapses fullEngine [.stop, .assign false, .execute (.text " ")] ∧
      (s.after fullEngine [.stop, .assign false, .execute (.text " ")]).IsStale := by
  let s : Session := ofProcess "" {}
  have started : start "" {} [] [] = .ok s := rfl
  have hlaw := settled_between_controls started fullEngine
  have kept : ¬ s.Lapses fullEngine [.stop, .assign false, .stop] := by
    intro lapses
    cases lapses.isStale.2
  have lapses : s.Lapses fullEngine [.stop, .assign false, .execute (.text " ")] :=
    ⟨[.stop], [.execute (.text " ")], rfl, rfl, by decide⟩
  exact ⟨s, started, (hlaw _).1.mpr kept, lapses, (hlaw _).2 lapses⟩

/-- A stop is asked for and the request is taken back. -/
theorem exists_stale :
    ∃ s, start "" {} [] [] = .ok s ∧ ¬ (s.after fullEngine [.stop, .assign false]).IsSettled := by
  refine ⟨ofProcess "" {}, rfl, ?_⟩
  have stale : ((ofProcess "" {}).after fullEngine [.stop, .assign false]).IsStale := ⟨rfl, rfl⟩
  exact stale.not_isSettled

end LineShell.Session
