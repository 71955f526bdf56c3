import LineShell.Proofs.Arguments.Arity
import LineShell.Proofs.Session.Hosting
import LineShell.Proofs.Tokens.Scanning

/-! # Lines that are turned away

A line is turned away if it is blank, leaves a quoted region open, names no command, or has too few
tokens for the command that it names. Nothing is called for such a line: all that remains of it is
what the built-in help has written, which fails if it cannot tell a default. A line with too few
tokens is not turned away in vain, as it could not have been bound.
-/
namespace LineShell

namespace Session
variable {e : Engine} {s t u : Session} {line name : String} {rest : List String} {c : Command}

/-! ### What is written -/

/-- Nothing happens on a write but that it is on record. -/
def IsRecording (s : Session) : Prop := ∀ o ∈ s.outlets, o.armed = none

def writing (s : Session) (texts : List (Option String × String)) : Session :=
  { s with journal := s.journal ++ texts.map fun w => .wrote w.1 w.2 }

def Wrote (s t : Session) : Prop := ∃ texts, t = s.writing texts

theorem Wrote.refl (s : Session) : s.Wrote s := ⟨[], by simp [writing]⟩

theorem Wrote.trans (h : s.Wrote t) (h' : t.Wrote u) : s.Wrote u := by
  obtain ⟨texts, rfl⟩ := h
  obtain ⟨more, rfl⟩ := h'
  exact ⟨texts ++ more, by simp [writing]⟩

theorem Wrote.isRecording (h : s.Wrote t) (recording : s.IsRecording) : t.IsRecording := by
  obtain ⟨texts, rfl⟩ := h
  exact recording

theorem wrote_of_write (recording : s.IsRecording) (n : Nat) (text : String) :
    ∃ t, write e n text s = (.ok (), t) ∧ s.Wrote t := by
  unfold write
  rw [get_bind]
  cases ho : s.outlets[n]? with
  | none => exact ⟨s, rfl, .refl s⟩
  | some o =>
    have hunarmed : o.armed = none := recording o (List.mem_of_getElem? ho)
    simp only [hunarmed]
    exact ⟨s.record (.wrote o.sink text), rfl, [(o.sink, text)], rfl⟩

def descriptionResult (commands : List Command) : Except Failure Unit :=
  if commands.all (·.isTold) then .ok () else .error (.misuse .tooManyDigits)

theorem wrote_of_printListing (recording : s.IsRecording) :
    ∃ t, printListing e s = (descriptionResult s.registry.commands, t) ∧ s.Wrote t := by
  unfold printListing descriptionResult
  rw [get_bind]
  rcases (Help.tells_listing _ s.registry.commands).cases with
    ⟨told, text, htext, _⟩ | ⟨untold, hnone⟩
  · rw [if_pos (List.all_eq_true.mpr told), liftMisuse_bind_ok htext]
    split
    · exact ⟨s, rfl, .refl s⟩
    · exact wrote_of_write recording _ _
  · rw [if_neg (by simpa using untold), liftMisuse_bind_error hnone]
    exact ⟨s, rfl, .refl s⟩

def described (s : Session) : List String → List Command
  | [] => s.registry.commands
  | topic :: _ => match s.registry.find topic s.settings.ignoreCase with
    | some c => [c]
    | none => s.registry.commands

theorem wrote_of_printHelp (recording : s.IsRecording) (topics : List String) :
    ∃ t, printHelp e topics s = (descriptionResult (s.described topics), t) ∧ s.Wrote t := by
  cases topics with
  | nil => exact wrote_of_printListing recording
  | cons topic more =>
    rw [printHelp, get_bind]
    cases hc : s.registry.find topic s.settings.ignoreCase with
    | some c =>
      have hdescribed : s.described (topic :: more) = [c] := by simp [described, hc]
      rw [hdescribed, descriptionResult, List.all_cons, List.all_nil, Bool.and_true]
      dsimp only
      rcases (Help.tells_full s.written c).cases with
        ⟨told, text, htext, _⟩ | ⟨untold, hnone⟩
      · rw [if_pos told, liftMisuse_bind_ok htext]
        exact wrote_of_write recording _ _
      · rw [if_neg untold, liftMisuse_bind_error hnone]
        exact ⟨s, rfl, .refl s⟩
    | none =>
      have hdescribed : s.described (topic :: more) = s.registry.commands := by
        simp [described, hc]
      rw [hdescribed]
      obtain ⟨t, ht, hst⟩ : ∃ t, printLine e s.output _ s = (.ok (), t) ∧ s.Wrote t :=
        wrote_of_write recording _ _
      obtain ⟨u, hu, htu⟩ := wrote_of_printListing (e := e) (hst.isRecording recording)
      obtain ⟨texts, rfl⟩ := hst
      exact ⟨u, (bind_ok ht).trans hu, .trans ⟨texts, rfl⟩ htu⟩

/-! ### What a line asks for -/

/-- The line names a registered command, and these are the tokens after its name. -/
structure Asks (s : Session) (line name : String) (rest : List String) (c : Command) : Prop where
  notBlank : Text.trimmed line ≠ ""
  split : Token.split line {} {} = .ok (name :: rest)
  found : s.registry.find name s.settings.ignoreCase = some c

theorem Asks.inPhase (asks : s.Asks line name rest c) (phase : Phase) :
    Asks { s with phase } line name rest c :=
  ⟨asks.notBlank, asks.split, asks.found⟩

def flagsOf (s : Session) (rest : List String) : List String :=
  rest.filter (isFlag s.settings.flagMarker ·)

def positionalsOf (s : Session) (rest : List String) : List String :=
  rest.filter (!isFlag s.settings.flagMarker ·)

/-- Nothing is called for the line, which comes to the given result. -/
inductive TurnsAway (s : Session) (line : String) : Except Failure Unit → Prop
  | blank (blank : Text.trimmed line = "") : TurnsAway s line (.ok ())
  | unclosed {unclosed : Token.Unclosed} (notBlank : Text.trimmed line ≠ "")
    (split : Token.split line {} {} = .error unclosed) :
    TurnsAway s line (.error (.fault unclosed.fault))
  | help {topics : List String} (notBlank : Text.trimmed line ≠ "")
    (asks : s.AsksForHelp line topics) : TurnsAway s line (descriptionResult (s.described topics))
  | unknown {name : String} {rest : List String} (notBlank : Text.trimmed line ≠ "")
    (split : Token.split line {} {} = .ok (name :: rest))
    (unknown : s.registry.find name s.settings.ignoreCase = none)
    (noHelp : asksForHelp name = false) :
    TurnsAway s line (.error (.fault (unknownCommandFault name)))
  | few {name : String} {rest : List String} {c : Command} (asks : Asks s line name rest c)
    (few : (s.positionalsOf rest).length < c.required) :
    TurnsAway s line
      (.error (.fault (arityFault c.name c.required (s.positionalsOf rest).length)))

theorem execute_of_notBlank (notBlank : Text.trimmed line ≠ "") :
    execute e (.text line) s =
      ensure (dispatch e line) (fun u => { u with phase := u.restingPhase })
      { s with phase := .dispatching } := by
  unfold execute
  simp only
  rw [if_neg notBlank, modify_bind]

theorem execute_of_dispatch {r : Except Failure Unit} (notBlank : Text.trimmed line ≠ "")
    (dispatched : dispatch e line { s with phase := .dispatching } = (r, t)) :
    execute e (.text line) s = (r, { t with phase := t.restingPhase }) := by
  rw [execute_of_notBlank notBlank]
  unfold ensure
  rw [dispatched]

theorem dispatch_of_asks (asks : s.Asks line name rest c) :
    dispatch e line s = carryOut e c line (name :: rest) rest s := by
  unfold dispatch
  rw [asks.split]
  simp only
  rw [get_bind, asks.found]

theorem dispatch_of_unknown (split : Token.split line {} {} = .ok (name :: rest))
    (unknown : s.registry.find name s.settings.ignoreCase = none) :
    dispatch e line s =
      if asksForHelp name then printHelp e rest s
      else (.error (.fault (unknownCommandFault name)), s) := by
  unfold dispatch
  rw [split]
  simp only
  rw [get_bind, unknown]
  simp only
  split <;> rfl

theorem dispatch_of_few (asks : s.Asks line name rest c)
    (few : (s.positionalsOf rest).length < c.required) :
    dispatch e line s =
      (.error (.fault (arityFault c.name c.required (s.positionalsOf rest).length)), s) := by
  have hfew : (rest.filter (!isFlag s.settings.flagMarker ·)).length < c.required := few
  rw [dispatch_of_asks asks]
  unfold carryOut
  rw [get_bind]
  simp only [if_pos hfew]
  rfl

theorem dispatch_of_enough (asks : s.Asks line name rest c)
    (enough : c.required ≤ (s.positionalsOf rest).length) :
    dispatch e line s =
      (invoke e c ⟨line, name :: rest, s.flagsOf rest, some c.name⟩ (s.positionalsOf rest) >>=
        conclude e c) s := by
  have henough : ¬ (rest.filter (!isFlag s.settings.flagMarker ·)).length < c.required :=
    Nat.not_lt.mpr enough
  rw [dispatch_of_asks asks]
  unfold carryOut
  rw [get_bind]
  simp only [if_neg henough]
  rfl

theorem execute_of_few (asks : s.Asks line name rest c)
    (few : (s.positionalsOf rest).length < c.required) :
    execute e (.text line) s =
      (.error (.fault (arityFault c.name c.required (s.positionalsOf rest).length)),
        { s with phase := s.restingPhase }) := by
  have hdispatch := dispatch_of_few (e := e) (asks.inPhase .dispatching) few
  have hexecute := execute_of_dispatch asks.notBlank hdispatch
  exact hexecute

theorem execute_of_wrote {r : Except Failure Unit} (notBlank : Text.trimmed line ≠ "")
    (dispatched : dispatch e line { s with phase := .dispatching } = (r, t))
    (wrote : Wrote { s with phase := .dispatching } t) :
    ∃ u phase, execute e (.text line) s = (r, { u with phase }) ∧ s.Wrote u := by
  have hexecute := execute_of_dispatch notBlank dispatched
  obtain ⟨texts, rfl⟩ := wrote
  exact ⟨s.writing texts, _, hexecute, texts, rfl⟩

/-- A line that is turned away leaves the session as it is, but for what is written and for the
phase. -/
theorem execute_of_turnsAway {r : Except Failure Unit} (recording : s.IsRecording)
    (h : s.TurnsAway line r) :
    ∃ t phase, execute e (.text line) s = (r, { t with phase }) ∧ s.Wrote t := by
  let u : Session := { s with phase := .dispatching }
  cases h with
  | blank hblank =>
    refine ⟨s, s.phase, ?_, .refl s⟩
    unfold execute
    simp only
    rw [if_pos hblank]
    rfl
  | @unclosed unclosed hblank hsplit =>
    have hdispatch : dispatch e line u = (.error (.fault unclosed.fault), u) := by
      unfold dispatch
      rw [hsplit]
      rfl
    exact execute_of_wrote hblank hdispatch (.refl u)
  | @help topics hblank hasks =>
    obtain ⟨name, hsplit, hfound, hhelp⟩ := hasks
    have hrecording : u.IsRecording := recording
    obtain ⟨t, ht, hwrote⟩ := wrote_of_printHelp (e := e) hrecording topics
    have hdispatch := dispatch_of_unknown (e := e) (s := u) hsplit hfound
    rw [if_pos hhelp, ht] at hdispatch
    exact execute_of_wrote hblank hdispatch hwrote
  | unknown hblank hsplit hfound hhelp =>
    have hdispatch := dispatch_of_unknown (e := e) (s := u) hsplit hfound
    rw [if_neg (by simp [hhelp])] at hdispatch
    exact execute_of_wrote hblank hdispatch (.refl u)
  | @few name rest c hasks hfew =>
    exact execute_of_wrote hasks.notBlank (dispatch_of_few (hasks.inPhase _) hfew) (.refl u)

/-- No line is turned away in vain. What is bound has a token for each positional parameter,
whatever its tokens give by name. So a line that is turned away for the number of its tokens could
not have been bound, and a line whose tokens can be bound gets as far as its invocation. -/
theorem few_tokens_unbindable :
    (∀ (signature : Signature) (tokens flags : List String) (caller : Value) (lenient : Bool)
      (values : List Value),
      Binding.bind signature.parameters tokens flags caller lenient = .ok values →
        signature.required ≤ tokens.length) ∧
    ∀ (e : Engine) (s : Session) (line name : String) (rest : List String) (c : Command),
      s.Asks line name rest c →
      ((s.positionalsOf rest).length < c.required →
        execute e (.text line) s =
          (.error (.fault (arityFault c.name c.required (s.positionalsOf rest).length)),
            { s with phase := s.restingPhase }) ∧
        ∀ flags caller lenient, ∃ f,
          Binding.bind c.signature.parameters (s.positionalsOf rest) flags caller lenient =
            .error f) ∧
      ((∃ flags caller lenient values,
        Binding.bind c.signature.parameters (s.positionalsOf rest) flags caller lenient =
          .ok values) →
        execute e (.text line) s =
          ensure (invoke e c ⟨line, name :: rest, s.flagsOf rest, some c.name⟩
              (s.positionalsOf rest) >>= conclude e c)
            (fun u => { u with phase := u.restingPhase }) { s with phase := .dispatching }) := by
  have hrequired : ∀ (signature : Signature) (tokens flags : List String) (caller : Value)
      (lenient : Bool) (values : List Value),
      Binding.bind signature.parameters tokens flags caller lenient = .ok values →
        signature.required ≤ tokens.length := fun signature _ _ _ _ _ =>
    Binding.required_le_of_bind signature
  refine ⟨hrequired, ?_⟩
  intro e s line name rest c hasks
  refine ⟨?_, ?_⟩
  · intro hfew
    refine ⟨execute_of_few hasks hfew, ?_⟩
    intro flags caller lenient
    cases hbind :
        Binding.bind c.signature.parameters (s.positionalsOf rest) flags caller lenient with
    | error f => exact ⟨f, rfl⟩
    | ok values => exact absurd hfew (Nat.not_lt.mpr (hrequired _ _ _ _ _ _ hbind))
  · rintro ⟨flags, caller, lenient, values, hbind⟩
    rw [execute_of_notBlank hasks.notBlank]
    have henough := hrequired _ _ _ _ _ _ hbind
    exact ensure_congr (dispatch_of_enough (hasks.inPhase .dispatching) henough) _

/-- A number that is given by name, twice over, is bound; a line of nothing but a flag is turned
away and could not be bound. -/
theorem few_tokens_unbindable_early :
    ∃ s values, start "" {} [.command Binding.early] [] = .ok s ∧
      Binding.bind Binding.early.signature.parameters ["b=1", "b=2"] [] .none false = .ok values ∧
      Binding.early.required ≤ ["b=1", "b=2"].length ∧
      s.Asks "pair --loud" "pair" ["--loud"] Binding.early ∧
      execute fullEngine (.text "pair --loud") s = (.error (.fault (arityFault "pair" 1 0)), s) ∧
      ∃ f, Binding.bind Binding.early.signature.parameters [] ["--loud"] .session false =
        .error f := by
  let s : Session := { ofProcess "" {} with registry := ⟨[Binding.early]⟩ }
  have bound : Binding.bind Binding.early.signature.parameters ["b=1", "b=2"] [] .none false =
      .ok [.int 1, .int 7] := rfl
  have asks : s.Asks "pair --loud" "pair" ["--loud"] Binding.early :=
    ⟨by decide, by decide, rfl⟩
  have few : (s.positionalsOf ["--loud"]).length < Binding.early.required := by decide
  have turned := (few_tokens_unbindable.2 fullEngine s _ _ _ _ asks).1 few
  have required : Binding.early.required = 1 := by decide
  have none_given : s.positionalsOf ["--loud"] = [] := by decide
  rw [required, none_given] at turned
  exact ⟨s, _, rfl, bound, few_tokens_unbindable.1 _ _ _ _ _ _ bound, asks, turned.1,
    turned.2 ["--loud"] .session false⟩

end Session
end LineShell
