import LineShell.Proofs.Arguments.Arity
import LineShell.Proofs.Commands.Declaring
import LineShell.Proofs.Session.Invocation

/-! # Handlers that commands accept

A command is declared with a handler and a signature exactly if the handler takes one value for each
parameter. This is checked once, when the command is declared. What is bound to a line has one value
for each parameter too, so no call that a line leads to fails for the number of its values.
-/
namespace LineShell

namespace Arity
variable {a : Arity} {handler : String} {count : Nat}

/-- So many values are taken: those that are required, then some of the optional ones, and more only
if the rest is taken too. No value is needed by keyword. -/
def Takes (a : Arity) (count : Nat) : Prop :=
  a.keywords = 0 ∧ ∃ optional more, optional ≤ a.optional ∧ (0 < more → a.rest = true) ∧
    count = a.required + optional + more

theorem accepts_iff_takes : a.accepts count = true ↔ a.Takes count := by
  unfold accepts Takes
  simp only [Bool.and_eq_true, Bool.or_eq_true, decide_eq_true_eq]
  constructor
  · rintro ⟨⟨hrequired, hmost⟩, hkeywords⟩
    refine ⟨hkeywords, min a.optional (count - a.required),
      count - a.required - a.optional, Nat.min_le_left _ _, ?_, by omega⟩
    intro hmore
    exact hmost.resolve_right (by omega)
  · rintro ⟨hkeywords, optional, more, hoptional, hrest, rfl⟩
    refine ⟨⟨by omega, ?_⟩, hkeywords⟩
    rcases Nat.eq_zero_or_pos more with rfl | hmore
    · exact Or.inr (by omega)
    · exact Or.inl (hrest hmore)

theorem misuse?_eq_none_iff_takes : a.misuse? handler count = none ↔ a.Takes count :=
  misuse?_eq_none_iff.trans accepts_iff_takes

theorem exists_misuse (handler : String) (h : ¬ a.Takes count) :
    ∃ m, a.misuse? handler count = some m ∧ m.kind = .type := by
  cases hm : a.misuse? handler count with
  | none => exact absurd (misuse?_eq_none_iff_takes.mp hm) h
  | some m =>
    refine ⟨m, rfl, ?_⟩
    unfold misuse? at hm
    split_ifs at hm <;> cases hm <;> rfl

end Arity

namespace Command
variable {h : Handler}

theorem mayAccept_iff_takes (inspectable : h.found = some h.arity) {count : Nat} :
    h.mayAccept count = true ↔ h.arity.Takes count := by
  rw [Handler.mayAccept, inspectable, Arity.accepts_iff_takes]

end Command

namespace Session
variable {h : Handler} {signature : Signature} {name descr : Value} {n : Command.Name}
  {d : Option String} {c : Command} {values : List Value} {s t : Session} {e : Engine}

theorem call_of_takes (e : Engine) (s : Session) (taken : h.arity.Takes values.length) :
    call e h values s = perform e (h.behaviour (s.handed h values)) (s.calledWith h values) :=
  call_eq_perform e (Arity.misuse?_eq_none_iff_takes.mpr taken)

theorem exists_call_misuse (e : Engine) (s : Session) (untaken : ¬ h.arity.Takes values.length) :
    ∃ m, call e h values s = (.error (.misuse m), s) ∧ m.kind = .type := by
  obtain ⟨m, hm, hkind⟩ := Arity.exists_misuse h.identifier untaken
  exact ⟨m, call_of_misuse e hm, hkind⟩

/-- Whatever is bound to a line, the handler takes. -/
theorem handled_of_takes {context : Context} {positionals : List String}
    {x : Invocation} {r : Except Failure Unit} {y : Call}
    (taken : c.handler.arity.Takes c.signature.parameters.length)
    (invokes : Invokes e c context positionals s x r t) (handled : y ∈ x.handled) :
    ∃ values, y.callee = .handler values ∧ values.length = c.signature.parameters.length ∧
      (y.found.handed c.handler values).length = c.signature.parameters.length ∧
      perform e (c.handler.behaviour (y.found.handed c.handler values))
        (y.found.calledWith c.handler values) = (y.result, y.left) := by
  obtain ⟨values, hcallee, hbound, -, hcall⟩ := invokes.isLawful.handler y handled
  have hlength : values.length = c.signature.parameters.length := Binding.length_bind hbound
  have hperform := call_of_takes e y.found (hlength ▸ taken)
  exact ⟨values, hcallee, hlength, length_handed.trans hlength, hperform.symm.trans hcall⟩

/-- A command is declared exactly if its handler takes one value for each parameter. A call with as
many values is then what the handler does, and fails if they are not taken. No line leads to any
other call: the handler is called with one value for each parameter, and the call is what it does
with them. -/
theorem declared_calls_taken (signature : Signature) (inspectable : h.found = some h.arity)
    (named : Command.checkName (name.orElse h.name) = .ok n)
    (described : Command.checkDescr descr = .ok d) :
    ((∃ c, Command.declare h signature name descr = .ok c) ↔
      h.arity.Takes signature.parameters.length) ∧
    (¬ h.arity.Takes signature.parameters.length →
      Command.declare h signature name descr =
        .error (.handlerArity n.1 signature.parameters.length)) ∧
    (∀ (e : Engine) (s : Session) (values : List Value),
      values.length = signature.parameters.length →
        (h.arity.Takes signature.parameters.length → call e h values s =
          perform e (h.behaviour (s.handed h values)) (s.calledWith h values)) ∧
        (¬ h.arity.Takes signature.parameters.length →
          ∃ m, call e h values s = (.error (.misuse m), s) ∧ m.kind = .type)) ∧
    ∀ c, Command.declare h signature name descr = .ok c →
      ∀ (e : Engine) (s : Session) (line asked : String) (rest : List String),
        s.Asks line asked rest c → c.required ≤ (s.positionalsOf rest).length →
          ∃ x r t, execute e (.text line) s = (r, { t with phase := t.restingPhase }) ∧
            Invokes e c ⟨line, asked :: rest, s.flagsOf rest, some c.name⟩
              (s.positionalsOf rest) s x r t ∧
            ∀ y ∈ x.handled, ∃ values, y.callee = .handler values ∧
              values.length = signature.parameters.length ∧
              (y.found.handed h values).length = signature.parameters.length ∧
              perform e (h.behaviour (y.found.handed h values)) (y.found.calledWith h values) =
                (y.result, y.left) := by
  have htakes : h.mayAccept signature.parameters.length = true ↔
      h.arity.Takes signature.parameters.length := Command.mayAccept_iff_takes inspectable
  refine ⟨⟨?_, ?_⟩, ?_, ?_, ?_⟩
  · rintro ⟨c, hdeclared⟩
    exact htakes.mp (Command.parts_of_declare named described hdeclared).1
  · intro htaken
    exact ⟨_, Command.declare_of_mayAccept named described (htakes.mpr htaken)⟩
  · intro huntaken
    exact Command.declare_of_not_mayAccept named described (mt htakes.mp huntaken)
  · intro e s values hlength
    rw [← hlength]
    exact ⟨call_of_takes e s, exists_call_misuse e s⟩
  · intro c hdeclared e s line asked rest hasks henough
    obtain ⟨haccepted, rfl, rfl⟩ := Command.parts_of_declare named described hdeclared
    obtain ⟨x, r, t, hexecute, hinvokes⟩ := exists_execute_invokes e hasks henough
    exact ⟨x, r, t, hexecute, hinvokes, fun y => handled_of_takes (htakes.mp haccepted) hinvokes⟩

def ranged : Handler where
  label := some "pair"
  name := .text "pair"
  qualifiedName := some "pair"
  shows := "pair"
  arity := { required := 1, optional := 1, rest := false }
  behaviour := fun _ => .finish .none

def rangedPair : Command where
  name := "pair"
  handler := ranged
  signature := Binding.early.signature
  descr := none
  name_ne := by simp
  name_single := rfl
  accepts_values := rfl

/-- Two values are taken, and none is not. The line gives one of the two, and the handler is called
with both. -/
theorem declared_calls_taken_ranged :
    Command.declare ranged .empty .unset .unset = .error (.handlerArity "pair" 0) ∧
    ranged.arity.Takes 2 ∧
    ∃ s, Command.declare ranged Binding.early.signature .unset .unset = .ok rangedPair ∧
      start "" {} [.command rangedPair] [] = .ok s ∧
      ∃ (x : Invocation) (r : Except Failure Unit) (t : Session),
        execute fullEngine (.text "pair 1") s = (r, { t with phase := t.restingPhase }) ∧
        ∃ y ∈ x.handled, ∃ values, y.callee = .handler values ∧ values.length = 2 ∧
          (y.found.handed ranged values).length = 2 ∧
          perform fullEngine (.finish .none) (y.found.calledWith ranged values) =
            (y.result, y.left) := by
  have named : Command.checkName (Value.unset.orElse ranged.name) =
      .ok ⟨"pair", by decide, by decide⟩ := rfl
  have described : Command.checkDescr .unset = .ok none := rfl
  have untaken : ¬ ranged.arity.Takes 0 := by
    rw [← Arity.accepts_iff_takes]
    decide
  have refused := (declared_calls_taken (h := ranged) .empty rfl named described).2.1 untaken
  obtain ⟨accepted, -, -, called⟩ :=
    declared_calls_taken (h := ranged) Binding.early.signature rfl named described
  let s : Session := { ofProcess "" {} with registry := ⟨[rangedPair]⟩ }
  have declared : Command.declare ranged Binding.early.signature .unset .unset = .ok rangedPair :=
    Command.declare_of_mayAccept named described rfl
  have asks : s.Asks "pair 1" "pair" ["1"] rangedPair := ⟨by decide, by decide, rfl⟩
  obtain ⟨x, r, t, hexecute, hinvokes, hhandled⟩ :=
    called rangedPair declared fullEngine s "pair 1" "pair" ["1"] asks (by decide)
  have given : s.positionalsOf ["1"] = ["1"] := by decide
  rw [given] at hinvokes
  have hbefore : x.before = [] := by
    obtain ⟨hcallees, -, -⟩ : Follows .invoking [] x.before := hinvokes.before_follows
    simpa using hcallees
  have hhanded : x.handled.isSome := by
    rw [hinvokes.handled_iff, Invocation.Passed, hbefore]
    exact ⟨⟨rfl, by simp⟩, [.int 1, .int 7], rfl⟩
  obtain ⟨y, hy⟩ := Option.isSome_iff_exists.mp hhanded
  exact ⟨refused, accepted.mp ⟨_, declared⟩, s, declared, rfl, x, r, t, hexecute, y, hy,
    hhandled y hy⟩

end Session
end LineShell
