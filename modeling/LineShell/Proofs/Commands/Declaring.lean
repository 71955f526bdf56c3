import LineShell.Command
import LineShell.Proofs.Arguments.Typing
import LineShell.Proofs.Commands.Breaches

/-! # Declaring a command

A command is declared at once or step by step. Both ways check the same things in the same order:
the list of parameters, the name, the description, and whether the handler takes as many values. A
step that is refused leaves the draft as it was, and what is declared with a draft is settled by the
parameters that were added before: requests that fail, commands that were built earlier and whatever
comes later make no difference.
-/
namespace LineShell.Command
variable {h : Handler} {signature : Signature} {name descr : Value} {n : Name}
  {d : Option String} {c : Command} {e : Error} {parameters : List Parameter}

theorem declare_of_mayAccept (named : checkName (name.orElse h.name) = .ok n)
    (described : checkDescr descr = .ok d)
    (accepted : h.mayAccept signature.parameters.length = true) :
    declare h signature name descr = .ok ⟨n.1, h, signature, d, n.2.1, n.2.2, accepted⟩ := by
  obtain ⟨n, nonempty, single⟩ := n
  unfold declare
  rw [named, described]
  exact dif_pos accepted

theorem declare_of_not_mayAccept (named : checkName (name.orElse h.name) = .ok n)
    (described : checkDescr descr = .ok d)
    (refused : ¬ h.mayAccept signature.parameters.length = true) :
    declare h signature name descr = .error (.handlerArity n.1 signature.parameters.length) := by
  obtain ⟨n, nonempty, single⟩ := n
  unfold declare
  rw [named, described]
  exact dif_neg refused

theorem parts_of_declare (named : checkName (name.orElse h.name) = .ok n)
    (described : checkDescr descr = .ok d) (declared : declare h signature name descr = .ok c) :
    h.mayAccept signature.parameters.length = true ∧ c.handler = h ∧ c.signature = signature := by
  by_cases accepted : h.mayAccept signature.parameters.length = true
  · rw [declare_of_mayAccept named described accepted] at declared
    cases declared
    exact ⟨accepted, rfl, rfl⟩
  · rw [declare_of_not_mayAccept named described accepted] at declared
    cases declared

/-- What comes of a declaration: the command, or the first thing that is wrong with the parameters,
the name, the description and the handler, in this order. -/
inductive Declares (h : Handler) (parameters : List Parameter) (name descr : Value) :
    Except Error Command → Prop
  | misdeclared {place : ℕ} {e : Signature.Error}
    (breach : Signature.IsFirstBreach (parameters.map .parameter) place e) :
    Declares h parameters name descr (.error (.signature e))
  | misnamed {e : Error} (legal : Signature.IsLegal parameters)
    (refused : checkName (name.orElse h.name) = .error e) :
    Declares h parameters name descr (.error e)
  | misdescribed {n : Name} {e : Error} (legal : Signature.IsLegal parameters)
    (named : checkName (name.orElse h.name) = .ok n) (refused : checkDescr descr = .error e) :
    Declares h parameters name descr (.error e)
  | unaccepted {n : Name} {d : Option String} (legal : Signature.IsLegal parameters)
    (named : checkName (name.orElse h.name) = .ok n) (described : checkDescr descr = .ok d)
    (refused : h.mayAccept parameters.length = false) :
    Declares h parameters name descr (.error (.handlerArity n.1 parameters.length))
  | declared {c : Command} (legal : Signature.IsLegal parameters)
    (named : checkName (name.orElse h.name) = .ok ⟨c.name, c.name_ne, c.name_single⟩)
    (described : checkDescr descr = .ok c.descr) (handled : c.handler = h)
    (signed : c.signature.parameters = parameters) : Declares h parameters name descr (.ok c)

theorem declares_declare (signature : Signature) :
    Declares h signature.parameters name descr (declare h signature name descr) := by
  cases named : checkName (name.orElse h.name) with
  | error e =>
    have hdeclare : declare h signature name descr = .error e := by
      unfold declare
      rw [named]
      rfl
    rw [hdeclare]
    exact .misnamed signature.isLegal named
  | ok n => cases described : checkDescr descr with
    | error e =>
      have hdeclare : declare h signature name descr = .error e := by
        obtain ⟨n, nonempty, single⟩ := n
        unfold declare
        rw [named, described]
        rfl
      rw [hdeclare]
      exact .misdescribed signature.isLegal named described
    | ok d => cases accepted : h.mayAccept signature.parameters.length with
      | true =>
        rw [declare_of_mayAccept named described accepted]
        exact .declared signature.isLegal named described rfl rfl
      | false =>
        rw [declare_of_not_mayAccept named described (by simp [accepted])]
        exact .unaccepted signature.isLegal named described accepted

theorem declares_ofItems (h : Handler) (parameters : List Parameter) (name descr : Value) :
    Declares h parameters name descr
      (ofItems (some h) (parameters.map .parameter) name descr) := by
  unfold ofItems
  cases hsignature : Signature.ofItems (parameters.map .parameter) with
  | error e =>
    obtain ⟨place, hbreach⟩ := Signature.ofItems_eq_error_iff.mp hsignature
    exact .misdeclared hbreach
  | ok signature =>
    obtain rfl : signature.parameters = parameters :=
      List.map_injective_iff.mpr (fun _ _ => Signature.Item.parameter.inj)
        (Signature.map_of_ofItems hsignature)
    exact declares_declare signature

namespace Draft

inductive Request where
  | add (s : Step) (g : Step.Given)
  | build

inductive Answer where
  | added
  | misused (m : Misuse)
  | refused (e : Error)
  | built (c : Command)

def Answer.ofOutcome : Except Error Command → Answer
  | .ok c => .built c
  | .error e => .refused e

def ask (d : Draft) : Request → Answer × Draft
  | .add s g => match s.misuse? g with
    | some m => (.misused m, d)
    | none => match d.add s g with
      | .ok added => (.added, added)
      | .error e => (.refused e, d)
  | .build => (.ofOutcome d.build, d)

def after (d : Draft) (requests : List Request) : Draft :=
  requests.foldl (fun d r => (d.ask r).2) d

def answers (d : Draft) : List Request → List Answer
  | [] => []
  | r :: rest => (d.ask r).1 :: answers (d.ask r).2 rest

/-- The parameter that a request declares, if it is one that can be declared. -/
def Request.declares? : Request → Option Parameter
  | .add s g => match s.misuse? g with
    | some _ => none
    | none => (Parameter.declare (s.parameter g)).toOption
  | .build => none

variable {d : Draft} {s : Step} {g : Step.Given} {p : Parameter} {r : Request}

theorem add_of_declared (declared : Parameter.declare (s.parameter g) = .ok p) :
    d.add s g = .ok { d with parameters := d.parameters ++ [p] } := by
  unfold add
  rw [declared]
  rfl

theorem add_of_refused {e : Parameter.Error}
    (refused : Parameter.declare (s.parameter g) = .error e) :
    d.add s g = .error (.parameter e) := by
  unfold add
  rw [refused]
  rfl

/-- A request adds the parameter that it declares, and any other one leaves the draft as it is. -/
theorem ask_cases (d : Draft) (r : Request) :
    (∃ p, r.declares? = some p ∧
      d.ask r = (.added, { d with parameters := d.parameters ++ [p] })) ∨
    r.declares? = none ∧ (d.ask r).1 ≠ .added ∧ (d.ask r).2 = d := by
  cases r with
  | build =>
    refine Or.inr ⟨rfl, ?_, rfl⟩
    unfold ask Answer.ofOutcome
    cases d.build <;> simp
  | add s g => cases hmisuse : s.misuse? g with
    | some m => refine Or.inr ⟨?_, ?_, ?_⟩ <;> simp [ask, Request.declares?, hmisuse]
    | none => cases hdeclare : Parameter.declare (s.parameter g) with
      | ok p =>
        refine Or.inl ⟨p, ?_, ?_⟩
        · simp [Request.declares?, hmisuse, hdeclare, Except.toOption]
        · simp [ask, hmisuse, add_of_declared hdeclare]
      | error e =>
        refine Or.inr ⟨?_, ?_, ?_⟩
        · simp [Request.declares?, hmisuse, hdeclare, Except.toOption]
        all_goals simp [ask, hmisuse, add_of_refused hdeclare]

theorem ask_snd (d : Draft) (r : Request) :
    (d.ask r).2 = { d with parameters := d.parameters ++ r.declares?.toList } := by
  rcases ask_cases d r with ⟨p, hp, hask⟩ | ⟨hnone, -, hask⟩
  · rw [hask, hp]
    rfl
  · rw [hask, hnone]
    simp

theorem after_cons (d : Draft) (r : Request) (rest : List Request) :
    d.after (r :: rest) = (d.ask r).2.after rest := rfl

theorem after_eq (d : Draft) (requests : List Request) :
    d.after requests =
      { d with parameters := d.parameters ++ requests.filterMap Request.declares? } := by
  induction requests generalizing d with
  | nil => simp [after]
  | cons r rest ih =>
    rw [after_cons, ih, ask_snd]
    cases hr : r.declares? <;> simp [hr]

theorem answers_append (d : Draft) (requests more : List Request) :
    d.answers (requests ++ more) = d.answers requests ++ (d.after requests).answers more := by
  induction requests generalizing d with
  | nil => rfl
  | cons r rest ih =>
    rw [List.cons_append, answers, answers, ih, after_cons, List.cons_append]

theorem build_eq_ofItems (d : Draft) :
    d.build = ofItems (some d.handler) (d.parameters.map .parameter) d.name d.descr := rfl

theorem add_param_ne {e : Error} (refused : d.add .param g = .error e) (name : String) :
    e ≠ .parameter (.positionalDefault name) ∧ e ≠ .parameter (.namedWithoutDefault name) := by
  have hrole : (Step.param.parameter g).role =
      some (if (Step.param.parameter g).default.isUnset then .positional else .named) := rfl
  cases hdeclare : Parameter.declare (Step.param.parameter g) with
  | ok p =>
    rw [add_of_declared hdeclare] at refused
    cases refused
  | error e =>
    rw [add_of_refused hdeclare] at refused
    cases refused
    obtain ⟨hpositional, hnamed⟩ := Parameter.role_of_declare_default hdeclare name
    refine ⟨?_, ?_⟩
    · rintro ⟨⟩
      obtain ⟨htaken, hdefault⟩ := hpositional rfl
      rw [hrole, hdefault] at htaken
      cases htaken
    · rintro ⟨⟩
      obtain ⟨htaken, hdefault⟩ := hnamed rfl
      rw [hrole, hdefault] at htaken
      cases htaken

/-- However many requests a draft has been asked, with whatever answers, its parameters are those of
the requests that were answered by adding one, in their order; every other request leaves it as it
was. It is then built as a command is declared at once with these parameters, or refused with the
same error, which is that of the first check that fails. A request to build answers so wherever it
stands, and neither it nor what comes after it changes an answer that was given. A `param` is never
refused for its default. -/
theorem build_after (h : Handler) (name descr : Value) :
    ∃ d, start (some h) name descr = .ok d ∧ ∀ requests,
      (d.after requests).parameters = requests.filterMap Request.declares? ∧
      (∀ r, (∃ p, r.declares? = some p ∧ ((d.after requests).ask r).1 = .added) ∨
        r.declares? = none ∧ ((d.after requests).ask r).1 ≠ .added ∧
          ((d.after requests).ask r).2 = d.after requests) ∧
      (d.after requests).build =
        ofItems (some h) ((requests.filterMap Request.declares?).map .parameter) name descr ∧
      Declares h (requests.filterMap Request.declares?) name descr (d.after requests).build ∧
      (∀ more, d.answers (requests ++ .build :: more) =
        d.answers requests ++ .ofOutcome (d.after requests).build ::
          (d.after requests).answers more) ∧
      ∀ g e, (d.after requests).add .param g = .error e → ∀ name,
        e ≠ .parameter (.positionalDefault name) ∧ e ≠ .parameter (.namedWithoutDefault name) := by
  let d : Draft := { handler := h, name, descr }
  have hafter : ∀ requests, d.after requests =
      { d with parameters := requests.filterMap Request.declares? } := after_eq d
  refine ⟨d, rfl, ?_⟩
  intro requests
  have hbuild : (d.after requests).build =
      ofItems (some h) ((requests.filterMap Request.declares?).map .parameter) name descr := by
    rw [hafter, build_eq_ofItems]
  refine ⟨by rw [hafter], ?_, hbuild, ?_, ?_, fun g e => add_param_ne⟩
  · intro r
    rcases ask_cases (d.after requests) r with ⟨p, hp, hask⟩ | hask
    · exact Or.inl ⟨p, hp, by rw [hask]⟩
    · exact Or.inr hask
  · rw [hbuild]
    exact declares_ofItems h _ name descr
  · intro more
    rw [answers_append]
    rfl

end Draft
end LineShell.Command
