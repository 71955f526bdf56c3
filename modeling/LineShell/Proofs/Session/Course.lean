import LineShell.Proofs.Reading.Calls
import LineShell.Proofs.Session.Dismissal
import LineShell.Proofs.Session.Wiring

/-! # The course of the read loop

If handlers and callbacks end in one of the ways that are open to them, no line ends the read loop
but for what cannot be told. Whatever the line is, the engine fails on it with a fault that the loop
shows before it takes the next one. The loop ends when it is told to, or with the input; or else
help is asked for on a command with a default that cannot be told, or a fault has a hint that cannot
be told. Handlers may do to the session what they like in the meantime, so what is assumed of them
is assumed in every session that they and the engine can bring about.
-/
namespace LineShell.Session

def IsCalm (s : Session) : Prop :=
  (∀ source ∈ s.sources, source.IsCalm) ∧ ∀ p ∈ s.readers, p.2.IsCalm

/-- A handler ends as it should: with nothing, with a text, or with a fault that is survived. -/
def Behaves (x : Act Value) (s : Session) : Prop :=
  Meets (fun _ => True) (fun f => f.isRecoverable = true)
    (fun v => v = .none ∨ ∃ text, v = .text text) x s

/-- The sessions that an engine and all that it calls bring about. -/
inductive Reached (e : Engine) (s₀ : Session) : Session → Prop
  | start : Reached e s₀ s₀
  | own {s t : Session} : Reached e s₀ s → Own s t → Reached e s₀ t
  | fetched {s : Session} (number : ℕ) (watching : Bool) :
    Reached e s₀ s → Reached e s₀ (fetch number watching s).2
  | handled {s : Session} {c : Command} {values : List Value} : c ∈ s₀.registry.commands →
    values.length = c.signature.parameters.length → Reached e s₀ s →
      Reached e s₀ (perform e (c.handler.behaviour values) s).2
  | calledBack {s t : Session} {m : Moment} {c : Callback} (values : List Value) :
    Reached e s₀ s → c ∈ s.callbacks m → Reached e s₀ t →
      Reached e s₀ (perform e (c.body values) t).2
  | sprung {s t : Session} {n : ℕ} {o : Outlet} {body : Behaviour} :
    Reached e s₀ s → s.outlets[n]? = some o → o.armed = some body → Reached e s₀ t →
      Reached e s₀ (e.perform body t).2

/-- What is asked of the commands, handlers, callbacks and streams of a session: widths are common
ones, handlers can be called, handlers and callbacks end as they should, and streams never fail. -/
structure IsCourteous (e : Engine) (s₀ : Session) : Prop where
  types : ∀ c ∈ s₀.registry.commands, ∀ p ∈ c.signature.parameters, ∀ type, p.type = some type →
    type.IsBounded
  arities : ∀ c ∈ s₀.registry.commands,
    c.handler.found = some c.handler.arity ∨
      c.handler.arity.accepts c.signature.parameters.length = true
  handlers : ∀ c ∈ s₀.registry.commands, ∀ values,
    values.length = c.signature.parameters.length → ∀ s, Reached e s₀ s →
      Behaves (perform e (c.handler.behaviour values)) s
  callbacks : ∀ s, Reached e s₀ s → ∀ m, ∀ c ∈ s.callbacks m, ∀ values t, Reached e s₀ t →
    Meets (fun _ => True) (fun f => f.isRecoverable = true) (fun _ => True)
      (perform e (c.body values)) t
  traps : ∀ s, Reached e s₀ s → ∀ o ∈ s.outlets, ∀ body, o.armed = some body →
    ∀ t, Reached e s₀ t → Meets (fun _ => True) (fun _ => False) (fun _ => True) (e.perform body) t
  streams : ∀ s, Reached e s₀ s → s.IsCalm

theorem Reached.steps {e : Engine} (steady : e.IsSteady) {s₀ s : Session} (h : Reached e s₀ s) :
    Steps s₀ s := by
  induction h with
  | start => exact .refl
  | own _ ho ih => exact ih.tail (.own ho)
  | fetched number watching _ ih => exact ih.trans (steps_fetch _ number watching)
  | handled _ _ _ ih => exact ih.trans (steady.steps_perform _ _)
  | calledBack values _ _ _ _ ih => exact ih.trans (steady.steps_perform _ _)
  | sprung _ _ _ _ _ ih => exact ih.trans (steady.perform _ _)

theorem Reached.isLegal {e : Engine} (steady : e.IsSteady) {s₀ s : Session}
    (legal : s₀.wiring.IsLegal) (h : Reached e s₀ s) : s.wiring.IsLegal :=
  Steps.isLegal legal (h.steps steady)

theorem Reached.frames {e : Engine} (steady : e.IsSteady) {s₀ s : Session} (h : Reached e s₀ s) :
    Frames s₀ s :=
  Steps.frames (h.steps steady)

/-- A fault that the computation fails with has a hint that can be told, if it has one. -/
def RaisesTold {α : Type} (x : Act α) (s : Session) : Prop :=
  ∀ f, (x s).1 = .error (.fault f) → f.hint.hasPlain = true

/-- All that help and reports show in a session can be told: the defaults of its commands, the
labels of the codes, and the hints of the faults that handlers and callbacks end with. -/
structure IsForthcoming (e : Engine) (s₀ : Session) : Prop where
  commands : ∀ c ∈ s₀.registry.commands, c.isTold = true
  labels : ∀ c : Fault.Code, (c.labelValue s₀.host).hasPlain = true
  handlers : ∀ c ∈ s₀.registry.commands, ∀ values,
    values.length = c.signature.parameters.length → ∀ s, Reached e s₀ s →
      RaisesTold (perform e (c.handler.behaviour values)) s
  callbacks : ∀ s, Reached e s₀ s → ∀ m, ∀ c ∈ s.callbacks m, ∀ values t, Reached e s₀ t →
    RaisesTold (perform e (c.body values)) t

def IsSurvivable (e : Engine) (s₀ : Session) (g : Failure) : Prop :=
  ∃ f, g = .fault f ∧ f.kind.isRecoverable = true ∧ (IsForthcoming e s₀ → f.hint.hasPlain = true)

theorem isSurvivable_of_ends {e : Engine} {s₀ s : Session} {α : Type} {x : Act α} {good : α → Prop}
    (ends : Meets (fun _ => True) (fun f => f.isRecoverable = true) good x s)
    (reached : Reached e s₀ (x s).2) (told : IsForthcoming e s₀ → RaisesTold x s) :
    Meets (Reached e s₀) (IsSurvivable e s₀) good x s := by
  rcases ends.cases with ⟨a, t, hx, -, ha⟩ | ⟨g, t, hx, -, hg⟩
  · rw [hx] at reached
    exact Meets.of_ok hx reached ha
  · rw [hx] at reached
    refine Meets.of_error hx reached ?_
    cases g with
    | fault f => exact ⟨f, rfl, hg, fun forthcoming => told forthcoming f (congrArg Prod.fst hx)⟩
    | _ => cases hg

namespace IsCourteous
variable {e : Engine} {s₀ : Session}

theorem hosts (h : IsCourteous e s₀) (steady : e.IsSteady) :
    Hosts e (Reached e s₀) (IsSurvivable e s₀) (fun _ => False) := by
  have hcommands : ∀ {s c}, Reached e s₀ s → c ∈ s.registry.commands →
      c ∈ s₀.registry.commands := by
    intro s c hs hc
    rw [(hs.frames steady).1] at hc
    exact hc
  refine { own := .own, fetched := .fetched, trap := ?_,
           calm_fault := fun f hf hint => ⟨f, rfl, hf, fun _ => hint⟩,
           calm_quiet := fun _ hf => hf.elim, handler := ?_, arity := ?_, binding := ?_,
           callback := ?_ }
  · intro s t n o body hs ho hb ht
    exact ⟨.sprung hs ho hb ht, (h.traps s hs o (List.mem_of_getElem? ho) body hb t ht).2⟩
  · intro s t c values hs hc hcount ht
    have hc := hcommands hs hc
    refine isSurvivable_of_ends ((h.handlers c hc values hcount t ht).mono_good ?_)
      (.handled hc hcount ht) fun forthcoming => forthcoming.handlers c hc values hcount t ht
    rintro v (rfl | ⟨text, rfl⟩)
    · exact Or.inl rfl
    · exact Or.inl rfl
  · intro s c m hs hc hm
    have hc := hcommands hs hc
    have haccepts : c.handler.arity.accepts c.signature.parameters.length = true :=
      (h.arities c hc).elim (fun truth => Handler.accepts_of_mayAccept truth c.accepts_values) id
    rw [Arity.misuse?_eq_none_iff.mpr haccepts] at hm
    cases hm
  · intro s c positionals flags lenient f hs hc hf
    obtain ⟨fault, hfault, hkind, hhint⟩ :=
      Binding.exists_fault_of_bind (h.types c (hcommands hs hc)) hf
    exact ⟨fault, hfault, hkind, fun _ => hhint⟩
  · intro s t m c values hs hc ht
    exact isSurvivable_of_ends (h.callbacks s hs m c hc values t ht) (.calledBack values hs hc ht)
      fun forthcoming => forthcoming.callbacks s hs m c hc values t ht

end IsCourteous

/-- The reader of the number waits for a source that answers nothing. -/
def Waits (s : Session) (number : ℕ) : Prop :=
  ∃ input r source, s.readers[number]? = some (input, r) ∧ s.sources[input]? = some source ∧
    source.answer? = none

section
variable {s t : Session} {number : ℕ} {watching : Bool}

theorem exists_wired (legal : s.wiring.IsLegal) (there : number < s.readers.length) :
    ∃ input r source, s.readers[number]? = some (input, r) ∧ s.sources[input]? = some source := by
  obtain ⟨hlt, _⟩ := legal.readers (s.readers[number]) (List.getElem_mem there)
  exact ⟨_, _, _, List.getElem?_eq_getElem there, List.getElem?_eq_getElem hlt⟩

theorem remaining_fetch {line : String} (legal : s.wiring.IsLegal)
    (there : number < s.readers.length)
    (h : fetch number watching s = (.ok (.line line), t)) :
    t.wiring.remaining number + 1 ≤ s.wiring.remaining number := by
  obtain ⟨input, r, source, hr, hs⟩ := exists_wired legal there
  rw [fetch_of_wired hr hs] at h
  obtain ⟨ha, rfl⟩ := Prod.mk.inj h
  have hlength := LineReader.length_readLine (Except.ok.inj ha)
  generalize r.readLine source (watching && s.cancelled) [s.stopping] = result at hlength ⊢
  have hlt := (List.getElem?_eq_some_iff.mp hs).1
  have hafter :
      (s.serve number input result.2.1 result.2.2 result.1.line?).wiring.readers[number]? =
      some (input, result.2.1) := List.getElem?_set_self there
  have hsource :
      (s.serve number input result.2.1 result.2.2 result.1.line?).wiring.sources[input]? =
      some result.2.2 := List.getElem?_set_self hlt
  rw [Wiring.remaining_of_reader hafter, Wiring.items_of_source hsource,
    Wiring.remaining_of_reader (w := s.wiring) hr, Wiring.items_of_source (w := s.wiring) hs]
  exact hlength

theorem eq_endOfInput_of_fetch {f : Failure} (legal : s.wiring.IsLegal)
    (there : number < s.readers.length) (calm : s.IsCalm)
    (h : fetch number watching s = (.ok (.failed f), t)) : f = .endOfInput := by
  obtain ⟨input, r, source, hr, hs⟩ := exists_wired legal there
  rw [fetch_of_wired hr hs] at h
  obtain ⟨ha, rfl⟩ := Prod.mk.inj h
  have hmem := List.mem_of_getElem? hr
  exact LineReader.eq_endOfInput_of_readLine (legal.readers _ hmem).2 (calm.2 _ hmem)
    (calm.1 _ (List.mem_of_getElem? hs)) (Except.ok.inj ha)

theorem interrupted_of_fetch (legal : s.wiring.IsLegal) (there : number < s.readers.length)
    (calm : s.IsCalm) (h : fetch number watching s = (.ok .interrupted, t)) :
    (s.stopping || (watching && s.cancelled)) = true ∨ t.Waits number := by
  obtain ⟨input, r, source, hr, hs⟩ := exists_wired legal there
  rw [fetch_of_wired hr hs] at h
  obtain ⟨ha, rfl⟩ := Prod.mk.inj h
  have hmem := List.mem_of_getElem? hr
  rcases LineReader.interrupted_of_readLine (legal.readers _ hmem).2 (calm.2 _ hmem)
    (calm.1 _ (List.mem_of_getElem? hs)) (Except.ok.inj ha) with told | hnone
  · exact Or.inl told
  · have hlt := (List.getElem?_eq_some_iff.mp hs).1
    exact Or.inr ⟨input, _, _, List.getElem?_set_self there, List.getElem?_set_self hlt, hnone⟩

end

def Shows (f : Fault) (s t : Session) : Prop :=
  ∃ o text more, s.outlets[s.errors]? = some o ∧
    f.printed s.host (.text s.settings.interfaceName) = .ok text ∧
    t.journal = s.journal ++ .wrote o.sink text :: more

/-- How the read loop deals with a line: it is executed, a fault is shown, and the loop goes on; or
the loop ends for what cannot be told. -/
inductive Obeys (e : Engine) (line : String) (s : Session) : Except Failure Unit → Session → Prop
  | executed {t : Session} (done : execute e (.text line) s = (.ok (), t)) :
    Obeys e line s (.ok ()) t
  | reported {t u : Session} {f : Fault}
    (failed : execute e (.text line) s = (.error (.fault f), t))
    (recoverable : f.kind.isRecoverable = true)
    (reported : report e f t = (.ok (), u)) (shown : Shows f t u) : Obeys e line s (.ok ()) u
  /-- Help is asked for, and a default cannot be told. -/
  | unhelped {t : Session} {topics : List String} (asks : s.AsksForHelp line topics)
    (untold : ∃ c ∈ s.registry.commands, c.isTold = false)
    (failed : execute e (.text line) s = (.error (.misuse .tooManyDigits), t)) :
    Obeys e line s (.error (.misuse .tooManyDigits)) t
  /-- The fault is survived, and a part of it cannot be told. -/
  | unreported {t : Session} {f : Fault}
    (failed : execute e (.text line) s = (.error (.fault f), t))
    (recoverable : f.kind.isRecoverable = true) (untold : t.canReport f = false)
    (unreported : report e f t = (.error (.misuse .tooManyDigits), t)) :
    Obeys e line s (.error (.misuse .tooManyDigits)) t

structure Prompts (e : Engine) (number : ℕ) (watching : Bool) (s t u : Session)
    (answer : LineReader.Answer) : Prop where
  go : (s.stopping || (watching && s.cancelled)) = false
  prompted : printPrompt e s = (.ok (), t)
  fetched : fetch number watching t = (.ok answer, u)

/-- How the read loop goes, from a session to the one in which it ends, and what it comes to. -/
inductive Course (e : Engine) (number : ℕ) (watching : Bool) :
    Session → Except Failure Unit → Session → Prop
  | told {s : Session} (stop : (s.stopping || (watching && s.cancelled)) = true) :
    Course e number watching s (.ok ()) s
  /-- The loop was told to end while the prompt was written. -/
  | toldLate {s t u : Session} (prompts : Prompts e number watching s t u .interrupted)
    (stop : (t.stopping || (watching && t.cancelled)) = true) :
    Course e number watching s (.ok ()) u
  | ended {s t u : Session} (prompts : Prompts e number watching s t u (.failed .endOfInput)) :
    Course e number watching s (.ok ()) u
  /-- The source makes the loop wait for ever. -/
  | waiting {s t u : Session} (prompts : Prompts e number watching s t u .interrupted)
    (waits : u.Waits number) : Course e number watching s (.ok ()) u
  | obeyed {s t u v w : Session} {line : String} {r : Except Failure Unit}
    (prompts : Prompts e number watching s t u (.line line)) (obeys : Obeys e line u (.ok ()) v)
    (next : Course e number watching v r w) : Course e number watching s r w
  | failed {s t u v : Session} {line : String} {f : Failure}
    (prompts : Prompts e number watching s t u (.line line))
    (obeys : Obeys e line u (.error f) v) : Course e number watching s (.error f) v

theorem Obeys.obey_of_ok {e : Engine} {line : String} {s t : Session}
    (h : Obeys e line s (.ok ()) t) (next : Act Unit) : obey e line next s = next t := by
  cases h with
  | executed done => exact Session.obey_of_ok done
  | reported failed recoverable reported _ => exact obey_of_fault failed recoverable reported

theorem Obeys.obey_of_error {e : Engine} {line : String} {s t : Session} {f : Failure}
    (h : Obeys e line s (.error f) t) (next : Act Unit) : obey e line next s = (.error f, t) := by
  cases h with
  | unhelped _ _ failed => exact obey_of_misuse failed
  | unreported failed recoverable _ unreported =>
    exact obey_of_report_error failed recoverable unreported

theorem shows_of_report {e : Engine} (steady : e.IsSteady) {s t : Session} {f : Fault}
    (legal : s.wiring.IsLegal) (told : s.canReport f = true) (h : report e f s = (.ok (), t)) :
    Shows f s t := by
  obtain ⟨text, hprinted, hreport⟩ := report_of_told (e := e) told
  have hlt : s.errors < s.outlets.length := legal.errors
  obtain ⟨o, there⟩ : ∃ o, s.outlets[s.errors]? = some o := ⟨_, List.getElem?_eq_getElem hlt⟩
  have hsteps := steady.steps_write there text
  rw [← hreport, h] at hsteps
  obtain ⟨more, hmore⟩ := (Steps.frames hsteps).2.2
  refine ⟨o, text, more, there, hprinted, ?_⟩
  rw [← hmore]
  unfold record
  simp

namespace IsCourteous
variable {e : Engine} {s₀ : Session} {number : ℕ} {watching : Bool}

/-- Whatever the line is, its execution succeeds or fails in a way that the read loop survives if it
can show the fault, or the line asks for help that cannot be told. -/
theorem execute_cases (h : IsCourteous e s₀) (steady : e.IsSteady) {s : Session}
    (hs : Reached e s₀ s) (line : String) :
    ∃ t, Reached e s₀ t ∧ (execute e (.text line) s = (.ok (), t) ∨
      (∃ f : Fault, execute e (.text line) s = (.error (.fault f), t) ∧
        f.kind.isRecoverable = true ∧ (IsForthcoming e s₀ → f.hint.hasPlain = true)) ∨
      execute e (.text line) s = (.error (.misuse .tooManyDigits), t) ∧
        (∃ topics, s.AsksForHelp line topics) ∧ ∃ c ∈ s.registry.commands, c.isTold = false) := by
  rcases ((h.hosts steady).serves.execute hs line).cases with ⟨_, t, hx, ht, _⟩ | ⟨g, t, hx, ht, hg⟩
  · exact ⟨t, ht, Or.inl hx⟩
  · refine ⟨t, ht, Or.inr ?_⟩
    rcases hg with ⟨f, rfl, hf, hhint⟩ | ⟨hasks, rfl, u, hu, c, hc, huntold⟩
    · exact Or.inl ⟨f, hx, hf, hhint⟩
    · rw [(hu.frames steady).1, ← (hs.frames steady).1] at hc
      exact Or.inr ⟨hx, hasks, c, hc, huntold⟩

theorem canReport_of_forthcoming (steady : e.IsSteady) {s : Session} (hs : Reached e s₀ s)
    (forthcoming : IsForthcoming e s₀) {f : Fault} (hint : f.hint.hasPlain = true) :
    s.canReport f = true := by
  have hlabel := forthcoming.labels f.code
  rw [← (hs.frames steady).2.1] at hlabel
  unfold canReport Fault.isTold
  rw [hlabel, hint]
  rfl

theorem exists_obeys (h : IsCourteous e s₀) (steady : e.IsSteady) (legal : s₀.wiring.IsLegal)
    {s : Session} (hs : Reached e s₀ s) (line : String) :
    ∃ r t, Obeys e line s r t ∧ Reached e s₀ t ∧ Steps s t ∧
      (IsForthcoming e s₀ → r = .ok ()) := by
  have hexecuted := steady.steps_execute (.text line) s
  obtain ⟨t, ht, hdone | ⟨f, hfailed, hf, hhint⟩ | ⟨hfailed, ⟨topics, hasks⟩, huntold⟩⟩ :=
    h.execute_cases steady hs line
  · rw [hdone] at hexecuted
    exact ⟨_, t, .executed hdone, ht, hexecuted, fun _ => rfl⟩
  · rw [hfailed] at hexecuted
    cases htold : t.canReport f with
    | true =>
      obtain ⟨u, hreport, hu⟩ := ((h.hosts steady).tends.report ht htold).exists_ok
      have hreported := ((steady.keeps t).tends.report .refl htold).left
      rw [hreport] at hreported
      have hshown := shows_of_report steady (ht.isLegal steady legal) htold hreport
      exact ⟨_, u, .reported hfailed hf hreport hshown, hu, hexecuted.trans hreported, fun _ => rfl⟩
    | false =>
      refine ⟨_, t, .unreported hfailed hf htold (report_of_untold htold), ht, hexecuted, ?_⟩
      intro forthcoming
      rw [canReport_of_forthcoming steady ht forthcoming (hhint forthcoming)] at htold
      cases htold
  · rw [hfailed] at hexecuted
    refine ⟨_, t, .unhelped hasks huntold hfailed, ht, hexecuted, ?_⟩
    intro forthcoming
    obtain ⟨c, hc, huntold⟩ := huntold
    rw [(hs.frames steady).1] at hc
    rw [forthcoming.commands c hc] at huntold
    cases huntold

theorem course_of_loop (h : IsCourteous e s₀) (steady : e.IsSteady) (legal : s₀.wiring.IsLegal)
    {rounds : ℕ} {s : Session} (hs : Reached e s₀ s) (there : number < s.readers.length)
    (enough : s.wiring.remaining number < rounds) :
    ∃ r t, loop e number watching rounds s = (r, t) ∧ Course e number watching s r t ∧
      (IsForthcoming e s₀ → r = .ok ()) := by
  -- Each round takes a line off those that are still to come.
  induction rounds generalizing s with
  | zero => omega
  | succ rounds ih =>
    cases hgo : (s.stopping || (watching && s.cancelled)) with
    | true => exact ⟨_, s, loop_of_told hgo, .told hgo, fun _ => rfl⟩
    | false =>
      obtain ⟨t, hprompt, ht⟩ := ((h.hosts steady).tends.printPrompt hs).exists_ok
      have hst := ((steady.keeps s).tends.printPrompt .refl).left
      rw [hprompt] at hst
      have hlegal := ht.isLegal steady legal
      have htthere : number < t.readers.length := there.trans_le (Steps.grows hst).1
      have hleft : t.wiring.remaining number ≤ s.wiring.remaining number :=
        Steps.remaining_le (hs.isLegal steady legal) hst there
      obtain ⟨answer, u, hfetch⟩ := exists_fetch_ok number watching t
      have hprompts : Prompts e number watching s t u answer := ⟨hgo, hprompt, hfetch⟩
      have hu := Reached.fetched number watching ht
      have htu := steps_fetch t number watching
      rw [hfetch] at hu htu
      cases answer with
      | interrupted =>
        refine ⟨_, u, loop_of_interrupted hgo hprompt hfetch, ?_, fun _ => rfl⟩
        rcases interrupted_of_fetch hlegal htthere (h.streams t ht) hfetch with hstop | hwaits
        · exact .toldLate hprompts hstop
        · exact .waiting hprompts hwaits
      | failed f =>
        obtain rfl := eq_endOfInput_of_fetch hlegal htthere (h.streams t ht) hfetch
        exact ⟨_, u, loop_of_endOfInput hgo hprompt hfetch, .ended hprompts, fun _ => rfl⟩
      | line line =>
        have huthere : number < u.readers.length := htthere.trans_le (Steps.grows htu).1
        have hfetched := remaining_fetch hlegal htthere hfetch
        obtain ⟨r, v, hobeys, hv, huv, htold⟩ := h.exists_obeys steady legal hu line
        rw [loop_of_line hgo hprompt hfetch]
        cases r with
        | error f => exact ⟨_, v, hobeys.obey_of_error _, .failed hprompts hobeys, htold⟩
        | ok _ =>
          have hkept : v.wiring.remaining number ≤ u.wiring.remaining number :=
            Steps.remaining_le (hu.isLegal steady legal) huv huthere
          obtain ⟨r, w, hloop, hcourse, htold⟩ :=
            ih hv (huthere.trans_le (Steps.grows huv).1) (by omega)
          exact ⟨r, w, (hobeys.obey_of_ok _).trans hloop, .obeyed hprompts hobeys hcourse, htold⟩

end IsCourteous

theorem currentReader_lt {s t : Session} {number : ℕ} (h : currentReader s = (.ok number, t)) :
    number < t.readers.length := by
  cases hu : s.usableReader with
  | some n =>
    rw [currentReader_of_usable hu] at h
    cases h
    obtain ⟨_, hn⟩ := Option.filter_eq_some_iff.mp hu
    by_contra hlt
    rw [List.getElem?_eq_none (Nat.le_of_not_lt hlt)] at hn
    cases hn
  | none =>
    rw [currentReader_of_none hu] at h
    cases h
    simp

/-- The rounds that a run allows itself are enough for all lines that its reader can deliver. -/
theorem remaining_lt_rounds {s : Session} {number : ℕ} (there : number < s.readers.length) :
    s.wiring.remaining number < s.rounds number := by
  have hr : s.readers[number]? = some s.readers[number] := List.getElem?_eq_getElem there
  have hheld : s.readers[number].2.held.length ≤ s.readers[number].2.queue.length :=
    List.length_filterMap_le ..
  rw [Wiring.remaining_of_reader (w := s.wiring) hr]
  unfold rounds
  rw [hr]
  exact Nat.lt_succ_of_le (Nat.add_le_add_right hheld _)

theorem IsCalm.fetch {s : Session} (h : s.IsCalm) (legal : s.wiring.IsLegal) (number : ℕ)
    (watching : Bool) : (fetch number watching s).2.IsCalm := by
  rcases fetch_cases s number watching with ⟨input, r, source, there, wired⟩ | hf
  · have hmem := List.mem_of_getElem? there
    obtain ⟨hr, hs⟩ := LineReader.isCalm_readLine (legal.readers _ hmem).2 (h.2 _ hmem)
      (h.1 _ (List.mem_of_getElem? wired)) (watching && s.cancelled) [s.stopping]
    rw [fetch_of_wired there wired]
    refine ⟨?_, ?_⟩
    · intro q hq
      rcases List.mem_or_eq_of_mem_set hq with hq | rfl
      · exact h.1 q hq
      · exact hs
    · intro p hp
      rcases List.mem_or_eq_of_mem_set hp with hp | rfl
      · exact h.2 p hp
      · exact hr
  · rw [hf]
    exact h

/-- A session in which nothing but handlers is called, and those only give their results. -/
structure IsPlain (s : Session) : Prop where
  calm : s.IsCalm
  callbacks : ∀ m, s.callbacks m = []
  traps : ∀ o ∈ s.outlets, o.armed = none

theorem IsPlain.own {s t : Session} (h : s.IsPlain) (hs : Own s t) : t.IsPlain := by
  cases hs with
  | @disarmed n o there =>
    refine ⟨h.calm, h.callbacks, ?_⟩
    intro q hq
    rcases List.mem_or_eq_of_mem_set hq with hq | rfl
    · exact h.traps q hq
    · rfl
  | opened =>
    cases hu : s.usableReader with
    | some number =>
      rw [currentReader_of_usable hu]
      exact h
    | none =>
      rw [currentReader_of_none hu]
      refine ⟨⟨h.calm.1, ?_⟩, h.callbacks, h.traps⟩
      intro p hp
      rcases List.mem_append.mp hp with hp | hp
      · exact h.calm.2 p hp
      · rw [List.mem_singleton.mp hp]
        exact LineReader.isCalm_new
  | _ => exact ⟨h.calm, h.callbacks, h.traps⟩

theorem IsPlain.fetch {s : Session} (h : s.IsPlain) (legal : s.wiring.IsLegal) (number : ℕ)
    (watching : Bool) : (fetch number watching s).2.IsPlain := by
  have hcalm := h.calm.fetch legal number watching
  rcases fetch_cases s number watching with ⟨input, r, source, there, wired⟩ | hf
  · rw [fetch_of_wired there wired] at hcalm ⊢
    exact ⟨hcalm, h.callbacks, h.traps⟩
  · rw [hf]
    exact h

theorem Reached.isPlain {e : Engine} (steady : e.IsSteady) {s₀ s : Session}
    (legal : s₀.wiring.IsLegal) (plain : s₀.IsPlain)
    (handlers : ∀ c ∈ s₀.registry.commands, ∀ values, ∃ v, c.handler.behaviour values = .finish v)
    (h : Reached e s₀ s) : s.IsPlain := by
  induction h with
  | start => exact plain
  | own _ ho ih => exact ih.own ho
  | fetched number watching ht ih =>
    exact ih.fetch (ht.isLegal steady legal) number watching
  | @handled t c values hc _ _ ih =>
    obtain ⟨v, hv⟩ := handlers c hc values
    rw [hv]
    exact ih
  | calledBack values _ hc _ hs _ =>
    rw [hs.callbacks] at hc
    cases hc
  | sprung _ ho hb _ hs _ =>
    rw [hs.traps _ (List.mem_of_getElem? ho)] at hb
    cases hb

theorem IsPlain.isCourteous {e : Engine} (steady : e.IsSteady) {s : Session} (plain : s.IsPlain)
    (legal : s.wiring.IsLegal)
    (types : ∀ c ∈ s.registry.commands, ∀ p ∈ c.signature.parameters, ∀ type,
      p.type = some type → type.IsBounded)
    (arities : ∀ c ∈ s.registry.commands, c.handler.found = some c.handler.arity)
    (handlers : ∀ c ∈ s.registry.commands, ∀ values, ∃ v,
      c.handler.behaviour values = .finish v ∧ (v = .none ∨ ∃ text, v = .text text)) :
    IsCourteous e s := by
  have hplain : ∀ t, Reached e s t → t.IsPlain := by
    intro t ht
    refine ht.isPlain steady legal plain ?_
    intro c hc values
    obtain ⟨v, hv, _⟩ := handlers c hc values
    exact ⟨v, hv⟩
  refine ⟨types, fun c hc => Or.inl (arities c hc), ?_, ?_, ?_, fun t ht => (hplain t ht).calm⟩
  · intro c hc values _ t _
    obtain ⟨v, hv, hgood⟩ := handlers c hc values
    rw [hv]
    exact ⟨trivial, hgood⟩
  · intro t ht m c hc
    rw [(hplain t ht).callbacks] at hc
    cases hc
  · intro t ht o ho body hb
    rw [(hplain t ht).traps o ho] at hb
    cases hb

theorem IsPlain.isForthcoming {e : Engine} (steady : e.IsSteady) {s : Session} (plain : s.IsPlain)
    (legal : s.wiring.IsLegal) (told : ∀ c ∈ s.registry.commands, c.isTold = true)
    (labels : s.host.codes = [])
    (handlers : ∀ c ∈ s.registry.commands, ∀ values, ∃ v, c.handler.behaviour values = .finish v) :
    IsForthcoming e s where
  commands := told
  labels := Fault.Code.hasPlain_labelValue labels
  handlers := by
    intro c hc values _ t _ f hf
    obtain ⟨v, hv⟩ := handlers c hc values
    rw [hv] at hf
    cases hf
  callbacks := by
    intro t ht m c hc
    rw [(ht.isPlain steady legal plain handlers).callbacks] at hc
    cases hc

/-- No line can end the read loop of a session that has been made and used in any way, if its
commands are of common types and what it calls ends as it should, but for what cannot be told. A run
takes its course. If the defaults of the commands, the labels of the codes and the hints of faults
can be told, it ends normally. In whatever session it is executed, a line succeeds or fails with a
fault that the loop survives, or it asks for help on a default that cannot be told. -/
theorem run_takes_course {input : String} {host : Host} {items : List Registry.Item}
    {given : List (String × Given Behaviour)} {s₀ s : Session} {depth : ℕ}
    (started : start input host items given = .ok s₀) (before : Steps s₀ s)
    (courteous : IsCourteous (engine depth) s) (watching : Bool) :
    (∃ number t r u, currentReader s = (.ok number, t) ∧
      Course (engine depth) number watching t r u ∧
      run (engine depth) watching s = (r, { u with stopping := false, phase := .idle }) ∧
      (IsForthcoming (engine depth) s → r = .ok ())) ∧
    ∀ t, Reached (engine depth) s t → ∀ line : String, ∃ u,
      execute (engine depth) (.text line) t = (.ok (), u) ∨
      (∃ f : Fault, execute (engine depth) (.text line) t = (.error (.fault f), u) ∧
        f.kind.isRecoverable = true) ∨
      execute (engine depth) (.text line) t = (.error (.misuse .tooManyDigits), u) ∧
        (∃ topics, t.AsksForHelp line topics) ∧ ∃ c ∈ t.registry.commands, c.isTold = false := by
  have steady := isSteady_engine depth
  have legal : s.wiring.IsLegal := before.isLegal (isLegal_of_start started)
  refine ⟨?_, ?_⟩
  · obtain ⟨number, t, hopen⟩ := exists_currentReader_ok s
    have ht := Reached.own (.start : Reached (engine depth) s s) .opened
    rw [hopen] at ht
    have there := currentReader_lt hopen
    obtain ⟨r, u, hloop, hcourse, htold⟩ :=
      courteous.course_of_loop steady legal ht there (remaining_lt_rounds there)
    exact ⟨number, t, r, u, hopen, hcourse, run_of_loop hopen hloop, htold⟩
  · intro t ht line
    obtain ⟨u, _, hdone | ⟨f, hfailed, hf, _⟩ | hunhelped⟩ := courteous.execute_cases steady ht line
    · exact ⟨u, Or.inl hdone⟩
    · exact ⟨u, Or.inr (Or.inl ⟨f, hfailed, hf⟩)⟩
    · exact ⟨u, Or.inr (Or.inr hunhelped)⟩

def ping : Command where
  name := "ping"
  handler := {
    label := some "ping", name := .text "ping", qualifiedName := some "ping", shows := "ping"
    arity := { required := 0, optional := 0, rest := false }
    behaviour := fun _ => .finish (.text "pong") }
  signature := .empty
  descr := none
  name_ne := by decide
  name_single := by decide
  accepts_values := by decide

theorem isPlain_ofProcess (input : String) (c : Command) :
    IsPlain { ofProcess input {} with registry := ⟨[c]⟩ } where
  calm := by
    refine ⟨?_, fun p hp => nomatch hp⟩
    intro source hs
    rw [List.mem_singleton.mp hs]
    exact Source.isCalm_ofText _
  callbacks m := by cases m <;> rfl
  traps := by
    intro o ho
    rcases List.mem_cons.mp ho with rfl | ho
    · rfl
    · rw [List.mem_singleton.mp ho]

/-- Lines without a command, with a region left open, and with a token too many. -/
theorem run_takes_course_ping :
    ∃ s, start "nothing\n\"open\nping 1\n" {} [.command ping] [] = .ok s ∧
      IsCourteous fullEngine s ∧ IsForthcoming fullEngine s ∧
      ∃ number t u, currentReader s = (.ok number, t) ∧
        Course fullEngine number false t (.ok ()) u ∧
        run fullEngine false s = (.ok (), { u with stopping := false, phase := .idle }) := by
  let s : Session := { ofProcess "nothing\n\"open\nping 1\n" {} with registry := ⟨[ping]⟩ }
  have started : start "nothing\n\"open\nping 1\n" {} [.command ping] [] = .ok s := rfl
  have plain : s.IsPlain := isPlain_ofProcess _ ping
  have steady := isSteady_engine nestingLimit
  have legal := isLegal_of_start started
  have only : ∀ c ∈ s.registry.commands, c = ping := fun c hc => List.mem_singleton.mp hc
  have courteous : IsCourteous fullEngine s := by
    refine plain.isCourteous steady legal ?_ ?_ ?_
    · intro c hc p hp
      rw [only c hc] at hp
      cases hp
    · intro c hc
      rw [only c hc]
      rfl
    · intro c hc values
      rw [only c hc]
      exact ⟨_, rfl, Or.inr ⟨"pong", rfl⟩⟩
  have forthcoming : IsForthcoming fullEngine s := by
    refine plain.isForthcoming steady legal ?_ rfl ?_
    · intro c hc
      rw [only c hc]
      rfl
    · intro c hc values
      rw [only c hc]
      exact ⟨_, rfl⟩
  obtain ⟨number, t, r, u, hopen, hcourse, hrun, htold⟩ :=
    (run_takes_course started .refl courteous false).1
  obtain rfl := htold forthcoming
  exact ⟨s, started, courteous, forthcoming, number, t, u, hopen, hcourse, hrun⟩

def vast : Command where
  name := "f"
  handler := {
    label := some "f", name := .text "f", qualifiedName := some "f", shows := "f"
    arity := .any
    behaviour := fun _ => .finish .none }
  signature := ⟨[{
    name := "n", role := .named, type := some .int, nullable := false
    default := some (.int (Number.power 10 Number.maxDigits)), descr := none
    name_identifier := by decide
    type_isSome := rfl
    default_of_positional := fun h => nomatch h
    default_of_named := fun _ => rfl }], rfl⟩
  descr := none
  name_ne := by decide
  name_single := by decide
  accepts_values := rfl

theorem isTold_vast : vast.isTold = false := by
  have huntold := Number.hasText_power_maxDigits
  rw [← Value.hasPlain_int] at huntold
  have hdefault : vast.isTold =
      ((Value.int (Number.power 10 Number.maxDigits)).hasPlain && true) := rfl
  rw [hdefault, huntold, Bool.false_and]

/-- A line that asks for help ends the read loop, though handlers and streams do as they should. -/
theorem exists_help_untold :
    ∃ s t, start "help\n" {} [.command vast] [] = .ok s ∧ IsCourteous fullEngine s ∧
      run fullEngine false s = (.error (.misuse .tooManyDigits), t) := by
  let s : Session := { ofProcess "help\n" {} with registry := ⟨[vast]⟩ }
  have started : start "help\n" {} [.command vast] [] = .ok s := rfl
  have plain : s.IsPlain := isPlain_ofProcess _ vast
  have only : ∀ c ∈ s.registry.commands, c = vast := fun c hc => List.mem_singleton.mp hc
  have courteous : IsCourteous fullEngine s := by
    refine plain.isCourteous (isSteady_engine nestingLimit) (isLegal_of_start started) ?_ ?_ ?_
    · intro c hc p hp type htype
      rw [only c hc] at hp
      rw [List.mem_singleton.mp hp] at htype
      cases htype
      trivial
    · intro c hc
      rw [only c hc]
      rfl
    · intro c hc values
      rw [only c hc]
      exact ⟨_, rfl, Or.inl rfl⟩
  obtain ⟨t, u, v, hopen, hgo, hrounds, hprompt, hfetch, hregistry, hasks, hrecording⟩ : ∃ t u v,
      currentReader s = (.ok 0, t) ∧ (t.stopping || (false && t.cancelled)) = false ∧
        t.rounds 0 = 2 ∧ printPrompt fullEngine t = (.ok (), u) ∧
        fetch 0 false u = (.ok (.line "help"), v) ∧ v.registry = s.registry ∧
        v.AsksForHelp "help" [] ∧ v.IsRecording :=
    ⟨_, _, _, rfl, rfl, rfl, rfl, rfl, rfl, ⟨"help", by decide, rfl, by decide⟩, plain.traps⟩
  have hresult : descriptionResult (v.described []) = .error (.misuse .tooManyDigits) := by
    unfold descriptionResult described
    rw [hregistry]
    simp [s, isTold_vast]
  obtain ⟨w, phase, hexecute, _⟩ :=
    execute_of_turnsAway (e := fullEngine) hrecording (.help (by decide) hasks)
  rw [hresult] at hexecute
  have hloop : loop fullEngine 0 false (t.rounds 0) t =
      (.error (.misuse .tooManyDigits), { w with phase }) := by
    rw [hrounds, loop_of_line hgo hprompt hfetch, obey_of_misuse hexecute]
  exact ⟨s, _, started, courteous, run_of_loop hopen hloop⟩

end LineShell.Session
