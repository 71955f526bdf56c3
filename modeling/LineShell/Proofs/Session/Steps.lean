import Mathlib.Logic.Relation
import LineShell.Proofs.Reading.Lines
import LineShell.Proofs.Session.Assigning
import LineShell.Proofs.Session.Hosting

/-! # Sessions step by step

Whatever is done to a session, by its host, by the engine, by handlers, callbacks and traps, and by
the pumps of its readers, is done in small steps. The steps of a pump may come at any time. What
every step keeps is therefore kept by every operation, however deeply lines and loops nest and
however an operation ends.
-/
namespace LineShell.Session
open Relation

/-- One step of a session's life. -/
inductive Step (s : Session) : Session → Prop
  | own {t : Session} (done : Own s t) : Step s t
  | stopping (b : Bool) : Step s (s.setStopping b)
  | cancelled (b : Bool) : Step s { s with cancelled := b }
  | assigned {name : String} {given : Given Behaviour} {t : Session}
    (done : s.assign name given = .ok t) : Step s t
  | named (name : String) : Step s (s.callbackNamed name).2
  | renamed (name : String) (body : Behaviour) : Step s (s.newCallback name body).2
  | connected (m : Moment) (c : Callback) : Step s (s.connect m c)
  | disconnected {m : Moment} {c : Callback} {t : Session} (done : s.disconnect m c = .ok t) :
    Step s t
  /-- A reader is asked for a line. -/
  | asked {n input : ℕ} {r : LineReader} (there : s.readers[n]? = some (input, r))
    (more : r.exhausted = false) :
    Step s { s with readers := s.readers.set n (input, r.request) }
  /-- The pump of a reader takes up a request. -/
  | begun {n input : ℕ} {r r' : LineReader} (there : s.readers[n]? = some (input, r))
    (taken : r.begin? = some r') : Step s { s with readers := s.readers.set n (input, r') }
  /-- The pump of a reader has read its source. -/
  | arrived {n input : ℕ} {r r' : LineReader} {source source' : Source}
    (there : s.readers[n]? = some (input, r)) (wired : s.sources[input]? = some source)
    (finished : r.finish? source = some (r', source')) :
    Step s { s with
      readers := s.readers.set n (input, r'), sources := s.sources.set input source' }
  /-- What has arrived is taken, and a line among it is executed next. -/
  | took {n input : ℕ} {r r' : LineReader} {d : Delivery}
    (there : s.readers[n]? = some (input, r)) (taken : r.take? = some (d, r')) :
    Step s { s with
      readers := s.readers.set n (input, r')
      journal := s.journal ++ d.line?.toList.map .received }
  /-- The gate of a source is opened. -/
  | released {input : ℕ} {source : Source} (wired : s.sources[input]? = some source) :
    Step s { s with sources := s.sources.set input { source with isOpen := true } }

abbrev Steps : Session → Session → Prop := ReflTransGen Step

/-- The session with a reader and its source as they are given, and the line that was taken, if one
was, on record. -/
def serve (s : Session) (n input : ℕ) (r : LineReader) (source : Source) (taken : Option String) :
    Session :=
  { s with
    readers := s.readers.set n (input, r)
    sources := s.sources.set input source
    journal := s.journal ++ taken.toList.map .received }

section
variable {s : Session} {n input : ℕ} {r r' : LineReader} {source source' : Source}

theorem fetch_of_wired (there : s.readers[n]? = some (input, r))
    (wired : s.sources[input]? = some source) (watching : Bool) :
    fetch n watching s =
      ((.ok (r.readLine source (watching && s.cancelled) [s.stopping]).1,
        s.serve n input (r.readLine source (watching && s.cancelled) [s.stopping]).2.1
          (r.readLine source (watching && s.cancelled) [s.stopping]).2.2
          (r.readLine source (watching && s.cancelled) [s.stopping]).1.line?)) := by
  have hread : readLine n watching s =
      (.ok (r.readLine source (watching && s.cancelled) [s.stopping]).1, { s with
        readers := s.readers.set n
          (input, (r.readLine source (watching && s.cancelled) [s.stopping]).2.1)
        sources := s.sources.set input
          (r.readLine source (watching && s.cancelled) [s.stopping]).2.2 }) := by
    unfold readLine
    rw [get_bind, there]
    simp only [wired]
    rfl
  unfold fetch
  rw [bind_ok hread]
  generalize r.readLine source (watching && s.cancelled) [s.stopping] = result
  obtain ⟨answer, r', source'⟩ := result
  cases answer with
  | line line => rfl
  | interrupted =>
    simp only [serve, LineReader.Answer.line?, Option.toList_none, List.map_nil, List.append_nil]
    rfl
  | failed f =>
    simp only [serve, LineReader.Answer.line?, Option.toList_none, List.map_nil, List.append_nil]
    rfl

theorem fetch_of_not_wired
    (h : ∀ input r, s.readers[n]? = some (input, r) → s.sources[input]? = none)
    (watching : Bool) : fetch n watching s = (.ok .interrupted, s) := by
  have hread : readLine n watching s = (.ok .interrupted, s) := by
    unfold readLine
    rw [get_bind]
    cases hr : s.readers[n]? with
    | none => rfl
    | some p =>
      simp only [h p.1 p.2 hr]
      rfl
  unfold fetch
  rw [bind_ok hread]
  rfl

theorem serve_self (there : s.readers[n]? = some (input, r))
    (wired : s.sources[input]? = some source) : s.serve n input r source none = s := by
  obtain ⟨hn, hr⟩ := List.getElem?_eq_some_iff.mp there
  obtain ⟨hi, hs⟩ := List.getElem?_eq_some_iff.mp wired
  unfold serve
  rw [← hr, ← hs, List.set_getElem_self, List.set_getElem_self]
  simp

section
variable (hn : n < s.readers.length) (hi : input < s.sources.length)
include hn

theorem readers_serve : (s.serve n input r source none).readers[n]? = some (input, r) := by
  simp [serve, hn]

theorem step_asked (more : r.exhausted = false) :
    Step (s.serve n input r source none) (s.serve n input r.request source none) := by
  have there : (s.serve n input r source none).readers[n]? = some (input, r) := readers_serve hn
  have h := Step.asked there more
  simpa [serve] using h

theorem step_begun (taken : r.begin? = some r') :
    Step (s.serve n input r source none) (s.serve n input r' source none) := by
  have there : (s.serve n input r source none).readers[n]? = some (input, r) := readers_serve hn
  have h := Step.begun there taken
  simpa [serve] using h

include hi in
theorem step_arrived (finished : r.finish? source = some (r', source')) :
    Step (s.serve n input r source none) (s.serve n input r' source' none) := by
  have wired : (s.serve n input r source none).sources[input]? = some source := by
    simp [serve, hi]
  have there : (s.serve n input r source none).readers[n]? = some (input, r) := readers_serve hn
  have h := Step.arrived there wired finished
  simpa [serve] using h

theorem step_took {d : Delivery} (taken : r.take? = some (d, r')) :
    Step (s.serve n input r source none) (s.serve n input r' source d.line?) := by
  have there : (s.serve n input r source none).readers[n]? = some (input, r) := readers_serve hn
  have h := Step.took there taken
  simpa [serve] using h

include hi in
theorem steps_advance : Steps (s.serve n input r source none)
    (s.serve n input (r.advance source).1 (r.advance source).2 none) := by
  have hbegin : Steps (s.serve n input r source none)
      (s.serve n input (r.begin?.getD r) source none) := by
    cases hb : r.begin? with
    | none => exact .refl
    | some r' => exact .single (step_begun hn hb)
  unfold LineReader.advance
  generalize r.begin?.getD r = b at hbegin ⊢
  cases hf : b.finish? source with
  | none => simpa [hf] using hbegin
  | some p => simpa [hf] using hbegin.tail (step_arrived hn hi hf)

include hi in
theorem steps_readLine (cancelled : Bool) (stops : List Bool) :
    Steps (s.serve n input r source none)
      (s.serve n input (r.readLine source cancelled stops).2.1
        (r.readLine source cancelled stops).2.2 (r.readLine source cancelled stops).1.line?) := by
  unfold LineReader.readLine
  cases he : r.exhausted with
  | true => exact .refl
  | false =>
    have hasked : Steps (s.serve n input r source none) (s.serve n input r.request source none) :=
      .single (step_asked hn he)
    have hadvanced := hasked.trans (steps_advance hn hi)
    simp only [Bool.false_eq_true, ↓reduceIte]
    generalize r.request.advance source = p at hadvanced ⊢
    rcases p.1.poll_cases cancelled stops with hp | ⟨d, r', ht, hp⟩
    · rw [hp]
      exact hadvanced
    · rw [hp]
      have htook := hadvanced.tail (step_took hn ht)
      simpa [LineReader.Answer.line?_ofDelivery] using htook

end
end

theorem fetch_cases (s : Session) (n : ℕ) (watching : Bool) :
    (∃ input r source, s.readers[n]? = some (input, r) ∧ s.sources[input]? = some source) ∨
      fetch n watching s = (.ok .interrupted, s) := by
  by_cases hw : ∃ input r source, s.readers[n]? = some (input, r) ∧ s.sources[input]? = some source
  · exact Or.inl hw
  · refine Or.inr (fetch_of_not_wired ?_ watching)
    intro input r hr
    by_contra hs
    obtain ⟨source, hs⟩ := Option.ne_none_iff_exists'.mp hs
    exact hw ⟨input, r, source, hr, hs⟩

theorem steps_fetch (s : Session) (n : ℕ) (watching : Bool) : Steps s (fetch n watching s).2 := by
  rcases fetch_cases s n watching with ⟨input, r, source, there, wired⟩ | hf
  · have hn := (List.getElem?_eq_some_iff.mp there).1
    have hi := (List.getElem?_eq_some_iff.mp wired).1
    rw [fetch_of_wired there wired]
    have h : Steps (s.serve n input r source none) _ :=
      steps_readLine hn hi (watching && s.cancelled) [s.stopping]
    rw [serve_self there wired] at h
    exact h
  · rw [hf]

/-! ### What leaves the record alone -/

section
variable {s t : Session}

def uncalled (s : Session) : Session := { s with invoking := [], invoked := [], known := [] }

theorem uncalled_setCallbacks (s : Session) (callbacks : List Callback) (m : Moment) :
    (s.setCallbacks callbacks m).uncalled = s.uncalled := by
  cases m <;> rfl

theorem uncalled_callbackNamed (s : Session) (name : String) :
    (s.callbackNamed name).2.uncalled = s.uncalled := by
  unfold callbackNamed
  split <;> rfl

theorem uncalled_disconnect {m : Moment} {c : Callback} (h : s.disconnect m c = .ok t) :
    t.uncalled = s.uncalled := by
  unfold disconnect at h
  split at h
  · cases h
    exact uncalled_setCallbacks s _ m
  · cases h

theorem eq_of_uncalled {γ : Type} {f : Session → γ} (blind : ∀ s, f s.uncalled = f s)
    (h : t.uncalled = s.uncalled) : f t = f s := by
  rw [← blind t, h, blind]

theorem onRecord_setStopping (s : Session) (b : Bool) :
    (s.setStopping b).onRecord = s.onRecord := by
  cases b <;> rfl

theorem onRecord_setCallbacks (s : Session) (callbacks : List Callback) (m : Moment) :
    (s.setCallbacks callbacks m).onRecord = s.onRecord :=
  eq_of_uncalled (fun _ => rfl) (uncalled_setCallbacks s callbacks m)

theorem onRecord_callbackNamed (s : Session) (name : String) :
    (s.callbackNamed name).2.onRecord = s.onRecord :=
  eq_of_uncalled (fun _ => rfl) (uncalled_callbackNamed s name)

theorem onRecord_disconnect {m : Moment} {c : Callback} (h : s.disconnect m c = .ok t) :
    t.onRecord = s.onRecord :=
  eq_of_uncalled (fun _ => rfl) (uncalled_disconnect h)

theorem onRecord_assigned {name : String} {given : Given Behaviour}
    (h : Assigned s name given t) : t.onRecord = s.onRecord := by
  cases h with
  | stopping b other => exact onRecord_setStopping s b
  | _ => rfl

end

/-! ### What a handler or a host may do -/

/-- The property is kept by the steps that leave the record alone and by whatever the engine is
asked to do. -/
structure Allows (e : Engine) (P : Session → Prop) : Prop where
  step {s t : Session} : P s → Step s t → t.onRecord = s.onRecord → P t
  fetched {s : Session} (number : ℕ) (watching : Bool) : P s → P (fetch number watching s).2
  execute {s : Session} (line : Value) : P s → P (e.execute line s).2
  run {s : Session} : P s → P (e.run s).2
  perform {s : Session} (b : Behaviour) : P s → P (e.perform b s).2

namespace Allows
variable {e : Engine} {P : Session → Prop} {s : Session}

theorem tends (h : Allows e P) : Tends e P (fun _ => True) where
  own hs ho same := h.step hs (.own ho) same
  fetched := h.fetched
  trap _ _ _ ht := Meets.of_left (h.perform _ ht)

theorem kept_act (h : Allows e P) (a : Action Behaviour) (hs : P s) : P (act e a s).2 := by
  cases a with
  | stop => exact h.step hs (.stopping true) (onRecord_setStopping s true)
  | cancel => exact h.step hs (.cancelled true) rfl
  | execute line => exact h.execute line hs
  | run => exact h.run hs
  | probe => exact h.step hs (.own (.noted _ rfl)) rfl
  | note text => exact h.step hs (.own (.noted _ rfl)) rfl
  | noteAttempt line failure => exact h.step hs (.own (.noted _ rfl)) rfl
  | print text => exact (h.tends.write hs s.output text).left
  | report f => exact h.tends.kept_report hs f
  | assign setting given =>
    refine (Meets.adopt hs ?_).left
    intro t ht
    exact h.step hs (.assigned ht) (onRecord_assigned (assigned_of_assign ht))
  | connect moment name =>
    have hnamed := h.step hs (.named name) (onRecord_callbackNamed s name)
    exact h.step hnamed (.connected moment _) (onRecord_setCallbacks _ _ moment)
  | disconnect moment name =>
    have hnamed := h.step hs (.named name) (onRecord_callbackNamed s name)
    refine (Meets.adopt hnamed ?_).left
    intro t ht
    exact h.step hnamed (.disconnected ht) (onRecord_disconnect ht)

theorem kept_perform (h : Allows e P) (b : Behaviour) (hs : P s) : P (Session.perform e b s).2 :=
  perform_induction (fun a _ => h.kept_act a) b hs

theorem kept_call (h : Allows e P) (handler : Handler) (values : List Value) (hs : P s) :
    P (Session.call e handler values s).2 := by
  have hcall : Meets P (fun _ => True) (fun _ => True) (Session.call e handler values) s := by
    refine h.tends.call (fun _ _ => trivial) hs (fun _ _ => trivial) ?_
    intro _ t _ ht
    exact Meets.of_left (h.kept_perform _ ht)
  exact hcall.left

end Allows

/-- Whatever the engine is asked to do is done in steps. -/
structure Engine.IsSteady (e : Engine) : Prop where
  execute (line : Value) (s : Session) : Steps s (e.execute line s).2
  run (s : Session) : Steps s (e.run s).2
  perform (b : Behaviour) (s : Session) : Steps s (e.perform b s).2

namespace Engine.IsSteady
variable {e : Engine}

theorem keeps (h : e.IsSteady) (s₀ : Session) : Keeps e (Steps s₀) (fun _ => True) where
  own hs ho := hs.tail (.own ho)
  fetched n watching hs := hs.trans (steps_fetch _ n watching)
  trap _ _ _ ht := Meets.of_left (ht.trans (h.perform _ _))

theorem steps_write (h : e.IsSteady) {s : Session} {n : ℕ} {o : Outlet}
    (there : s.outlets[n]? = some o) (text : String) :
    Steps (s.record (.wrote o.sink text)) (write e n text s).2 := by
  have hnote : note (.wrote o.sink text) s = (.ok ⟨⟩, s.record (.wrote o.sink text)) := rfl
  unfold write
  rw [get_bind, there]
  simp only
  rw [bind_ok hnote]
  cases hb : o.armed with
  | none => exact .refl
  | some body =>
    let t : Session := s.record (.wrote o.sink text)
    let disarmed : Session := { t with outlets := t.outlets.set n ⟨o.sink, none⟩ }
    have hdisarmed : Step t disarmed := .own (.disarmed there)
    have hbody : Steps disarmed (discard (e.perform body) disarmed).2 := by
      rw [discard_snd]
      exact h.perform body disarmed
    exact (Relation.ReflTransGen.single hdisarmed).trans hbody

theorem allows (h : e.IsSteady) (s₀ : Session) : Allows e (Steps s₀) where
  step hs ht _ := hs.tail ht
  fetched number watching hs := hs.trans (steps_fetch _ number watching)
  execute line hs := hs.trans (h.execute line _)
  run hs := hs.trans (h.run _)
  perform b hs := hs.trans (h.perform b _)

theorem steps_perform (h : e.IsSteady) (b : Behaviour) (s : Session) :
    Steps s (Session.perform e b s).2 :=
  (h.allows s).kept_perform b .refl

theorem hosts (h : e.IsSteady) (s₀ : Session) :
    Hosts e (Steps s₀) (fun _ => True) (fun _ => True) where
  toKeeps := h.keeps s₀
  calm_fault _ _ _ := trivial
  calm_quiet _ _ := trivial
  handler _ _ _ ht :=
    (Meets.of_left (ht.trans (h.steps_perform _ _))).mono_good fun _ _ => Or.inr trivial
  arity _ _ _ := trivial
  binding _ _ _ := trivial
  callback _ _ _ ht := Meets.of_left (ht.trans (h.steps_perform _ _))

theorem steps_execute (h : e.IsSteady) (line : Value) (s : Session) :
    Steps s (Session.execute e line s).2 :=
  (h.hosts s).serves.kept_execute line .refl

theorem steps_run (h : e.IsSteady) (watching : Bool) (s : Session) :
    Steps s (Session.run e watching s).2 :=
  ((h.hosts s).serves.run .refl watching).left

theorem around (h : e.IsSteady) :
    IsSteady ⟨Session.execute e, Session.run e false, Session.perform e⟩ where
  execute := h.steps_execute
  run := h.steps_run false
  perform := h.steps_perform

end Engine.IsSteady

/-- However deeply lines and loops may nest, all is done in steps. -/
theorem isSteady_engine (depth : ℕ) : (engine depth).IsSteady := by
  induction depth with
  | zero => exact ⟨fun _ _ => .refl, fun _ => .refl, fun _ _ => .refl⟩
  | succ depth ih => exact ih.around

inductive Operation where
  | execute (line : Value)
  | run (watch : Watch)
  | report (f : Fault)
  | call (h : Handler) (arguments : List Value)
  | connectNamed (moment : Moment) (name : String) (body : Option Behaviour)
  | connectValue (moment : Moment) (v : Value)
  | disconnectNamed (moment : Moment) (name : String)
  | disconnectValue (moment : Moment) (v : Value)
  | assign (name : String) (given : Given Behaviour)
  /-- Whatever a handler may do, the host may do. -/
  | perform (b : Behaviour)

def Operation.act : Operation → Act Unit
  | .execute line => executeLine line
  | .run watch => runLoop watch
  | .report f => reportFault f
  | .call h arguments => discard (callHandler h arguments)
  | .connectNamed moment name body => Session.connectNamed moment name body
  | .connectValue moment v => Session.connectValue moment v
  | .disconnectNamed moment name => Session.disconnectNamed moment name
  | .disconnectValue moment v => Session.disconnectValue moment v
  | .assign name given => assignSetting name given
  | .perform b => discard (Session.perform fullEngine b)

theorem Operation.kept {P : Session → Prop} (h : Allows fullEngine P)
    (execute : ∀ {s : Session} (line : Value), P s → P (Session.execute fullEngine line s).2)
    (run : ∀ {s : Session} (watching : Bool), P s → P (Session.run fullEngine watching s).2)
    (o : Operation) {s : Session} (hs : P s) : P (o.act s).2 := by
  cases o with
  | execute line => exact execute line hs
  | run watch =>
    cases watch with
    | nothing => exact run false hs
    | event isSet => exact run true (h.step hs (.cancelled isSet) rfl)
    | other => exact hs
  | report f => exact h.tends.kept_report hs f
  | call handler arguments =>
    change P (discard (callHandler handler arguments) s).2
    rw [discard_snd]
    exact h.kept_call handler arguments hs
  | connectNamed moment name body =>
    cases body with
    | none => exact h.kept_act (.connect moment name) hs
    | some body =>
      have hnamed : P (s.newCallback name body).2 := h.step hs (.renamed name body) rfl
      exact h.step hnamed (.connected moment _) (onRecord_setCallbacks _ _ moment)
  | connectValue moment v =>
    change P (Session.connectValue moment v s).2
    unfold Session.connectValue
    cases callbackOf? v with
    | none => exact hs
    | some c => exact h.step hs (.connected moment c) (onRecord_setCallbacks s _ moment)
  | disconnectNamed moment name => exact h.kept_act (.disconnect moment name) hs
  | disconnectValue moment v =>
    change P (Session.disconnectValue moment v s).2
    unfold Session.disconnectValue
    cases callbackOf? v with
    | none => exact hs
    | some c =>
      refine (Meets.adopt hs ?_).left
      intro t ht
      exact h.step hs (.disconnected ht) (onRecord_disconnect ht)
  | assign name given => exact h.kept_act (.assign name given) hs
  | perform b =>
    change P (discard (Session.perform fullEngine b) s).2
    rw [discard_snd]
    exact h.kept_perform b hs

theorem Operation.steps (o : Operation) (s : Session) : Steps s (o.act s).2 :=
  have hsteady := isSteady_engine nestingLimit
  o.kept (hsteady.allows s) (fun line hs => hs.trans (hsteady.steps_execute line _))
    (fun watching hs => hs.trans (hsteady.steps_run watching _)) .refl

end LineShell.Session
