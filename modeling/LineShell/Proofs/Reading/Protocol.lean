import Mathlib.Logic.Relation
import LineShell.Proofs.Reading.Lines

/-! # One consumer and the pump

The calls of one consumer are interleaved with the steps of the pump, and with anything that may
happen to the source meanwhile: more is typed, a gate is opened. No order of the steps loses a line,
repeats one, or reads ahead by more than one item. A failure that is not ordinary is where the
protocol breaks: the pump ends, nothing is delivered, and the consumer waits for ever. The last
theorem says that this is the only way for it to break.
-/
namespace LineShell.LineReader
open Relation

/-- Where the consumer stands: outside of any call, before it looks for a cancellation, before it
looks for a stop, or at the queue. -/
inductive Stage where
  | outside
  | atCancel
  | atStop
  | atQueue
deriving DecidableEq

/-- A reader in use, with what its calls and its reads have answered so far. -/
structure Exchange where
  reader : LineReader := {}
  source : Source
  stage : Stage := .outside
  calls : ℕ := 0
  answers : List Answer := []
  read : List (Except Failure String) := []

namespace Exchange

def returned (x : Exchange) : List String := x.answers.filterMap Answer.line?

def yielded (x : Exchange) : List String := x.read.filterMap Source.lineOf?

def IsBroken (x : Exchange) : Prop := ∃ f, .error f ∈ x.read ∧ f.isOrdinary = false

/-- One step of the consumer, of the pump, or of what is around them. -/
inductive Step (x : Exchange) : Exchange → Prop
  /-- A call of an exhausted reader fails at once. -/
  | refuse (outside : x.stage = .outside) (done : x.reader.exhausted = true) :
    Step x { x with calls := x.calls + 1, answers := x.answers ++ [.failed .endOfInput] }
  | call (outside : x.stage = .outside) (more : x.reader.exhausted = false) :
    Step x { x with reader := x.reader.request, stage := .atCancel, calls := x.calls + 1 }
  /-- The cancellation is there, or the stop. -/
  | interrupt (looking : x.stage = .atCancel ∨ x.stage = .atStop) :
    Step x { x with stage := .outside, answers := x.answers ++ [.interrupted] }
  | passCancel (looking : x.stage = .atCancel) : Step x { x with stage := .atStop }
  | passStop (looking : x.stage = .atStop) : Step x { x with stage := .atQueue }
  | take {d : Delivery} {r : LineReader} (waiting : x.stage = .atQueue)
    (taken : x.reader.take? = some (d, r)) :
    Step x { x with reader := r, stage := .outside, answers := x.answers ++ [.ofDelivery d] }
  | timeOut (waiting : x.stage = .atQueue) (empty : x.reader.queue = []) :
    Step x { x with stage := .atCancel }
  | begin {r : LineReader} (begun : x.reader.begin? = some r) : Step x { x with reader := r }
  | finish {r : LineReader} {s : Source} {a : Except Failure String}
    (answered : x.source.answer? = some a) (finished : x.reader.finish? x.source = some (r, s)) :
    Step x { x with reader := r, source := s, read := x.read ++ [a] }
  /-- The source is what others make of it. -/
  | change (s : Source) : Step x { x with source := s }

abbrev Reach : Exchange → Exchange → Prop := ReflTransGen Step

/-- What holds between any two steps. -/
structure Inv (x : Exchange) : Prop where
  sound : x.reader.IsSound
  called : x.stage ≠ .outside → x.reader.pending = true
  conserved : x.returned ++ x.reader.held = x.yielded
  reads : x.read.length + x.reader.requests + (if x.reader.pump = .reading then 1 else 0) ≤ x.calls
  lost : x.reader.IsLost ↔ x.IsBroken
  failed : (∃ f, .failed f ∈ x.answers) ↔ x.reader.exhausted = true

theorem returned_append (x : Exchange) (a : Answer) :
    (x.answers ++ [a]).filterMap Answer.line? = x.returned ++ a.line?.toList := by
  rw [List.filterMap_append, returned]
  cases h : a.line? <;> simp [h]

theorem Inv.answer {x : Exchange} (h : x.Inv) (stage : Stage) (calls : ℕ) (a : Answer)
    (hstage : stage = .outside) (hcalls : x.calls ≤ calls) (hline : a.line? = none)
    (hfailed : (∃ f, a = .failed f) → x.reader.exhausted = true) :
    Inv { x with stage, calls, answers := x.answers ++ [a] } where
  sound := h.sound
  called hs := absurd hstage hs
  conserved := by
    have hr := returned_append x a
    rw [hline, Option.toList_none, List.append_nil] at hr
    exact (congrArg (· ++ x.reader.held) hr).trans h.conserved
  reads := h.reads.trans hcalls
  lost := h.lost
  failed := by
    constructor
    · rintro ⟨f, hf⟩
      rcases List.mem_append.mp hf with hf | hf
      · exact h.failed.mp ⟨f, hf⟩
      · exact hfailed ⟨f, (List.mem_singleton.mp hf).symm⟩
    · intro he
      obtain ⟨f, hf⟩ := h.failed.mpr he
      exact ⟨f, List.mem_append_left _ hf⟩

theorem Inv.call {x : Exchange} (h : x.Inv) (more : x.reader.exhausted = false) :
    Inv { x with reader := x.reader.request, stage := .atCancel, calls := x.calls + 1 } where
  sound := h.sound.request more
  called _ := by
    change x.reader.request.pending = true
    unfold request
    split <;> simp_all
  conserved := by
    change x.returned ++ x.reader.request.held = x.yielded
    rw [held_request]
    exact h.conserved
  reads := by
    have hr := h.reads
    change x.read.length + x.reader.request.requests +
      (if x.reader.request.pump = .reading then 1 else 0) ≤ x.calls + 1
    unfold request
    split
    · omega
    · simp only
      omega
  lost := (isLost_request x.reader).trans h.lost
  failed := by
    have he : x.reader.request.exhausted = x.reader.exhausted := by
      unfold request
      split <;> rfl
    change _ ↔ x.reader.request.exhausted = true
    rw [he]
    exact h.failed

theorem Inv.take {x : Exchange} {d : Delivery} {r : LineReader} (h : x.Inv)
    (ht : x.reader.take? = some (d, r)) :
    Inv { x with reader := r, stage := .outside, answers := x.answers ++ [.ofDelivery d] } where
  sound := h.sound.take ht
  called hs := absurd rfl hs
  conserved := by
    have hr := returned_append x (.ofDelivery d)
    rw [Answer.line?_ofDelivery] at hr
    change (x.answers ++ [Answer.ofDelivery d]).filterMap Answer.line? ++ r.held = x.yielded
    rw [hr, List.append_assoc, ← held_take ht]
    exact h.conserved
  reads := by
    have hr := h.reads
    obtain ⟨rest, _, rfl⟩ := take?_eq_some ht
    exact hr
  lost := by
    have hfull : ¬ x.reader.IsLost := by
      intro hl
      obtain ⟨rest, hq, _⟩ := take?_eq_some ht
      have h0 := hl.2.2
      unfold outstanding at h0
      simp [hq] at h0
    obtain ⟨rest, _, rfl⟩ := take?_eq_some ht
    constructor
    · intro hl
      cases hl.2.1
    · intro hb
      exact absurd (h.lost.mpr hb) hfull
  failed := by
    obtain ⟨rest, hq, rfl⟩ := take?_eq_some ht
    have he : x.reader.exhausted = false := by
      by_contra hx
      have hn := h.sound.queue_eq_nil (by simpa using hx)
      rw [hq] at hn
      cases hn
    have hno : ∀ f, Answer.failed f ∉ x.answers := by
      intro f hf
      exact absurd (he.symm.trans (h.failed.mp ⟨f, hf⟩)) (by decide)
    cases d <;> simp [he, hno, Answer.ofDelivery, Delivery.line?]

theorem Inv.begin {x : Exchange} {r : LineReader} (h : x.Inv) (hb : x.reader.begin? = some r) :
    Inv { x with reader := r } where
  sound := h.sound.begin hb
  called hs := by
    have hp := h.called hs
    obtain ⟨_, _, rfl⟩ := begin?_eq_some hb
    exact hp
  conserved := by
    change x.returned ++ r.held = x.yielded
    rw [held_begin hb]
    exact h.conserved
  reads := by
    have hr := h.reads
    obtain ⟨hw, h0, rfl⟩ := begin?_eq_some hb
    simp only [hw, reduceCtorEq, ↓reduceIte] at hr ⊢
    omega
  lost := by
    obtain ⟨hw, _, rfl⟩ := begin?_eq_some hb
    have hbefore : ¬ x.IsBroken := by
      intro hx
      have hf := (h.lost.mpr hx).1
      rw [hw] at hf
      cases hf
    exact iff_of_false (not_isLost_of_pump (by simp)) hbefore
  failed := by
    obtain ⟨_, _, rfl⟩ := begin?_eq_some hb
    exact h.failed

theorem Inv.finish {x : Exchange} {r : LineReader} {s : Source} {a : Except Failure String}
    (h : x.Inv) (ha : x.source.answer? = some a) (hf : x.reader.finish? x.source = some (r, s)) :
    Inv { x with reader := r, source := s, read := x.read ++ [a] } := by
  have hsound := h.sound.finish hf
  obtain ⟨hp, a', ha', rfl, rfl⟩ := finish?_eq_some hf
  obtain rfl : a = a' := Option.some.inj (ha.symm.trans ha')
  refine ⟨hsound, h.called, ?_, ?_, ?_, h.failed⟩
  · change x.returned ++ (x.reader.receive _).held = (x.read ++ [a]).filterMap Source.lineOf?
    rw [held_receive, Source.line?_deliveryOf, ← List.append_assoc, h.conserved,
      List.filterMap_append]
    cases hl : Source.lineOf? a <;> simp [yielded, hl]
  · have hr := h.reads
    have hpump : (x.reader.receive (Source.deliveryOf a)).pump ≠ .reading := by
      rw [receive_pump]
      split <;> simp
    have hreq : (x.reader.receive (Source.deliveryOf a)).requests = x.reader.requests := rfl
    simp only [hp, ↓reduceIte] at hr
    simp only [hpump, hreq, ↓reduceIte, List.length_append, List.length_singleton]
    omega
  · have hbefore : ¬ x.IsBroken := fun hx => not_isLost_of_pump (by simp [hp]) (h.lost.mpr hx)
    rw [isLost_receive h.sound hp, isPassedOn_deliveryOf]
    constructor
    · rintro ⟨f, rfl, ho⟩
      exact ⟨f, by simp, ho⟩
    · rintro ⟨f, hm, ho⟩
      rcases List.mem_append.mp hm with hm | hm
      · exact absurd ⟨f, hm, ho⟩ hbefore
      · exact ⟨f, (List.mem_singleton.mp hm).symm, ho⟩

theorem Inv.step {x y : Exchange} (h : x.Inv) (hs : Step x y) : y.Inv := by
  cases hs with
  | refuse outside done =>
    exact h.answer x.stage _ _ outside (Nat.le_succ _) rfl (fun _ => done)
  | call outside more => exact h.call more
  | interrupt looking =>
    exact h.answer .outside x.calls _ rfl le_rfl rfl (by rintro ⟨f, hf⟩; cases hf)
  | passCancel looking =>
    exact ⟨h.sound, fun _ => h.called (by simp [looking]), h.conserved, h.reads, h.lost, h.failed⟩
  | passStop looking =>
    exact ⟨h.sound, fun _ => h.called (by simp [looking]), h.conserved, h.reads, h.lost, h.failed⟩
  | take waiting taken => exact h.take taken
  | timeOut waiting empty =>
    exact ⟨h.sound, fun _ => h.called (by simp [waiting]), h.conserved, h.reads, h.lost, h.failed⟩
  | begin begun => exact h.begin begun
  | finish answered finished => exact h.finish answered finished
  | change s => exact ⟨h.sound, h.called, h.conserved, h.reads, h.lost, h.failed⟩

theorem reach_poll (x : Exchange) (looking : x.stage = .atCancel) (cancelled : Bool)
    (stops : List Bool) :
    Reach x { x with
      reader := (x.reader.poll cancelled stops).2, stage := .outside
      answers := x.answers ++ [(x.reader.poll cancelled stops).1] } := by
  have hint : Reach x { x with stage := .outside, answers := x.answers ++ [.interrupted] } :=
    .single (.interrupt (Or.inl looking))
  have hqueue : Reach x { x with stage := .atQueue } :=
    .tail (.single (.passCancel looking)) (.passStop rfl)
  have htake : ∀ {d r}, x.reader.take? = some (d, r) →
      Reach x { x with reader := r, stage := .outside, answers := x.answers ++ [.ofDelivery d] } :=
    fun ht => hqueue.tail (.take rfl ht)
  induction stops with
  | nil =>
    unfold poll
    cases cancelled with
    | true => exact hint
    | false =>
      cases ht : x.reader.take? with
      | some p => exact htake ht
      | none => exact hint
  | cons stop later ih =>
    unfold poll
    cases cancelled with
    | true => exact hint
    | false =>
      cases stop with
      | true => exact .tail (.single (.passCancel looking)) (.interrupt (Or.inr rfl))
      | false =>
        cases ht : x.reader.take? with
        | some p => exact htake ht
        | none => exact ih

theorem reach_advance (x : Exchange) : ∃ read,
    Reach x { x with
      reader := (x.reader.advance x.source).1, source := (x.reader.advance x.source).2
      read := x.read ++ read } := by
  have hbegin : Reach x { x with reader := x.reader.begin?.getD x.reader } := by
    cases hb : x.reader.begin? with
    | none => exact .refl
    | some r => exact .single (.begin hb)
  unfold advance
  generalize x.reader.begin?.getD x.reader = r at hbegin ⊢
  cases hf : r.finish? x.source with
  | none => exact ⟨[], by simpa [hf] using hbegin⟩
  | some p =>
    obtain ⟨_, a, ha, _⟩ := finish?_eq_some hf
    have hfinish : Step { x with reader := r } { x with
        reader := p.1, source := p.2, read := x.read ++ [a] } := .finish ha hf
    exact ⟨[a], by simpa [hf] using hbegin.tail hfinish⟩

/-- A call that runs by itself is one of the orders in which consumer and pump may go. -/
theorem reach_readLine (x : Exchange) (outside : x.stage = .outside) (cancelled : Bool)
    (stops : List Bool) : ∃ y, Reach x y ∧ y.stage = .outside ∧
      x.reader.readLine x.source cancelled stops =
        ((y.answers.getLast?).getD .interrupted, y.reader, y.source) ∧
      y.answers.dropLast = x.answers := by
  unfold readLine
  cases he : x.reader.exhausted with
  | true => exact ⟨_, .single (.refuse outside he), outside, by simp, by simp⟩
  | false =>
    let c : Exchange := { x with
      reader := x.reader.request, stage := .atCancel, calls := x.calls + 1 }
    have hc : Reach x c := .single (.call outside he)
    obtain ⟨read, ha⟩ := reach_advance c
    have hp := reach_poll { c with
      reader := (c.reader.advance c.source).1, source := (c.reader.advance c.source).2
      read := c.read ++ read } rfl cancelled stops
    exact ⟨_, (hc.trans ha).trans hp, rfl, by simp [c], by simp [c]⟩

end Exchange

end LineShell.LineReader
