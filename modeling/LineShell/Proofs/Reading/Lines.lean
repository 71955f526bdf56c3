import Mathlib.Data.List.TakeWhile
import LineShell.LineReader

/-! # Lines on their way through a reader

A line is on one side of a reader or on the other: still in the source, in the queue, or answered.
Each operation of the reader moves at most one item, and the requests, the read in progress and the
queue together never hold more than the one item that is pending. These facts are about one
operation each; what follows from them for runs of a reader or of a session is proved elsewhere.
-/
namespace LineShell

def Delivery.line? : Delivery → Option String
  | .line s => some s
  | _ => none

def LineReader.Answer.line? : Answer → Option String
  | .line s => some s
  | _ => none

theorem LineReader.Answer.line?_ofDelivery (d : Delivery) :
    (Answer.ofDelivery d).line? = d.line? := by
  cases d <;> rfl

namespace Source

/-- The line that an item stands for; the empty text and a failure stand for none. -/
def Item.line? : Item → Option String
  | .line s | .gated s => if s = "" then none else some (withoutEnding s)
  | .failing _ => none

def lines (s : Source) : List String := s.items.filterMap Item.line?

def IsCalm (s : Source) : Prop := ∀ f, Item.failing f ∉ s.items

/-- What a read answers: a line with its ending, the empty text at the end of the input, or a
failure. -/
def answer? (s : Source) : Option (Except Failure String) :=
  match s.items with
  | [] => some (.ok "")
  | .line text :: _ => some (.ok text)
  | .failing f :: _ => some (.error f)
  | .gated text :: _ => if s.isOpen then some (.ok text) else none

def rest (s : Source) : Source := { s with items := s.items.tail }

def deliveryOf : Except Failure String → Delivery
  | .ok text => deliver text
  | .error f => .failed f

def lineOf? : Except Failure String → Option String
  | .ok text => if text = "" then none else some (withoutEnding text)
  | .error _ => none

theorem line?_deliver (text : String) :
    (deliver text).line? = if text = "" then none else some (withoutEnding text) := by
  unfold deliver
  split <;> rfl

theorem line?_deliveryOf (a : Except Failure String) : (deliveryOf a).line? = lineOf? a := by
  cases a with
  | ok text => exact line?_deliver text
  | error f => rfl

theorem read?_eq (s : Source) : s.read? = s.answer?.map fun a => (deliveryOf a, s.rest) := by
  obtain ⟨items, isOpen⟩ := s
  cases items with
  | nil => rfl
  | cons item rest =>
    cases item with
    | line text => rfl
    | failing f => rfl
    | gated text => cases isOpen <;> rfl

theorem lines_eq {s : Source} {a : Except Failure String} (h : s.answer? = some a) :
    s.lines = (lineOf? a).toList ++ s.rest.lines := by
  obtain ⟨items, isOpen⟩ := s
  cases items with
  | nil => cases h; simp [lines, rest, lineOf?]
  | cons item rest =>
    cases item with
    | line text =>
      cases h
      by_cases he : text = "" <;> simp [lines, Source.rest, lineOf?, Item.line?, he]
    | failing f =>
      cases h
      simp only [lines, Source.rest, lineOf?, Option.toList_none, List.nil_append, List.tail_cons]
      rfl
    | gated text =>
      cases isOpen with
      | false => simp [answer?] at h
      | true =>
        cases h
        by_cases he : text = "" <;> simp [lines, Source.rest, lineOf?, Item.line?, he]

theorem IsCalm.rest {s : Source} (h : s.IsCalm) : s.rest.IsCalm := by
  intro f hf
  exact h f (List.mem_of_mem_tail hf)

theorem isCalm_ofText (text : String) : (ofText text).IsCalm := by
  intro f hf
  obtain ⟨piece, _, hp⟩ := List.mem_map.mp hf
  cases hp

theorem IsCalm.answer_ne_error {s : Source} (h : s.IsCalm) (f : Failure) :
    s.answer? ≠ some (.error f) := by
  intro ha
  obtain ⟨items, isOpen⟩ := s
  cases items with
  | nil => cases ha
  | cons item rest =>
    cases item with
    | line text => cases ha
    | failing g => exact h g List.mem_cons_self
    | gated text => cases isOpen <;> cases ha

/-- What is left of a line is the line up to its carriage returns and line feeds. -/
theorem withoutEnding_spec (s : String) :
    ∃ ending : List Char, s.toList = (withoutEnding s).toList ++ ending ∧
      (∀ c ∈ ending, c = '\n' ∨ c = '\r') ∧
      ∀ c ∈ (withoutEnding s).toList.getLast?, c ≠ '\n' ∧ c ≠ '\r' := by
  let p : Char → Bool := fun c => c = '\n' || c = '\r'
  have hw : (withoutEnding s).toList = (s.toList.reverse.dropWhile p).reverse := by
    simp [withoutEnding, p]
  refine ⟨(s.toList.reverse.takeWhile p).reverse, ?_, ?_, ?_⟩
  · rw [hw, ← List.reverse_append, List.takeWhile_append_dropWhile, List.reverse_reverse]
  · intro c hc
    have hp := List.mem_takeWhile_imp (List.mem_reverse.mp hc)
    simpa [p] using hp
  · intro c hc
    rw [hw, List.getLast?_reverse] at hc
    have hp := List.head?_dropWhile_not p s.toList.reverse
    rw [Option.mem_def.mp hc] at hp
    simpa [p] using hp

end Source

namespace LineReader

/-- The lines that have arrived and were not taken. -/
def held (r : LineReader) : List String := r.queue.filterMap Delivery.line?

/-- Requests that wait, the read in progress, and what is queued. -/
def outstanding (r : LineReader) : ℕ :=
  r.requests + (if r.pump = .reading then 1 else 0) + r.queue.length

/-- The pump has ended, and what was asked for never arrives. -/
def IsLost (r : LineReader) : Prop := r.pump = .finished ∧ r.pending = true ∧ r.outstanding = 0

/-- What holds of a reader between any two of its operations. -/
structure IsSound (r : LineReader) : Prop where
  idle : r.pending = false → r.outstanding = 0
  busy : r.pending = true → r.outstanding = 1 ∨ r.IsLost
  done : r.exhausted = true → r.pending = false ∧ r.pump = .finished
  last : ∀ d ∈ r.queue, d.line? = none ↔ r.pump = .finished
  ended : r.pump = .finished → r.requests = 0 ∧ (r.exhausted = true ∨ r.pending = true)

theorem isSound_new : IsSound {} where
  idle _ := rfl
  busy h := by cases h
  done h := by cases h
  last d hd := by cases hd
  ended h := by cases h

theorem begin?_eq_some {r r' : LineReader} (h : r.begin? = some r') :
    r.pump = .waiting ∧ 0 < r.requests ∧
      r' = { r with requests := r.requests - 1, pump := .reading } := by
  unfold begin? at h
  split at h
  · rename_i hw
    exact ⟨hw.1, hw.2, (Option.some.inj h).symm⟩
  · cases h

theorem finish?_eq_some {r r' : LineReader} {s s' : Source} (h : r.finish? s = some (r', s')) :
    r.pump = .reading ∧ ∃ a, s.answer? = some a ∧ r' = r.receive (Source.deliveryOf a) ∧
      s' = s.rest := by
  unfold finish? at h
  split at h
  · rename_i hp
    rw [Source.read?_eq, Option.map_map] at h
    obtain ⟨a, ha, he⟩ := Option.map_eq_some_iff.mp h
    simp only [Function.comp_apply, Prod.mk.injEq] at he
    exact ⟨hp, a, ha, he.1.symm, he.2.symm⟩
  · cases h

theorem take?_eq_some {r r' : LineReader} {d : Delivery} (h : r.take? = some (d, r')) :
    ∃ rest, r.queue = d :: rest ∧ r' = { r with
      pending := false, queue := rest, exhausted := r.exhausted || d.line?.isNone } := by
  unfold take? at h
  split at h
  · cases h
  · rename_i s rest hq
    simp only [Option.some.injEq, Prod.mk.injEq] at h
    obtain ⟨rfl, rfl⟩ := h
    exact ⟨rest, hq, by simp [Delivery.line?]⟩
  · rename_i d' rest hd hq
    simp only [Option.some.injEq, Prod.mk.injEq] at h
    obtain ⟨rfl, rfl⟩ := h
    refine ⟨rest, hq, ?_⟩
    cases d' with
    | line s => exact absurd rfl (hd s)
    | ended => simp [Delivery.line?]
    | failed f => simp [Delivery.line?]

theorem take?_eq_none {r : LineReader} (h : r.take? = none) : r.queue = [] := by
  unfold take? at h
  split at h
  · assumption
  · cases h
  · cases h

theorem receive_queue (r : LineReader) (d : Delivery) :
    (r.receive d).queue = r.queue ++ if d.isPassedOn then [d] else [] := by
  unfold receive
  cases d.isPassedOn <;> simp

theorem receive_pump (r : LineReader) (d : Delivery) :
    (r.receive d).pump = if d.line?.isSome then .waiting else .finished := by
  cases d <;> rfl

theorem held_receive (r : LineReader) (d : Delivery) :
    (r.receive d).held = r.held ++ d.line?.toList := by
  unfold held
  rw [receive_queue, List.filterMap_append]
  cases d with
  | line s => rfl
  | ended => rfl
  | failed f => cases hf : f.isOrdinary <;> simp [Delivery.isPassedOn, Delivery.line?, hf]

theorem held_request (r : LineReader) : r.request.held = r.held := by
  unfold request
  split <;> rfl

theorem held_begin {r r' : LineReader} (h : r.begin? = some r') : r'.held = r.held := by
  obtain ⟨_, _, rfl⟩ := begin?_eq_some h
  rfl

theorem held_take {r r' : LineReader} {d : Delivery} (h : r.take? = some (d, r')) :
    r.held = d.line?.toList ++ r'.held := by
  obtain ⟨rest, hq, rfl⟩ := take?_eq_some h
  unfold held
  rw [hq]
  cases d <;> rfl

theorem length_finish {r r' : LineReader} {s s' : Source} (h : r.finish? s = some (r', s')) :
    r'.held.length + s'.items.length ≤ r.held.length + s.items.length ∧
      s'.items.length ≤ s.items.length := by
  obtain ⟨_, a, ha, rfl, rfl⟩ := finish?_eq_some h
  have hrest : s.rest.items.length = s.items.length - 1 := List.length_tail
  have hheld := congrArg List.length (held_receive r (Source.deliveryOf a))
  rw [List.length_append, Source.line?_deliveryOf] at hheld
  refine ⟨?_, by omega⟩
  cases hl : Source.lineOf? a with
  | none =>
    simp only [hl, Option.toList_none, List.length_nil] at hheld
    omega
  | some line =>
    have hitems : s.items ≠ [] := by
      intro hn
      unfold Source.answer? at ha
      rw [hn] at ha
      cases ha
      cases hl
    have hpos := List.length_pos_iff.mpr hitems
    simp only [hl, Option.toList_some, List.length_singleton] at hheld
    omega

theorem poll_cases (r : LineReader) (cancelled : Bool) (stops : List Bool) :
    r.poll cancelled stops = (.interrupted, r) ∨
      ∃ d r', r.take? = some (d, r') ∧ r.poll cancelled stops = (.ofDelivery d, r') := by
  induction stops with
  | nil =>
    unfold poll
    cases cancelled with
    | true => exact Or.inl rfl
    | false =>
      cases ht : r.take? with
      | none => exact Or.inl rfl
      | some p => exact Or.inr ⟨p.1, p.2, rfl, rfl⟩
  | cons stop later ih =>
    unfold poll
    split
    · exact Or.inl rfl
    · cases ht : r.take? with
      | none =>
        rw [ht] at ih
        exact ih
      | some p => exact Or.inr ⟨p.1, p.2, rfl, rfl⟩

namespace IsSound
variable {r r' : LineReader}

theorem outstanding_le (h : r.IsSound) : r.outstanding ≤ 1 := by
  cases hp : r.pending with
  | false =>
    have h0 := h.idle hp
    omega
  | true =>
    rcases h.busy hp with h1 | hl
    · omega
    · have h0 := hl.2.2
      omega

theorem length_held_le (h : r.IsSound) : r.held.length ≤ 1 := by
  have hle := h.outstanding_le
  have hq : r.held.length ≤ r.queue.length := List.length_filterMap_le ..
  unfold outstanding at hle
  omega

theorem queue_eq_nil (h : r.IsSound) (he : r.exhausted = true) : r.queue = [] := by
  have h0 := h.idle (h.done he).1
  unfold outstanding at h0
  exact List.length_eq_zero_iff.mp (by omega)

/-- What still happens in a reader happens before it is exhausted. -/
theorem exhausted_of_begin (h : r.IsSound) (hb : r.begin? = some r') : r.exhausted = false := by
  by_contra hx
  have hd := (h.done (by simpa using hx)).2
  rw [(begin?_eq_some hb).1] at hd
  cases hd

theorem of_reading (h : r.IsSound) (hp : r.pump = .reading) :
    r.queue = [] ∧ r.requests = 0 ∧ r.pending = true := by
  have hle := h.outstanding_le
  unfold outstanding at hle
  simp only [hp, ↓reduceIte] at hle
  refine ⟨List.length_eq_zero_iff.mp (by omega), by omega, ?_⟩
  by_contra hn
  have h0 := h.idle (by simpa using hn)
  unfold outstanding at h0
  simp only [hp, ↓reduceIte] at h0
  omega

theorem exhausted_of_finish {s s' : Source} (h : r.IsSound) (hf : r.finish? s = some (r', s')) :
    r.exhausted = false := by
  by_contra hx
  have hd := (h.done (by simpa using hx)).2
  rw [(finish?_eq_some hf).1] at hd
  cases hd

theorem exhausted_of_take {d : Delivery} (h : r.IsSound) (ht : r.take? = some (d, r')) :
    r.exhausted = false := by
  by_contra hx
  obtain ⟨rest, hq, _⟩ := take?_eq_some ht
  rw [h.queue_eq_nil (by simpa using hx)] at hq
  cases hq

theorem request (h : r.IsSound) (he : r.exhausted = false) : r.request.IsSound := by
  unfold LineReader.request
  cases hp : r.pending with
  | true => simpa [hp] using h
  | false =>
    have h0 := h.idle hp
    have hf : r.pump ≠ .finished := by
      intro hf
      rcases (h.ended hf).2 with hx | hx
      · rw [he] at hx; cases hx
      · rw [hp] at hx; cases hx
    refine ⟨?_, ?_, ?_, h.last, ?_⟩
    · intro hn
      simp at hn
    · intro _
      left
      unfold outstanding at h0 ⊢
      simp only [Bool.false_eq_true, ↓reduceIte]
      omega
    · intro hx
      simp [he] at hx
    · intro hx
      exact absurd hx hf

theorem begin (h : r.IsSound) (hb : r.begin? = some r') : r'.IsSound := by
  obtain ⟨hw, hr, rfl⟩ := begin?_eq_some hb
  have hle := h.outstanding_le
  have hp : r.pending = true := by
    by_contra hn
    have h0 := h.idle (by simpa using hn)
    unfold outstanding at h0
    omega
  have hq : r.queue = [] := by
    unfold outstanding at hle
    exact List.length_eq_zero_iff.mp (by omega)
  refine ⟨?_, ?_, ?_, ?_, ?_⟩
  · intro hn
    rw [hp] at hn
    cases hn
  · intro _
    left
    unfold outstanding at hle ⊢
    simp only [↓reduceIte]
    simp only [hw, reduceCtorEq, ↓reduceIte] at hle
    omega
  · intro he
    rw [(h.done he).2] at hw
    cases hw
  · intro d hd
    simp [hq] at hd
  · intro hf
    cases hf

theorem finish {s s' : Source} (h : r.IsSound) (hf : r.finish? s = some (r', s')) :
    r'.IsSound := by
  have hne := h.exhausted_of_finish hf
  obtain ⟨hp, a, _, rfl, _⟩ := finish?_eq_some hf
  obtain ⟨hq, hr, hpend⟩ := h.of_reading hp
  generalize Source.deliveryOf a = d
  have hqueue := receive_queue r d
  rw [hq, List.nil_append] at hqueue
  have hpump := receive_pump r d
  refine ⟨?_, ?_, ?_, ?_, ?_⟩
  · intro hn
    exact absurd (hpend.symm.trans hn) (by decide)
  · intro _
    cases hpass : d.isPassedOn with
    | true =>
      left
      unfold outstanding
      rw [hqueue, hpump, hpass]
      have hreq : (r.receive d).requests = 0 := hr
      cases d.line?.isSome <;> simp [hreq]
    | false =>
      right
      have hline : d.line? = none := by cases d <;> simp_all [Delivery.isPassedOn, Delivery.line?]
      rw [hline] at hpump
      refine ⟨by simpa using hpump, hpend, ?_⟩
      unfold outstanding
      rw [hqueue, hpump, hpass]
      have hreq : (r.receive d).requests = 0 := hr
      simp [hreq]
  · intro hx
    exact absurd (hne.symm.trans hx) (by decide)
  · intro d' hd'
    rw [hqueue] at hd'
    cases hpass : d.isPassedOn with
    | true =>
      rw [hpass] at hd'
      obtain rfl : d' = d := by simpa using hd'
      rw [hpump]
      cases d'.line? <;> simp
    | false => simp [hpass] at hd'
  · intro _
    exact ⟨hr, Or.inr hpend⟩

theorem take {d : Delivery} (h : r.IsSound) (ht : r.take? = some (d, r')) : r'.IsSound := by
  obtain ⟨rest, hq, rfl⟩ := take?_eq_some ht
  have hle := h.outstanding_le
  unfold outstanding at hle
  rw [hq, List.length_cons] at hle
  have hrest : rest = [] := List.length_eq_zero_iff.mp (by omega)
  subst hrest
  have hreading : r.pump ≠ .reading := by
    intro hp
    simp only [hp, ↓reduceIte] at hle
    omega
  refine ⟨?_, ?_, ?_, ?_, ?_⟩
  · intro _
    unfold outstanding
    simp only [hreading, ↓reduceIte, List.length_nil]
    omega
  · intro hp
    cases hp
  · intro he
    refine ⟨rfl, ?_⟩
    cases hx : r.exhausted with
    | true => exact (h.done hx).2
    | false =>
      simp only [hx, Bool.false_or, Option.isNone_iff_eq_none] at he
      exact (h.last d (by simp [hq])).mp he
  · intro d' hd'
    cases hd'
  · intro hf
    have hd := (h.last d (by simp [hq])).mpr hf
    exact ⟨(h.ended hf).1, Or.inl (by simp [hd])⟩

theorem held_eq_nil (h : r.IsSound) (he : r.exhausted = true) : r.held = [] := by
  unfold held
  rw [h.queue_eq_nil he]
  rfl

end IsSound

theorem not_isLost_of_pump {r : LineReader} (h : r.pump ≠ .finished) : ¬ r.IsLost :=
  fun hl => h hl.1

theorem isLost_request (r : LineReader) : r.request.IsLost ↔ r.IsLost := by
  unfold request
  cases hp : r.pending with
  | true => simp
  | false =>
    constructor
    · intro hl
      have h0 := hl.2.2
      unfold outstanding at h0
      simp at h0
    · intro hl
      exact absurd (hp.symm.trans hl.2.1) (by decide)

/-- A read leaves the reader lost exactly if its answer is not passed on. -/
theorem isLost_receive {r : LineReader} (h : r.IsSound) (hp : r.pump = .reading) (d : Delivery) :
    (r.receive d).IsLost ↔ d.isPassedOn = false := by
  obtain ⟨hq, hnone, hpend⟩ := h.of_reading hp
  have hr : (r.receive d).requests = 0 := hnone
  have hqueue := receive_queue r d
  rw [hq, List.nil_append] at hqueue
  constructor
  · intro hl
    have h0 := hl.2.2
    unfold outstanding at h0
    rw [hqueue] at h0
    cases hd : d.isPassedOn with
    | true => simp [hd] at h0
    | false => rfl
  · intro hd
    have hpump : (r.receive d).pump = .finished := by
      cases d with
      | failed f => rfl
      | line s => cases hd
      | ended => cases hd
    refine ⟨hpump, hpend, ?_⟩
    unfold outstanding
    rw [hqueue, hpump, hr, hd]
    simp

theorem isPassedOn_deliveryOf {a : Except Failure String} :
    (Source.deliveryOf a).isPassedOn = false ↔ ∃ f, a = .error f ∧ f.isOrdinary = false := by
  cases a with
  | ok text =>
    simp only [Source.deliveryOf, Source.deliver]
    split <;> simp [Delivery.isPassedOn]
  | error f => simp [Source.deliveryOf, Delivery.isPassedOn]

end LineReader
end LineShell
