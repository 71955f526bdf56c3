import LineShell.Proofs.Reading.Lines

/-! # What a call for a line answers

If no read of the source fails, a call answers a line, the end of the input, or that it was told to
stop waiting; it waits in vain only while the source itself makes it wait.
-/
namespace LineShell.LineReader
variable {r r' : LineReader} {s s' : Source}

/-- No failure waits in the reader, and none has ended it. -/
def IsCalm (r : LineReader) : Prop := ¬ r.IsLost ∧ ∀ f, Delivery.failed f ∉ r.queue

theorem isCalm_new : IsCalm {} := ⟨fun h => (by cases h.1), fun _ h => (by cases h)⟩

theorem isPassedOn_of_isCalm (h : s.IsCalm) {a : Except Failure String} (ha : s.answer? = some a) :
    (Source.deliveryOf a).isPassedOn = true := by
  cases a with
  | ok text =>
    unfold Source.deliveryOf Source.deliver
    simp only
    split <;> rfl
  | error f => exact absurd ha (h.answer_ne_error f)

namespace IsCalm

theorem request (h : r.IsCalm) : r.request.IsCalm := by
  refine ⟨fun hl => h.1 ((isLost_request r).mp hl), ?_⟩
  have hq : r.request.queue = r.queue := by
    unfold LineReader.request
    split <;> rfl
  rw [hq]
  exact h.2

theorem begin (h : r.IsCalm) (hb : r.begin? = some r') : r'.IsCalm := by
  obtain ⟨_, _, rfl⟩ := begin?_eq_some hb
  exact ⟨not_isLost_of_pump (by simp), h.2⟩

theorem finish (h : r.IsCalm) (sound : r.IsSound) (calm : s.IsCalm)
    (hf : r.finish? s = some (r', s')) : r'.IsCalm := by
  obtain ⟨hp, a, ha, rfl, _⟩ := finish?_eq_some hf
  have hpass := isPassedOn_of_isCalm calm ha
  refine ⟨?_, ?_⟩
  · rw [isLost_receive sound hp, hpass]
    decide
  · intro f hm
    rw [receive_queue, hpass] at hm
    rcases List.mem_append.mp hm with hm | hm
    · exact h.2 f hm
    · have hd : Source.deliveryOf a = .failed f := (List.mem_singleton.mp hm).symm
      cases a with
      | ok text =>
        unfold Source.deliveryOf Source.deliver at hd
        simp only at hd
        split at hd <;> cases hd
      | error g => exact calm.answer_ne_error g ha

theorem take {d : Delivery} (h : r.IsCalm) (ht : r.take? = some (d, r')) : r'.IsCalm := by
  obtain ⟨rest, hq, rfl⟩ := take?_eq_some ht
  refine ⟨fun hl => absurd hl.2.1 (by simp), ?_⟩
  intro f hm
  refine h.2 f ?_
  rw [hq]
  exact List.mem_cons_of_mem d hm

end IsCalm

/-- The pump has begun what it could begin. -/
def begun (r : LineReader) : LineReader := r.begin?.getD r

theorem advance_eq (r : LineReader) (s : Source) :
    r.advance s = (r.begun.finish? s).getD (r.begun, s) := rfl

theorem begun_cases (r : LineReader) : r.begun = r ∧ r.begin? = none ∨ r.begin? = some r.begun := by
  unfold begun
  cases hb : r.begin? with
  | none => exact Or.inl ⟨rfl, rfl⟩
  | some r' => exact Or.inr rfl

theorem IsCalm.begun (h : r.IsCalm) : r.begun.IsCalm := by
  rcases r.begun_cases with ⟨hb, _⟩ | hb
  · rw [hb]
    exact h
  · exact h.begin hb

theorem advance_cases (r : LineReader) (s : Source) :
    r.advance s = (r.begun, s) ∧ r.begun.finish? s = none ∨
      r.begun.finish? s = some (r.advance s) := by
  rw [advance_eq]
  cases hf : r.begun.finish? s with
  | none => exact Or.inl ⟨rfl, rfl⟩
  | some p => exact Or.inr rfl

section
variable (sound : r.IsSound) (calm : s.IsCalm)
include sound

theorem IsSound.begun : r.begun.IsSound := by
  rcases r.begun_cases with ⟨hb, _⟩ | hb
  · rw [hb]
    exact sound
  · exact sound.begin hb

include calm in
theorem IsCalm.advance (h : r.IsCalm) : (r.advance s).1.IsCalm := by
  rcases r.advance_cases s with ⟨ha, _⟩ | ha
  · rw [ha]
    exact h.begun
  · exact h.begun.finish sound.begun calm ha

end

theorem length_advance (r : LineReader) (s : Source) :
    (r.advance s).1.held.length + (r.advance s).2.items.length ≤
      r.held.length + s.items.length := by
  have hbegun : r.begun.held = r.held := by
    rcases r.begun_cases with ⟨hb, _⟩ | hb
    · rw [hb]
    · exact held_begin hb
  rcases r.advance_cases s with ⟨ha, _⟩ | ha
  · rw [ha, hbegun]
  · have h := (length_finish ha).1
    rw [hbegun] at h
    exact h

theorem requests_begun (hw : r.begun.pump = .waiting) : r.begun.requests = 0 := by
  rcases r.begun_cases with ⟨hb, hnone⟩ | hb
  · rw [hb] at hw ⊢
    unfold begin? at hnone
    split at hnone
    · cases hnone
    · rename_i hgo
      by_contra hpos
      exact hgo ⟨hw, Nat.pos_of_ne_zero hpos⟩
  · obtain ⟨_, _, hr⟩ := begin?_eq_some hb
    rw [hr] at hw
    cases hw

theorem pending_begun : r.begun.pending = r.pending := by
  rcases r.begun_cases with ⟨hb, _⟩ | hb
  · rw [hb]
  · obtain ⟨_, _, hr⟩ := begin?_eq_some hb
    rw [hr]

theorem queue_advance (sound : r.IsSound) (h : r.IsCalm) (calm : s.IsCalm)
    (pending : r.pending = true) :
    (r.advance s).1.queue ≠ [] ∨ s.answer? = none ∧ (r.advance s).2 = s := by
  have hsound := sound.begun
  have hpending : r.begun.pending = true := pending_begun.trans pending
  have hone := (hsound.busy hpending).resolve_right h.begun.1
  unfold outstanding at hone
  have hidle : r.begun.pump ≠ .reading → (r.advance s).1.queue ≠ [] := by
    intro hp
    have hrequests : r.begun.requests = 0 := by
      cases hpump : r.begun.pump with
      | waiting => exact requests_begun hpump
      | reading => exact absurd hpump hp
      | finished => exact (hsound.ended hpump).1
    simp only [hp, ↓reduceIte] at hone
    have hadvance : r.advance s = (r.begun, s) := by
      rcases r.advance_cases s with ⟨ha, _⟩ | ha
      · exact ha
      · exact absurd (finish?_eq_some ha).1 hp
    have hpos : 0 < r.begun.queue.length := by omega
    rw [hadvance]
    exact List.length_pos_iff.mp hpos
  by_cases hp : r.begun.pump = .reading
  · cases ha : s.answer? with
    | none =>
      right
      refine ⟨rfl, ?_⟩
      rcases r.advance_cases s with ⟨hadvance, _⟩ | hf
      · rw [hadvance]
      · obtain ⟨_, a, ha', _⟩ := finish?_eq_some hf
        rw [ha] at ha'
        cases ha'
    | some a =>
      left
      have hf : r.begun.finish? s = some (r.begun.receive (Source.deliveryOf a), s.rest) := by
        unfold finish?
        rw [if_pos hp, Source.read?_eq, ha]
        rfl
      have hpass := isPassedOn_of_isCalm calm ha
      rw [advance_eq, hf, Option.getD_some, receive_queue, hpass]
      simp
  · exact Or.inl (hidle hp)

/-- The reader and the source as a call looks at them. -/
def asked (r : LineReader) (s : Source) : LineReader × Source := r.request.advance s

theorem readLine_of_exhausted (done : r.exhausted = true) (cancelled : Bool) (stops : List Bool) :
    r.readLine s cancelled stops = (.failed .endOfInput, r, s) := by
  unfold readLine
  rw [done]
  rfl

theorem readLine_eq (more : r.exhausted = false) (cancelled : Bool) (stops : List Bool) :
    r.readLine s cancelled stops =
      (((r.asked s).1.poll cancelled stops).1, ((r.asked s).1.poll cancelled stops).2,
        (r.asked s).2) := by
  unfold readLine
  rw [more]
  rfl

/-- A poll that is not told to stop waiting finds nothing only where there is nothing. -/
theorem queue_eq_nil_of_poll {cancelled stop : Bool} (go : (stop || cancelled) = false)
    (answer : (r.poll cancelled [stop]).1 = .interrupted) : r.queue = [] := by
  obtain ⟨rfl, rfl⟩ := Bool.or_eq_false_iff.mp go
  cases ht : r.take? with
  | none => exact take?_eq_none ht
  | some p =>
    have hp : (r.poll false [false]).1 = .ofDelivery p.1 := by
      unfold poll
      rw [ht]
      rfl
    rw [hp] at answer
    cases hd : p.1 <;> rw [hd] at answer <;> cases answer

theorem length_readLine {cancelled : Bool} {stops : List Bool} {line : String}
    (answer : (r.readLine s cancelled stops).1 = .line line) :
    (r.readLine s cancelled stops).2.1.held.length +
      (r.readLine s cancelled stops).2.2.items.length + 1 ≤ r.held.length + s.items.length := by
  cases he : r.exhausted with
  | true =>
    rw [readLine_of_exhausted he] at answer
    cases answer
  | false =>
    have hlength := length_advance r.request s
    rw [held_request] at hlength
    rw [readLine_eq he] at answer ⊢
    rcases (r.asked s).1.poll_cases cancelled stops with hp | ⟨d, r', ht, hp⟩
    · rw [hp] at answer
      cases answer
    · rw [hp] at answer ⊢
      have hheld := congrArg List.length (held_take ht)
      cases d with
      | line text =>
        rw [List.length_append] at hheld
        simp only [Delivery.line?, Option.toList_some, List.length_singleton] at hheld
        change r'.held.length + (r.request.advance s).2.items.length + 1 ≤ _
        unfold asked at hheld
        omega
      | ended => cases answer
      | failed f => cases answer

section
variable (sound : r.IsSound) (h : r.IsCalm) (calm : s.IsCalm)
include sound h calm

theorem eq_endOfInput_of_readLine {cancelled : Bool} {stops : List Bool} {f : Failure}
    (answer : (r.readLine s cancelled stops).1 = .failed f) : f = .endOfInput := by
  cases he : r.exhausted with
  | true =>
    rw [readLine_of_exhausted he] at answer
    cases answer
    rfl
  | false =>
    have hcalm : (r.asked s).1.IsCalm := h.request.advance (sound.request he) calm
    rw [readLine_eq he] at answer
    rcases (r.asked s).1.poll_cases cancelled stops with hp | ⟨d, r', ht, hp⟩
    · rw [hp] at answer
      cases answer
    · rw [hp] at answer
      cases d with
      | line text => cases answer
      | ended =>
        cases answer
        rfl
      | failed g =>
        obtain ⟨rest, hq, _⟩ := take?_eq_some ht
        exact absurd (by rw [hq]; exact List.mem_cons_self) (hcalm.2 g)

/-- A call that is interrupted was told to stop waiting, or the source makes it wait. -/
theorem interrupted_of_readLine {cancelled stop : Bool}
    (answer : (r.readLine s cancelled [stop]).1 = .interrupted) :
    (stop || cancelled) = true ∨ (r.readLine s cancelled [stop]).2.2.answer? = none := by
  by_cases go : (stop || cancelled) = true
  · exact Or.inl go
  · right
    cases he : r.exhausted with
    | true =>
      rw [readLine_of_exhausted he] at answer
      cases answer
    | false =>
      have hpending : r.request.pending = true := by
        unfold LineReader.request
        split
        · assumption
        · rfl
      rw [readLine_eq he] at answer ⊢
      have hnil := queue_eq_nil_of_poll (by simpa using go) answer
      rcases queue_advance (sound.request he) h.request calm hpending with hq | ⟨hnone, hsame⟩
      · exact absurd hnil hq
      · change (r.request.advance s).2.answer? = none
        rw [hsame]
        exact hnone

theorem isCalm_readLine (cancelled : Bool) (stops : List Bool) :
    (r.readLine s cancelled stops).2.1.IsCalm ∧ (r.readLine s cancelled stops).2.2.IsCalm := by
  cases he : r.exhausted with
  | true =>
    rw [readLine_of_exhausted he]
    exact ⟨h, calm⟩
  | false =>
    have hcalm : (r.asked s).1.IsCalm := h.request.advance (sound.request he) calm
    have hsource : (r.asked s).2.IsCalm := by
      unfold asked
      rcases r.request.advance_cases s with ⟨ha, _⟩ | ha
      · rw [ha]
        exact calm
      · obtain ⟨_, a, _, _, hsame⟩ := finish?_eq_some ha
        have hrest : (r.request.advance s).2 = s.rest := hsame
        rw [hrest]
        exact calm.rest
    rw [readLine_eq he]
    refine ⟨?_, hsource⟩
    rcases (r.asked s).1.poll_cases cancelled stops with hp | ⟨d, r', ht, hp⟩
    · rw [hp]
      exact hcalm
    · rw [hp]
      exact hcalm.take ht

end

end LineShell.LineReader
