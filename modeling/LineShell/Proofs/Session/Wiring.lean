import LineShell.Proofs.Session.Assigning
import LineShell.Proofs.Session.Steps

/-! # The way of the lines through a session

Of all that a session holds, lines pass only through its sources and its readers. What the steps of
a session do to these is a small system of its own: a reader is opened or goes on, a stream is
assigned, and nothing else changes anything. Readers stay sound, numbers stay in range, and what a
reader can still deliver never grows.
-/
namespace LineShell.Session

def received (s : Session) : List String := s.journal.filterMap Event.line?

def assignments (s : Session) (name : String) : ℕ := s.assigned.countP (·.1 = name)

/-- The part of a session that lines pass through, with the numbers of the outlets in use. -/
structure Wiring where
  input : ℕ
  sources : List Source
  readers : List (ℕ × LineReader)
  reader : Option ℕ
  received : List String
  inputs : ℕ
  outlets : ℕ
  output : ℕ
  errors : ℕ

def wiring (s : Session) : Wiring where
  input := s.input
  sources := s.sources
  readers := s.readers
  reader := s.reader
  received := s.received
  inputs := s.assignments "stdin"
  outlets := s.outlets.length
  output := s.output
  errors := s.errors

namespace Wiring

/-- What a step of a session may do to its wiring. -/
inductive Step (w : Wiring) : Wiring → Prop
  | same : Step w w
  | opened (unusable : ∀ n r, w.reader = some n → w.readers[n]? = some (w.input, r) →
      r.exhausted = true) :
    Step w { w with readers := w.readers ++ [(w.input, {})], reader := some w.readers.length }
  | asked {n input : ℕ} {r : LineReader} (there : w.readers[n]? = some (input, r))
    (more : r.exhausted = false) :
    Step w { w with readers := w.readers.set n (input, r.request) }
  | begun {n input : ℕ} {r r' : LineReader} (there : w.readers[n]? = some (input, r))
    (taken : r.begin? = some r') : Step w { w with readers := w.readers.set n (input, r') }
  | arrived {n input : ℕ} {r r' : LineReader} {source source' : Source}
    (there : w.readers[n]? = some (input, r)) (wired : w.sources[input]? = some source)
    (finished : r.finish? source = some (r', source')) :
    Step w { w with
      readers := w.readers.set n (input, r'), sources := w.sources.set input source' }
  | took {n input : ℕ} {r r' : LineReader} {d : Delivery}
    (there : w.readers[n]? = some (input, r)) (taken : r.take? = some (d, r')) :
    Step w { w with
      readers := w.readers.set n (input, r'), received := w.received ++ d.line?.toList }
  | released {input : ℕ} {source : Source} (wired : w.sources[input]? = some source) :
    Step w { w with sources := w.sources.set input { source with isOpen := true } }
  | inputAssigned {number : ℕ} {more : List Source}
    (there : w.sources ≠ [] → number < (w.sources ++ more).length) :
    Step w { w with sources := w.sources ++ more, input := number, inputs := w.inputs + 1 }
  | outputAssigned {number more : ℕ} (there : 1 < w.outlets → number < w.outlets + more) :
    Step w { w with outlets := w.outlets + more, output := number }
  | errorsAssigned {number more : ℕ} (there : 1 < w.outlets → number < w.outlets + more) :
    Step w { w with outlets := w.outlets + more, errors := number }

end Wiring

theorem received_record (s : Session) (event : Event) :
    (s.record event).received = s.received ++ event.line?.toList := by
  unfold received record
  rw [List.filterMap_append]
  cases he : event.line? <;> simp [he]

theorem filterMap_received (taken : Option String) :
    (taken.toList.map Event.received).filterMap Event.line? = taken.toList := by
  cases taken <;> rfl

theorem received_fetch {s t : Session} {n : ℕ} {watching : Bool} {answer : LineReader.Answer}
    (h : fetch n watching s = (.ok answer, t)) :
    t.received = s.received ++ answer.line?.toList := by
  rcases fetch_cases s n watching with ⟨input, r, source, there, wired⟩ | hf
  · rw [fetch_of_wired there wired] at h
    cases h
    unfold received serve
    rw [List.filterMap_append, filterMap_received]
  · rw [hf] at h
    cases h
    simp [LineReader.Answer.line?]

theorem assignments_keep (s : Session) (name : String) (given : Given Behaviour) :
    (s.keep name given).assignments "stdin" =
      s.assignments "stdin" + if name = "stdin" then 1 else 0 := by
  unfold assignments keep
  simp [List.countP_cons]

theorem wiring_own {s t : Session} (h : Own s t) : Wiring.Step s.wiring t.wiring := by
  cases h with
  | noted event other =>
    have hsame : (s.record event).wiring = s.wiring := by
      unfold wiring
      rw [received_record, other]
      simp [record, assignments]
    rw [hsame]
    exact .same
  | @disarmed n o there =>
    have hsame : wiring { s with outlets := s.outlets.set n ⟨o.sink, none⟩ } = s.wiring := by
      unfold wiring
      rw [List.length_set]
      rfl
    rw [hsame]
    exact .same
  | dispatching => exact .same
  | rested => exact .same
  | began context registered => exact .same
  | cleared => exact .same
  | opened =>
    cases hu : s.usableReader with
    | some number =>
      rw [currentReader_of_usable hu]
      exact .same
    | none =>
      rw [currentReader_of_none hu]
      refine .opened ?_
      intro n r hn hr
      change s.reader = some n at hn
      change s.readers[n]? = some (s.input, r) at hr
      simpa [usableReader, hn, hr] using hu
  | left => exact .same

theorem wiring_setStopping (s : Session) (b : Bool) : (s.setStopping b).wiring = s.wiring := by
  cases b <;> rfl

theorem wiring_setCallbacks (s : Session) (callbacks : List Callback) (m : Moment) :
    (s.setCallbacks callbacks m).wiring = s.wiring :=
  eq_of_uncalled (fun _ => rfl) (uncalled_setCallbacks s callbacks m)

theorem wiring_callbackNamed (s : Session) (name : String) :
    (s.callbackNamed name).2.wiring = s.wiring :=
  eq_of_uncalled (fun _ => rfl) (uncalled_callbackNamed s name)

theorem wiring_disconnect {s t : Session} {m : Moment} {c : Callback}
    (h : s.disconnect m c = .ok t) : t.wiring = s.wiring :=
  eq_of_uncalled (fun _ => rfl) (uncalled_disconnect h)

theorem wiring_keep (s : Session) {name : String} (other : name ≠ "stdin")
    (given : Given Behaviour) : (s.keep name given).wiring = s.wiring := by
  unfold wiring
  rw [assignments_keep, if_neg other]
  rfl

theorem wiring_assigned {s t : Session} {name : String} {given : Given Behaviour}
    (h : Assigned s name given t) : Wiring.Step s.wiring t.wiring := by
  cases h with
  | setting settings other => exact .same
  | stopping b other =>
    rw [wiring_setStopping]
    exact .same
  | @input number more hname there =>
    change Wiring.Step s.wiring { s.wiring with
      sources := s.sources ++ more, input := number
      inputs := (s.keep name given).assignments "stdin" }
    rw [assignments_keep, if_pos hname]
    exact .inputAssigned there
  | @output number more other there =>
    have hkeep := wiring_keep s other given
    change Wiring.Step s.wiring { (s.keep name given).wiring with
      outlets := (s.outlets ++ more).length, output := number }
    rw [List.length_append] at there ⊢
    rw [hkeep]
    exact .outputAssigned there
  | @errors number more other there =>
    have hkeep := wiring_keep s other given
    change Wiring.Step s.wiring { (s.keep name given).wiring with
      outlets := (s.outlets ++ more).length, errors := number }
    rw [List.length_append] at there ⊢
    rw [hkeep]
    exact .errorsAssigned there
  | other other =>
    rw [wiring_keep s other]
    exact .same

/-- Each step of a session is a step of its wiring. -/
theorem Step.wiring {s t : Session} (h : Step s t) : Wiring.Step s.wiring t.wiring := by
  cases h with
  | own done => exact wiring_own done
  | stopping b =>
    rw [wiring_setStopping]
    exact .same
  | cancelled b => exact .same
  | assigned done => exact wiring_assigned (assigned_of_assign done)
  | named name =>
    rw [wiring_callbackNamed]
    exact .same
  | renamed name body => exact .same
  | connected m c =>
    rw [connect, wiring_setCallbacks]
    exact .same
  | disconnected done =>
    rw [wiring_disconnect done]
    exact .same
  | asked there more => exact .asked there more
  | begun there taken => exact .begun there taken
  | arrived there wired finished => exact .arrived there wired finished
  | @took n input r r' d there taken =>
    change Wiring.Step s.wiring { s.wiring with
      readers := s.readers.set n (input, r')
      received := (s.journal ++ d.line?.toList.map Event.received).filterMap Event.line? }
    rw [List.filterMap_append, filterMap_received]
    exact .took there taken
  | released wired => exact .released wired

namespace Wiring

/-- All numbers are in range, and the readers are sound. -/
structure IsLegal (w : Wiring) : Prop where
  input : w.input < w.sources.length
  outlets : 1 < w.outlets
  output : w.output < w.outlets
  errors : w.errors < w.outlets
  readers : ∀ p ∈ w.readers, p.1 < w.sources.length ∧ p.2.IsSound

theorem IsLegal.setReader {w : Wiring} (h : w.IsLegal) {n input : ℕ} {r r' : LineReader}
    (there : w.readers[n]? = some (input, r)) (sound : r.IsSound → r'.IsSound) :
    ∀ p ∈ w.readers.set n (input, r'), p.1 < w.sources.length ∧ p.2.IsSound := by
  obtain ⟨hlt, hr⟩ := h.readers _ (List.mem_of_getElem? there)
  intro p hp
  rcases List.mem_or_eq_of_mem_set hp with hp | rfl
  · exact h.readers p hp
  · exact ⟨hlt, sound hr⟩

theorem IsLegal.step {w v : Wiring} (h : w.IsLegal) (hs : Step w v) : v.IsLegal := by
  cases hs with
  | same => exact h
  | opened unusable =>
    refine ⟨h.input, h.outlets, h.output, h.errors, ?_⟩
    intro p hp
    rcases List.mem_append.mp hp with hp | hp
    · exact h.readers p hp
    · rw [List.mem_singleton.mp hp]
      exact ⟨h.input, LineReader.isSound_new⟩
  | asked there more =>
    exact ⟨h.input, h.outlets, h.output, h.errors, h.setReader there fun hr => hr.request more⟩
  | begun there taken =>
    exact ⟨h.input, h.outlets, h.output, h.errors, h.setReader there fun hr => hr.begin taken⟩
  | arrived there wired finished =>
    have hreaders := h.setReader there fun hr => hr.finish finished
    exact ⟨by simpa using h.input, h.outlets, h.output, h.errors, by simpa using hreaders⟩
  | took there taken =>
    exact ⟨h.input, h.outlets, h.output, h.errors, h.setReader there fun hr => hr.take taken⟩
  | released wired =>
    exact ⟨by simpa using h.input, h.outlets, h.output, h.errors, by simpa using h.readers⟩
  | inputAssigned there =>
    have hpos : w.sources ≠ [] := by
      intro hn
      have hlt := h.input
      simp [hn] at hlt
    refine ⟨there hpos, h.outlets, h.output, h.errors, ?_⟩
    intro p hp
    obtain ⟨hlt, hr⟩ := h.readers p hp
    refine ⟨?_, hr⟩
    rw [List.length_append]
    omega
  | outputAssigned there =>
    have hout := h.outlets
    have herr := h.errors
    exact ⟨h.input, by simp only; omega, there hout, by simp only; omega, h.readers⟩
  | errorsAssigned there =>
    have hout := h.outlets
    have ho := h.output
    exact ⟨h.input, by simp only; omega, by simp only; omega, there hout, h.readers⟩

def items (w : Wiring) (input : ℕ) : ℕ := ((w.sources[input]?).map (·.items.length)).getD 0

/-- How many lines a reader may still deliver: those it holds, and the items of its source. -/
def remaining (w : Wiring) (n : ℕ) : ℕ :=
  match w.readers[n]? with
  | none => 0
  | some (input, r) => r.held.length + w.items input

theorem remaining_of_reader {w : Wiring} {n input : ℕ} {r : LineReader}
    (there : w.readers[n]? = some (input, r)) : w.remaining n = r.held.length + w.items input := by
  unfold remaining
  rw [there]

theorem items_of_source {w : Wiring} {input : ℕ} {source : Source}
    (wired : w.sources[input]? = some source) : w.items input = source.items.length := by
  unfold items
  rw [wired]
  rfl

theorem items_setSource {w v : Wiring} {input : ℕ} {source source' : Source}
    (wired : w.sources[input]? = some source) (hv : v.sources = w.sources.set input source')
    (i : ℕ) : v.items i = if input = i then source'.items.length else w.items i := by
  have hlt := (List.getElem?_eq_some_iff.mp wired).1
  unfold items
  rw [hv]
  by_cases hi : input = i
  · subst hi
    simp [hlt]
  · simp [hi]

theorem remaining_le {w v : Wiring} {n : ℕ} (hn : n < w.readers.length)
    (readers : ∀ input r, w.readers[n]? = some (input, r) →
      ∃ r', v.readers[n]? = some (input, r') ∧
        r'.held.length + v.items input ≤ r.held.length + w.items input) :
    v.remaining n ≤ w.remaining n := by
  obtain ⟨r', hr', hle⟩ := readers _ _ (List.getElem?_eq_getElem hn)
  rw [remaining_of_reader (List.getElem?_eq_getElem hn), remaining_of_reader hr']
  exact hle

theorem remaining_setReader_le {w v : Wiring} {n m input : ℕ} {r r' : LineReader}
    (there : w.readers[n]? = some (input, r)) (hm : m < w.readers.length)
    (hv : v.readers = w.readers.set n (input, r')) (sources : v.sources = w.sources)
    (held : r'.held.length ≤ r.held.length) : v.remaining m ≤ w.remaining m := by
  have hitems : ∀ i, v.items i = w.items i := by
    intro i
    unfold items
    rw [sources]
  refine remaining_le hm ?_
  intro i q hq
  rw [hv, hitems]
  by_cases hnm : n = m
  · subst hnm
    obtain ⟨rfl, rfl⟩ : input = i ∧ r = q := by simpa [there] using hq
    exact ⟨r', by simp [hm], by omega⟩
  · exact ⟨q, by rw [List.getElem?_set_ne hnm]; exact hq, le_rfl⟩

theorem remaining_step {w v : Wiring} (h : w.IsLegal) (hs : Step w v) {m : ℕ}
    (hm : m < w.readers.length) : v.remaining m ≤ w.remaining m := by
  have hrange : ∀ {i r}, w.readers[m]? = some (i, r) → i < w.sources.length :=
    fun hr => (h.readers _ (List.mem_of_getElem? hr)).1
  cases hs with
  | same => exact le_rfl
  | opened unusable =>
    refine remaining_le hm ?_
    intro i r hr
    exact ⟨r, by rw [List.getElem?_append_left hm]; exact hr, le_rfl⟩
  | asked there more =>
    exact remaining_setReader_le there hm rfl rfl (by rw [LineReader.held_request])
  | begun there taken =>
    exact remaining_setReader_le there hm rfl rfl (by rw [LineReader.held_begin taken])
  | @arrived n input r r' source source' there wired finished =>
    obtain ⟨hboth, hsource⟩ := LineReader.length_finish finished
    have hold := items_of_source wired
    refine remaining_le hm ?_
    intro i q hq
    rw [items_setSource wired rfl]
    by_cases hnm : n = m
    · subst hnm
      obtain ⟨rfl, rfl⟩ : input = i ∧ r = q := by simpa [there] using hq
      refine ⟨r', by simp [hm], ?_⟩
      rw [if_pos rfl, hold]
      exact hboth
    · refine ⟨q, by simp only; rw [List.getElem?_set_ne hnm]; exact hq, ?_⟩
      by_cases hi : input = i
      · subst hi
        rw [if_pos rfl, hold]
        omega
      · rw [if_neg hi]
  | took there taken =>
    have hheld := congrArg List.length (LineReader.held_take taken)
    rw [List.length_append] at hheld
    exact remaining_setReader_le there hm rfl rfl (by omega)
  | @released input source wired =>
    refine remaining_le hm ?_
    intro i r hr
    refine ⟨r, hr, ?_⟩
    rw [items_setSource wired rfl]
    split
    · rename_i hi
      rw [← hi, items_of_source wired]
    · exact le_rfl
  | @inputAssigned number more there =>
    refine remaining_le hm ?_
    intro i r hr
    refine ⟨r, hr, ?_⟩
    have hi := hrange hr
    simp [items, List.getElem?_append_left hi]
  | outputAssigned there => exact le_rfl
  | errorsAssigned there => exact le_rfl

/-- Readers are opened and never closed, and lines are taken and never given back. -/
theorem Step.grows {w v : Wiring} (hs : Step w v) :
    w.readers.length ≤ v.readers.length ∧ w.received <+: v.received ∧ w.inputs ≤ v.inputs := by
  cases hs with
  | opened unusable => exact ⟨by simp, List.prefix_rfl, le_rfl⟩
  | took there taken => exact ⟨by simp, List.prefix_append _ _, le_rfl⟩
  | inputAssigned there => exact ⟨le_rfl, List.prefix_rfl, Nat.le_succ _⟩
  | _ => exact ⟨by simp, List.prefix_rfl, le_rfl⟩

end Wiring

theorem isLegal_of_start {input : String} {host : Host} {items : List Registry.Item}
    {given : List (String × Given Behaviour)} {s : Session}
    (h : start input host items given = .ok s) : s.wiring.IsLegal := by
  refine start_induction (P := fun s => s.wiring.IsLegal) h ?_ ?_
  · intro registry
    refine ⟨?_, ?_, ?_, ?_, ?_⟩
    · exact Nat.zero_lt_one
    · exact Nat.one_lt_two
    · exact Nat.zero_lt_two
    · exact Nat.one_lt_two
    · intro p hp
      cases hp
  · intro s name _ given t hs ht
    exact hs.step (wiring_assigned (assigned_of_assign ht))

theorem Steps.isLegal {s t : Session} (h : s.wiring.IsLegal) (hs : Steps s t) :
    t.wiring.IsLegal := by
  induction hs with
  | refl => exact h
  | tail _ hs ih => exact ih.step hs.wiring

theorem Steps.grows {s t : Session} (hs : Steps s t) :
    s.readers.length ≤ t.readers.length ∧ s.received <+: t.received ∧
      s.assignments "stdin" ≤ t.assignments "stdin" := by
  induction hs with
  | refl => exact ⟨le_rfl, List.prefix_rfl, le_rfl⟩
  | tail _ hs ih =>
    obtain ⟨hreaders, hreceived, hinputs⟩ := hs.wiring.grows
    exact ⟨ih.1.trans hreaders, ih.2.1.trans hreceived, ih.2.2.trans hinputs⟩

/-- Whatever is done, a reader can deliver no more lines afterwards than before. -/
theorem Steps.remaining_le {s t : Session} (h : s.wiring.IsLegal) (hs : Steps s t) {n : ℕ}
    (hn : n < s.readers.length) : t.wiring.remaining n ≤ s.wiring.remaining n := by
  induction hs with
  | refl => exact le_rfl
  | tail hr hs ih =>
    have hlt := hn.trans_le (Steps.grows hr).1
    exact (Wiring.remaining_step (Steps.isLegal h hr) hs.wiring hlt).trans ih

/-- What no step changes: the commands, the host, and what is in the journal already. -/
def Frames (s t : Session) : Prop :=
  t.registry = s.registry ∧ t.host = s.host ∧ s.journal <+: t.journal

theorem Frames.refl (s : Session) : Frames s s := ⟨rfl, rfl, List.prefix_rfl⟩

theorem frames_assigned {s t : Session} {name : String} {given : Given Behaviour}
    (h : Assigned s name given t) : Frames s t := by
  cases h with
  | stopping b other => cases b <;> exact .refl s
  | _ => exact .refl s

theorem frames_own {s t : Session} (h : Own s t) : Frames s t := by
  cases h with
  | noted event other => exact ⟨rfl, rfl, List.prefix_append _ _⟩
  | opened =>
    cases hu : s.usableReader with
    | some number =>
      rw [currentReader_of_usable hu]
      exact .refl s
    | none =>
      rw [currentReader_of_none hu]
      exact .refl s
  | _ => exact .refl s

theorem Step.frames {s t : Session} (h : Step s t) : Frames s t := by
  cases h with
  | own done => exact frames_own done
  | stopping b => cases b <;> exact .refl s
  | assigned done => exact frames_assigned (assigned_of_assign done)
  | named name =>
    unfold callbackNamed
    split <;> exact .refl s
  | connected m c => cases m <;> exact .refl s
  | @disconnected m c _ done =>
    unfold disconnect at done
    split at done
    · cases done
      cases m <;> exact .refl s
    · cases done
  | took there taken => exact ⟨rfl, rfl, List.prefix_append _ _⟩
  | _ => exact .refl s

theorem Steps.frames {s t : Session} (hs : Steps s t) : Frames s t := by
  induction hs with
  | refl => exact .refl s
  | tail _ hs ih =>
    obtain ⟨hregistry, hhost, hjournal⟩ := hs.frames
    exact ⟨hregistry.trans ih.1, hhost.trans ih.2.1, ih.2.2.trans hjournal⟩

end LineShell.Session
