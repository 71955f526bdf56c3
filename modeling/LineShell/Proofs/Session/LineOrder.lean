import LineShell.Proofs.Session.Wiring

/-! # Lines across runs

While the input stays the same stream, all readers that a session ever opens read that stream, and
all but the one in use are exhausted and hold nothing. So the lines that were executed, the line
that is held and the lines still in the stream are the lines of the stream in their order, between
any two steps of any number of runs, nested or not, and in whatever way the runs end.
-/
namespace LineShell.Session

/-- The lines that have left a stream and were not taken to execute. -/
def held (s : Session) : List String := s.readers.flatMap fun p => p.2.held

/-- The lines that the input still has. -/
def ahead (s : Session) : List String := ((s.sources[s.input]?).map Source.lines).getD []

namespace Wiring

def held (w : Wiring) : List String := w.readers.flatMap fun p => p.2.held

def ahead (w : Wiring) : List String := ((w.sources[w.input]?).map Source.lines).getD []

/-- Lines are in the order of the stream, from the time on at which `lines` were those of the
input. -/
structure InOrder (input : ℕ) (lines : List String) (w : Wiring) : Prop where
  same : w.input = input
  readers : ∀ p ∈ w.readers, p.1 = input ∧ p.2.IsSound
  others : ∀ n p, w.readers[n]? = some p → w.reader ≠ some n → p.2.exhausted = true
  conserved : w.received ++ w.held ++ w.ahead = lines

theorem flatMap_eq_of_others {α β : Type} {f : α → List β} {as : List α} {n : ℕ} {a : α}
    (there : as[n]? = some a) (others : ∀ m b, as[m]? = some b → m ≠ n → f b = []) :
    as.flatMap f = f a := by
  induction as generalizing n with
  | nil => simp at there
  | cons b rest ih =>
    cases n with
    | zero =>
      obtain rfl : b = a := by simpa using there
      have hrest : rest.flatMap f = [] := by
        rw [List.flatMap_eq_nil_iff]
        intro c hc
        obtain ⟨m, hm⟩ := List.mem_iff_getElem?.mp hc
        exact others (m + 1) c (by simpa using hm) (Nat.succ_ne_zero m)
      simp [hrest]
    | succ n =>
      have hb : f b = [] := others 0 b (by simp) (Nat.succ_ne_zero n).symm
      have hrest := ih (by simpa using there) fun m c hc hm =>
        others (m + 1) c (by simpa using hc) (by omega)
      simp [hb, hrest]

namespace InOrder
variable {input : ℕ} {lines : List String} {w : Wiring}

theorem reader_eq (h : InOrder input lines w) {n i : ℕ} {r : LineReader}
    (there : w.readers[n]? = some (i, r)) (more : r.exhausted = false) : w.reader = some n := by
  by_contra hn
  have he := h.others n _ there hn
  rw [more] at he
  cases he

theorem held_others (h : InOrder input lines w) {n : ℕ} (hn : w.reader = some n) {m : ℕ}
    {p : ℕ × LineReader} (hp : w.readers[m]? = some p) (hm : m ≠ n) : p.2.held = [] := by
  refine (h.readers p (List.mem_of_getElem? hp)).2.held_eq_nil (h.others m p hp ?_)
  rw [hn]
  intro he
  exact hm (Option.some.inj he).symm

theorem held_eq (h : InOrder input lines w) {n i : ℕ} {r : LineReader}
    (there : w.readers[n]? = some (i, r)) (more : r.exhausted = false) : w.held = r.held :=
  flatMap_eq_of_others there fun _ _ hp hm => h.held_others (h.reader_eq there more) hp hm

theorem held_setReader (h : InOrder input lines w) {n i : ℕ} {r : LineReader}
    (there : w.readers[n]? = some (i, r)) (more : r.exhausted = false) (j : ℕ) (r' : LineReader) :
    (w.readers.set n (j, r')).flatMap (fun p => p.2.held) = r'.held := by
  have hlt := (List.getElem?_eq_some_iff.mp there).1
  refine flatMap_eq_of_others (List.getElem?_set_self hlt) ?_
  intro m p hp hm
  rw [List.getElem?_set_ne hm.symm] at hp
  exact h.held_others (h.reader_eq there more) hp hm

/-- The reader in use goes on, and what it moves stays in order. -/
theorem goOn {v : Wiring} (h : InOrder input lines w) {n i : ℕ} {r r' : LineReader}
    (there : w.readers[n]? = some (i, r)) (more : r.exhausted = false)
    (sound : r.IsSound → r'.IsSound) (hreaders : v.readers = w.readers.set n (i, r'))
    (hinput : v.input = w.input) (hreader : v.reader = w.reader)
    (moved : v.received ++ r'.held ++ v.ahead = w.received ++ r.held ++ w.ahead) :
    InOrder input lines v := by
  obtain ⟨rfl, hsound⟩ := h.readers _ (List.mem_of_getElem? there)
  refine ⟨hinput.trans h.same, ?_, ?_, ?_⟩
  · intro p hp
    rw [hreaders] at hp
    rcases List.mem_or_eq_of_mem_set hp with hp | rfl
    · exact h.readers p hp
    · exact ⟨rfl, sound hsound⟩
  · intro m p hp hm
    rw [hreader] at hm
    have hne : n ≠ m := by
      intro he
      subst he
      exact hm (h.reader_eq there more)
    rw [hreaders, List.getElem?_set_ne hne] at hp
    exact h.others m p hp hm
  · have hheld : v.held = r'.held := by
      unfold Wiring.held
      rw [hreaders]
      exact h.held_setReader there more _ r'
    rw [hheld, moved, ← h.held_eq there more]
    exact h.conserved

/-- A reader is opened only when all others are exhausted. -/
theorem opened (h : InOrder input lines w)
    (unusable : ∀ n r, w.reader = some n → w.readers[n]? = some (w.input, r) →
      r.exhausted = true) :
    InOrder input lines
      { w with readers := w.readers ++ [(w.input, {})], reader := some w.readers.length } := by
  have hdone : ∀ p ∈ w.readers, p.2.exhausted = true := by
    intro p hp
    obtain ⟨n, hn⟩ := List.mem_iff_getElem?.mp hp
    by_cases hr : w.reader = some n
    · have hi : p.1 = w.input := ((h.readers p hp).1).trans h.same.symm
      refine unusable n p.2 hr ?_
      rw [hn, ← hi]
    · exact h.others n p hn hr
  refine ⟨h.same, ?_, ?_, ?_⟩
  · intro p hp
    rcases List.mem_append.mp hp with hp | hp
    · exact h.readers p hp
    · rw [List.mem_singleton.mp hp]
      exact ⟨h.same, LineReader.isSound_new⟩
  · intro m p hp hm
    by_cases hlt : m < w.readers.length
    · rw [List.getElem?_append_left hlt] at hp
      exact hdone p (List.mem_of_getElem? hp)
    · have hlast := (List.getElem?_eq_some_iff.mp hp).1
      rw [List.length_append, List.length_singleton] at hlast
      obtain rfl : m = w.readers.length := by omega
      exact absurd rfl hm
  · have hheld : (w.readers ++ [(w.input, ({} : LineReader))]).flatMap (fun p => p.2.held) =
        w.held := by
      rw [List.flatMap_append]
      exact List.append_nil _
    change w.received ++ (w.readers ++ [(w.input, ({} : LineReader))]).flatMap _ ++ w.ahead = lines
    rw [hheld]
    exact h.conserved

theorem arrived (h : InOrder input lines w) {n i : ℕ} {r r' : LineReader} {source source' : Source}
    (there : w.readers[n]? = some (i, r)) (wired : w.sources[i]? = some source)
    (finished : r.finish? source = some (r', source')) :
    InOrder input lines { w with
      readers := w.readers.set n (i, r'), sources := w.sources.set i source' } := by
  have hmem := h.readers _ (List.mem_of_getElem? there)
  have more := hmem.2.exhausted_of_finish finished
  refine h.goOn there more (fun hr => hr.finish finished) rfl rfl rfl ?_
  obtain rfl : i = w.input := hmem.1.trans h.same.symm
  obtain ⟨_, a, ha, rfl, rfl⟩ := LineReader.finish?_eq_some finished
  have hlt := (List.getElem?_eq_some_iff.mp wired).1
  have hbefore : w.ahead = (Source.lineOf? a).toList ++ source.rest.lines := by
    unfold Wiring.ahead
    rw [wired]
    exact Source.lines_eq ha
  have hafter : ((w.sources.set w.input source.rest)[w.input]?.map Source.lines).getD [] =
      source.rest.lines := by
    rw [List.getElem?_set_self hlt]
    rfl
  change w.received ++ (r.receive (Source.deliveryOf a)).held ++
    ((w.sources.set w.input source.rest)[w.input]?.map Source.lines).getD [] = _
  rw [hafter, hbefore, LineReader.held_receive, Source.line?_deliveryOf]
  simp only [List.append_assoc]

theorem released (h : InOrder input lines w) {i : ℕ} {source : Source}
    (wired : w.sources[i]? = some source) :
    InOrder input lines { w with sources := w.sources.set i { source with isOpen := true } } := by
  refine ⟨h.same, h.readers, h.others, ?_⟩
  have hahead : ((w.sources.set i { source with isOpen := true })[w.input]?.map
      Source.lines).getD [] = w.ahead := by
    unfold Wiring.ahead
    by_cases hi : i = w.input
    · subst hi
      have hlt := (List.getElem?_eq_some_iff.mp wired).1
      rw [List.getElem?_set_self hlt, wired]
      rfl
    · rw [List.getElem?_set_ne hi]
  change w.received ++ w.held ++
    ((w.sources.set i { source with isOpen := true })[w.input]?.map Source.lines).getD [] = lines
  rw [hahead]
  exact h.conserved

/-- Lines stay in order as long as no stream is assigned to the input. -/
theorem step {v : Wiring} (h : InOrder input lines w) (hs : Step w v) (kept : v.inputs = w.inputs) :
    InOrder input lines v := by
  have hsound : ∀ {n i : ℕ} {r : LineReader}, w.readers[n]? = some (i, r) → r.IsSound :=
    fun there => (h.readers _ (List.mem_of_getElem? there)).2
  cases hs with
  | same => exact h
  | opened unusable => exact h.opened unusable
  | asked there more =>
    refine h.goOn there more (fun hr => hr.request more) rfl rfl rfl ?_
    rw [LineReader.held_request]
    rfl
  | begun there taken =>
    have more := (hsound there).exhausted_of_begin taken
    refine h.goOn there more (fun hr => hr.begin taken) rfl rfl rfl ?_
    rw [LineReader.held_begin taken]
    rfl
  | arrived there wired finished => exact h.arrived there wired finished
  | @took n i r r' d there taken =>
    have more := (hsound there).exhausted_of_take taken
    refine h.goOn there more (fun hr => hr.take taken) rfl rfl rfl ?_
    have hheld := LineReader.held_take taken
    change w.received ++ d.line?.toList ++ r'.held ++ w.ahead = w.received ++ r.held ++ w.ahead
    rw [hheld]
    simp only [List.append_assoc]
  | released wired => exact h.released wired
  | inputAssigned there => exact absurd kept (Nat.succ_ne_self _)
  | outputAssigned there => exact ⟨h.same, h.readers, h.others, h.conserved⟩
  | errorsAssigned there => exact ⟨h.same, h.readers, h.others, h.conserved⟩

theorem length_held_le (h : InOrder input lines w) : w.held.length ≤ 1 := by
  by_cases hall : ∀ p ∈ w.readers, p.2.exhausted = true
  · have hnil : w.held = [] := by
      unfold Wiring.held
      rw [List.flatMap_eq_nil_iff]
      intro p hp
      exact (h.readers p hp).2.held_eq_nil (hall p hp)
    simp [hnil]
  · obtain ⟨p, hall⟩ := not_forall.mp hall
    obtain ⟨hp, more⟩ := Classical.not_imp.mp hall
    obtain ⟨n, hn⟩ := List.mem_iff_getElem?.mp hp
    rw [h.held_eq hn (by simpa using more)]
    exact (h.readers p hp).2.length_held_le

end InOrder
end Wiring

theorem inOrder_of_start {input : String} {host : Host} {items : List Registry.Item}
    {given : List (String × Given Behaviour)} {s : Session}
    (h : start input host items given = .ok s) : s.wiring.InOrder s.input s.ahead := by
  have hfresh : s.readers = [] ∧ s.received = [] := by
    refine start_induction (P := fun s => s.readers = [] ∧ s.received = []) h ?_ ?_
    · intro registry
      exact ⟨rfl, rfl⟩
    · intro s name _ given t hs ht
      cases assigned_of_assign ht with
      | stopping b other => cases b <;> exact hs
      | _ => exact hs
  obtain ⟨hreaders, hreceived⟩ := hfresh
  have hnone : s.wiring.readers = [] := hreaders
  refine ⟨rfl, ?_, ?_, ?_⟩
  · intro p hp
    rw [hnone] at hp
    cases hp
  · intro n p hp
    rw [hnone] at hp
    cases hp
  · change s.received ++ s.readers.flatMap _ ++ s.ahead = s.ahead
    rw [hreaders, hreceived]
    rfl

theorem Steps.inOrder {s t : Session} {input : ℕ} {lines : List String}
    (h : s.wiring.InOrder input lines) (hs : Steps s t)
    (kept : t.assignments "stdin" = s.assignments "stdin") : t.wiring.InOrder input lines := by
  induction hs with
  | refl => exact h
  | @tail u v hu hv ih =>
    have hbefore := (Steps.grows hu).2.2
    have hafter := hv.wiring.grows.2.2
    have hsame : v.wiring.inputs = u.wiring.inputs := by
      change v.assignments "stdin" = u.assignments "stdin"
      change u.assignments "stdin" ≤ v.assignments "stdin" at hafter
      omega
    exact (ih (hsame.symm.trans kept)).step hv.wiring hsame

/-- However often the read loop of a session is run, in however many levels, and however each run
ends: as long as the input is not assigned again, the lines that were executed, the one that is held
and those still ahead are the lines of the stream; one line at most is held, and it is the next to
be executed. All that a host does is done in the steps that this is about, and a line that the loop
takes is executed at once. -/
theorem lines_in_order {input : String} {host : Host} {items : List Registry.Item}
    {given : List (String × Given Behaviour)} {s₀ s t : Session}
    (started : start input host items given = .ok s₀) (before : Steps s₀ s) (after : Steps s t)
    (kept : t.assignments "stdin" = s₀.assignments "stdin") :
    (s.received ++ s.held ++ s.ahead = s₀.ahead ∧ s.held.length ≤ 1) ∧
    (s.received <+: t.received ∧ (t.received = s.received ∨ s.received ++ s.held <+: t.received)) ∧
    (∀ (o : Operation) (u : Session), Steps u (o.act u).2) ∧
    (∀ (e : Engine) (n rounds : ℕ) (watching : Bool) (u v w : Session) (line : String),
      (u.stopping || (watching && u.cancelled)) = false → printPrompt e u = (.ok (), v) →
        fetch n watching v = (.ok (.line line), w) →
          w.received = v.received ++ [line] ∧
            loop e n watching (rounds + 1) u = obey e line (loop e n watching rounds) w) := by
  have hbefore := (Steps.grows before).2.2
  have hafter := (Steps.grows after).2.2
  have hs : s.wiring.InOrder s₀.input s₀.ahead :=
    before.inOrder (inOrder_of_start started) (by omega)
  have ht : t.wiring.InOrder s₀.input s₀.ahead := after.inOrder hs (by omega)
  have hreceived := (Steps.grows after).2.1
  refine ⟨⟨hs.conserved, hs.length_held_le⟩, ⟨hreceived, ?_⟩, Operation.steps, ?_⟩
  · obtain ⟨more, hmore⟩ := hreceived
    have hrest : more ++ (t.held ++ t.ahead) = s.held ++ s.ahead := by
      have h : t.received ++ t.held ++ t.ahead = s.received ++ s.held ++ s.ahead :=
        ht.conserved.trans hs.conserved.symm
      rw [← hmore] at h
      simpa only [List.append_assoc, List.append_cancel_left_eq] using h
    have hone : s.held.length ≤ 1 := hs.length_held_le
    cases more with
    | nil => exact Or.inl (by simpa using hmore.symm)
    | cons line rest =>
      right
      cases hheld : s.held with
      | nil => exact ⟨line :: rest, by simpa using hmore⟩
      | cons line' none =>
        rw [hheld] at hrest hone
        have hnil : none = [] := List.length_eq_zero_iff.mp (by simpa using hone)
        subst hnil
        obtain ⟨rfl, _⟩ := List.cons.inj hrest
        exact ⟨rest, by simpa using hmore⟩
  · intro e n rounds watching u v w line go prompted fetched
    exact ⟨received_fetch fetched, loop_of_line go prompted fetched⟩

def lateArrival : Session :=
  { ofProcess "" {} with
    registry := ⟨[]⟩
    sources := [{ items := [.line "b\n"] }]
    readers := [(0, { pending := true, queue := [.line "a"] })]
    reader := some 0 }

theorem lines_in_order_lateArrival :
    ∃ s₀ t, start "a\nb\n" {} [] [] = .ok s₀ ∧ Steps s₀ lateArrival ∧ Steps lateArrival t ∧
      t.assignments "stdin" = s₀.assignments "stdin" ∧
      lateArrival.received ++ lateArrival.held ++ lateArrival.ahead = s₀.ahead ∧
      lateArrival.held = ["a"] ∧ t.received = ["a"] := by
  let s₀ : Session :=
    { ofProcess "" {} with registry := ⟨[]⟩, sources := [{ items := [.line "a\n", .line "b\n"] }] }
  let opened : Session := { s₀ with readers := [(0, {})], reader := some 0 }
  let asked : Session := { opened with readers := [(0, { pending := true, requests := 1 })] }
  let begun : Session := { asked with readers := [(0, { pending := true, pump := .reading })] }
  let taken : Session :=
    { lateArrival with readers := [(0, {})], journal := [.received "a"] }
  have started : start "a\nb\n" {} [] [] = .ok s₀ := rfl
  have hopened : Step s₀ opened := .own .opened
  have fresh : opened.readers[0]? = some (0, ({} : LineReader)) := rfl
  have waiting : asked.readers[0]? = some (0, { pending := true, requests := 1 }) := rfl
  have reading : begun.readers[0]? = some (0, { pending := true, pump := .reading }) := rfl
  have holding : lateArrival.readers[0]? = some (0, { pending := true, queue := [.line "a"] }) :=
    rfl
  have hasked : Step opened asked := .asked fresh rfl
  have hbegun : Step asked begun := .begun waiting rfl
  have harrived : Step begun lateArrival := .arrived reading rfl rfl
  have htaken : Step lateArrival taken := .took holding rfl
  have before : Steps s₀ lateArrival :=
    (((Relation.ReflTransGen.single hopened).tail hasked).tail hbegun).tail harrived
  have h := lines_in_order started before (.single htaken) rfl
  exact ⟨s₀, taken, started, before, .single htaken, rfl, h.1.1, rfl, rfl⟩

end LineShell.Session
