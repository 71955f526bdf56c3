import LineShell.Session.Setting

/-! # What an assignment changes

An assignment to a setting changes that setting and nothing else; a stream that is given becomes a
new source or a new outlet, and those that there are stay as they are.
-/
namespace LineShell.Session
variable {s t : Session} {name : String} {given : Given Behaviour}

inductive Assigned (s : Session) (name : String) (given : Given Behaviour) : Session → Prop
  | setting (settings : Settings) : name ≠ "stdin" → Assigned s name given { s with settings }
  | stopping (b : Bool) : name = "stopping" → Assigned s name given (s.setStopping b)
  | input {number : Nat} {more : List Source} :
    name = "stdin" → (s.sources ≠ [] → number < (s.sources ++ more).length) →
      Assigned s name given
        { s.keep name given with sources := s.sources ++ more, input := number }
  | output {number : Nat} {more : List Outlet} :
    name ≠ "stdin" → (1 < s.outlets.length → number < (s.outlets ++ more).length) →
      Assigned s name given
        { s.keep name given with outlets := s.outlets ++ more, output := number }
  | errors {number : Nat} {more : List Outlet} :
    name ≠ "stdin" → (1 < s.outlets.length → number < (s.outlets ++ more).length) →
      Assigned s name given
        { s.keep name given with outlets := s.outlets ++ more, errors := number }
  | other : name ≠ "stdin" → Assigned s name given (s.keep name given)

theorem openInput_eq_ok {number : Nat} (h : s.openInput given = .ok (number, t)) :
    ∃ more, t = { s with sources := s.sources ++ more } ∧
      (s.sources ≠ [] → number < (s.sources ++ more).length) := by
  unfold openInput at h
  split at h
  · cases h
    exact ⟨[], by simp, fun hs => by simpa using List.length_pos_iff.mpr hs⟩
  · cases h
    exact ⟨_, rfl, by simp⟩
  · cases h
    exact ⟨_, rfl, by simp⟩
  · cases h
    exact ⟨_, rfl, by simp⟩
  · cases h

theorem openOutput_eq_ok {what : String} {process number : Nat}
    (h : s.openOutput what process given = .ok (number, t)) (there : process ≤ 1) :
    ∃ more, t = { s with outlets := s.outlets ++ more } ∧
      (1 < s.outlets.length → number < (s.outlets ++ more).length) := by
  unfold openOutput at h
  split at h
  · cases h
    exact ⟨[], by simp, fun hs => by simp only [List.append_nil]; omega⟩
  · cases h
    exact ⟨_, rfl, by simp⟩
  · cases h
    exact ⟨_, rfl, by simp⟩
  · cases h
    exact ⟨_, rfl, by simp⟩
  · cases h

theorem bind_eq_ok {α β ε : Type} {x : Except ε α} {f : α → Except ε β} {b : β}
    (h : x >>= f = .ok b) : ∃ a, x = .ok a ∧ f a = .ok b := by
  cases x with
  | error m => cases h
  | ok a => exact ⟨a, rfl, h⟩

theorem assigned_of_assign (h : s.assign name given = .ok t) : Assigned s name given t := by
  unfold assign at h
  split at h
  · obtain ⟨text, _, h⟩ := bind_eq_ok h
    cases h
    exact .setting _ (by decide)
  · obtain ⟨text, _, h⟩ := bind_eq_ok h
    cases h
    exact .setting _ (by decide)
  · obtain ⟨marker, _, h⟩ := bind_eq_ok h
    cases h
    exact .setting _ (by decide)
  · obtain ⟨b, _, h⟩ := bind_eq_ok h
    cases h
    exact .setting _ (by decide)
  · obtain ⟨b, _, h⟩ := bind_eq_ok h
    cases h
    exact .setting _ (by decide)
  · obtain ⟨b, _, h⟩ := bind_eq_ok h
    cases h
    exact .stopping b rfl
  · obtain ⟨⟨number, u⟩, ho, h⟩ := bind_eq_ok h
    obtain ⟨more, rfl, hn⟩ := openInput_eq_ok ho
    cases h
    exact .input rfl hn
  · obtain ⟨⟨number, u⟩, ho, h⟩ := bind_eq_ok h
    obtain ⟨more, rfl, hn⟩ := openOutput_eq_ok ho (by decide)
    cases h
    exact .output (by decide) hn
  · obtain ⟨⟨number, u⟩, ho, h⟩ := bind_eq_ok h
    obtain ⟨more, rfl, hn⟩ := openOutput_eq_ok ho (by decide)
    cases h
    exact .errors (by decide) hn
  · rename_i hstdin _ _
    split at h
    · cases h
    · cases h
      exact .other hstdin

theorem mapError_eq_ok {α ε ε' : Type} {x : Except ε α} {f : ε → ε'} {a : α}
    (h : x.mapError f = .ok a) : x = .ok a := by
  cases x with
  | error m => cases h
  | ok b =>
    cases h
    rfl

theorem foldlM_kept {α ε : Type} {P : Session → Prop} {f : Session → α → Except ε Session}
    {as : List α} {s t : Session} (kept : ∀ s, ∀ a ∈ as, ∀ t, P s → f s a = .ok t → P t) (hs : P s)
    (h : as.foldlM f s = .ok t) : P t := by
  induction as generalizing s with
  | nil =>
    cases h
    exact hs
  | cons a rest ih =>
    obtain ⟨u, hu, h⟩ := bind_eq_ok h
    have keptRest : ∀ s, ∀ b ∈ rest, ∀ t, P s → f s b = .ok t → P t :=
      fun s b hb => kept s b (List.mem_cons_of_mem a hb)
    exact ih keptRest (kept s a List.mem_cons_self u hs hu) h

/-- What holds of a session without settings, and is kept when one of the options is assigned, holds
of a session that is made with settings. -/
theorem start_induction {P : Session → Prop} {input : String} {host : Host}
    {items : List Registry.Item} {given : List (String × Given Behaviour)}
    (h : start input host items given = .ok s)
    (process : ∀ registry, P { ofProcess input host with registry })
    (kept : ∀ s, ∀ name ∈ options, ∀ given t, P s → s.assign name given = .ok t → P t) : P s := by
  unfold start at h
  obtain ⟨_, _, h⟩ := bind_eq_ok h
  obtain ⟨registry, _, h⟩ := bind_eq_ok h
  refine foldlM_kept ?_ (process registry) h
  intro u name hname v hu hv
  cases hg : given.find? (·.1 = name) with
  | none =>
    rw [hg] at hv
    cases hv
    exact hu
  | some p =>
    rw [hg] at hv
    exact kept u name hname p.2 v hu (mapError_eq_ok hv)

end LineShell.Session
