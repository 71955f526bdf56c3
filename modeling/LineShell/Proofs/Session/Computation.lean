import LineShell.Proofs.Values.Telling
import LineShell.Session.Operation

/-! # Outcomes of computations on a session

A computation is judged by the session that it leaves and by its result or its failure. Both are
carried through a sequence of computations by one rule for each way of putting them together.
-/
namespace LineShell.Session
variable {α β : Type}

theorem bind_apply (x : Act α) (f : α → Act β) (s : Session) :
    (x >>= f) s = ExceptT.bindCont f (x s).1 (x s).2 := rfl

theorem bind_ok {x : Act α} {f : α → Act β} {s t : Session} {a : α} (h : x s = (.ok a, t)) :
    (x >>= f) s = f a t := by
  rw [bind_apply, h]
  rfl

theorem bind_error {x : Act α} {f : α → Act β} {s t : Session} {e : Failure}
    (h : x s = (.error e, t)) : (x >>= f) s = (.error e, t) := by
  rw [bind_apply, h]
  rfl

theorem get_bind (f : Session → Act β) (s : Session) : (get >>= f : Act β) s = f s s := rfl

theorem modify_bind (g : Session → Session) (f : PUnit → Act β) (s : Session) :
    ((modify g : Act PUnit) >>= f) s = f ⟨⟩ (g s) := rfl

theorem liftMisuse_bind_ok {y : Except Misuse α} {a : α} (h : y = .ok a) (f : α → Act β)
    (s : Session) : (liftMisuse y >>= f) s = f a s := by
  rw [h]
  rfl

theorem liftMisuse_bind_error {y : Except Misuse α} {m : Misuse} (h : y = .error m) (f : α → Act β)
    (s : Session) : (liftMisuse y >>= f) s = (.error (.misuse m), s) := by
  rw [h]
  rfl

theorem discard_ok {x : Act α} {s t : Session} {a : α} (h : x s = (.ok a, t)) :
    (discard x : Act PUnit) s = (.ok ⟨⟩, t) :=
  bind_ok h

theorem discard_error {x : Act α} {s t : Session} {e : Failure} (h : x s = (.error e, t)) :
    (discard x : Act PUnit) s = (.error e, t) :=
  bind_error h

theorem discard_snd {α : Type} (x : Act α) (s : Session) : (discard x s).2 = (x s).2 := by
  rcases hx : x s with ⟨r, t⟩
  cases r with
  | ok a => rw [discard_ok hx]
  | error f => rw [discard_error hx]

theorem caught_ok {x : Act α} {s t : Session} {a : α} (h : x s = (.ok a, t)) :
    caught x s = (.ok none, t) := by unfold caught; rw [h]

theorem caught_error {x : Act α} {s t : Session} {e : Failure} (h : x s = (.error e, t)) :
    caught x s = (.ok (some e), t) := by unfold caught; rw [h]

theorem ensure_congr {x y : Act α} {s t : Session} (h : x s = y t) (last : Session → Session) :
    ensure x last s = ensure y last t := by
  unfold ensure
  rw [h]

theorem exists_caught_ok (x : Act α) (s : Session) :
    ∃ failure, caught x s = (.ok failure, (x s).2) := by
  rcases hx : x s with ⟨r, t⟩
  cases r with
  | ok a => exact ⟨none, caught_ok hx⟩
  | error f => exact ⟨some f, caught_error hx⟩

/-- Started on a session, the computation leaves one with the property `P`, and its result is `good`
or its failure `calm`. -/
def Meets (P : Session → Prop) (calm : Failure → Prop) (good : α → Prop) (x : Act α)
    (s : Session) : Prop :=
  P (x s).2 ∧ match (x s).1 with
    | .ok a => good a
    | .error f => calm f

namespace Meets
variable {P : Session → Prop} {calm calm' : Failure → Prop} {good : α → Prop} {good' : β → Prop}
variable {x : Act α} {s : Session}

theorem of_ok {t : Session} {a : α} (h : x s = (.ok a, t)) (hP : P t) (ha : good a) :
    Meets P calm good x s := by
  unfold Meets
  rw [h]
  exact ⟨hP, ha⟩

theorem of_error {t : Session} {f : Failure} (h : x s = (.error f, t)) (hP : P t) (hf : calm f) :
    Meets P calm good x s := by
  unfold Meets
  rw [h]
  exact ⟨hP, hf⟩

theorem cases (h : Meets P calm good x s) :
    (∃ a t, x s = (.ok a, t) ∧ P t ∧ good a) ∨ ∃ f t, x s = (.error f, t) ∧ P t ∧ calm f := by
  unfold Meets at h
  rcases hx : x s with ⟨r, t⟩
  rw [hx] at h
  cases r with
  | ok a => exact Or.inl ⟨a, t, rfl, h.1, h.2⟩
  | error f => exact Or.inr ⟨f, t, rfl, h.1, h.2⟩

theorem left (h : Meets P calm good x s) : P (x s).2 := h.1

theorem exists_ok {x : Act Unit} (h : Meets P (fun _ => False) (fun _ => True) x s) :
    ∃ t, x s = (.ok (), t) ∧ P t := by
  rcases h.cases with ⟨_, t, hx, ht, _⟩ | ⟨_, _, _, _, hf⟩
  · exact ⟨t, hx, ht⟩
  · exact hf.elim

theorem of_left (h : P (x s).2) : Meets P (fun _ => True) (fun _ => True) x s := by
  refine ⟨h, ?_⟩
  cases (x s).1 <;> trivial

theorem pure {a : α} (hP : P s) (ha : good a) : Meets P calm good (pure a) s := ⟨hP, ha⟩

theorem throw {f : Failure} (hP : P s) (hf : calm f) : Meets P calm good (throw f) s := ⟨hP, hf⟩

theorem modify {g : Session → Session} (hP : P (g s)) :
    Meets P calm (fun _ => True) (modify g : Act PUnit) s := ⟨hP, trivial⟩

theorem bind {f : α → Act β} (hx : Meets P calm good x s)
    (hf : ∀ a t, x s = (.ok a, t) → P t → good a → Meets P calm good' (f a) t) :
    Meets P calm good' (x >>= f) s := by
  rcases hx.cases with ⟨a, t, hx, hP, ha⟩ | ⟨e, t, hx, hP, he⟩
  · have h := hf a t hx hP ha
    unfold Meets at h ⊢
    rw [bind_ok hx]
    exact h
  · exact of_error (bind_error hx) hP he

theorem get_bind {f : Session → Act β} (h : Meets P calm good' (f s) s) :
    Meets P calm good' (get >>= f) s := h

theorem mono {good₁ : α → Prop} (h : Meets P calm good x s) (hcalm : ∀ f, calm f → calm' f)
    (hgood : ∀ a, good a → good₁ a) : Meets P calm' good₁ x s := by
  rcases h.cases with ⟨a, t, hx, hP, ha⟩ | ⟨e, t, hx, hP, he⟩
  · exact of_ok hx hP (hgood a ha)
  · exact of_error hx hP (hcalm e he)

theorem mono_calm (h : Meets P calm good x s) (hcalm : ∀ f, calm f → calm' f) :
    Meets P calm' good x s :=
  h.mono hcalm fun _ => id

theorem mono_good {good₁ : α → Prop} (h : Meets P calm good x s)
    (hgood : ∀ a, good a → good₁ a) : Meets P calm good₁ x s :=
  h.mono (fun _ => id) hgood

theorem discard (h : Meets P calm good x s) :
    Meets P calm (fun _ => True) (discard x : Act PUnit) s := by
  rcases h.cases with ⟨a, t, hx, hP, _⟩ | ⟨e, t, hx, hP, he⟩
  · exact of_ok (discard_ok hx) hP trivial
  · exact of_error (discard_error hx) hP he

theorem ensure {last : Session → Session} (h : Meets P calm good x s)
    (hlast : ∀ t, P t → P (last t)) : Meets P calm good (ensure x last) s :=
  ⟨hlast _ h.1, h.2⟩

theorem caught (h : Meets P calm good x s) :
    Meets P calm' (fun o => ∀ f, o = some f → calm f) (caught x) s := by
  rcases h.cases with ⟨a, t, hx, hP, _⟩ | ⟨e, t, hx, hP, he⟩
  · exact of_ok (caught_ok hx) hP (by rintro f ⟨⟩)
  · exact of_ok (caught_error hx) hP (by rintro f ⟨⟩; exact he)

theorem liftTold {y : Except Misuse α} {told : Prop} (hP : P s) (tells : Tells told good y)
    (htold : told ∨ calm (.misuse .tooManyDigits)) : Meets P calm good (liftMisuse y) s := by
  rcases tells.cases with ⟨_, a, rfl, ha⟩ | ⟨untold, rfl⟩
  · exact Meets.pure hP ha
  · exact Meets.throw hP (htold.resolve_left untold)

/-- A change that may be refused keeps what it keeps when it is not. -/
theorem adopt {change : Except Misuse Session} (hP : P s) (h : ∀ t, change = .ok t → P t) :
    Meets P (fun _ => True) (fun _ => True) (do set (← liftMisuse change) : Act PUnit) s := by
  cases change with
  | ok t => exact ⟨h t rfl, trivial⟩
  | error m => exact ⟨hP, trivial⟩

end Meets

/-- What each action keeps is kept by a behaviour. -/
theorem perform_induction {e : Engine} {P : Session → Prop}
    (kept : ∀ a s, P s → P (act e a s).2) : (b : Behaviour) → {s : Session} → P s →
      P (perform e b s).2
  | .finish _, _, hs => hs
  | .fail _, _, hs => hs
  | .act a next, s, hs => by
    obtain ⟨failure, hc⟩ := exists_caught_ok (act e a) s
    unfold perform
    rw [bind_ok hc]
    exact perform_induction kept (next failure) (kept a s hs)

end LineShell.Session
