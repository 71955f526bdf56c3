import Mathlib.Data.List.Forall2
import LineShell.Help
import LineShell.Fault.Rendering

/-! # What can be told

The forms of a value fail if a number in it has too many digits, and so does all that is put
together from them. A computation that shows something is judged by the condition under which
it can be told, and by the result that it then has. Both are carried through by one rule for each
way of putting such computations together.
-/
namespace LineShell
variable {α β : Type}

/-- The result is `good`, and there is none exactly if what it shows cannot be `told`. -/
def Tells (told : Prop) (good : α → Prop) : Except Misuse α → Prop
  | .ok a => told ∧ good a
  | .error m => ¬ told ∧ m = .tooManyDigits

namespace Tells
variable {told told' : Prop} {good : α → Prop} {good' : β → Prop} {x y : Except Misuse α}

theorem cases (h : Tells told good x) :
    (told ∧ ∃ a, x = .ok a ∧ good a) ∨ ¬ told ∧ x = .error .tooManyDigits := by
  cases x with
  | ok a => exact Or.inl ⟨h.1, a, rfl, h.2⟩
  | error m => exact Or.inr ⟨h.1, congrArg _ h.2⟩

theorem exists_ok (h : Tells told good x) (ht : told) : ∃ a, x = .ok a ∧ good a :=
  h.cases.elim And.right fun hx => absurd ht hx.1

theorem eq_error (h : Tells told good x) (ht : ¬ told) : x = .error .tooManyDigits :=
  h.cases.elim (fun hx => absurd hx.1 ht) And.right

theorem congr (h : Tells told good x) (same : told ↔ told') : Tells told' good x := by
  rwa [← same]

theorem mono {good₁ : α → Prop} (h : Tells told good x) (hgood : ∀ a, good a → good₁ a) :
    Tells told good₁ x := by
  cases x with
  | ok a => exact ⟨h.1, hgood a h.2⟩
  | error m => exact h

theorem map {f : α → β} (h : Tells told (fun a => good' (f a)) x) :
    Tells told good' (x.map f) := by
  cases x with
  | ok a => exact h
  | error m => exact h

theorem bind {f : α → Except Misuse β} (hx : Tells told good x)
    (hf : ∀ a, x = .ok a → good a → Tells told' good' (f a)) :
    Tells (told ∧ told') good' (x >>= f) := by
  rcases hx.cases with ⟨ht, a, rfl, ha⟩ | ⟨ht, rfl⟩
  · exact (hf a rfl ha).congr (by simp [ht])
  · exact ⟨fun h => ht h.1, rfl⟩

/-- What is made of a result is told as the result is. -/
theorem bindPure {f : α → β} (hx : Tells told good x)
    (hf : ∀ a, x = .ok a → good a → good' (f a)) :
    Tells told good' (do return f (← x)) := by
  rcases hx.cases with ⟨ht, a, rfl, ha⟩ | ⟨ht, rfl⟩
  · exact ⟨ht, hf a rfl ha⟩
  · exact ⟨ht, rfl⟩

theorem mapM {told : α → Prop} {good : α → β → Prop} {f : α → Except Misuse β} {as : List α}
    (h : ∀ a ∈ as, Tells (told a) (good a) (f a)) :
    Tells (∀ a ∈ as, told a) (List.Forall₂ good as) (as.mapM f) := by
  induction as with
  | nil => exact ⟨by simp, .nil⟩
  | cons a rest ih =>
    have hrest := ih fun b hb => h b (List.mem_cons_of_mem _ hb)
    rw [List.mapM_cons, List.forall_mem_cons]
    exact (h a List.mem_cons_self).bind fun b _ hb => hrest.bindPure fun bs _ hbs => .cons hb hbs

theorem forall_mem_iff {P : β → Prop} {Q : α → Prop} {as : List α} {bs : List β}
    (h : List.Forall₂ (fun a b => P b ↔ Q a) as bs) : (∀ b ∈ bs, P b) ↔ ∀ a ∈ as, Q a := by
  induction h with
  | nil => simp
  | cons hab _ ih => rw [List.forall_mem_cons, List.forall_mem_cons, hab, ih]

/-- Two that can be told under the same condition come to the same if their results do. -/
theorem map_eq_map {g : α → β} {b : β} (hx : Tells told (g · = b) x) (hy : Tells told (g · = b) y) :
    x.map g = y.map g := by
  rcases hx.cases with ⟨ht, a, rfl, ha⟩ | ⟨ht, rfl⟩
  · obtain ⟨c, rfl, hc⟩ := hy.exists_ok ht
    exact congrArg Except.ok (ha.trans hc.symm)
  · rw [hy.eq_error ht]

end Tells

namespace Value

theorem tells_shown (v : Value) (session : String) :
    Tells (v.hasPlain = true) (· = v.plain session) (v.shown session) := by
  unfold shown
  split
  · exact ⟨‹_›, rfl⟩
  · exact ⟨‹_›, rfl⟩

theorem tells_spelled (v : Value) (session : String) :
    Tells (v.isShowable = true) (· = v.written session) (v.spelled session) := by
  unfold spelled
  split
  · exact ⟨‹_›, rfl⟩
  · exact ⟨‹_›, rfl⟩

theorem hasPlain_of_isTrue_eq_false {v : Value} (h : v.isTrue = false) : v.hasPlain = true := by
  cases v with
  | int n =>
    obtain rfl : n = 0 := by simpa [isTrue] using h
    rw [hasPlain_int]
    exact Number.hasText_of_le (by decide)
  | list items | tuple items | set items | frozenSet items =>
    obtain rfl : items = [] := by simpa [isTrue] using h
    rfl
  | dict entries | frozenDict entries =>
    obtain rfl : entries = [] := by simpa [isTrue] using h
    rfl
  | type t => cases h
  | _ => rfl

end Value

theorem Fault.Code.hasPlain_labelValue {host : Host} (unlabelled : host.codes = []) (c : Code) :
    (c.labelValue host).hasPlain = true := by
  have hsmall : (c.number : Int).natAbs ≤ Number.power 2 64 := by cases c <;> decide
  have hnumber : c.labelValue host = .int c.number := by
    rw [labelValue, unlabelled]
    rfl
  rw [hnumber, Value.hasPlain_int]
  exact Number.hasText_of_le hsmall

/-- The default of the parameter can be told, or none is told. -/
def Parameter.isTold (p : Parameter) : Bool := p.role != .named || p.defaultValue.hasPlain

def Command.isTold (c : Command) : Bool := c.signature.parameters.all (·.isTold)

/-- The pieces that a host or a handler brings can be told. -/
def Fault.isTold (host : Host) (f : Fault) (prog : Value) : Bool :=
  (f.progLabel host prog).hasPlain && (f.code.labelValue host).hasPlain && f.hint.hasPlain

end LineShell
