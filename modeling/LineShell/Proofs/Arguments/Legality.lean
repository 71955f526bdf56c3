import Mathlib.Data.List.Nodup
import LineShell.Signature

/-! # Legal signatures

A list of parameters is a signature if none of them breaks a rule after those before it. So names
are distinct, and a variadic parameter is the last.
-/
namespace LineShell.Signature
variable {before : List Parameter} {p q : Parameter} {place : Nat}

theorem breach?_eq_none_iff {isLast : Bool} : breach? before p isLast = none ↔
    (∀ q ∈ before, q.name ≠ p.name) ∧
    (p.role.isSpecial = true → (∀ q ∈ before, q.role ≠ p.role) ∧ p.default.isSome = true ∧
      (p.role = .variadic → isLast = true)) := by
  unfold breach?
  by_cases hname : before.any (·.name = p.name) = true
  · obtain ⟨q, hq, hqname⟩ := List.any_eq_true.mp hname
    simp only [if_pos hname, reduceCtorEq, false_iff]
    exact fun h => h.1 q hq (by simpa using hqname)
  · have hdistinct : ∀ q ∈ before, q.name ≠ p.name := by simpa using hname
    rw [if_neg hname, and_iff_right hdistinct]
    by_cases hspecial : p.role.isSpecial = true
    · rw [if_pos hspecial, forall_prop_of_true hspecial]
      cases hfirst : before.find? (·.role = p.role) with
      | some first =>
        have hrole : first.role = p.role := by simpa using List.find?_some hfirst
        simp only [reduceCtorEq, false_iff]
        exact fun h => h.1 first (List.mem_of_find?_eq_some hfirst) hrole
      | none =>
        have hroles : ∀ q ∈ before, q.role ≠ p.role := by
          simpa using List.find?_eq_none.mp hfirst
        rw [and_iff_right hroles]
        cases p.default <;> cases isLast <;> simp
    · simp [hspecial]

/-- A list breaks no rule if no parameter does after those before it. -/
theorem firstBreach?_eq_none_iff {parameters : List Parameter} :
    firstBreach? before (parameters.map .parameter) = none ↔
      ∀ place p, parameters[place]? = some p →
        breach? (before ++ parameters.take place) p (place + 1 = parameters.length) = none := by
  induction parameters generalizing before with
  | nil => simp [firstBreach?]
  | cons q rest ih =>
    have hempty : (rest.map Item.parameter).isEmpty = decide (0 + 1 = (q :: rest).length) := by
      cases rest <;> simp
    rw [List.map_cons, firstBreach?, hempty]
    cases hbreach : breach? before q (decide (0 + 1 = (q :: rest).length)) with
    | some e =>
      simp only [reduceCtorEq, false_iff]
      intro h
      have hq := h 0 q rfl
      rw [List.take_zero, List.append_nil, hbreach] at hq
      cases hq
    | none =>
      simp only [ih]
      constructor
      · intro h place p hp
        cases place with
        | zero =>
          obtain rfl : q = p := by simpa using hp
          simpa using hbreach
        | succ place => simpa using h place p (by simpa using hp)
      · intro h place p hp
        simpa using h (place + 1) p (by simpa using hp)

/-- Two of a list are related, in their order, if each is related to all before it. -/
theorem pairwise_iff_take {R : Parameter → Parameter → Prop} {parameters : List Parameter} :
    parameters.Pairwise R ↔
      ∀ place p, parameters[place]? = some p → ∀ q ∈ parameters.take place, R q p := by
  rw [List.pairwise_iff_getElem]
  constructor
  · intro h place p hp q hq
    obtain ⟨hplace, rfl⟩ := List.getElem?_eq_some_iff.mp hp
    obtain ⟨i, hi, rfl⟩ := List.mem_take_iff_getElem.mp hq
    exact h i place _ hplace (by omega)
  · intro h i j hi hj hij
    exact h j _ (List.getElem?_eq_getElem hj) _ (List.mem_take_iff_getElem.mpr ⟨i, by omega, rfl⟩)

variable (s : Signature)

theorem breach?_eq_none (at_place : s.parameters[place]? = some p) :
    breach? (s.parameters.take place) p (place + 1 = s.parameters.length) = none := by
  simpa using firstBreach?_eq_none_iff.mp s.legal place p at_place

theorem nodup_names : (s.parameters.map (·.name)).Nodup := by
  rw [List.Nodup, List.pairwise_map, pairwise_iff_take]
  intro place p hp
  exact (breach?_eq_none_iff.mp (s.breach?_eq_none hp)).1

theorem last_of_variadic (at_place : s.parameters[place]? = some p)
    (variadic : p.role = .variadic) :
    place + 1 = s.parameters.length := by
  have hspecial : p.role.isSpecial = true := by rw [variadic]; rfl
  have hrules := (breach?_eq_none_iff.mp (s.breach?_eq_none at_place)).2 hspecial
  simpa using hrules.2.2 variadic

theorem role_ne_of_lt {i j : Nat} (hij : i < j) (hp : s.parameters[i]? = some p)
    (hq : s.parameters[j]? = some q) : p.role ≠ .variadic := by
  intro hrole
  have hlast := s.last_of_variadic hp hrole
  obtain ⟨hj, _⟩ := List.getElem?_eq_some_iff.mp hq
  omega

end LineShell.Signature
