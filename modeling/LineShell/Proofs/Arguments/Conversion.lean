import LineShell.Conversion

/-! # Refusals of tokens

A token that is not of its type is refused with a fault of the argument family. The exceptions are
widths that have no bounds, or bounds too long to be told.
-/
namespace LineShell

/-- A fixed width of the type has one to sixty-four bits. -/
def ValueType.IsBounded : ValueType → Prop
  | .fixed width => 1 ≤ width.bits ∧ width.bits ≤ 64
  | _ => True

/-- A fixed width of the type has bounds that can be told. -/
def ValueType.tellsBounds : ValueType → Bool
  | .fixed width => match width.bounds with
    | .ok (lower, upper) => Number.hasText lower && Number.hasText upper
    | .error _ => false
  | _ => true

namespace FixedWidth
variable {w : FixedWidth}

theorem hasText_bounds (some_bits : 1 ≤ w.bits) (few_bits : w.bits ≤ 64) :
    Number.hasText w.lower = true ∧ Number.hasText w.upper = true := by
  have hsize : w.magnitude ≤ 64 := by
    unfold magnitude
    split <;> omega
  have hpower : Number.power 2 w.magnitude ≤ Number.power 2 64 :=
    Number.power_le_power (by decide) hsize
  have hpos : 0 < Number.power 2 w.magnitude := Number.power_pos (by decide)
  refine ⟨Number.hasText_of_le ?_, Number.hasText_of_le ?_⟩
  · unfold lower
    split <;> omega
  · unfold upper
    omega

end FixedWidth

theorem ValueType.IsBounded.tellsBounds {type : ValueType} (h : type.IsBounded) :
    type.tellsBounds = true := by
  cases type with
  | fixed w =>
    obtain ⟨hsome, hfew⟩ := h
    have hmax : (64 : Int) ≤ Number.maxBits := by decide
    obtain ⟨hlower, hupper⟩ := FixedWidth.hasText_bounds hsome hfew
    have hbounds := FixedWidth.bounds_eq_ok (by omega : 0 < w.bits) (Int.le_trans hfew hmax)
    simp [ValueType.tellsBounds, hbounds, hlower, hupper]
  | _ => rfl

namespace Conversion

theorem readFixed_eq_error {w : FixedWidth} {token : String} {r : Refusal}
    (h : readFixed w token = .error r) :
    (∃ reason, r = .uncastable token (.fixed w) reason) ∨
      (ValueType.fixed w).tellsBounds = false ∧ ∃ m, r = .misuse m := by
  unfold readFixed at h
  split at h
  · cases h
    exact Or.inl ⟨_, rfl⟩
  · cases hbounds : w.bounds with
    | error m =>
      rw [hbounds] at h
      cases h
      exact Or.inr ⟨by simp [ValueType.tellsBounds, hbounds], m, rfl⟩
    | ok bounds =>
      obtain ⟨lower, upper⟩ := bounds
      rw [hbounds] at h
      simp only at h
      split at h
      · cases h
      · unfold outOfRange at h
        by_cases htext : (Number.hasText lower && Number.hasText upper) = true
        · rw [if_pos htext] at h
          cases h
          exact Or.inl ⟨_, rfl⟩
        · rw [if_neg htext] at h
          cases h
          exact Or.inr ⟨by simpa [ValueType.tellsBounds, hbounds] using htext, _, rfl⟩

theorem readLiteral_eq_error {type : ValueType} {token : String} {v : Option Value} {r : Refusal}
    (h : readLiteral type token v = .error r) : ∃ reason, r = .uncastable token type reason := by
  cases v with
  | some v => cases h
  | none =>
    cases h
    exact ⟨_, rfl⟩

theorem readMember_eq_error {e : Enumeration} {leniency : Leniency} {token : String} {r : Refusal}
    (h : readMember e leniency token = .error r) :
    ∃ reason, r = .uncastable token (.enumeration e) reason := by
  unfold readMember at h
  split at h
  · cases h
  · split at h
    · cases h
    · cases h
      exact ⟨_, rfl⟩

/-- A token that is refused is told with its type, or the type has bounds that cannot be told. -/
theorem refusal_of_read {type : ValueType} {leniency : Leniency} {token : String} {r : Refusal}
    (h : read type leniency token = .error r) :
    (∃ reason, r = .uncastable token type reason) ∨
      type.tellsBounds = false ∧ ∃ m, r = .misuse m := by
  cases type with
  | text => cases h
  | bool => exact Or.inl (readLiteral_eq_error h)
  | int => exact Or.inl (readLiteral_eq_error h)
  | real => exact Or.inl (readLiteral_eq_error h)
  | decimal => exact Or.inl (readLiteral_eq_error h)
  | fixed w => exact readFixed_eq_error h
  | enumeration e => exact Or.inl (readMember_eq_error h)

theorem read_eq_error {type : ValueType} (bounded : type.IsBounded) {leniency : Leniency}
    {token : String} {r : Refusal} (h : read type leniency token = .error r) :
    ∃ reason, r = .uncastable token type reason := by
  refine (refusal_of_read h).resolve_right ?_
  rintro ⟨htells, _⟩
  simp [bounded.tellsBounds] at htells

end Conversion
end LineShell
