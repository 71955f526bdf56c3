import LineShell.Proofs.Literals.Spelling

/-! # How decimals are laid out

The digits of a decimal are written with a point among them, with zeros between the point and the
first of them, or with an exponent behind them. However they are laid out, the same digits and the
same exponent are read back, and with them the sign, also that of nought.
-/
namespace LineShell.Literal
open Text Number

def pointed (fraction : List Char) : List Char := if fraction = [] then [] else '.' :: fraction

def powered (exponent : Int) : List Char :=
  if exponent = 0 then [] else 'E' :: Decimal.signedText exponent

/-- The text of a coefficient and an exponent, taken apart into the digits before the point, those
behind it and the exponent that is written. -/
structure LaysOut (ds : List Char) (exponent : Int) (whole fraction : List Char) (shift : Int) :
    Prop where
  text : Decimal.magnitudeText ds exponent = whole ++ (pointed fraction ++ powered shift)
  nonempty : whole ≠ []
  written : IsWritten (whole ++ fraction)
  numeral : numeral (whole ++ fraction) = numeral ds
  scale : shift - fraction.length = exponent

variable {ds whole fraction : List Char} {exponent shift : Int}

theorem pointed_of_ne_nil (h : fraction ≠ []) : pointed fraction = '.' :: fraction := if_neg h

theorem powered_zero : powered 0 = [] := if_pos rfl

theorem laysOut_zeros (written : IsWritten ds) (nonempty : ds ≠ []) (small : exponent ≤ 0)
    (near : -6 ≤ exponent + ds.length - 1) (below : exponent + ds.length - 1 < 0) :
    LaysOut ds exponent ['0']
      (List.replicate (-(exponent + ds.length - 1) - 1).toNat '0' ++ ds) 0 where
  text := by
    unfold Decimal.magnitudeText
    simp only
    rw [if_pos ⟨small, near⟩, if_pos below, pointed_of_ne_nil (by simp [nonempty]), powered_zero]
    simp
  nonempty := by simp
  written := (IsWritten.replicate_zero 1).append ((IsWritten.replicate_zero _).append written)
  numeral := by
    have hzero := numeral_zeros_append 1
      (List.replicate (-(exponent + ds.length - 1) - 1).toNat '0' ++ ds)
    exact hzero.trans (numeral_zeros_append _ ds)
  scale := by
    rw [List.length_append, List.length_replicate]
    omega

theorem laysOut_whole (written : IsWritten ds) (nonempty : ds ≠ []) : LaysOut ds 0 ds [] 0 where
  text := by
    have hlength : 0 < ds.length := List.length_pos_iff.mpr nonempty
    unfold Decimal.magnitudeText
    simp only
    rw [if_pos ⟨Int.le_refl 0, by omega⟩, if_neg (by omega), if_pos trivial]
    simp [pointed, powered_zero]
  nonempty := nonempty
  written := by simpa using written
  numeral := by rw [List.append_nil]
  scale := rfl

theorem laysOut_point (written : IsWritten ds) (small : exponent < 0)
    (above : 0 ≤ exponent + ds.length - 1) :
    LaysOut ds exponent (ds.take ((exponent + ds.length - 1).toNat + 1))
      (ds.drop ((exponent + ds.length - 1).toNat + 1)) 0 where
  text := by
    have hfraction : ds.drop ((exponent + ds.length - 1).toNat + 1) ≠ [] := by
      rw [Ne, List.drop_eq_nil_iff]
      omega
    unfold Decimal.magnitudeText
    simp only
    rw [if_pos ⟨by omega, by omega⟩, if_neg (by omega), if_neg (by omega),
      pointed_of_ne_nil hfraction, powered_zero, List.append_nil]
  nonempty := by
    rw [Ne, List.take_eq_nil_iff]
    rintro (hnone | rfl)
    · omega
    · simp at above
      omega
  written := by rwa [List.take_append_drop]
  numeral := by rw [List.take_append_drop]
  scale := by
    rw [List.length_drop]
    omega

theorem laysOut_exponent {d : Char} {rest : List Char} (written : IsWritten (d :: rest))
    (far : ¬ (exponent ≤ 0 ∧ -6 ≤ exponent + (d :: rest).length - 1)) :
    LaysOut (d :: rest) exponent [d] rest (exponent + (d :: rest).length - 1) where
  text := by
    unfold Decimal.magnitudeText
    simp only
    rw [if_neg far]
    cases rest <;> rfl
  nonempty := by simp
  written := written
  numeral := rfl
  scale := by
    rw [List.length_cons]
    omega

theorem exists_laysOut (written : IsWritten ds) (nonempty : ds ≠ []) (exponent : Int) :
    ∃ whole fraction shift, LaysOut ds exponent whole fraction shift := by
  by_cases hplain : exponent ≤ 0 ∧ -6 ≤ exponent + ds.length - 1
  · obtain ⟨hsmall, hnear⟩ := hplain
    by_cases hbelow : exponent + ds.length - 1 < 0
    · exact ⟨_, _, _, laysOut_zeros written nonempty hsmall hnear hbelow⟩
    · rcases Int.lt_or_eq_of_le hsmall with hsmall | rfl
      · exact ⟨_, _, _, laysOut_point written hsmall (Int.not_lt.mp hbelow)⟩
      · exact ⟨_, _, _, laysOut_whole written nonempty⟩
  · obtain ⟨d, rest, rfl⟩ := List.exists_cons_of_ne_nil nonempty
    exact ⟨_, _, _, laysOut_exponent written hplain⟩

/-! ### Reading -/

theorem sign_signedText (n : Int) :
    sign (Decimal.signedText n) = (decide (n < 0), digitsOf n.natAbs) := by
  unfold Decimal.signedText
  split
  · rename_i negative
    rw [decide_eq_true negative]
    rfl
  · rename_i negative
    rw [decide_eq_false negative]
    rfl

theorem sign_signText (negative : Bool) {cs : List Char} (h : ∀ c ∈ cs.head?, c.isDigit = true) :
    sign (Decimal.signText negative ++ cs) = (negative, cs) := by
  cases negative with
  | true => rfl
  | false => exact sign_of_head h

theorem exponent?_powered (shift : Int) : exponent? (powered shift) = some shift := by
  unfold powered
  split
  · rename_i hzero
    rw [hzero]
    rfl
  · unfold exponent?
    simp only
    rw [sign_signedText]
    simp only
    rw [if_pos ⟨Or.inr trivial, digitsOf_ne_nil _, (IsWritten.digitsOf _).all_isDigit⟩,
      numeral_digitsOf, signed_natAbs]

theorem head?_powered {c : Char} (h : c ∈ (powered shift).head?) : c = 'E' := by
  unfold powered at h
  split at h
  · cases h
  · exact (Option.some.inj h).symm

theorem fraction_pointed (written : IsWritten fraction) (shift : Int) :
    Literal.fraction (pointed fraction ++ powered shift) = (fraction, powered shift) := by
  by_cases hfraction : fraction = []
  · subst hfraction
    change Literal.fraction (powered shift) = _
    unfold Literal.fraction
    split
    · rename_i heq
      have hpoint : '.' ∈ (powered shift).head? := by rw [heq]; rfl
      exact absurd (head?_powered hpoint) (by decide)
    · rfl
  · rw [pointed_of_ne_nil hfraction]
    refine span_written written ?_
    intro c hc
    rw [head?_powered hc]
    decide

theorem isNumeric_powered (shift : Int) : ∀ c ∈ powered shift, IsNumeric c := by
  unfold powered Decimal.signedText
  split
  · simp
  · intro c hc
    rcases List.mem_cons.mp hc with rfl | hc
    · simp [IsNumeric]
    · rcases List.mem_cons.mp hc with rfl | hc
      · split <;> simp [IsNumeric]
      · exact isNumeric_of_isWritten (.digitsOf _) c hc

theorem isNumeric_pointed (written : IsWritten fraction) : ∀ c ∈ pointed fraction, IsNumeric c := by
  unfold pointed
  split
  · simp
  · intro c hc
    rcases List.mem_cons.mp hc with rfl | hc
    · simp [IsNumeric]
    · exact isNumeric_of_isWritten written c hc

theorem isNumeric_signText (negative : Bool) : ∀ c ∈ Decimal.signText negative, IsNumeric c := by
  cases negative <;> simp [Decimal.signText, IsNumeric]

theorem LaysOut.isNumeric (h : LaysOut ds exponent whole fraction shift) (negative : Bool) :
    ∀ c ∈ Decimal.signText negative ++ Decimal.magnitudeText ds exponent, IsNumeric c := by
  obtain ⟨hwhole, hfraction⟩ := h.written.of_append
  rw [h.text]
  intro c hc
  rcases List.mem_append.mp hc with hc | hc
  · exact isNumeric_signText negative c hc
  · rcases List.mem_append.mp hc with hc | hc
    · exact isNumeric_of_isWritten hwhole c hc
    · rcases List.mem_append.mp hc with hc | hc
      · exact isNumeric_pointed hfraction c hc
      · exact isNumeric_powered shift c hc

theorem real?_of_laysOut (negative : Bool) (h : LaysOut ds exponent whole fraction shift) :
    real? (Decimal.signText negative ++ Decimal.magnitudeText ds exponent) =
      some ⟨negative, whole, fraction, shift⟩ := by
  obtain ⟨hwhole, hfraction⟩ := h.written.of_append
  have hnumeric := h.isNumeric negative
  rw [h.text] at hnumeric ⊢
  have htrim := trim_eq_self
    (fun c hc => (hnumeric c (List.mem_of_mem_head? hc)).isBlank)
    (fun c hc => (hnumeric c (List.mem_of_mem_getLast? hc)).isBlank)
  have hfirst : ∀ c ∈ (whole ++ (pointed fraction ++ powered shift)).head?, c.isDigit = true := by
    obtain ⟨d, rest, rfl⟩ := List.exists_cons_of_ne_nil h.nonempty
    rintro c ⟨⟩
    exact hwhole d List.mem_cons_self
  have hends : ∀ c ∈ (pointed fraction ++ powered shift).head?, isDigit c = false := by
    unfold pointed
    split
    · intro c hc
      rw [head?_powered hc]
      decide
    · rintro c ⟨⟩
      decide
  unfold real?
  rw [htrim, sign_signText negative hfirst]
  simp only
  rw [span_written hwhole hends]
  simp only
  rw [fraction_pointed hfraction, if_neg (fun hnone => h.nonempty hnone.1), exponent?_powered]
  rfl

/-- A decimal is read from its text, with its sign, its coefficient and its exponent as they are. -/
theorem decimal?_text {negative : Bool} {coefficient : Nat}
    (fits : Decimal.fits coefficient exponent = true) :
    decimal? (Decimal.finite negative coefficient exponent).chars =
      some (.finite negative coefficient exponent) := by
  obtain ⟨whole, fraction, shift, h⟩ :=
    exists_laysOut (.digitsOf coefficient) (digitsOf_ne_nil coefficient) exponent
  have hcoefficient : numeral (whole ++ fraction) = coefficient :=
    h.numeral.trans (numeral_digitsOf coefficient)
  have hread := real?_of_laysOut negative h
  unfold decimal?
  rw [Decimal.chars, hread, Option.bind_some]
  unfold Real.toDecimal? Real.digits Real.scale
  simp only [hcoefficient, h.scale]
  rw [if_pos fits]

end LineShell.Literal
