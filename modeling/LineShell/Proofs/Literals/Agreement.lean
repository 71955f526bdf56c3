import LineShell.Proofs.Literals.Spelling

/-! # Readers that agree

A token that is read as a whole number is also a real literal of the same sign and the same digits,
without a fraction and without an exponent. No real literal is a truth value. All that keeps a sign
and digits from being read as a whole number is a limit on how many digits there are.
-/
namespace LineShell.Literal
open Text Number

/-- Blanks and the sign apart, the token is one digit or more. -/
structure HasDigits (token : List Char) (negative : Bool) (ds : List Char) : Prop where
  parts : sign (trim token) = (negative, ds)
  nonempty : ds ≠ []
  digits : ∀ c ∈ ds, isDigit c = true

variable {token ds mark : List Char} {negative : Bool} {n : Int} {c : Char} {r : Real}

theorem int?_eq_some_iff : int? token = some n ↔ ∃ negative ds, HasDigits token negative ds ∧
    ds.length ≤ maxDigits ∧ token.any isSeparatorControl = false ∧
      signed negative (numeral ds) = n := by
  unfold int?
  rcases hparts : sign (trim token) with ⟨negative, ds⟩
  constructor
  · intro h
    simp only at h
    split at h
    · rename_i hread
      obtain ⟨hnonempty, hdigits, hlength, hcontrols⟩ := hread
      refine ⟨negative, ds, ⟨hparts, hnonempty, List.all_eq_true.mp hdigits⟩, hlength, ?_, ?_⟩
      · simpa using hcontrols
      · exact Option.some.inj h
    · cases h
  · rintro ⟨negative', ds', h, hlength, hcontrols, rfl⟩
    obtain ⟨rfl, rfl⟩ := Prod.mk.inj (hparts.symm.trans h.parts)
    simp only
    rw [if_pos ⟨h.nonempty, List.all_eq_true.mpr h.digits, hlength, by rw [hcontrols]; rfl⟩]

/-! ### Digits alone -/

namespace HasDigits

theorem real?_eq (h : HasDigits token negative ds) :
    real? token = some ⟨negative, ds, [], 0⟩ := by
  have hspan : ds.span isDigit = (ds, []) := by
    have hall : (ds ++ []).span isDigit = (ds, []) := span_digits h.digits (by simp)
    rwa [List.append_nil] at hall
  unfold real?
  rw [h.parts]
  simp only [hspan, Literal.fraction]
  rw [if_neg fun hnone => h.nonempty hnone.1]
  rfl

theorem int?_eq_none (h : HasDigits token negative ds) (many : maxDigits < ds.length) :
    int? token = none := by
  rw [Option.eq_none_iff_forall_ne_some]
  intro n hn
  obtain ⟨_, _, h', hlength, _, _⟩ := int?_eq_some_iff.mp hn
  obtain ⟨_, rfl⟩ := Prod.mk.inj (h.parts.symm.trans h'.parts)
  omega

theorem decimal?_eq (h : HasDigits token negative ds) (few : ds.length ≤ maxDigits) :
    decimal? token = some (.finite negative (numeral ds) 0) := by
  have hlength := Nat.le_trans (length_digitsOf_numeral_le h.nonempty) few
  have hdigits : (⟨negative, ds, [], 0⟩ : Real).digits = ds := List.append_nil ds
  have hscale : (⟨negative, ds, [], 0⟩ : Real).scale = 0 := rfl
  have hlimit : (maxDigits : Int) ≤ Decimal.maxLead := by decide
  have hfits : Decimal.fits (numeral ds) 0 = true := by
    unfold Decimal.fits
    rw [Bool.and_eq_true, decide_eq_true_eq, decide_eq_true_eq]
    exact ⟨by decide, by omega⟩
  unfold decimal?
  rw [h.real?_eq, Option.bind_some]
  unfold Real.toDecimal?
  simp only [hdigits, hscale]
  rw [if_pos hfits]

end HasDigits

/-- A number of more than four hundred digits is beyond the range of the binary numbers. -/
theorem toFloat_of_long (long : 400 < (digitsOf (numeral ds)).length) :
    (⟨negative, ds, [], 0⟩ : Real).toFloat = if negative then -(1.0 / 0.0) else 1.0 / 0.0 := by
  have hdigits : (⟨negative, ds, [], 0⟩ : Real).digits = ds := List.append_nil ds
  have hscale : (⟨negative, ds, [], 0⟩ : Real).scale = 0 := rfl
  have hlarge : ¬ (numeral ds = 0 ∨ (0 : Int) + (digitsOf (numeral ds)).length < -400) := by
    rintro (hzero | hsmall)
    · rw [hzero] at long
      exact absurd long (by decide)
    · omega
  have hbeyond : 400 < (0 : Int) + (digitsOf (numeral ds)).length := by omega
  unfold Real.toFloat
  simp only [hdigits, hscale, if_neg hlarge, if_pos hbeyond]

/-! ### Real literals and truth values -/

theorem exists_head_of_real? (h : real? token = some r) :
    ∃ c rest, trim token = c :: rest ∧ (isDigit c = true ∨ c ∈ ['-', '+', '.']) := by
  unfold real? at h
  cases htrim : trim token with
  | nil => simp [htrim, sign, Literal.fraction] at h
  | cons c rest =>
    refine ⟨c, rest, rfl, ?_⟩
    by_contra hother
    rw [not_or] at hother
    obtain ⟨hdigit, hmark⟩ := hother
    have hsign : sign (c :: rest) = (false, c :: rest) := by
      unfold sign
      split <;> simp_all
    have hspan : (c :: rest).span isDigit = ([], c :: rest) := by
      rw [List.span_eq_takeWhile_dropWhile, List.takeWhile_cons_of_neg hdigit,
        List.dropWhile_cons_of_neg hdigit]
    have hfraction : Literal.fraction (c :: rest) = ([], c :: rest) := by
      unfold Literal.fraction
      split <;> simp_all
    rw [htrim, hsign] at h
    simp only [hspan, hfraction] at h
    rw [if_pos ⟨trivial, trivial⟩] at h
    cases h

theorem exists_head_of_bool? {b : Bool} (h : bool? token = some b) :
    ∃ c rest, trim token = c :: rest ∧ (c.toLower = 't' ∨ c.toLower = 'f') := by
  have hword : (trim token).map Char.toLower = "true".toList ∨
      (trim token).map Char.toLower = "false".toList := by
    unfold bool? at h
    simp only at h
    split at h
    · exact Or.inl ‹_›
    · split at h
      · exact Or.inr ‹_›
      · cases h
  cases htrim : trim token with
  | nil => simp [htrim] at hword
  | cons c rest =>
    rw [htrim] at hword
    exact ⟨c, rest, rfl, hword.imp (fun h => (List.cons.inj h).1) (fun h => (List.cons.inj h).1)⟩

theorem toLower_eq_self (h : c.toNat < 'A'.toNat ∨ 'Z'.toNat < c.toNat) : c.toLower = c := by
  unfold Char.toLower
  rw [dif_neg]
  simp only [ge_iff_le, UInt32.le_iff_toNat_le, Char.toNat] at h ⊢
  omega

theorem toLower_eq_self_of_starts (h : isDigit c = true ∨ c ∈ ['-', '+', '.']) :
    c.toLower = c := by
  apply toLower_eq_self
  rcases h with hdigit | hmark
  · obtain ⟨d, hd⟩ := Option.isSome_iff_exists.mp hdigit
    obtain ⟨first, hfirst, hc, hlt⟩ := exists_first_of_digit? hd
    have hapart : ∀ first ∈ digitZeros, first + 9 < 'A'.toNat ∨ 'Z'.toNat < first := by decide
    have hfirst := hapart first hfirst
    omega
  · simp only [List.mem_cons, List.not_mem_nil, or_false] at hmark
    left
    rcases hmark with rfl | rfl | rfl <;> decide

/-- No token is both a real literal and a truth value. -/
theorem bool?_eq_none_of_real? (h : real? token = some r) : bool? token = none := by
  cases hbool : bool? token with
  | none => rfl
  | some b =>
    obtain ⟨c, rest, hreal, hstarts⟩ := exists_head_of_real? h
    obtain ⟨d, _, htrim, hword⟩ := exists_head_of_bool? hbool
    obtain ⟨rfl, _⟩ := List.cons.inj (hreal.symm.trans htrim)
    rw [toLower_eq_self_of_starts hstarts] at hword
    rcases hword with rfl | rfl
    · exact absurd hstarts (by decide)
    · exact absurd hstarts (by decide)

/-! ### A sign and digits -/

def signs : List (List Char) := [[], ['+'], ['-']]

def denoted (mark ds : List Char) : Int := if mark = ['-'] then -(weight ds : Int) else weight ds

theorem sign_signs (marked : mark ∈ signs) (h : ∀ c ∈ ds.head?, isDigit c = true) :
    sign (mark ++ ds) = (decide (mark = ['-']), ds) := by
  simp only [signs, List.mem_cons, List.not_mem_nil, or_false] at marked
  rcases marked with rfl | rfl | rfl
  · exact sign_of_isDigit h
  · rfl
  · rfl

theorem not_blank_of_signs (marked : mark ∈ signs) (digits : ∀ c ∈ ds, isDigit c = true) :
    ∀ c ∈ mark ++ ds, isBlank c = false := by
  have hmarks : signs.all (fun mark => mark.all fun c => !isBlank c) = true := by decide
  intro c hc
  rcases List.mem_append.mp hc with hc | hc
  · have hmark := List.all_eq_true.mp (List.all_eq_true.mp hmarks mark marked) c hc
    rwa [Bool.not_eq_true'] at hmark
  · exact isBlank_of_isDigit (digits c hc)

theorem isBlank_of_isSeparatorControl (h : isSeparatorControl c = true) : isBlank c = true := by
  unfold isSeparatorControl at h
  simp only [Bool.and_eq_true, decide_eq_true_eq] at h
  simp only [isBlank, blanks, covers]
  rw [if_neg (by omega), if_neg (by omega)]
  simp
  omega

theorem hasDigits_of_signs (marked : mark ∈ signs) (nonempty : ds ≠ [])
    (digits : ∀ c ∈ ds, isDigit c = true) : HasDigits (mark ++ ds) (mark = ['-']) ds where
  parts := by
    have hvisible := not_blank_of_signs marked digits
    rw [trim_eq_self (fun c hc => hvisible c (List.mem_of_mem_head? hc))
      (fun c hc => hvisible c (List.mem_of_mem_getLast? hc))]
    exact sign_signs marked fun c hc => digits c (List.mem_of_mem_head? hc)
  nonempty := nonempty
  digits := digits

theorem signed_numeral (mark ds : List Char) :
    signed (mark = ['-']) (numeral ds) = denoted mark ds := by
  unfold signed denoted
  rw [numeral_eq_weight]
  simp only [decide_eq_true_eq]

/-- A sign and digits are read as the number that they denote, if there are not too many digits. -/
theorem int?_of_signs (marked : mark ∈ signs) (nonempty : ds ≠ [])
    (digits : ∀ c ∈ ds, isDigit c = true) (few : ds.length ≤ maxDigits) :
    int? (mark ++ ds) = some (denoted mark ds) := by
  have hcontrols : (mark ++ ds).any isSeparatorControl = false := by
    rw [List.any_eq_false]
    intro c hc hcontrol
    have hvisible := not_blank_of_signs marked digits c hc
    rw [isBlank_of_isSeparatorControl hcontrol] at hvisible
    cases hvisible
  exact int?_eq_some_iff.mpr ⟨_, ds, hasDigits_of_signs marked nonempty digits, few, hcontrols,
    signed_numeral mark ds⟩

end LineShell.Literal
