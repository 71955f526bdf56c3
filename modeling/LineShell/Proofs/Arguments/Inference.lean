import LineShell.Proofs.Arguments.Typing
import LineShell.Proofs.Literals.Agreement

/-! # Values of tokens without a declared type

A token without a declared type is read by the first of three types that does not refuse it: a truth
value, a whole number, a real number. What none of them reads is a text, and stays as it is. A whole
number means the same whatever type reads it; only a number of too many digits for a whole one is
taken for a real one.
-/
namespace LineShell.Conversion
open Literal
open Number (digitsOf maxDigits)
open Text (isDigit weight numeral)
variable {leniency : Leniency} {token : String} {type : ValueType} {types : List ValueType}
  {v w : Value}

/-- The value is what the first of the types reads that does not refuse the token, or else the token
itself. -/
inductive ReadsFirst (leniency : Leniency) (token : String) : List ValueType → Value → Prop
  | unread : ReadsFirst leniency token [] (.text token)
  | here {type : ValueType} {types : List ValueType} {v : Value}
    (value : read type leniency token = .ok v) : ReadsFirst leniency token (type :: types) v
  | later {type : ValueType} {types : List ValueType} {v : Value}
    (refused : read type leniency token = .error (.uncastable token type .literal))
    (rest : ReadsFirst leniency token types v) : ReadsFirst leniency token (type :: types) v

theorem ReadsFirst.unique (hv : ReadsFirst leniency token types v)
    (hw : ReadsFirst leniency token types w) : v = w := by
  induction hv with
  | unread =>
    cases hw
    rfl
  | here value =>
    cases hw with
    | here value' => exact Except.ok.inj (value.symm.trans value')
    | later refused _ => cases value.symm.trans refused
  | later refused _ ih =>
    cases hw with
    | here value => cases value.symm.trans refused
    | later _ rest => exact ih rest

/-! ### Each type on its own -/

theorem read_bool_eq (leniency : Leniency) (token : String) :
    read .bool leniency token = readLiteral .bool token ((bool? token.toList).map .bool) := rfl

theorem read_int_eq (leniency : Leniency) (token : String) :
    read .int leniency token = readLiteral .int token ((int? token.toList).map .int) := rfl

theorem read_real_eq (leniency : Leniency) (token : String) :
    read .real leniency token =
      readLiteral .real token ((real? token.toList).map fun r => .real r.toFloat) := by
  unfold read
  rw [real, Option.map_map]
  rfl

theorem infer_readsFirst (leniency : Leniency) (token : String) :
    ReadsFirst leniency token [.bool, .int, .real] (infer token) := by
  unfold infer real
  cases hbool : bool? token.toList with
  | some b => exact .here (by rw [read_bool_eq, hbool]; rfl)
  | none =>
    refine .later (by rw [read_bool_eq, hbool]; rfl) ?_
    cases hint : int? token.toList with
    | some n => exact .here (by rw [read_int_eq, hint]; rfl)
    | none =>
      refine .later (by rw [read_int_eq, hint]; rfl) ?_
      cases hreal : real? token.toList with
      | some r => exact .here (by rw [read_real_eq, hreal]; rfl)
      | none => exact .later (by rw [read_real_eq, hreal]; rfl) .unread

theorem infer_eq_iff : infer token = v ↔ ReadsFirst leniency token [.bool, .int, .real] v := by
  constructor
  · rintro rfl
    exact infer_readsFirst leniency token
  · exact (infer_readsFirst leniency token).unique

theorem not_bool_and_real :
    ¬ (read .bool leniency token = .ok v ∧ read .real leniency token = .ok w) := by
  rintro ⟨hv, hw⟩
  rw [read_real_eq] at hw
  obtain ⟨r, hr, _⟩ := Option.map_eq_some_iff.mp (readLiteral_eq_ok hw)
  rw [read_bool_eq, bool?_eq_none_of_real? hr] at hv
  cases hv

/-- What is read as a whole number is a real literal and a decimal of the same amount, and is
inferred as this number. -/
theorem exists_literal_of_int (h : read .int leniency token = .ok v) :
    ∃ r : Literal.Real, r.scale = 0 ∧ v = .int (signed r.negative (numeral r.digits)) ∧
      read .real leniency token = .ok (.real r.toFloat) ∧
      read .decimal leniency token = .ok (.decimal (.finite r.negative (numeral r.digits) 0)) ∧
      infer token = v := by
  rw [read_int_eq] at h
  obtain ⟨n, hint, rfl⟩ := Option.map_eq_some_iff.mp (readLiteral_eq_ok h)
  obtain ⟨negative, ds, hdigits, hfew, _, rfl⟩ := int?_eq_some_iff.mp hint
  have hreal := hdigits.real?_eq
  have hdecimal := hdigits.decimal?_eq hfew
  refine ⟨⟨negative, ds, [], 0⟩, rfl, ?_, ?_, ?_, ?_⟩
  · rw [Literal.Real.digits, List.append_nil]
  · rw [read_real_eq, hreal]
    rfl
  · unfold read
    rw [Literal.Real.digits, List.append_nil, hdecimal]
    rfl
  · unfold infer
    rw [bool?_eq_none_of_real? hreal, hint]

theorem refused_of_infer_text {text : String} (h : infer token = .text text) :
    text = token ∧ ∀ type ∈ [ValueType.bool, .int, .real],
      read type leniency token = .error (.uncastable token type .literal) := by
  unfold infer real at h
  cases hbool : bool? token.toList with
  | some b => simp [hbool] at h
  | none =>
    cases hint : int? token.toList with
    | some n => simp [hbool, hint] at h
    | none =>
      cases hreal : real? token.toList with
      | some r => simp [hbool, hint, hreal] at h
      | none =>
        simp only [hbool, hint, hreal, Option.map_none, Value.text.injEq] at h
        refine ⟨h.symm, ?_⟩
        simp [read_bool_eq, read_int_eq, read_real_eq, hbool, hint, hreal, readLiteral]

/-- The readers of literals agree. No token is both a truth value and a real number. What is read as
a whole number is a real literal and a decimal of exponent zero with this very amount, and without a
declared type it is this number as well. A token of no declared type always has a value: the one
that the first of the three types reads that does not refuse it, and else the token as it is, which
then all of them refuse. -/
theorem readers_agree (leniency : Leniency) (token : String) :
    (∀ v w, ¬ (read .bool leniency token = .ok v ∧ read .real leniency token = .ok w)) ∧
    (∀ v, read .int leniency token = .ok v → ∃ r : Literal.Real, r.scale = 0 ∧
      v = .int (signed r.negative (numeral r.digits)) ∧
      read .real leniency token = .ok (.real r.toFloat) ∧
      read .decimal leniency token = .ok (.decimal (.finite r.negative (numeral r.digits) 0)) ∧
      infer token = v) ∧
    (∀ text, infer token = .text text → text = token ∧ ∀ type ∈ [ValueType.bool, .int, .real],
      read type leniency token = .error (.uncastable token type .literal)) ∧
    ∀ v, infer token = v ↔ ReadsFirst leniency token [.bool, .int, .real] v :=
  ⟨fun _ _ => not_bool_and_real, fun _ => exists_literal_of_int, fun _ => refused_of_infer_text,
    fun _ => infer_eq_iff⟩

/-- A number of two scripts with zeros in front, among blanks of which one is not a space; and a
text that ends with a blank. -/
theorem readers_agree_scripts :
    read .int {} " -00४2\u00a0" = .ok (.int (-42)) ∧
    (∃ r : Literal.Real, r.scale = 0 ∧
      Value.int (-42) = .int (signed r.negative (numeral r.digits)) ∧
      read .real {} " -00४2\u00a0" = .ok (.real r.toFloat) ∧
      read .decimal {} " -00४2\u00a0" =
        .ok (.decimal (.finite r.negative (numeral r.digits) 0)) ∧
      infer " -00४2\u00a0" = .int (-42)) ∧
    infer "yes " = .text "yes " ∧ ∀ type ∈ [ValueType.bool, .int, .real],
      read type {} "yes " = .error (.uncastable "yes " type .literal) := by
  have hint : read .int {} " -00४2\u00a0" = .ok (.int (-42)) := rfl
  have htext : infer "yes " = .text "yes " := rfl
  exact ⟨hint, (readers_agree {} " -00४2\u00a0").2.1 (.int (-42)) hint, htext,
    ((readers_agree {} "yes ").2.2.1 "yes " htext).2⟩

/-! ### A sign and digits -/

section
variable {mark ds : List Char} (marked : mark ∈ signs) (nonempty : ds ≠ [])
  (digits : ∀ c ∈ ds, isDigit c = true)
include marked nonempty digits

theorem infer_of_few (few : ds.length ≤ maxDigits) :
    infer (String.ofList (mark ++ ds)) = .int (denoted mark ds) := by
  have hreal := (hasDigits_of_signs marked nonempty digits).real?_eq
  unfold infer
  rw [String.toList_ofList, bool?_eq_none_of_real? hreal,
    int?_of_signs marked nonempty digits few]

theorem infer_of_many (many : maxDigits < ds.length) :
    infer (String.ofList (mark ++ ds)) =
      .real (⟨mark = ['-'], ds, [], 0⟩ : Literal.Real).toFloat := by
  have hdigits := hasDigits_of_signs marked nonempty digits
  unfold infer real
  rw [String.toList_ofList, bool?_eq_none_of_real? hdigits.real?_eq, hdigits.int?_eq_none many,
    hdigits.real?_eq]
  rfl

end

/-- A sign and digits, in whatever script and with any zeros in front, are inferred as the whole
number that they denote exactly if there are no more digits than a whole number is read from.
Otherwise they are taken for a real number, which is infinite if the number itself, without the
zeros in front, has more than four hundred digits. -/
theorem digits_inferred {mark ds : List Char} (marked : mark ∈ signs) (nonempty : ds ≠ [])
    (digits : ∀ c ∈ ds, isDigit c = true) :
    (infer (String.ofList (mark ++ ds)) = .int (denoted mark ds) ↔ ds.length ≤ maxDigits) ∧
    (maxDigits < ds.length → infer (String.ofList (mark ++ ds)) =
      .real (⟨mark = ['-'], ds, [], 0⟩ : Literal.Real).toFloat) ∧
    (maxDigits < ds.length → 400 < (digitsOf (weight ds)).length →
      infer (String.ofList (mark ++ ds)) =
        .real (if mark = ['-'] then -(1.0 / 0.0) else 1.0 / 0.0)) := by
  refine ⟨⟨?_, infer_of_few marked nonempty digits⟩, infer_of_many marked nonempty digits, ?_⟩
  · intro h
    by_contra hmany
    rw [infer_of_many marked nonempty digits (Nat.not_le.mp hmany)] at h
    cases h
  · intro many long
    rw [← Text.numeral_eq_weight] at long
    rw [infer_of_many marked nonempty digits many, toFloat_of_long long]
    simp only [decide_eq_true_eq]

/-- The digits of another script, after a minus and a zero. -/
theorem digits_inferred_script : ['-'] ∈ signs ∧ (∀ c ∈ ['0', '४', '२'], isDigit c = true) ∧
    infer "-0४२" = .int (-42) := by
  have marked : ['-'] ∈ signs := by decide
  have digits : ∀ c ∈ ['0', '४', '२'], isDigit c = true := List.all_eq_true.mp (by decide)
  exact ⟨marked, digits, (digits_inferred marked (by decide) digits).1.mpr (by decide)⟩

/-- Four thousand three hundred zeros and a seven denote seven and are taken for a real number. -/
theorem exists_number_lost : ∃ ds : List Char, ds = List.replicate 4300 '0' ++ ['7'] ∧
    (∀ c ∈ ds, isDigit c = true) ∧ denoted [] ds = 7 ∧
    (∃ x, infer (String.ofList ds) = .real x) ∧ infer (String.ofList ds) ≠ .int 7 := by
  have digits : ∀ c ∈ List.replicate 4300 '0' ++ ['7'], isDigit c = true := by
    intro c hc
    rcases List.mem_append.mp hc with hc | hc
    · rw [List.eq_of_mem_replicate hc]
      decide
    · rw [List.mem_singleton.mp hc]
      decide
  have hweight : weight (List.replicate 4300 '0' ++ ['7']) = 7 := by
    rw [← Text.numeral_eq_weight, Text.numeral_zeros_append]
    decide
  have hmany : maxDigits < (List.replicate 4300 '0' ++ ['7']).length := by
    rw [List.length_append, List.length_replicate]
    decide
  have marked : [] ∈ signs := by decide
  have hinfer := infer_of_many marked
    (List.append_ne_nil_of_right_ne_nil _ (List.cons_ne_nil _ _)) digits hmany
  refine ⟨_, rfl, digits, ?_, ⟨_, hinfer⟩, ?_⟩
  · rw [denoted, if_neg (by decide), hweight]
    rfl
  · intro h
    cases hinfer.symm.trans h

end LineShell.Conversion
