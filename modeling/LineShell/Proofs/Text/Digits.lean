import Mathlib.Data.List.TakeDrop
import Mathlib.Data.Nat.Digits.Defs
import Mathlib.Tactic.Ring
import LineShell.Number.Whole
import LineShell.Text.Blank
import LineShell.Text.Digit

/-! # Decimal digits and what they denote

The digits of a numeral weigh by their places, whatever runs they come from. What is written with
the ten digits of ASCII is read as the number that it is written for. Zeros in front make no
difference.
-/
namespace LineShell.Text
open Number (digitsOf)

variable {c : Char} {ds es : List Char} {n : Nat}

/-! ### Digits of any run -/

def digitValue (c : Char) : Nat := (digit? c).getD 0

/-- The sum of the digits, each weighed by the power of ten for its place. -/
def weight (ds : List Char) : Nat := Nat.ofDigits 10 (ds.map digitValue).reverse

theorem exists_first_of_digit? {d : Nat} (h : digit? c = some d) :
    ∃ first ∈ digitZeros, c.toNat = first + d ∧ d < 10 := by
  obtain ⟨first, hfirst, rfl⟩ := Option.map_eq_some_iff.mp h
  have hrun := List.find?_some hfirst
  simp only [decide_eq_true_eq] at hrun
  exact ⟨first, List.mem_of_find?_eq_some hfirst, by omega, by omega⟩

theorem isBlank_of_isDigit (h : isDigit c = true) : isBlank c = false := by
  obtain ⟨d, hd⟩ := Option.isSome_iff_exists.mp h
  obtain ⟨first, hfirst, hc, hlt⟩ := exists_first_of_digit? hd
  cases hblank : isBlank c with
  | false => rfl
  | true =>
    obtain ⟨r, hr, hlow, hhigh⟩ := exists_of_covers hblank
    have hapart : ∀ first ∈ digitZeros, ∀ r ∈ blanks, r.2 < first ∨ first + 9 < r.1 := by decide
    have hr := hapart first hfirst r hr
    omega

theorem digitValue_lt (c : Char) : digitValue c < 10 := by
  unfold digitValue
  cases hd : digit? c with
  | none => decide
  | some d =>
    obtain ⟨_, _, _, hlt⟩ := exists_first_of_digit? hd
    exact hlt

theorem numeralFrom_eq_weight (n : Nat) (ds : List Char) :
    numeralFrom n ds = n * 10 ^ ds.length + weight ds := by
  induction ds generalizing n with
  | nil => simp [numeralFrom, weight]
  | cons c ds ih =>
    have hrest : numeralFrom n (c :: ds) = numeralFrom (10 * n + digitValue c) ds := rfl
    rw [hrest, ih]
    simp only [weight, List.map_cons, List.reverse_cons, Nat.ofDigits_append,
      Nat.ofDigits_singleton, List.length_reverse, List.length_map, List.length_cons]
    ring

/-- A numeral is read as what its digits weigh. -/
theorem numeral_eq_weight (ds : List Char) : numeral ds = weight ds := by
  rw [numeral, numeralFrom_eq_weight, Nat.zero_mul, Nat.zero_add]

theorem numeral_lt (ds : List Char) : numeral ds < 10 ^ ds.length := by
  have hdigits : ∀ d ∈ (ds.map digitValue).reverse, d < 10 := by
    intro d hd
    obtain ⟨c, _, rfl⟩ := List.mem_map.mp (List.mem_reverse.mp hd)
    exact digitValue_lt c
  have hlt := Nat.ofDigits_lt_base_pow_length (by decide) hdigits
  rw [List.length_reverse, List.length_map] at hlt
  rwa [numeral_eq_weight]

theorem length_digitsOf_numeral_le (nonempty : ds ≠ []) :
    (digitsOf (numeral ds)).length ≤ ds.length := by
  rw [digitsOf, Nat.length_toDigits_le_iff (by decide) (List.length_pos_iff.mpr nonempty)]
  exact numeral_lt ds

theorem span_digits (h : ∀ c ∈ ds, isDigit c = true) (ends : ∀ c ∈ es.head?, isDigit c = false) :
    (ds ++ es).span isDigit = (ds, es) := by
  have htake : es.takeWhile isDigit = [] := by
    cases es with
    | nil => rfl
    | cons c es => exact List.takeWhile_cons_of_neg (by simp [ends c rfl])
  have hdrop : es.dropWhile isDigit = es := by
    cases es with
    | nil => rfl
    | cons c es => exact List.dropWhile_cons_of_neg (by simp [ends c rfl])
  rw [List.span_eq_takeWhile_dropWhile, List.takeWhile_append_of_pos h,
    List.dropWhile_append_of_pos h, htake, hdrop, List.append_nil]

/-! ### Written digits -/

def IsWritten (ds : List Char) : Prop := ∀ c ∈ ds, c.isDigit = true

theorem digit?_written (h : c.isDigit = true) : digit? c = some (c.toNat - '0'.toNat) := by
  have hbounds := Char.isDigit_iff_toNat.mp h
  unfold digit? digitZeros
  rw [List.find?_cons_of_pos]
  · rfl
  · simp at hbounds ⊢
    omega

theorem isDigit_written (h : c.isDigit = true) : isDigit c = true := by
  rw [isDigit, digit?_written h]
  rfl

theorem isBlank_written (h : c.isDigit = true) : isBlank c = false :=
  isBlank_of_isDigit (isDigit_written h)

namespace IsWritten

theorem append (hds : IsWritten ds) (hes : IsWritten es) : IsWritten (ds ++ es) := by
  intro c hc
  exact (List.mem_append.mp hc).elim (hds c) (hes c)

theorem of_append (h : IsWritten (ds ++ es)) : IsWritten ds ∧ IsWritten es :=
  ⟨fun c hc => h c (List.mem_append_left es hc), fun c hc => h c (List.mem_append_right ds hc)⟩

theorem replicate_zero (count : Nat) : IsWritten (List.replicate count '0') := by
  intro c hc
  rw [List.eq_of_mem_replicate hc]
  rfl

theorem digitsOf (n : Nat) : IsWritten (digitsOf n) :=
  fun _ => Nat.isDigit_of_mem_toDigits (by decide) (by decide)

theorem all_isDigit (h : IsWritten ds) : ds.all isDigit = true := by
  rw [List.all_eq_true]
  exact fun c hc => isDigit_written (h c hc)

end IsWritten

theorem digitsOf_ne_nil (n : Nat) : digitsOf n ≠ [] := Nat.toDigits_ne_nil

theorem numeralFrom_eq (h : IsWritten ds) (n : Nat) :
    numeralFrom n ds = Nat.ofDigitChars 10 ds n := by
  induction ds generalizing n with
  | nil => rfl
  | cons c ds ih =>
    have hrest := ih (fun d hd => h d (List.mem_cons_of_mem c hd)) (10 * n + (c.toNat - '0'.toNat))
    have hdigit := digit?_written (h c List.mem_cons_self)
    unfold numeralFrom at hrest ⊢
    rw [List.foldl_cons, hdigit]
    exact hrest

theorem numeral_digitsOf (n : Nat) : numeral (digitsOf n) = n := by
  rw [numeral, numeralFrom_eq (IsWritten.digitsOf n)]
  exact Nat.ofDigitChars_ten_toDigits

theorem numeral_replicate_zero (count : Nat) : numeral (List.replicate count '0') = 0 := by
  induction count with
  | zero => rfl
  | succ count ih => exact ih

theorem numeral_zeros_append (count : Nat) (ds : List Char) :
    numeral (List.replicate count '0' ++ ds) = numeral ds := by
  have hzeros := numeral_replicate_zero count
  unfold numeral numeralFrom at hzeros ⊢
  rw [List.foldl_append, hzeros]

theorem span_written (h : IsWritten ds) (ends : ∀ c ∈ es.head?, isDigit c = false) :
    (ds ++ es).span isDigit = (ds, es) :=
  span_digits (fun c hc => isDigit_written (h c hc)) ends

end LineShell.Text
