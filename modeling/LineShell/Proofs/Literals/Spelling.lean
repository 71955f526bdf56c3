import LineShell.Literal
import LineShell.Proofs.Text.Digits
import LineShell.Proofs.Text.Trimming

/-! # What numbers are read from

A whole number may be written with a plus, with zeros in front and among blanks. A decimal is
written with its coefficient and its exponent. Either is read as it was written.
-/
namespace LineShell.Literal
open Text Number

def marks (n : Int) : List (List Char) := if n < 0 then [['-']] else [[], ['+']]

/-- The text stands for the whole number: blanks around one of its marks, zeros and its digits. No
more digits are written than are read, and no separator control is among the blanks. -/
inductive Spells (n : Int) : List Char → Prop
  | written (before after mark : List Char) (zeros : Nat)
    (blank : ∀ c ∈ before ++ after, isBlank c = true ∧ isSeparatorControl c = false)
    (marked : mark ∈ marks n) (held : zeros + (digitsOf n.natAbs).length ≤ maxDigits) :
    Spells n (before ++ (mark ++ (List.replicate zeros '0' ++ digitsOf n.natAbs)) ++ after)

variable {c : Char} {cs ds es : List Char} {n : Int}

def IsNumeric (c : Char) : Prop := c.isDigit = true ∨ c ∈ ['-', '+', '.', 'E']

theorem IsNumeric.isBlank (h : IsNumeric c) : isBlank c = false := by
  rcases h with h | h
  · exact isBlank_written h
  · have hmarks : ['-', '+', '.', 'E'].all (!Text.isBlank ·) = true := by decide
    simpa using List.all_eq_true.mp hmarks c h

theorem IsNumeric.isSeparatorControl (h : IsNumeric c) : isSeparatorControl c = false := by
  rcases h with h | h
  · obtain ⟨hzero, -⟩ := Char.isDigit_iff_toNat.mp h
    have hover : 0x1F < c.toNat := Nat.lt_of_lt_of_le (by decide) hzero
    simp [Literal.isSeparatorControl, Nat.not_le.mpr hover]
  · have hmarks : ['-', '+', '.', 'E'].all (!Literal.isSeparatorControl ·) = true := by decide
    simpa using List.all_eq_true.mp hmarks c h

theorem isNumeric_of_isWritten (h : IsWritten ds) : ∀ c ∈ ds, IsNumeric c :=
  fun c hc => Or.inl (h c hc)

theorem sign_of_isDigit (h : ∀ c ∈ cs.head?, isDigit c = true) : sign cs = (false, cs) := by
  unfold sign
  split
  · exact absurd (h '-' rfl) (by decide)
  · exact absurd (h '+' rfl) (by decide)
  · rfl

theorem sign_of_head (h : ∀ c ∈ cs.head?, c.isDigit = true) : sign cs = (false, cs) :=
  sign_of_isDigit fun c hc => isDigit_written (h c hc)

theorem sign_mark {mark : List Char} (marked : mark ∈ marks n)
    (h : ∀ c ∈ cs.head?, c.isDigit = true) : sign (mark ++ cs) = (decide (n < 0), cs) := by
  unfold marks at marked
  split at marked
  · rename_i negative
    rw [List.mem_singleton.mp marked, decide_eq_true negative]
    rfl
  · rename_i negative
    rw [decide_eq_false negative]
    rcases List.mem_cons.mp marked with rfl | marked
    · exact sign_of_head h
    · rw [List.mem_singleton.mp marked]
      rfl

theorem signed_natAbs (n : Int) : signed (n < 0) n.natAbs = n := by
  unfold signed
  simp only [decide_eq_true_eq]
  split <;> omega

theorem isWritten_head (h : IsWritten ds) : ∀ c ∈ ds.head?, c.isDigit = true :=
  fun c hc => h c (List.mem_of_mem_head? hc)

theorem isNumeric_of_mark {mark : List Char} (marked : mark ∈ marks n) :
    ∀ c ∈ mark, IsNumeric c := by
  unfold marks at marked
  split at marked
  · rw [List.mem_singleton.mp marked]
    simp [IsNumeric]
  · rcases List.mem_cons.mp marked with rfl | marked
    · simp
    · rw [List.mem_singleton.mp marked]
      simp [IsNumeric]

/-- A whole number is read from any text that stands for it. -/
theorem int?_of_spells {token : List Char} (h : Spells n token) : int? token = some n := by
  obtain ⟨before, after, mark, zeros, blank, marked, held⟩ := h
  have hwritten : IsWritten (List.replicate zeros '0' ++ digitsOf n.natAbs) :=
    (IsWritten.replicate_zero zeros).append (.digitsOf n.natAbs)
  have hnonempty : List.replicate zeros '0' ++ digitsOf n.natAbs ≠ [] := by
    simp [digitsOf_ne_nil]
  have hlength : (List.replicate zeros '0' ++ digitsOf n.natAbs).length ≤ maxDigits := by
    simpa using held
  have hnumeral : numeral (List.replicate zeros '0' ++ digitsOf n.natAbs) = n.natAbs := by
    rw [numeral_zeros_append, numeral_digitsOf]
  generalize List.replicate zeros '0' ++ digitsOf n.natAbs = ds at *
  have hnumeric : ∀ c ∈ mark ++ ds, IsNumeric c := by
    intro c hc
    rcases List.mem_append.mp hc with hc | hc
    · exact isNumeric_of_mark marked c hc
    · exact isNumeric_of_isWritten hwritten c hc
  have htrim : trim (before ++ (mark ++ ds) ++ after) = mark ++ ds := by
    refine trim_surrounded ?_ ?_ (by simp [hnonempty]) ?_ ?_
    · exact fun c hc => (blank c (List.mem_append_left after hc)).1
    · exact fun c hc => (blank c (List.mem_append_right before hc)).1
    · exact fun c hc => (hnumeric c (List.mem_of_mem_head? hc)).isBlank
    · exact fun c hc => (hnumeric c (List.mem_of_mem_getLast? hc)).isBlank
  have huncontrolled : (before ++ (mark ++ ds) ++ after).any isSeparatorControl = false := by
    rw [List.any_eq_false]
    intro c hc
    rw [Bool.not_eq_true]
    rcases List.mem_append.mp hc with hc | hc
    · rcases List.mem_append.mp hc with hc | hc
      · exact (blank c (List.mem_append_left after hc)).2
      · exact (hnumeric c hc).isSeparatorControl
    · exact (blank c (List.mem_append_right before hc)).2
  have hread : ds ≠ [] ∧ ds.all isDigit = true ∧ ds.length ≤ maxDigits ∧
      (!(before ++ (mark ++ ds) ++ after).any isSeparatorControl) = true :=
    ⟨hnonempty, hwritten.all_isDigit, hlength, by rw [huncontrolled]; rfl⟩
  unfold int?
  rw [htrim, sign_mark marked (isWritten_head hwritten)]
  simp only
  rw [if_pos hread, hnumeral, signed_natAbs]

end LineShell.Literal
