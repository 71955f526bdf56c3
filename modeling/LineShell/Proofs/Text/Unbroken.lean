import LineShell.Proofs.Literals.Layout
import LineShell.Proofs.Text.Lines
import LineShell.Number.RealText
import LineShell.Text.Identifier
import LineShell.Text.Quoted

/-! # What is always written on one line

A break never gets into the written form of a number or a byte, nor through quotes: it is escaped
there. Identifiers hold no break either.
-/
namespace LineShell

namespace Text
variable {quote c : Char}

theorem isBlank_break : isBlank '\n' = true := by decide

theorem continuesIdentifier_break : continuesIdentifier '\n' = false := by decide

theorem isLine_of_isIdentifier {s : String} (h : isIdentifier s.toList = true) : IsLine s := by
  unfold IsLine
  cases hs : s.toList with
  | nil => simp
  | cons c rest =>
    rw [hs] at h
    simp only [isIdentifier, Bool.and_eq_true, List.all_eq_true] at h
    intro hbreak
    have hcontinues : continuesIdentifier '\n' = true := by
      rcases List.mem_cons.mp hbreak with rfl | hrest
      · simp [continuesIdentifier, h.1]
      · exact h.2 _ hrest
    simp [continuesIdentifier_break] at hcontinues

/-! ### Quoted texts -/

theorem break_not_mem_hexadecimal (width n : ℕ) : '\n' ∉ hexadecimal width n := by
  have hdigit : ∀ d < 16, '\n' ≠ hexDigit d := by decide
  induction width generalizing n with
  | zero => simp [hexadecimal]
  | succ width ih =>
    have hlast := hdigit (n % 16) (Nat.mod_lt n (by decide))
    simp [hexadecimal, ih, hlast]

theorem break_not_mem_numberEscape (n : ℕ) : '\n' ∉ numberEscape n := by
  unfold numberEscape
  split
  · simp [break_not_mem_hexadecimal]
  · split <;> simp [break_not_mem_hexadecimal]

theorem break_not_mem_shown (other : quote ≠ '\n') : '\n' ∉ shown quote c := by
  unfold shown
  by_cases hbreak : c = '\n'
  · subst hbreak
    simp [Ne.symm other]
  · have hself := Ne.symm hbreak
    have hescape := break_not_mem_numberEscape c.toNat
    split_ifs <;> simp [hself, hescape]

theorem quoteFor_ne_break (cs : List Char) : quoteFor cs ≠ '\n' := by
  unfold quoteFor
  split <;> decide

theorem isLine_quoted (s : String) : IsLine (quoted s) := by
  have hquote := quoteFor_ne_break s.toList
  simp [IsLine, quoted, quotedChars, break_not_mem_shown hquote, Ne.symm hquote]

theorem isLine_quotedBytes (bs : List UInt8) : IsLine (quotedBytes bs) := by
  have hquote := quoteFor_ne_break (bs.map fun b => Char.ofNat b.toNat)
  have hbyte : ∀ b, '\n' ∉ shownByte (quoteFor (bs.map fun b => Char.ofNat b.toNat)) b := by
    intro b
    unfold shownByte
    split
    · exact break_not_mem_shown hquote
    · exact break_not_mem_numberEscape _
  simp [IsLine, quotedBytes, hbyte, Ne.symm hquote]

end Text

/-! ### Numbers -/

namespace Number
open Text

variable {ds : List Char}

theorem break_not_mem_digitsOf (n : ℕ) : '\n' ∉ digitsOf n := by
  intro h
  exact absurd (IsWritten.digitsOf n _ h) (by decide)

theorem isLine_toString (n : ℤ) : IsLine (toString n) := by
  have hnat : ∀ m : ℕ, '\n' ∉ (Nat.repr m).toList := by
    intro m
    simpa [Nat.repr, digitsOf] using break_not_mem_digitsOf m
  cases n with
  | ofNat m => exact hnat m
  | negSucc m => simpa [IsLine, toString, Int.repr] using hnat (m + 1)

theorem break_not_mem_positional (h : '\n' ∉ ds) (lead : ℤ) : '\n' ∉ positional ds lead := by
  have htake : ∀ n, '\n' ∉ ds.take n := fun n hn => h (List.mem_of_mem_take hn)
  have hdrop : ∀ n, '\n' ∉ ds.drop n := fun n hn => h (List.mem_of_mem_drop hn)
  unfold positional
  split
  · simp [h]
  · simp only
    split <;> simp [h, htake, hdrop]

theorem break_not_mem_exponentText (e : ℤ) : '\n' ∉ exponentText e := by
  unfold exponentText
  simp only
  split <;> split <;> simp [break_not_mem_digitsOf]

theorem break_not_mem_scientific (h : '\n' ∉ ds) (lead : ℤ) : '\n' ∉ scientific ds lead := by
  unfold scientific
  split
  · simp
  · simpa [break_not_mem_exponentText] using h
  · simp_all [break_not_mem_exponentText]

theorem isLine_realText (x : Float) : IsLine (realText x) := by
  have hscaled : ∀ d : Scaled, '\n' ∉ d.text := by
    intro d
    unfold Scaled.text
    split
    · decide
    · simp only
      split
      · exact break_not_mem_positional (break_not_mem_digitsOf _) _
      · exact break_not_mem_scientific (break_not_mem_digitsOf _) _
  unfold realText
  split
  · decide
  · simp only
    split
    · exact isLine_append.mpr ⟨by split <;> decide, by decide⟩
    · refine isLine_append.mpr ⟨by split <;> decide, ?_⟩
      simpa [IsLine] using hscaled _

theorem isLine_text (d : Decimal) : IsLine d.text := by
  have hchars : '\n' ∉ d.chars := by
    cases d with
    | finite negative coefficient exponent =>
      obtain ⟨whole, fraction, shift, hlays⟩ := Literal.exists_laysOut
        (.digitsOf coefficient) (digitsOf_ne_nil coefficient) exponent
      intro h
      have hnumeric := hlays.isNumeric negative _ h
      simp [Literal.IsNumeric] at hnumeric
    | infinite negative => cases negative <;> decide
    | undefined negative signalling payload =>
      have hdigits := break_not_mem_digitsOf payload
      cases negative <;> cases signalling <;> by_cases hpayload : payload = 0 <;>
        simp [Decimal.chars, Decimal.signText, hpayload, hdigits]
  simpa [IsLine, Decimal.text] using hchars

end Number
end LineShell
