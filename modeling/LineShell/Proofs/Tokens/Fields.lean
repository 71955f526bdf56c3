import Mathlib.Data.List.TakeWhile
import LineShell.Proofs.Tokens.Scanning

/-! # Tokens as fields

Where one character divides tokens and another encloses quoted regions, the tokens of a line can be
told without a scan. The line is cut at every quote. The pieces lie outside and inside of regions by
turns: those outside are split at every delimiter, and those inside are kept whole. Where two pieces
meet, the last field of the one and the first field of the other are one field. A region stays open
exactly if the number of quotes is odd, and the fields are the tokens, but for an empty field behind
a delimiter at the very end.
-/
namespace LineShell

namespace Text

theorem isBlank_getLast_trim {cs : List Char} {c : Char} (h : (trim cs).getLast? = some c) :
    isBlank c = false := by
  unfold trim trimEnd at h
  rw [List.getLast?_reverse] at h
  by_contra hc
  have hnot := List.head?_dropWhile_not isBlank (trimStart cs).reverse
  rw [h] at hnot
  exact hc (by simpa using hnot)

end Text

namespace Token

/-- The fields of two texts that are put together: the last one of the first text and the first one
of the second make one field. -/
def glue : List (List Char) → List (List Char) → List (List Char)
  | [], others => others
  | [last], others => lead last others
  | field :: rest, others => field :: glue rest others

/-- The fields of pieces that lie inside and outside of quoted regions by turns. -/
def fieldsOf (delimiter : Char) : (inside : Bool) → List (List Char) → List (List Char)
  | _, [] => [[]]
  | false, piece :: rest => glue (piece.splitOn delimiter) (fieldsOf delimiter true rest)
  | true, piece :: rest => glue [piece] (fieldsOf delimiter false rest)

/-- The fields of a text that is cut at every quote. -/
def fields (delimiter quote : Char) (cs : List Char) : List (List Char) :=
  fieldsOf delimiter false (cs.splitOn quote)

section
variable {delimiter quote c : Char} {cs : List Char} {pieces tokens others : List (List Char)}

theorem lead_nil (nonempty : tokens ≠ []) : lead [] tokens = tokens := by
  obtain ⟨token, rest, rfl⟩ := List.exists_cons_of_ne_nil nonempty
  rfl

theorem lead_append (nonempty : tokens ≠ []) :
    lead cs (tokens ++ others) = lead cs tokens ++ others := by
  obtain ⟨token, rest, rfl⟩ := List.exists_cons_of_ne_nil nonempty
  rfl

theorem glue_lead (nonempty : tokens ≠ []) :
    glue (lead [c] tokens) others = lead [c] (glue tokens others) := by
  obtain ⟨token, rest, rfl⟩ := List.exists_cons_of_ne_nil nonempty
  cases rest with
  | nil => cases others <;> rfl
  | cons => rfl

theorem glue_ne_nil (nonempty : others ≠ []) : glue tokens others ≠ [] := by
  fun_cases glue tokens others with
  | case1 => exact nonempty
  | case2 => exact lead_ne_nil _ _
  | case3 => simp

theorem fieldsOf_ne_nil (inside : Bool) : fieldsOf delimiter inside pieces ≠ [] := by
  induction pieces generalizing inside with
  | nil => simp [fieldsOf]
  | cons piece rest ih => cases inside <;> exact glue_ne_nil (ih _)

theorem splitOn_self : (c :: cs).splitOn c = [] :: cs.splitOn c := by
  simp [List.splitOn_eq_splitOnP, List.splitOnP_cons_eq_if_modifyHead]

theorem splitOn_other (other : c ≠ quote) :
    (c :: cs).splitOn quote = lead [c] (cs.splitOn quote) := by
  obtain ⟨piece, rest, hpieces⟩ := List.exists_cons_of_ne_nil (List.splitOn_ne_nil quote cs)
  have hmodify : (c :: cs).splitOn quote = (cs.splitOn quote).modifyHead (c :: ·) := by
    simp [List.splitOn_eq_splitOnP, List.splitOnP_cons_eq_if_modifyHead, other]
  rw [hmodify, hpieces]
  rfl

/-! ### The fields of a text, one character after the other -/

theorem fieldsOf_quote (inside : Bool) :
    fieldsOf delimiter inside ((quote :: cs).splitOn quote) =
      fieldsOf delimiter (!inside) (cs.splitOn quote) := by
  rw [splitOn_self]
  cases inside <;> exact lead_nil (fieldsOf_ne_nil _)

theorem fieldsOf_delimiter (distinct : delimiter ≠ quote) :
    fieldsOf delimiter false ((delimiter :: cs).splitOn quote) =
      [] :: fieldsOf delimiter false (cs.splitOn quote) := by
  obtain ⟨piece, rest, hpieces⟩ := List.exists_cons_of_ne_nil (List.splitOn_ne_nil quote cs)
  obtain ⟨field, more, hfields⟩ :=
    List.exists_cons_of_ne_nil (List.splitOn_ne_nil delimiter piece)
  rw [splitOn_other distinct, hpieces]
  change glue ((delimiter :: piece).splitOn delimiter) _ = [] :: glue (piece.splitOn delimiter) _
  rw [splitOn_self, hfields]
  rfl

theorem fieldsOf_other {inside : Bool} (other : c ≠ quote)
    (whole : c = delimiter → inside = true) :
    fieldsOf delimiter inside ((c :: cs).splitOn quote) =
      lead [c] (fieldsOf delimiter inside (cs.splitOn quote)) := by
  obtain ⟨piece, rest, hpieces⟩ := List.exists_cons_of_ne_nil (List.splitOn_ne_nil quote cs)
  rw [splitOn_other other, hpieces]
  cases inside with
  | true =>
    have whole : [piece] ≠ [] := by simp
    exact glue_lead whole
  | false =>
    have hsplit : (c :: piece).splitOn delimiter = lead [c] (piece.splitOn delimiter) :=
      splitOn_other fun hc => Bool.false_ne_true (whole hc)
    change glue ((c :: piece).splitOn delimiter) _ = lead [c] (glue (piece.splitOn delimiter) _)
    rw [hsplit]
    exact glue_lead (List.splitOn_ne_nil delimiter piece)

/-- The empty field behind a delimiter at the very end. -/
def lastField (delimiter : Char) (cs : List Char) : List (List Char) :=
  if cs.getLast? = some delimiter then [[]] else []

theorem lastField_cons (h : cs = [] → c ≠ delimiter) :
    lastField delimiter (c :: cs) = lastField delimiter cs := by
  unfold lastField
  cases cs with
  | nil => simp [h rfl]
  | cons d rest => rw [List.getLast?_cons_cons]

/-! ### The scan -/

def Region.depth : Region → ℕ
  | outside => 0
  | inside _ => 1

def Region.isInside : Region → Bool
  | outside => false
  | inside _ => true

/-- What the scan of a text comes to: its fields are found, or a region stays open. -/
inductive Divides (delimiter quote : Char) (region : Region) (cs : List Char) :
    Except ℕ (List (List Char)) → Prop
  | closed {tokens : List (List Char)} (even : (cs.count quote + region.depth) % 2 = 0)
    (nonempty : tokens ≠ [])
    (found : fieldsOf delimiter region.isInside (cs.splitOn quote) =
      tokens ++ lastField delimiter cs) : Divides delimiter quote region cs (.ok tokens)
  | unclosed {opened : ℕ} (odd : (cs.count quote + region.depth) % 2 = 1) :
    Divides delimiter quote region cs (.error opened)

namespace Divides
variable {region : Region} {result : Except ℕ (List (List Char))}

theorem crossing {other : Region} (distinct : delimiter ≠ quote)
    (crossed : other.isInside = !region.isInside) (h : Divides delimiter quote other cs result) :
    Divides delimiter quote region (quote :: cs) (result.map (lead [])) := by
  have hdepth : region.depth + other.depth = 1 := by
    cases region <;> cases other <;> simp_all [Region.depth, Region.isInside]
  cases h with
  | unclosed odd =>
    refine .unclosed ?_
    rw [List.count_cons_self]
    omega
  | closed even nonempty found =>
    refine .closed ?_ (lead_ne_nil _ _) ?_
    · rw [List.count_cons_self]
      omega
    · rw [fieldsOf_quote, ← crossed, found, lastField_cons fun _ => distinct.symm,
        lead_nil nonempty]

theorem cons (other : c ≠ quote) (whole : c = delimiter → region.isInside = true)
    (h : Divides delimiter quote region cs result) :
    Divides delimiter quote region (c :: cs) (result.map (lead [c])) := by
  have hcount : (c :: cs).count quote = cs.count quote := List.count_cons_of_ne other
  cases h with
  | unclosed odd => exact .unclosed (by rwa [hcount])
  | closed even nonempty found =>
    refine .closed (by rwa [hcount]) (lead_ne_nil _ _) ?_
    have hlast : lastField delimiter (c :: cs) = lastField delimiter cs := by
      refine lastField_cons ?_
      rintro rfl hc
      cases region with
      | outside => cases whole hc
      | inside opened => simp [Region.depth] at even
    rw [fieldsOf_other other whole, found, hlast, lead_append nonempty]

theorem delimiting (distinct : delimiter ≠ quote) (more : cs ≠ [])
    (h : Divides delimiter quote .outside cs result) :
    Divides delimiter quote .outside (delimiter :: cs) (result.map ([] :: ·)) := by
  have hcount : (delimiter :: cs).count quote = cs.count quote := List.count_cons_of_ne distinct
  cases h with
  | unclosed odd => exact .unclosed (by rwa [hcount])
  | closed even nonempty found =>
    refine .closed (by rwa [hcount]) (List.cons_ne_nil _ _) ?_
    rw [Region.isInside, fieldsOf_delimiter distinct, lastField_cons fun hnil => absurd hnil more]
    exact congrArg ([] :: ·) found

theorem last (distinct : delimiter ≠ quote) :
    Divides delimiter quote .outside [delimiter] (.ok [[]]) := by
  refine .closed ?_ (List.cons_ne_nil _ _) ?_
  · rw [List.count_cons_of_ne distinct]
    rfl
  · rw [Region.isInside, fieldsOf_delimiter distinct]
    simp [fieldsOf, glue, lead, lastField]

end Divides

theorem divides_scan (distinct : delimiter ≠ quote) (count : ℕ) (region : Region)
    (cs : List Char) :
    Divides delimiter quote region cs
      (scan (.ofChars delimiter quote quote) {} 0 count region cs) := by
  induction cs generalizing count region with
  | nil =>
    cases region with
    | outside => exact .closed rfl (List.cons_ne_nil _ _) rfl
    | inside opened => exact .unclosed rfl
  | cons c cs ih =>
    by_cases hquote : c = quote
    · subst hquote
      cases region with
      | outside =>
        rw [scan_opening]
        exact (ih count (.inside count)).crossing distinct rfl
      | inside opened =>
        rw [scan_closing]
        exact (ih count .outside).crossing distinct rfl
    · cases region with
      | inside opened =>
        rw [scan_inside hquote]
        exact (ih count (.inside opened)).cons hquote fun _ => rfl
      | outside =>
        by_cases hdelimiter : c = delimiter
        · subst hdelimiter
          by_cases hmore : cs = []
          · subst hmore
            rw [scan_last distinct]
            exact .last distinct
          · rw [scan_delimiter distinct hmore]
            exact (ih (count + 1) .outside).delimiting distinct hmore
        · rw [scan_other hquote hdelimiter]
          exact (ih count .outside).cons hquote fun hc => absurd hc hdelimiter

theorem split_cases (distinct : delimiter ≠ quote) (line : String) :
    (∃ tokens, split line (.ofChars delimiter quote quote) {} = .ok tokens ∧
      (Text.trim line.toList).count quote % 2 = 0 ∧ tokens ≠ [] ∧
        fields delimiter quote (Text.trim line.toList) =
          tokens.map String.toList ++ lastField delimiter (Text.trim line.toList)) ∨
    ∃ u, split line (.ofChars delimiter quote quote) {} = .error u ∧
      (Text.trim line.toList).count quote % 2 = 1 := by
  have h := divides_scan distinct 1 .outside (Text.trim line.toList)
  unfold split splitChars
  cases hs : scan (.ofChars delimiter quote quote) {} 0 1 .outside (Text.trim line.toList) with
  | error opened =>
    rw [hs] at h
    cases h with
    | unclosed odd => exact Or.inr ⟨_, rfl, odd⟩
  | ok tokens =>
    rw [hs] at h
    cases h with
    | closed even nonempty found =>
      have htokens : (tokens.map String.ofList).map String.toList = tokens := by simp
      refine Or.inl ⟨_, rfl, even, by simpa using nonempty, ?_⟩
      rw [htokens]
      exact found

/-- A line in which one character divides tokens and another one encloses regions is refused exactly
if it has an odd number of these. Otherwise its tokens, at least one, are its fields, but for the
empty one behind a delimiter at the very end. Where a blank divides tokens, as it does by default,
no field is left out. -/
theorem split_eq_fields (distinct : delimiter ≠ quote) (line : String) :
    ((∃ u, split line (.ofChars delimiter quote quote) {} = .error u ∧ u.fault.kind = .format) ↔
      (Text.trim line.toList).count quote % 2 = 1) ∧
    ((Text.trim line.toList).count quote % 2 = 0 → ∃ tokens,
      split line (.ofChars delimiter quote quote) {} = .ok tokens ∧ tokens ≠ [] ∧
        fields delimiter quote (Text.trim line.toList) = tokens.map String.toList ++
          if (Text.trim line.toList).getLast? = some delimiter then [[]] else []) ∧
    (Text.isBlank delimiter = true → ∀ tokens,
      split line (.ofChars delimiter quote quote) {} = .ok tokens →
        tokens.map String.toList = fields delimiter quote (Text.trim line.toList)) := by
  refine ⟨?_, ?_, ?_⟩
  · constructor
    · rintro ⟨u, hu, -⟩
      rcases split_cases distinct line with ⟨tokens, hok, -⟩ | ⟨_, -, odd⟩
      · rw [hok] at hu
        cases hu
      · exact odd
    · intro odd
      rcases split_cases distinct line with ⟨_, -, even, -⟩ | ⟨u, hu, -⟩
      · omega
      · exact ⟨u, hu, rfl⟩
  · intro even
    rcases split_cases distinct line with ⟨tokens, hok, -, nonempty, found⟩ | ⟨_, -, odd⟩
    · exact ⟨tokens, hok, nonempty, found⟩
    · omega
  · intro blank tokens hok
    have hnone : lastField delimiter (Text.trim line.toList) = [] := by
      refine if_neg ?_
      intro hlast
      have hblank := Text.isBlank_getLast_trim hlast
      rw [blank] at hblank
      cases hblank
    rcases split_cases distinct line with ⟨others, hothers, -, -, found⟩ | ⟨u, hu, -⟩
    · obtain rfl : others = tokens := Except.ok.inj (hothers.symm.trans hok)
      rw [found, hnone, List.append_nil]
    · cases hu.symm.trans hok

/-- Quotes within a word and around a delimiter, delimiters that follow one another, and one at the
very end, which is no blank; then blanks around and between words, with the marks that are the
default. -/
theorem split_eq_fields_comma :
    ',' ≠ '\'' ∧ (∃ tokens, split " a'b,'c,,d,' '," (.ofChars ',' '\'' '\'') {} = .ok tokens ∧
      tokens = ["ab,c", "", "d", " "] ∧
      fields ',' '\'' "a'b,'c,,d,' ',".toList = tokens.map String.toList ++ [[]]) ∧
    ∃ tokens, split " say  \"a b\" " {} {} = .ok tokens ∧ tokens = ["say", "", "a b"] ∧
      tokens.map String.toList = fields ' ' '"' "say  \"a b\"".toList := by
  have distinct : ',' ≠ '\'' := by decide
  refine ⟨distinct, ?_, ?_⟩
  · obtain ⟨tokens, hok, -, found⟩ := (split_eq_fields distinct " a'b,'c,,d,' ',").2.1 (by decide)
    have htokens : split " a'b,'c,,d,' '," (.ofChars ',' '\'' '\'') {} =
        .ok ["ab,c", "", "d", " "] := rfl
    exact ⟨tokens, hok, Except.ok.inj (hok.symm.trans htokens), found⟩
  · have hquote : ' ' ≠ '"' := by decide
    have htokens : split " say  \"a b\" " {} {} = .ok ["say", "", "a b"] := rfl
    have found := (split_eq_fields hquote " say  \"a b\" ").2.2 (by decide) _ htokens
    exact ⟨_, htokens, rfl, found⟩

end
end Token
end LineShell
