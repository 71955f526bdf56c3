import LineShell.Proofs.Tokens.Scanning

/-! # The pieces of a line

A line is read in pieces: a marker where it counts as one, or a single character. Inside of a region
only the closing marker counts, and outside the opening marker goes before the delimiter. The pieces
do not depend on what is kept. The tokens are made of them, and what is kept is added to the tokens
without moving a boundary between two of them.
-/
namespace LineShell.Token
variable {marks : Marks} {keep : Keep}

inductive Piece where
  | opening
  | closing
  | delimiter
  | plain (c : Char)
deriving DecidableEq

/-- A text is read in pieces after `count` tokens were begun, from a region to the region that the
end of the text lies in. -/
inductive Reads (marks : Marks) : (count : Nat) → Region → List Char → List Piece → Region → Prop
  | done {count : Nat} {region : Region} : Reads marks count region [] [] region
  | closing {count opened : Nat} {rest : List Char} {pieces : List Piece} {final : Region}
    (more : Reads marks count .outside rest pieces final) :
    Reads marks count (.inside opened) (marks.closing.chars ++ rest) (.closing :: pieces) final
  | enclosed {count opened : Nat} {c : Char} {rest : List Char} {pieces : List Piece}
    {final : Region} (closes : marks.closing.opens (c :: rest) = false)
    (more : Reads marks count (.inside opened) rest pieces final) :
    Reads marks count (.inside opened) (c :: rest) (.plain c :: pieces) final
  | opening {count : Nat} {rest : List Char} {pieces : List Piece} {final : Region}
    (more : Reads marks count (.inside count) rest pieces final) :
    Reads marks count .outside (marks.opening.chars ++ rest) (.opening :: pieces) final
  | delimiter {count : Nat} {rest : List Char} {pieces : List Piece} {final : Region}
    (opens : marks.opening.opens (marks.delimiter.chars ++ rest) = false)
    (more : Reads marks (count + 1) .outside rest pieces final) :
    Reads marks count .outside (marks.delimiter.chars ++ rest) (.delimiter :: pieces) final
  | plain {count : Nat} {c : Char} {rest : List Char} {pieces : List Piece} {final : Region}
    (opens : marks.opening.opens (c :: rest) = false)
    (divides : marks.delimiter.opens (c :: rest) = false)
    (more : Reads marks count .outside rest pieces final) :
    Reads marks count .outside (c :: rest) (.plain c :: pieces) final

/-- The tokens that are made of pieces. A delimiter at the very end begins no token. -/
def tokensOf (marks : Marks) (keep : Keep) : List Piece → List (List Char)
  | [] => [[]]
  | .plain c :: rest => lead [c] (tokensOf marks keep rest)
  | .opening :: rest => lead (kept keep.quotes marks.opening) (tokensOf marks keep rest)
  | .closing :: rest => lead (kept keep.quotes marks.closing) (tokensOf marks keep rest)
  | [.delimiter] => [kept keep.delimiters marks.delimiter]
  | .delimiter :: rest => kept keep.delimiters marks.delimiter :: tokensOf marks keep rest

def Region.outcome (tokens : List (List Char)) : Region → Except Nat (List (List Char))
  | .outside => .ok tokens
  | .inside opened => .error opened

namespace Region
variable {tokens : List (List Char)} {final : Region}

theorem map_outcome (f : List (List Char) → List (List Char)) :
    (final.outcome tokens).map f = final.outcome (f tokens) := by
  cases final <;> rfl

end Region

section
variable {count opened : Nat} {region final : Region} {cs rest : List Char} {pieces : List Piece}
  {tokens : List (List Char)}

/-! ### Reading and scanning -/

/-- The scan of a text makes the tokens of the pieces that the text is read in. -/
theorem scan_of_reads (h : Reads marks count region cs pieces final) :
    scan marks keep 0 count region cs = final.outcome (tokensOf marks keep pieces) := by
  induction h with
  | @done count region => cases region <;> rfl
  | closing _ ih => rw [scan_closing_marker, ih, Region.map_outcome]; rfl
  | enclosed closes _ ih => rw [scan, if_neg (by simp [closes]), ih, Region.map_outcome]; rfl
  | opening _ ih => rw [scan_opening_marker, ih, Region.map_outcome]; rfl
  | delimiter opens more ih =>
    rw [scan_delimiter_marker opens, ih, Region.map_outcome]
    cases more <;> simp [tokensOf, Marker.chars, Region.outcome]
  | plain opens divides _ ih =>
    rw [scan, if_neg (by simp [opens]), if_neg (by simp [divides]), ih, Region.map_outcome]
    rfl

theorem exists_reads (marks : Marks) (count : Nat) (region : Region) (cs : List Char) :
    ∃ pieces final, Reads marks count region cs pieces final := by
  -- by the length of the text, as a marker takes more than one character
  induction hn : cs.length using Nat.strongRecOn generalizing count region cs with
  | ind n ih =>
    subst hn
    cases cs with
    | nil => exact ⟨[], region, .done⟩
    | cons c cs =>
      have hread : ∀ {m : Marker}, m.opens (c :: cs) = true → ∀ count region,
          ∃ rest pieces final, c :: cs = m.chars ++ rest ∧
            Reads marks count region rest pieces final := by
        intro m hm count region
        have hdrop := Marker.chars_append_drop hm
        have hshort : (cs.drop m.more.length).length < (c :: cs).length := by
          rw [List.length_drop, List.length_cons]
          omega
        obtain ⟨pieces, final, more⟩ := ih _ hshort count region _ rfl
        exact ⟨_, pieces, final, hdrop.symm, more⟩
      have hplain : ∀ count region, ∃ pieces final, Reads marks count region cs pieces final :=
        fun count region => ih cs.length (by simp) count region cs rfl
      cases region with
      | inside opened =>
        cases closes : marks.closing.opens (c :: cs) with
        | true =>
          obtain ⟨rest, pieces, final, hcs, more⟩ := hread closes count .outside
          rw [hcs]
          exact ⟨_, final, .closing more⟩
        | false =>
          obtain ⟨pieces, final, more⟩ := hplain count (.inside opened)
          exact ⟨_, final, .enclosed closes more⟩
      | outside =>
        cases opens : marks.opening.opens (c :: cs) with
        | true =>
          obtain ⟨rest, pieces, final, hcs, more⟩ := hread opens count (.inside count)
          rw [hcs]
          exact ⟨_, final, .opening more⟩
        | false =>
          cases divides : marks.delimiter.opens (c :: cs) with
          | true =>
            obtain ⟨rest, pieces, final, hcs, more⟩ := hread divides (count + 1) .outside
            rw [hcs] at opens ⊢
            exact ⟨_, final, .delimiter opens more⟩
          | false =>
            obtain ⟨pieces, final, more⟩ := hplain count .outside
            exact ⟨_, final, .plain opens divides more⟩

/-! ### What is kept -/

theorem length_lead (nonempty : tokens ≠ []) : (lead cs tokens).length = tokens.length := by
  obtain ⟨token, others, rfl⟩ := List.exists_cons_of_ne_nil nonempty
  rfl

theorem tokensOf_ne_nil (pieces : List Piece) : tokensOf marks keep pieces ≠ [] := by
  fun_cases tokensOf marks keep pieces <;> simp [lead_ne_nil]

theorem count_dropLast_cons {piece : Piece} (other : piece ≠ .delimiter) :
    (piece :: pieces).dropLast.count .delimiter = pieces.dropLast.count .delimiter := by
  cases pieces with
  | nil => rfl
  | cons next pieces => rw [List.dropLast_cons_cons, List.count_cons_of_ne other]

theorem getLast?_cons_eq_delimiter {piece : Piece} (other : piece ≠ .delimiter) :
    (piece :: pieces).getLast? = some .delimiter ↔ pieces.getLast? = some .delimiter := by
  cases pieces with
  | nil => simpa using other
  | cons next pieces => rw [List.getLast?_cons_cons]

/-- Each delimiter begins a token, but one at the very end. -/
theorem length_tokensOf (pieces : List Piece) :
    (tokensOf marks keep pieces).length = pieces.dropLast.count .delimiter + 1 := by
  fun_induction tokensOf marks keep pieces with
  | case1 => rfl
  | case2 c rest ih => rw [length_lead (tokensOf_ne_nil rest), count_dropLast_cons (by simp), ih]
  | case3 rest ih => rw [length_lead (tokensOf_ne_nil rest), count_dropLast_cons (by simp), ih]
  | case4 rest ih => rw [length_lead (tokensOf_ne_nil rest), count_dropLast_cons (by simp), ih]
  | case5 => rfl
  | case6 rest more ih =>
    obtain ⟨next, pieces, rfl⟩ := List.exists_cons_of_ne_nil more
    rw [List.length_cons, ih, List.dropLast_cons_cons, List.count_cons_self]

/-- All tokens but the last one are longer by one text, and the last one is longer by another. -/
def Extends (each last : List Char) (short long : List (List Char)) : Prop :=
  ∃ firsts token, short = firsts ++ [token] ∧ long = firsts.map (· ++ each) ++ [token ++ last]

theorem Extends.lead {each last : List Char} {short long : List (List Char)}
    (h : Extends each last short long) : Extends each last (lead cs short) (lead cs long) := by
  obtain ⟨firsts, token, rfl, rfl⟩ := h
  cases firsts with
  | nil => exact ⟨[], cs ++ token, rfl, by simp [Token.lead]⟩
  | cons first firsts => exact ⟨(cs ++ first) :: firsts, token, rfl, by simp [Token.lead]⟩

theorem Extends.cons {each last : List Char} {short long : List (List Char)}
    (h : Extends each last short long) : Extends each last ([] :: short) (each :: long) := by
  obtain ⟨firsts, token, rfl, rfl⟩ := h
  exact ⟨[] :: firsts, token, rfl, rfl⟩

theorem extends_tokensOf (marks : Marks) (quotes : Bool) (pieces : List Piece) :
    Extends marks.delimiter.chars
      (if pieces.getLast? = some .delimiter then marks.delimiter.chars else [])
      (tokensOf marks ⟨quotes, false⟩ pieces) (tokensOf marks ⟨quotes, true⟩ pieces) := by
  fun_induction tokensOf marks ⟨quotes, false⟩ pieces with
  | case1 => exact ⟨[], [], rfl, rfl⟩
  | case2 c rest ih =>
    simp only [getLast?_cons_eq_delimiter (by simp : Piece.plain c ≠ .delimiter)]
    exact ih.lead
  | case3 rest ih =>
    simp only [getLast?_cons_eq_delimiter (by simp : Piece.opening ≠ .delimiter)]
    exact ih.lead
  | case4 rest ih =>
    simp only [getLast?_cons_eq_delimiter (by simp : Piece.closing ≠ .delimiter)]
    exact ih.lead
  | case5 => exact ⟨[], [], rfl, rfl⟩
  | case6 rest more ih =>
    obtain ⟨next, pieces, rfl⟩ := List.exists_cons_of_ne_nil more
    rw [List.getLast?_cons_cons]
    exact ih.cons

/-! ### The tokens of a line -/

theorem split_of_reads {line : String}
    (h : Reads marks 1 .outside (Text.trim line.toList) pieces .outside) (keep : Keep) :
    split line marks keep = .ok ((tokensOf marks keep pieces).map String.ofList) := by
  unfold split splitChars
  rw [scan_of_reads h]
  rfl

/-- Whatever is kept, a line is read in the same pieces, and if they leave a region open it is
refused with the same fault. Otherwise there are as many tokens as the pieces make. Where delimiters
are kept, each token but the last one has the delimiter at its end, and so has the last one exactly
if the delimiter is the last piece; nothing else of a token changes. -/
theorem split_keeping (line : String) (marks : Marks) :
    (∃ pieces final, Reads marks 1 .outside (Text.trim line.toList) pieces final) ∧
    (∀ pieces opened, Reads marks 1 .outside (Text.trim line.toList) pieces (.inside opened) →
      ∃ u, u.fault.kind = .format ∧ u.fault.option? "index" = some (.int opened) ∧
        ∀ keep, split line marks keep = .error u) ∧
    ∀ pieces, Reads marks 1 .outside (Text.trim line.toList) pieces .outside →
      (∀ keep, ∃ tokens, split line marks keep = .ok tokens ∧
        tokens.length = pieces.dropLast.count .delimiter + 1) ∧
      ∀ quotes, ∃ firsts last,
        split line marks ⟨quotes, false⟩ = .ok (firsts ++ [last]) ∧
        split line marks ⟨quotes, true⟩ = .ok (firsts.map (· ++ marks.delimiter.text) ++
          [if pieces.getLast? = some .delimiter then last ++ marks.delimiter.text else last]) := by
  refine ⟨exists_reads marks 1 .outside _, ?_, ?_⟩
  · intro pieces opened h
    refine ⟨⟨line, opened, marks.closing.text⟩, rfl, rfl, ?_⟩
    intro keep
    unfold split splitChars
    rw [scan_of_reads h]
    rfl
  · intro pieces h
    refine ⟨?_, ?_⟩
    · intro keep
      exact ⟨_, split_of_reads h keep, by rw [List.length_map, length_tokensOf]⟩
    · intro quotes
      obtain ⟨firsts, token, hshort, hlong⟩ := extends_tokensOf marks quotes pieces
      refine ⟨firsts.map String.ofList, String.ofList token, ?_, ?_⟩
      · rw [split_of_reads h, hshort, List.map_append]
        rfl
      · rw [split_of_reads h, hlong]
        split <;> simp [Marker.text, Function.comp_def]

/-- The opening marker is two delimiters, and the closing marker is one. A delimiter ends the first
line, and the second one leaves a region open in its second token. -/
theorem split_keeping_overlapping :
    (∀ keep, ∃ tokens, split " a<b<<c<d< " ⟨⟨'<', []⟩, ⟨'<', ['<']⟩, ⟨'<', []⟩⟩ keep = .ok tokens ∧
      tokens.length = 2) ∧
    (∃ firsts last,
      split " a<b<<c<d< " ⟨⟨'<', []⟩, ⟨'<', ['<']⟩, ⟨'<', []⟩⟩ ⟨false, false⟩ =
        .ok (firsts ++ [last]) ∧
      split " a<b<<c<d< " ⟨⟨'<', []⟩, ⟨'<', ['<']⟩, ⟨'<', []⟩⟩ ⟨false, true⟩ =
        .ok (firsts.map (· ++ "<") ++ [last ++ "<"])) ∧
    ∃ u, u.fault.option? "index" = some (.int 2) ∧
      ∀ keep, split "a< <<b" ⟨⟨'<', []⟩, ⟨'<', ['<']⟩, ⟨'<', []⟩⟩ keep = .error u := by
  let marks : Marks := ⟨⟨'<', []⟩, ⟨'<', ['<']⟩, ⟨'<', []⟩⟩
  have closed : Reads marks 1 .outside (Text.trim " a<b<<c<d< ".toList)
      [.plain 'a', .delimiter, .plain 'b', .opening, .plain 'c', .closing, .plain 'd', .delimiter]
      .outside :=
    .plain rfl rfl <| .delimiter rfl <| .plain rfl rfl <| .opening <| .enclosed rfl <|
      .closing <| .plain rfl rfl <| .delimiter rfl .done
  have unclosed : Reads marks 1 .outside (Text.trim "a< <<b".toList)
      [.plain 'a', .delimiter, .plain ' ', .opening, .plain 'b'] (.inside 2) :=
    .plain rfl rfl <| .delimiter rfl <| .plain rfl rfl <| .opening <| .enclosed rfl .done
  obtain ⟨hcount, hextends⟩ := (split_keeping " a<b<<c<d< " marks).2.2 _ closed
  obtain ⟨u, -, hindex, hrefused⟩ := (split_keeping "a< <<b" marks).2.1 _ _ unclosed
  exact ⟨hcount, hextends false, u, hindex, hrefused⟩

end
end LineShell.Token
