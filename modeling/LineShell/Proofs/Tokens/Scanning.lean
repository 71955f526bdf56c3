import LineShell.Token

/-! # Scanning a line

The scan reads a line once, from left to right, and never without leaving a token. Whatever it does
not pass over it keeps in order. So if no mark is passed over the tokens are a division of the line,
also where one marker is the beginning of another or the markers overlap.
-/
namespace LineShell.Token
variable {marks : Marks} {keep : Keep}

theorem lead_ne_nil (cs : List Char) (tokens : List (List Char)) : lead cs tokens ≠ [] := by
  cases tokens <;> simp [lead]

section
variable {count opened : Nat} {region : Region} {cs rest : List Char}

theorem Marker.opens_append (m : Marker) (rest : List Char) : m.opens (m.chars ++ rest) = true :=
  List.isPrefixOf_iff_prefix.mpr (List.prefix_append m.chars rest)

/-- What is to be passed over can be left out. -/
theorem scan_eq_drop (skip : Nat) :
    scan marks keep skip count region cs = scan marks keep 0 count region (cs.drop skip) := by
  induction skip generalizing cs with
  | zero => rw [List.drop_zero]
  | succ skip ih =>
    cases cs with
    | nil => cases region <;> simp [scan]
    | cons c cs => rw [scan, ih, List.drop_succ_cons]

theorem scan_closing_marker :
    scan marks keep 0 count (.inside opened) (marks.closing.chars ++ rest) =
      (scan marks keep 0 count .outside rest).map (lead (kept keep.quotes marks.closing)) := by
  have closes := marks.closing.opens_append rest
  rw [Marker.chars, List.cons_append] at closes ⊢
  rw [scan, if_pos closes, scan_eq_drop, List.drop_left]

theorem scan_opening_marker :
    scan marks keep 0 count .outside (marks.opening.chars ++ rest) =
      (scan marks keep 0 count (.inside count) rest).map
        (lead (kept keep.quotes marks.opening)) := by
  have opens := marks.opening.opens_append rest
  rw [Marker.chars, List.cons_append] at opens ⊢
  rw [scan, if_pos opens, scan_eq_drop, List.drop_left]

theorem scan_delimiter_marker
    (opens : marks.opening.opens (marks.delimiter.chars ++ rest) = false) :
    scan marks keep 0 count .outside (marks.delimiter.chars ++ rest) =
      if rest = [] then .ok [kept keep.delimiters marks.delimiter]
      else (scan marks keep 0 (count + 1) .outside rest).map
        (kept keep.delimiters marks.delimiter :: ·) := by
  have divides := marks.delimiter.opens_append rest
  rw [Marker.chars, List.cons_append] at opens divides ⊢
  rw [scan, if_neg (by simp [opens]), if_pos divides]
  simp only [List.drop_left]
  rw [scan_eq_drop, List.drop_left]

end

/-! ### Marks of one character -/

abbrev Marks.ofChars (delimiter opening closing : Char) : Marks :=
  ⟨⟨delimiter, []⟩, ⟨opening, []⟩, ⟨closing, []⟩⟩

section
variable {delimiter opening closing c : Char} {count opened : Nat} {cs : List Char}

theorem opens_eq (m : Char) : Marker.opens ⟨m, []⟩ (c :: cs) = (m == c) := by
  unfold Marker.opens Marker.chars
  simp [List.isPrefixOf]

theorem scan_closing :
    scan (.ofChars delimiter opening closing) {} 0 count (.inside opened) (closing :: cs) =
      (scan (.ofChars delimiter opening closing) {} 0 count .outside cs).map (lead []) :=
  scan_closing_marker

theorem scan_inside (inside : c ≠ closing) :
    scan (.ofChars delimiter opening closing) {} 0 count (.inside opened) (c :: cs) =
      (scan (.ofChars delimiter opening closing) {} 0 count (.inside opened) cs).map
        (lead [c]) := by
  rw [scan]
  simp [opens_eq, inside.symm]

theorem scan_opening :
    scan (.ofChars delimiter opening closing) {} 0 count .outside (opening :: cs) =
      (scan (.ofChars delimiter opening closing) {} 0 count (.inside count) cs).map (lead []) :=
  scan_opening_marker

theorem scan_delimiter (distinct : delimiter ≠ opening) (more : cs ≠ []) :
    scan (.ofChars delimiter opening closing) {} 0 count .outside (delimiter :: cs) =
      (scan (.ofChars delimiter opening closing) {} 0 (count + 1) .outside cs).map ([] :: ·) := by
  have opens : Marker.opens ⟨opening, []⟩ (delimiter :: cs) = false := by
    simpa [opens_eq] using distinct.symm
  exact (scan_delimiter_marker opens).trans (if_neg more)

theorem scan_last (distinct : delimiter ≠ opening) :
    scan (.ofChars delimiter opening closing) {} 0 count .outside [delimiter] = .ok [[]] := by
  have opens : Marker.opens ⟨opening, []⟩ [delimiter] = false := by
    simpa [opens_eq] using distinct.symm
  exact (scan_delimiter_marker opens).trans (if_pos rfl)

theorem scan_other (opens : c ≠ opening) (divides : c ≠ delimiter) :
    scan (.ofChars delimiter opening closing) {} 0 count .outside (c :: cs) =
      (scan (.ofChars delimiter opening closing) {} 0 count .outside cs).map (lead [c]) := by
  rw [scan]
  simp [opens_eq, opens.symm, divides.symm]

end

/-! ### What is kept -/

theorem flatten_lead (cs : List Char) (tokens : List (List Char)) :
    (lead cs tokens).flatten = cs ++ tokens.flatten := by
  cases tokens <;> simp [lead]

theorem map_eq_ok {α β : Type} {f : α → β} {x : Except Nat α} {b : β} (h : x.map f = .ok b) :
    ∃ a, x = .ok a ∧ f a = b := by
  cases x with
  | error n => cases h
  | ok a =>
    cases h
    exact ⟨a, rfl, rfl⟩

theorem Marker.chars_append_drop {m : Marker} {c : Char} {rest : List Char}
    (h : m.opens (c :: rest) = true) : m.chars ++ rest.drop m.more.length = c :: rest := by
  obtain ⟨after, hafter⟩ := List.isPrefixOf_iff_prefix.mp h
  have hrest : rest = m.more ++ after := (List.cons.inj hafter).2.symm
  rw [← hafter, hrest, List.drop_left]

/-- What is left to scan is divided into tokens, if all marks are kept. -/
theorem flatten_scan {skip count : Nat} {region : Region} {cs : List Char}
    {tokens : List (List Char)} (h : scan marks ⟨true, true⟩ skip count region cs = .ok tokens) :
    tokens.flatten = cs.drop skip := by
  fun_induction scan marks ⟨true, true⟩ skip count region cs generalizing tokens with
  | case1 skip count =>
    cases h
    simp
  | case2 => cases h
  | case3 count region skip c rest ih => exact ih h
  | case4 count opened c rest closes ih =>
    obtain ⟨others, hothers, rfl⟩ := map_eq_ok h
    rw [flatten_lead, ih hothers]
    exact Marker.chars_append_drop closes
  | case5 count opened c rest _ ih =>
    obtain ⟨others, hothers, rfl⟩ := map_eq_ok h
    rw [flatten_lead, ih hothers]
    rfl
  | case6 count c rest opens ih =>
    obtain ⟨others, hothers, rfl⟩ := map_eq_ok h
    rw [flatten_lead, ih hothers]
    exact Marker.chars_append_drop opens
  | case7 count c rest _ divides =>
    rename_i last
    cases h
    have hchars := Marker.chars_append_drop divides
    rw [last] at hchars
    simpa [kept] using hchars
  | case8 count c rest _ divides =>
    rename_i ih
    obtain ⟨others, hothers, rfl⟩ := map_eq_ok h
    rw [List.flatten_cons, ih hothers]
    exact Marker.chars_append_drop divides
  | case9 count c rest _ _ ih =>
    obtain ⟨others, hothers, rfl⟩ := map_eq_ok h
    rw [flatten_lead, ih hothers]
    rfl

/-- Tokens in which all marks are kept are the trimmed line when they are put together: each of its
characters stands in one token, and in its place. -/
theorem flatMap_split {line : String} {tokens : List String}
    (h : split line marks ⟨true, true⟩ = .ok tokens) :
    tokens.flatMap String.toList = (Text.trimmed line).toList := by
  unfold split splitChars at h
  cases hs : scan marks ⟨true, true⟩ 0 1 .outside (Text.trim line.toList) with
  | error opened =>
    rw [hs] at h
    cases h
  | ok parts =>
    rw [hs] at h
    obtain rfl : parts.map String.ofList = tokens := Except.ok.inj h
    have hflatten := flatten_scan hs
    simpa [List.flatMap_def, List.map_map, Function.comp_def, Text.trimmed] using hflatten

/-- The closing marker is the delimiter, and the opening marker is two of them. -/
theorem flatMap_split_overlapping :
    split " a<b<<c<d< " ⟨⟨'<', []⟩, ⟨'<', ['<']⟩, ⟨'<', []⟩⟩ ⟨true, true⟩ = .ok ["a<", "b<<c<d<"] ∧
      ["a<", "b<<c<d<"].flatMap String.toList = (Text.trimmed " a<b<<c<d< ").toList := by
  have h : split " a<b<<c<d< " ⟨⟨'<', []⟩, ⟨'<', ['<']⟩, ⟨'<', []⟩⟩ ⟨true, true⟩ =
      .ok ["a<", "b<<c<d<"] := rfl
  exact ⟨h, flatMap_split h⟩

end LineShell.Token
