import LineShell.Proofs.Text.Trimming
import LineShell.Proofs.Tokens.Scanning

/-! # Enclosed items

Whatever the items of a list are, a line can be written that has them as its tokens: each item
stands between an opening and a closing character, and a delimiter between two items. An item can
hold any character but the closing one. It may be empty or blank, and delimiters and opening
characters in it are characters like others. The closing character may be the opening one, or the
delimiter.
-/
namespace LineShell.Token
variable {delimiter opening closing : Char} {count : ℕ} {cs rest t : List Char}
  {ts : List (List Char)}

/-- What a region encloses begins the token that comes next. -/
theorem scan_enclosed (free : closing ∉ cs)
    (h : scan (.ofChars delimiter opening closing) {} 0 count .outside rest = .ok (t :: ts)) :
    scan (.ofChars delimiter opening closing) {} 0 count .outside
      (opening :: (cs ++ closing :: rest)) = .ok ((cs ++ t) :: ts) := by
  have hinside : scan (.ofChars delimiter opening closing) {} 0 count (.inside count)
      (cs ++ closing :: rest) = .ok ((cs ++ t) :: ts) := by
    induction cs with
    | nil =>
      rw [List.nil_append, scan_closing, h]
      rfl
    | cons c cs ih =>
      simp only [List.mem_cons, not_or] at free
      rw [List.cons_append, scan_inside (Ne.symm free.1), ih free.2]
      rfl
  rw [scan_opening, hinside]
  rfl

def enclosed (opening closing : Char) (item : String) : String :=
  String.singleton opening ++ item ++ String.singleton closing

/-- A line of enclosed items, with a delimiter between two of them. -/
def enclosedLine (delimiter opening closing : Char) (items : List String) : String :=
  (String.singleton delimiter).intercalate (items.map (enclosed opening closing))

theorem toList_enclosed (item : String) :
    (enclosed opening closing item).toList = opening :: (item.toList ++ [closing]) := by
  simp [enclosed]

theorem toList_enclosedLine_singleton (item : String) :
    (enclosedLine delimiter opening closing [item]).toList =
      opening :: (item.toList ++ [closing]) := by
  simp [enclosedLine, toList_enclosed]

theorem toList_enclosedLine_cons (item next : String) (items : List String) :
    (enclosedLine delimiter opening closing (item :: next :: items)).toList =
      opening :: (item.toList ++ closing :: delimiter ::
        (enclosedLine delimiter opening closing (next :: items)).toList) := by
  simp [enclosedLine, String.toList_intercalate, toList_enclosed]

variable {items : List String}

theorem exists_enclosedLine (delimiter opening closing : Char) (nonempty : items ≠ []) :
    ∃ middle, (enclosedLine delimiter opening closing items).toList =
      opening :: (middle ++ [closing]) := by
  induction items with
  | nil => exact absurd rfl nonempty
  | cons item items ih =>
    cases items with
    | nil => exact ⟨_, toList_enclosedLine_singleton item⟩
    | cons next items =>
      obtain ⟨middle, hmiddle⟩ := ih (List.cons_ne_nil next items)
      refine ⟨item.toList ++ closing :: delimiter :: opening :: middle, ?_⟩
      rw [toList_enclosedLine_cons, hmiddle]
      simp

theorem scan_enclosedLine (nonempty : items ≠ []) (distinct : delimiter ≠ opening)
    (free : ∀ item ∈ items, closing ∉ item.toList) :
    scan (.ofChars delimiter opening closing) {} 0 count .outside
      (enclosedLine delimiter opening closing items).toList = .ok (items.map String.toList) := by
  induction items generalizing count with
  | nil => exact absurd rfl nonempty
  | cons item items ih =>
    have hitem : closing ∉ item.toList := free item List.mem_cons_self
    cases items with
    | nil =>
      rw [toList_enclosedLine_singleton, scan_enclosed hitem rfl, List.append_nil]
      rfl
    | cons next items =>
      obtain ⟨middle, hmiddle⟩ :=
        exists_enclosedLine delimiter opening closing (List.cons_ne_nil next items)
      have hmore : scan (.ofChars delimiter opening closing) {} 0 (count + 1) .outside
          (enclosedLine delimiter opening closing (next :: items)).toList =
            .ok ((next :: items).map String.toList) :=
        ih (List.cons_ne_nil next items) fun i hi => free i (List.mem_cons_of_mem item hi)
      have hrest : scan (.ofChars delimiter opening closing) {} 0 count .outside
          (delimiter :: (enclosedLine delimiter opening closing (next :: items)).toList) =
            .ok ([] :: (next :: items).map String.toList) := by
        rw [scan_delimiter distinct (by simp [hmiddle]), hmore]
        rfl
      rw [toList_enclosedLine_cons, scan_enclosed hitem hrest, List.append_nil]
      rfl

/-- The tokens of a line of enclosed items are the items. -/
theorem split_enclosedLine (nonempty : items ≠ []) (distinct : delimiter ≠ opening)
    (opens : Text.isBlank opening = false) (closes : Text.isBlank closing = false)
    (free : ∀ item ∈ items, closing ∉ item.toList) :
    split (enclosedLine delimiter opening closing items) (.ofChars delimiter opening closing) {} =
      .ok items := by
  obtain ⟨middle, hline⟩ := exists_enclosedLine delimiter opening closing nonempty
  have htrim : Text.trim (enclosedLine delimiter opening closing items).toList =
      (enclosedLine delimiter opening closing items).toList := by
    rw [hline]
    refine Text.trim_eq_self ?_ ?_
    · intro c hc
      obtain rfl : opening = c := by simpa using hc
      exact opens
    · intro c hc
      rw [← List.cons_append, List.getLast?_concat] at hc
      obtain rfl : closing = c := Option.some.inj hc
      exact closes
  unfold split splitChars
  rw [htrim, scan_enclosedLine nonempty distinct free]
  simp

/-- Marks of three kinds: all of them different, the closing one as the delimiter, and the closing
one as the opening one. The items hold marks and blanks, and some are empty. -/
theorem split_enclosedLine_kinds :
    split "[a b] [] [ [x]" (.ofChars ' ' '[' ']') {} = .ok ["a b", "", " [x"] ∧
    split "[a[]][]][ ]" (.ofChars ']' '[' ']') {} = .ok ["a[", "", " "] ∧
    split "'',' a,b ',','" (.ofChars ',' '\'' '\'') {} = .ok ["", " a,b ", ","] := by
  have distinct : "[a b] [] [ [x]" = enclosedLine ' ' '[' ']' ["a b", "", " [x"] := rfl
  have dividing : "[a[]][]][ ]" = enclosedLine ']' '[' ']' ["a[", "", " "] := rfl
  have toggling : "'',' a,b ',','" = enclosedLine ',' '\'' '\'' ["", " a,b ", ","] := rfl
  rw [distinct, dividing, toggling]
  refine ⟨?_, ?_, ?_⟩
  · exact split_enclosedLine (by decide) (by decide) (by decide) (by decide) (by decide)
  · exact split_enclosedLine (by decide) (by decide) (by decide) (by decide) (by decide)
  · exact split_enclosedLine (by decide) (by decide) (by decide) (by decide) (by decide)

end LineShell.Token
