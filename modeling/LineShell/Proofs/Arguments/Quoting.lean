import LineShell.Command
import LineShell.Proofs.Tokens.Enclosing

/-! # Quoted items

A line is written as a name and items that stand in quotes, one blank before each. Whatever the
items are, as long as no quote is among them, the tokens of the line are the name and the items:
blanks at the ends of an item are not those of the line, and an empty item is a token too.
-/
namespace LineShell

namespace Token
variable {count : Nat} {cs rest t : List Char} {ts : List (List Char)}

def wrapped (item : String) : String := "\"" ++ item ++ "\""

/-- A line of a name and items in quotes, divided by single blanks. -/
def quotedLine (name : String) (items : List String) : String :=
  " ".intercalate (name :: items.map wrapped)

theorem scan_plain (plain : ∀ c ∈ cs, c ≠ '"' ∧ c ≠ ' ')
    (h : scan {} {} 0 count .outside rest = .ok (t :: ts)) :
    scan {} {} 0 count .outside (cs ++ rest) = .ok ((cs ++ t) :: ts) := by
  induction cs with
  | nil => exact h
  | cons c cs ih =>
    obtain ⟨hquote, hblank⟩ := plain c List.mem_cons_self
    have hcs := ih fun d hd => plain d (List.mem_cons_of_mem c hd)
    rw [List.cons_append, scan_other hquote hblank, hcs]
    rfl

def tailOf (items : List (List Char)) : List Char :=
  items.flatMap fun item => ' ' :: '"' :: (item ++ ['"'])

/-- Each quoted item is a token of its own. -/
theorem scan_tailOf {items : List (List Char)} (quotes : ∀ item ∈ items, '"' ∉ item) :
    scan {} {} 0 count .outside (tailOf items) = .ok ([] :: items) := by
  induction items generalizing count with
  | nil => rfl
  | cons item items ih =>
    have hrest : scan {} {} 0 (count + 1) .outside (tailOf items) = .ok ([] :: items) :=
      ih fun i hi => quotes i (List.mem_cons_of_mem item hi)
    have hitem := scan_enclosed (quotes item List.mem_cons_self) hrest
    have htail : tailOf (item :: items) = ' ' :: '"' :: (item ++ '"' :: tailOf items) := by
      simp [tailOf]
    rw [htail, scan_delimiter (by decide) (by simp), hitem, List.append_nil]
    rfl

theorem toList_quotedLine (name : String) (items : List String) :
    (quotedLine name items).toList = name.toList ++ tailOf (items.map String.toList) := by
  have hjoin : ∀ (l : List (List Char)) (a : List Char),
      [' '].intercalate (a :: l) = a ++ l.flatMap (' ' :: ·) := by
    intro l
    induction l with
    | nil =>
      intro a
      simp [List.intercalate]
    | cons b l ih =>
      intro a
      rw [List.intercalate_cons_cons, ih]
      simp
  have hwrapped : ∀ item : String, (wrapped item).toList = '"' :: (item.toList ++ ['"']) := by
    intro item
    simp [wrapped]
  unfold quotedLine
  rw [String.toList_intercalate, List.map_cons]
  change [' '].intercalate _ = _
  rw [hjoin]
  simp [tailOf, hwrapped, List.flatMap_map]

variable {name : String} {items : List String}

theorem plain_of_isSingleToken (single : Command.isSingleToken name = true) :
    ∀ c ∈ name.toList, c ≠ '"' ∧ Text.isBlank c = false := by
  unfold Command.isSingleToken at single
  obtain ⟨hblank, hquote⟩ := Bool.and_eq_true_iff.mp single
  intro c hc
  refine ⟨?_, ?_⟩
  · rintro rfl
    simp [hc] at hquote
  · by_contra hb
    have hany : name.toList.any Text.isBlank = true :=
      List.any_eq_true.mpr ⟨c, hc, by simpa using hb⟩
    simp [hany] at hblank

theorem noMarks_of_isSingleToken (single : Command.isSingleToken name = true) :
    ∀ c ∈ name.toList, c ≠ '"' ∧ c ≠ ' ' := by
  intro c hc
  obtain ⟨hquote, hblank⟩ := plain_of_isSingleToken single c hc
  refine ⟨hquote, ?_⟩
  rintro rfl
  rw [Text.isBlank_space] at hblank
  cases hblank

theorem trim_quotedLine (nonempty : name ≠ "") (single : Command.isSingleToken name = true) :
    Text.trim (quotedLine name items).toList = (quotedLine name items).toList := by
  have hname : name.toList ≠ [] := fun hn => nonempty (String.toList_eq_nil_iff.mp hn)
  have hblank := fun c hc => (plain_of_isSingleToken single c hc).2
  rw [toList_quotedLine]
  refine Text.trim_eq_self ?_ ?_
  · intro c hc
    obtain ⟨d, l, hd⟩ := List.exists_cons_of_ne_nil hname
    have hcd : d = c := by simpa [hd] using hc
    exact hblank c (by rw [hd, hcd]; exact List.mem_cons_self)
  · intro c hc
    rcases List.eq_nil_or_concat (items.map String.toList) with hnil | ⟨init, item, hlast⟩
    · rw [hnil] at hc
      exact hblank c (List.mem_of_mem_getLast? (by simpa [tailOf] using hc))
    · have hshape : name.toList ++ tailOf (init ++ [item]) =
          (name.toList ++ tailOf init ++ ' ' :: '"' :: item) ++ ['"'] := by
        simp [tailOf]
      rw [hlast, List.concat_eq_append, hshape, List.getLast?_concat] at hc
      obtain rfl : '"' = c := Option.some.inj hc
      exact Text.isBlank_quote

/-- The tokens of a quoted line are its name and its items. -/
theorem split_quotedLine (nonempty : name ≠ "") (single : Command.isSingleToken name = true)
    (quotes : ∀ item ∈ items, '"' ∉ item.toList) :
    split (quotedLine name items) {} {} = .ok (name :: items) := by
  have htail : scan {} {} 0 1 .outside (tailOf (items.map String.toList)) =
      .ok ([] :: items.map String.toList) := by
    refine scan_tailOf ?_
    intro cs hcs
    obtain ⟨item, hi, rfl⟩ := List.mem_map.mp hcs
    exact quotes item hi
  have hscan := scan_plain (noMarks_of_isSingleToken single) htail
  unfold split splitChars
  rw [trim_quotedLine nonempty single, toList_quotedLine, hscan]
  simp

end Token
end LineShell
