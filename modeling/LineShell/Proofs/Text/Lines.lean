import Mathlib.Data.List.Basic

/-! # Lines of a text

A text is split at its line breaks. Texts that are joined by line breaks are read back as they were
if no break occurs in any of them; otherwise each of them is read as the lines that it has itself.
-/
namespace LineShell.Text

def lines (s : String) : List String := (s.toList.splitOn '\n').map String.ofList

def IsLine (s : String) : Prop := '\n' ∉ s.toList

instance (s : String) : Decidable (IsLine s) := inferInstanceAs (Decidable (_ ∉ _))

variable {s t : String} {parts : List String} {cs ds l : List Char}

theorem lines_of_isLine (h : IsLine s) : lines s = [s] := by
  simp [lines, List.splitOn_eq_singleton h]

theorem not_mem_of_mem_splitOn (h : l ∈ cs.splitOn '\n') : '\n' ∉ l := by
  induction cs generalizing l with
  | nil =>
    obtain rfl : l = [] := by simpa using h
    simp
  | cons c cs ih =>
    obtain ⟨first, rest, hsplit⟩ := List.exists_cons_of_ne_nil (List.splitOn_ne_nil '\n' cs)
    rw [List.splitOn_cons_eq_if_modifyHead] at h
    rw [hsplit] at h ih
    by_cases hc : c = '\n'
    · simp only [hc, beq_self_eq_true, if_true, List.mem_cons] at h
      rcases h with rfl | h
      · simp
      · exact ih (List.mem_cons.mpr h)
    · simp only [beq_iff_eq, hc, if_false, List.modifyHead_cons, List.mem_cons] at h
      rcases h with rfl | h
      · simp [ih List.mem_cons_self, Ne.symm hc]
      · exact ih (List.mem_cons_of_mem _ h)

theorem isLine_of_mem_lines (h : t ∈ lines s) : IsLine t := by
  obtain ⟨l, hl, rfl⟩ := List.mem_map.mp h
  simpa [IsLine] using not_mem_of_mem_splitOn hl

theorem isLine_append : IsLine (s ++ t) ↔ IsLine s ∧ IsLine t := by
  simp [IsLine]

theorem isLine_intercalate {between : String} (h : IsLine between) :
    IsLine (between.intercalate parts) ↔ ∀ s ∈ parts, IsLine s := by
  induction parts with
  | nil => simp [IsLine]
  | cons s rest ih => cases rest with
    | nil => simp
    | cons t rest => simp [String.intercalate_cons_cons, isLine_append, ih, h]

/-- Each of the texts that are joined by line breaks has its own lines. -/
theorem lines_intercalate (nonempty : parts ≠ []) :
    lines ("\n".intercalate parts) = parts.flatMap lines := by
  induction parts with
  | nil => exact absurd rfl nonempty
  | cons s rest ih => cases rest with
    | nil => simp
    | cons t rest =>
      have hbreak : "\n".toList = ['\n'] := rfl
      rw [List.flatMap_cons, ← ih (by simp), String.intercalate_cons_cons]
      simp [lines, hbreak, List.splitOn_append_cons_self]

theorem lines_intercalate_eq_iff (nonempty : parts ≠ []) :
    lines ("\n".intercalate parts) = parts ↔ ∀ s ∈ parts, IsLine s := by
  constructor
  · intro h s hs
    rw [← h] at hs
    exact isLine_of_mem_lines hs
  · intro h
    rw [lines_intercalate nonempty, List.flatMap_congr (fun s hs => lines_of_isLine (h s hs))]
    simp

/-! ### Texts that hang from their first line

The indent is any text without a line break. What stands behind a line may complete its indent, but
not if it begins with a character that is not in the indent.
-/

section
variable {indent : String} {d : Char}

/-- The lines after the first one are indented. -/
def Hangs (indent s : String) : Prop := ∀ l ∈ (lines s).tail, indent.toList <+: l.toList

instance (indent s : String) : Decidable (Hangs indent s) := List.decidableBAll _ _

theorem hangs_iff :
    Hangs indent s ↔ ∀ l ∈ (s.toList.splitOn '\n').tail, indent.toList <+: l := by
  simp [Hangs, lines, ← List.map_tail]

theorem hangs_of_isLine (h : IsLine s) : Hangs indent s := by
  simp [Hangs, lines_of_isLine h]

theorem tail_splitOn_break : (('\n' :: cs).splitOn '\n').tail = cs.splitOn '\n' := by
  simp [List.splitOn_cons_eq_if_modifyHead]

theorem tail_splitOn_other {c : Char} (other : c ≠ '\n') :
    ((c :: cs).splitOn '\n').tail = (cs.splitOn '\n').tail := by
  obtain ⟨first, rest, hsplit⟩ := List.exists_cons_of_ne_nil (List.splitOn_ne_nil '\n' cs)
  simp [List.splitOn_cons_eq_if_modifyHead, hsplit, other]

theorem prefix_append_cons_iff {ls : List Char} (apart : d ∉ ls) :
    ls <+: cs ++ d :: ds ↔ ls <+: cs := by
  constructor
  · intro h
    rcases List.prefix_or_prefix_of_prefix h (List.prefix_append cs (d :: ds)) with
      hle | ⟨more, rfl⟩
    · exact hle
    · cases more with
      | nil => simp
      | cons e more =>
        obtain rfl : e = d := by simpa using (List.cons_prefix_cons.mp
          ((List.prefix_append_right_inj cs).mp h)).1
        simp at apart
  · intro h
    exact h.trans (List.prefix_append cs (d :: ds))

theorem forall_mem_splitOn_iff {ls : List Char} (indented : '\n' ∉ ls) :
    (∀ l ∈ cs.splitOn '\n', ls <+: l) ↔
      ls <+: cs ∧ ∀ l ∈ (cs.splitOn '\n').tail, ls <+: l := by
  obtain ⟨first, rest, hsplit⟩ := List.exists_cons_of_ne_nil (List.splitOn_ne_nil '\n' cs)
  have hfirst : ls <+: cs ↔ ls <+: first := by
    have hcs : ['\n'].intercalate (first :: rest) = cs := by
      rw [← hsplit]
      exact List.intercalate_splitOn '\n'
    cases rest with
    | nil => rw [← hcs, List.intercalate_singleton]
    | cons next rest =>
      rw [← hcs, List.intercalate_cons_cons, List.append_assoc, List.singleton_append]
      exact prefix_append_cons_iff indented
  rw [hfirst, hsplit]
  simp

theorem forall_mem_lines_iff (indented : IsLine indent) :
    (∀ l ∈ lines s, indent.toList <+: l.toList) ↔ indent.toList <+: s.toList ∧ Hangs indent s := by
  rw [hangs_iff, ← forall_mem_splitOn_iff indented]
  simp [lines]

theorem hangs_append_of_isLine (h : IsLine s) : Hangs indent (s ++ t) ↔ Hangs indent t := by
  rw [hangs_iff, hangs_iff, String.toList_append]
  unfold IsLine at h
  generalize s.toList = cs at h ⊢
  induction cs with
  | nil => rfl
  | cons c cs ih =>
    simp only [List.mem_cons, not_or] at h
    rw [List.cons_append, tail_splitOn_other (Ne.symm h.1), ih h.2]

theorem hangs_append (indented : IsLine indent) (apart : ∀ c ∈ t.toList.head?, c ∉ indent.toList) :
    Hangs indent (s ++ t) ↔ Hangs indent s ∧ Hangs indent t := by
  rw [hangs_iff, hangs_iff, hangs_iff, String.toList_append]
  -- along the first text: only what stands behind a break could be completed by the second
  induction s.toList with
  | nil => simp
  | cons c cs ih =>
    by_cases hc : c = '\n'
    · subst hc
      rw [List.cons_append, tail_splitOn_break, tail_splitOn_break,
        forall_mem_splitOn_iff indented, forall_mem_splitOn_iff indented, ih]
      have hbegins : indent.toList <+: cs ++ t.toList ↔ indent.toList <+: cs := by
        cases ht : t.toList with
        | nil => rw [List.append_nil]
        | cons d ds => exact prefix_append_cons_iff (apart d (by simp [ht]))
      rw [hbegins]
      tauto
    · rw [List.cons_append, tail_splitOn_other hc, tail_splitOn_other hc, ih]

end

end LineShell.Text
