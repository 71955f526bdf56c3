import Mathlib.Data.List.TakeWhile
import LineShell.Text.Blank

/-! # What is left of a trimmed text

A text that starts and ends with what is not blank loses nothing, and what stands before or after it
is trimmed on its own.
-/
namespace LineShell.Text
variable {cs ds before after : List Char} {c : Char}

theorem trimStart_eq_self (first : ∀ c ∈ cs.head?, isBlank c = false) : trimStart cs = cs := by
  unfold trimStart
  cases cs with
  | nil => rfl
  | cons c cs => rw [List.dropWhile_cons_of_neg (by simpa using first c rfl)]

theorem trimEnd_append (last : ∀ c ∈ cs.getLast?, isBlank c = false) :
    trimEnd (cs ++ ds) = cs ++ trimEnd ds := by
  have hself : cs.reverse.dropWhile isBlank = cs.reverse :=
    trimStart_eq_self (by rwa [List.head?_reverse])
  unfold trimEnd
  rw [List.reverse_append, List.dropWhile_append, hself]
  split
  · rename_i hempty
    rw [List.isEmpty_iff.mp hempty, List.reverse_reverse, List.reverse_nil, List.append_nil]
  · rw [List.reverse_append, List.reverse_reverse]

theorem trimEnd_eq_nil (blank : ∀ c ∈ cs, isBlank c = true) : trimEnd cs = [] := by
  unfold trimEnd
  rw [List.reverse_eq_nil_iff, List.dropWhile_eq_nil_iff]
  intro c hc
  exact blank c (List.mem_reverse.mp hc)

theorem trim_append (nonempty : cs ≠ []) (first : ∀ c ∈ cs.head?, isBlank c = false)
    (last : ∀ c ∈ cs.getLast?, isBlank c = false) : trim (cs ++ ds) = cs ++ trimEnd ds := by
  have hstart : trimStart (cs ++ ds) = cs ++ ds := by
    obtain ⟨c, rest, rfl⟩ := List.exists_cons_of_ne_nil nonempty
    exact trimStart_eq_self first
  unfold trim
  rw [hstart, trimEnd_append last]

theorem trim_eq_self (first : ∀ c ∈ cs.head?, isBlank c = false)
    (last : ∀ c ∈ cs.getLast?, isBlank c = false) : trim cs = cs := by
  have hend : trimEnd (cs ++ []) = cs ++ trimEnd [] := trimEnd_append last
  rw [List.append_nil] at hend
  unfold trim
  rw [trimStart_eq_self first, hend]
  exact List.append_nil cs

theorem trim_surrounded (blankBefore : ∀ c ∈ before, isBlank c = true)
    (blankAfter : ∀ c ∈ after, isBlank c = true) (nonempty : cs ≠ [])
    (first : ∀ c ∈ cs.head?, isBlank c = false) (last : ∀ c ∈ cs.getLast?, isBlank c = false) :
    trim (before ++ cs ++ after) = cs := by
  have hstart : trimStart (before ++ cs ++ after) = trimStart (cs ++ after) := by
    unfold trimStart
    rw [List.append_assoc, List.dropWhile_append_of_pos blankBefore]
  have htrim : trim (before ++ cs ++ after) = trim (cs ++ after) := congrArg trimEnd hstart
  rw [htrim, trim_append nonempty first last, trimEnd_eq_nil blankAfter, List.append_nil]

end LineShell.Text
