/-! # Sets of characters as ascending ranges

A character property is a list of closed ranges of code points, ascending and apart. The lookup
stops at the first range that starts above the code point.
-/
namespace LineShell.Text

def covers : List (Nat × Nat) → Nat → Bool
  | [], _ => false
  | (low, high) :: rest, n => if n < low then false else n ≤ high || covers rest n

theorem exists_of_covers {ranges : List (Nat × Nat)} {n : Nat} (h : covers ranges n = true) :
    ∃ r ∈ ranges, r.1 ≤ n ∧ n ≤ r.2 := by
  induction ranges with
  | nil => simp [covers] at h
  | cons r rest ih =>
    unfold covers at h
    split at h
    · simp at h
    · rename_i low
      rcases Bool.or_eq_true _ _ ▸ h with h | h
      · exact ⟨r, List.mem_cons_self, Nat.le_of_not_lt low, by simpa using h⟩
      · obtain ⟨s, hs, bounds⟩ := ih h
        exact ⟨s, List.mem_cons_of_mem _ hs, bounds⟩

end LineShell.Text
