namespace Prompter.Text

/-- Whether a code point lies in one of the given ranges, which ascend. -/
def inRanges (n : Nat) : List (Nat × Nat) → Bool
  | [] => false
  | (low, high) :: rest => if n < low then false else if n ≤ high then true else inRanges n rest

theorem exists_of_inRanges {n : Nat} {table : List (Nat × Nat)} (h : inRanges n table = true) :
    ∃ r ∈ table, r.1 ≤ n ∧ n ≤ r.2 := by
  induction table with
  | nil => simp [inRanges] at h
  | cons r rest ih =>
      obtain ⟨low, high⟩ := r
      simp only [inRanges] at h
      split at h
      · simp at h
      · split at h
        · exact ⟨_, List.mem_cons_self, by simp only; omega, by assumption⟩
        · obtain ⟨r, hr, hb⟩ := ih h
          exact ⟨r, List.mem_cons_of_mem _ hr, hb⟩

end Prompter.Text
