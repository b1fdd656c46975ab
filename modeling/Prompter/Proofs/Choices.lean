import Prompter.Choices
import Prompter.Interpreter.Basic

namespace Prompter

open Text

variable {sep : Char} {s p rest : List Char}

theorem prefix_barred_iff (hs : sep ∉ s) (hp : sep ∉ p) : s ++ [sep] <+: p ++ sep :: rest ↔ s = p := by
  constructor
  · rintro ⟨t, ht⟩
    rw [List.append_assoc, List.singleton_append] at ht
    induction s generalizing p with
    | nil =>
        cases p with
        | nil => rfl
        | cons c p => simp_all
    | cons c s ih =>
        cases p with
        | nil => simp_all
        | cons d p =>
            simp only [List.mem_cons, not_or] at hs hp
            simp only [List.cons_append, List.cons.injEq] at ht
            rw [ht.1, ih hs.2 hp.2 ht.2]
  · rintro rfl
    exact ⟨rest, by simp⟩

theorem infix_behind_iff (hp : sep ∉ p) :
    sep :: s <:+: p ++ sep :: rest ↔ sep :: s <:+: sep :: rest := by
  induction p with
  | nil => rfl
  | cons c p ih =>
      simp only [List.mem_cons, not_or] at hp
      rw [List.cons_append, List.infix_cons_iff, ih hp.2]
      constructor
      · rintro (h | h)
        · exact absurd (List.cons_prefix_cons.1 h).1 hp.1
        · exact h
      · exact Or.inr

theorem infix_barred_iff (hs : sep ∉ s) (hp : sep ∉ p) :
    sep :: (s ++ [sep]) <:+: sep :: (p ++ sep :: rest) ↔ s = p ∨ sep :: (s ++ [sep]) <:+: sep :: rest := by
  rw [List.infix_cons_iff, List.cons_prefix_cons, prefix_barred_iff hs hp, infix_behind_iff hp]
  simp

/-- A text without separators stands between two of them exactly when it is one of the joined pieces. -/
theorem infix_joined_iff {ps : List (List Char)} (hne : ps ≠ []) (hps : ∀ p ∈ ps, sep ∉ p) (hs : sep ∉ s) :
    sep :: (s ++ [sep]) <:+: sep :: (joined sep ps ++ [sep]) ↔ s ∈ ps := by
  induction ps with
  | nil => exact absurd rfl hne
  | cons p ps ih =>
      have hp := hps p List.mem_cons_self
      -- Only the last piece has no separator behind it but the closing one.
      cases ps with
      | nil =>
          rw [joined, infix_barred_iff hs hp, List.mem_singleton]
          constructor
          · rintro (h | h)
            · exact h
            · have := h.length_le
              simp at this
          · exact Or.inl
      | cons q qs =>
          have htail := ih (by simp) fun r hr => hps r (List.mem_cons_of_mem _ hr)
          rw [joined, List.append_assoc, List.cons_append, infix_barred_iff hs hp, htail, ← List.mem_cons]
          simp

namespace Choices

variable {stored value : String} {body : List Char} {ms : List String}

theorem body_barred : Choices.body (.ofList ('|' :: body ++ ['|'])) = body := by simp [Choices.body]

theorem write_pieces : write ((pieces '|' body).map .ofList) = .ofList ('|' :: body ++ ['|']) := by
  have : (pieces '|' body).map (String.toList ∘ String.ofList) = pieces '|' body := by simp [Function.comp_def]
  rw [write, List.map_map, this, joined_pieces]

theorem members_write (hne : ms ≠ []) (h : ∀ m ∈ ms, '|' ∉ m.toList) : members (write ms) = ms := by
  rw [members, write, body_barred, pieces_joined (by simpa using hne), List.map_map]
  · simp [Function.comp_def]
  · simpa using h

/-- The test for a part of the text between bars is membership. -/
theorem holds_write_iff (hne : ms ≠ []) (h : ∀ m ∈ ms, '|' ∉ m.toList) :
    holds (write ms) value = true ↔ value ∈ ms := by
  have hbar : ∀ p ∈ ms.map String.toList, '|' ∉ p := by simpa using h
  have hmem : value.toList ∈ ms.map String.toList ↔ value ∈ ms := by simp [String.toList_inj]
  rw [holds, Bool.and_eq_true, occursIn_iff, write, String.toList_ofList, List.cons_append, List.cons_append]
  by_cases hv : '|' ∈ value.toList
  · have : value ∉ ms := fun hm => h value hm hv
    simp [hv, this]
  · rw [infix_joined_iff (by simpa using hne) hbar hv, hmem]
    simp [hv]

end Choices

end Prompter
