namespace Prompter.Text

variable {sep : Char} {text : List Char}

/-- The pieces between the separators; there is one more than there are separators. -/
def pieces (sep : Char) : List Char → List (List Char)
  | [] => [[]]
  | c :: rest =>
      if c = sep then [] :: pieces sep rest
      else match pieces sep rest with
        | [] => [[c]]
        | piece :: others => (c :: piece) :: others

theorem pieces_eq_splitOn : pieces sep text = text.splitOn sep := by
  induction text with
  | nil => rfl
  | cons c rest ih =>
      rw [List.splitOn_cons_eq_if_modifyHead, pieces, ih]
      by_cases hc : c = sep
      · simp [hc]
      · cases h : rest.splitOn sep with
        | nil => exact absurd h (List.splitOn_ne_nil sep rest)
        | cons p ps => simp [hc]

theorem pieces_ne_nil : pieces sep text ≠ [] := by
  rw [pieces_eq_splitOn]
  exact List.splitOn_ne_nil sep text

theorem length_pieces : (pieces sep text).length = text.count sep + 1 := by
  rw [pieces_eq_splitOn]
  induction text with
  | nil => rfl
  | cons c rest ih =>
      rw [List.splitOn_cons_eq_if_modifyHead, List.count_cons]
      split
      · rw [List.length_cons, ih]
      · rw [List.length_modifyHead, ih, Nat.add_zero]

/-- The inverse of `pieces`. -/
def joined (sep : Char) : List (List Char) → List Char
  | [] => []
  | [piece] => piece
  | piece :: others => piece ++ sep :: joined sep others

theorem joined_eq_intercalate (ps : List (List Char)) : joined sep ps = [sep].intercalate ps := by
  fun_induction joined sep ps with
  | case1 => rfl
  | case2 => simp
  | case3 p ps hps ih => rw [List.intercalate_cons_of_ne_nil (by simpa using hps), ih]; simp

theorem joined_pieces : joined sep (pieces sep text) = text := by
  rw [pieces_eq_splitOn, joined_eq_intercalate, List.intercalate_splitOn]

theorem pieces_joined {ps : List (List Char)} (hne : ps ≠ []) (h : ∀ p ∈ ps, sep ∉ p) :
    pieces sep (joined sep ps) = ps := by
  rw [pieces_eq_splitOn, joined_eq_intercalate, List.splitOn_intercalate sep h hne]

theorem mem_of_mem_pieces {p : List Char} (hp : p ∈ pieces sep text) {c : Char} (hc : c ∈ p) :
    c ∈ text ∧ c ≠ sep := by
  induction text generalizing p with
  | nil =>
      obtain rfl : p = [] := by simpa [pieces] using hp
      cases hc
  | cons x rest ih =>
      simp only [pieces] at hp
      split at hp
      · rcases List.mem_cons.1 hp with rfl | hp
        · cases hc
        · exact (ih hp hc).imp_left (List.mem_cons_of_mem _)
      · next hx =>
          cases h : pieces sep rest with
          | nil => exact absurd h pieces_ne_nil
          | cons q qs =>
              rw [h] at hp ih
              rcases List.mem_cons.1 hp with rfl | hp
              · rcases List.mem_cons.1 hc with rfl | hc
                · exact ⟨List.mem_cons_self, hx⟩
                · exact (ih List.mem_cons_self hc).imp_left (List.mem_cons_of_mem _)
              · exact (ih (List.mem_cons_of_mem _ hp) hc).imp_left (List.mem_cons_of_mem _)

def occursIn (needle : List Char) : List Char → Bool
  | [] => needle.isEmpty
  | c :: rest => needle.isPrefixOf (c :: rest) || occursIn needle rest

theorem occursIn_iff {needle : List Char} : occursIn needle text = true ↔ needle <:+: text := by
  induction text with
  | nil => simp [occursIn]
  | cons c rest ih => simp [occursIn, List.infix_cons_iff, ih]

def commas (sep : String) : List String → String
  | [] => ""
  | [text] => text
  | text :: others => text ++ sep ++ commas sep others

end Prompter.Text
