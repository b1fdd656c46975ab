import Prompter.Proofs.Literal.ReadBack

namespace Prompter

open Text Reader

variable {colon : Bool} {text word rest : List Char} {c : Cursor} {x : Char}

structure IsSimple (word : List Char) : Prop where
  ne_nil : word ≠ []
  parts : ∀ c ∈ word, isNamePart c = true

/-- What may be read as a bare name: a simple word or, with `colon`, simple words with a colon between each two. -/
inductive IsBareName (colon : Bool) : List Char → Prop
  | simple {word : List Char} (hword : IsSimple word) : IsBareName colon word
  | joined {word text : List Char} (hcolon : colon = true) (hword : IsSimple word) (htext : IsBareName colon text) :
      IsBareName colon (word ++ ':' :: text)

/-- The text begins with the word, of which `P` holds, and with nothing longer that it holds of. -/
structure IsLongest (P : List Char → Prop) (text word : List Char) : Prop where
  holds : P word
  begins : word <+: text
  longest : ∀ other, P other → other <+: text → other.length ≤ word.length

namespace IsSimple

theorem cons (hx : isNamePart x = true) (h : ∀ c ∈ word, isNamePart c = true) : IsSimple (x :: word) :=
  ⟨List.cons_ne_nil _ _, List.forall_mem_cons.2 ⟨hx, h⟩⟩

theorem head (h : IsSimple word) : ∃ c ∈ word.head?, isNamePart c = true := by
  obtain ⟨x, tail, rfl⟩ := List.exists_cons_of_ne_nil h.ne_nil
  exact ⟨x, rfl, h.parts x List.mem_cons_self⟩

end IsSimple

theorem nameRun_colon (h : ∃ c ∈ text.head?, isNamePart c = true) :
    nameRun true (':' :: text) = ':' :: nameRun true text := by
  have hnext : text.head?.any isNamePart = true := (Option.any_eq_true _ _).2 h
  rw [nameRun, if_neg (by simp [not_isNamePart_colon]), if_pos (by simpa using hnext)]

namespace IsBareName

theorem head (h : IsBareName colon word) : ∃ c ∈ word.head?, isNamePart c = true := by
  cases h with
  | simple hword => exact hword.head
  | joined _ hword _ =>
      obtain ⟨x, hx, hpart⟩ := hword.head
      obtain ⟨tail, rfl⟩ := List.head?_eq_some_iff.1 hx
      exact ⟨x, rfl, hpart⟩

theorem cons (hx : isNamePart x = true) (h : IsBareName colon word) : IsBareName colon (x :: word) := by
  cases h with
  | simple hword => exact .simple (.cons hx hword.parts)
  | joined hcolon hword htext => exact .joined hcolon (.cons hx hword.parts) htext

theorem nameRun_append (h : IsBareName colon word) : nameRun colon (word ++ rest) = word ++ nameRun colon rest := by
  induction h with
  | simple hword => exact nameRun_append_of_parts hword.parts
  | @joined word text hcolon hword htext ih =>
      subst hcolon
      obtain ⟨x, hx, hpart⟩ := htext.head
      have hnext : ∃ c ∈ (text ++ rest).head?, isNamePart c = true := ⟨x, by simp [Option.mem_def.1 hx], hpart⟩
      rw [List.append_assoc, nameRun_append_of_parts hword.parts, List.cons_append, nameRun_colon hnext, ih,
        List.append_assoc, List.cons_append]

theorem nameRun_eq (h : IsBareName colon word) : nameRun colon word = word := by
  have hrun : nameRun colon (word ++ []) = word ++ nameRun colon [] := h.nameRun_append
  simpa [nameRun] using hrun

theorem isJoined (h : IsBareName colon word) : Joined word := by
  induction h with
  | simple hword => simpa using joined_append_of_parts hword.parts joined_nil
  | joined _ hword htext ih => exact joined_append_of_parts hword.parts (joined_cons.2 ⟨fun _ => htext.head, ih⟩)

end IsBareName

theorem isBareName_nameRun (hx : isNamePart x = true) : IsBareName colon (nameRun colon (x :: text)) := by
  -- A colon is taken for the sake of what stands behind it, so the induction is on the length.
  induction hn : text.length using Nat.strongRecOn generalizing x text with
  | ind n ih =>
      subst hn
      have hone : IsSimple [x] := .cons hx (by simp)
      rw [nameRun, if_pos hx]
      cases text with
      | nil => exact .simple hone
      | cons y text =>
          by_cases hy : isNamePart y = true
          · exact (ih _ (Nat.lt_succ_self _) hy rfl).cons hx
          · rw [nameRun, if_neg hy]
            split
            · next hjoins =>
                simp only [Bool.and_eq_true, beq_iff_eq] at hjoins
                obtain ⟨⟨hcolon, rfl⟩, hnext⟩ := hjoins
                obtain ⟨z, hz, hpart⟩ := (Option.any_eq_true _ _).1 hnext
                obtain ⟨tail, rfl⟩ := List.head?_eq_some_iff.1 hz
                have hshort : tail.length < (':' :: z :: tail).length := by
                  simp only [List.length_cons]
                  omega
                exact .joined hcolon hone (ih _ hshort hpart rfl)
            · exact .simple hone

theorem isLongest_nameRun (hx : isNamePart x = true) :
    IsLongest (IsBareName colon) (x :: text) (nameRun colon (x :: text)) where
  holds := isBareName_nameRun hx
  begins := nameRun_prefix
  longest := by
    rintro other hother ⟨rest, hrest⟩
    rw [← hrest, hother.nameRun_append, List.length_append]
    exact Nat.le_add_right _ _

theorem readName_of_start (hc : c.ahead = x :: text) (hx : isNameStart x = true) :
    readName colon c = .ok (.ofList (nameRun colon c.ahead)) (c.skip (nameRun colon c.ahead).length) := by
  rw [readName, peek_bind_head hc (isBlank_of_isNamePart (isNamePart_of_isNameStart hx)),
    if_neg (by simp [isQuote_of_isNameStart hx]), if_pos hx]
  rfl

/-- A bare name is read by maximal munch: the reader takes the longest that the text ahead begins with, and yields it. Its
colons stand between identifiers, and as a text of its own it is read to its end. -/
theorem readName_longest (colon : Bool) (hc : c.ahead.head? = some x) (hx : isNameStart x = true) :
    ∃ word, IsLongest (IsBareName colon) c.ahead word ∧
      readName colon c = .ok (.ofList word) (c.skip word.length) ∧
      (word.head? ≠ some ':' ∧ word.getLast? ≠ some ':' ∧ ¬[':', ':'] <:+: word) ∧
      readName colon (.start (.ofList word)) = .ok (.ofList word) ⟨word.length, [], some 0⟩ := by
  obtain ⟨text, htext⟩ := List.head?_eq_some_iff.1 hc
  have hlongest : IsLongest (IsBareName colon) c.ahead (nameRun colon c.ahead) :=
    htext ▸ isLongest_nameRun (isNamePart_of_isNameStart hx)
  have hjoined := hlongest.holds.isJoined
  refine ⟨nameRun colon c.ahead, hlongest, readName_of_start htext hx, ⟨?_, hjoined.getLast?_ne, hjoined.not_double⟩, ?_⟩
  · intro hcolon
    obtain ⟨y, hy, hpart⟩ := hlongest.holds.head
    obtain rfl : ':' = y := Option.some.inj (hcolon.symm.trans hy)
    rw [not_isNamePart_colon] at hpart
    cases hpart
  · -- What has been taken begins with the same character.
    obtain ⟨tail, hrun⟩ : ∃ tail, nameRun colon c.ahead = x :: tail := by
      rw [htext, nameRun, if_pos (isNamePart_of_isNameStart hx)]
      exact ⟨_, rfl⟩
    have hahead : (Cursor.start (.ofList (nameRun colon c.ahead))).ahead = nameRun colon c.ahead := by
      rw [Cursor.start, String.toList_ofList]
    rw [readName_of_start (hahead.trans hrun) hx, hahead, hlongest.holds.nameRun_eq]
    simp [Cursor.skip, Cursor.start]

/-- The colon behind a chain of words is left. -/
theorem readName_longest_chain :
    (Cursor.start "world:time: x:num").ahead.head? = some 'w' ∧ isNameStart 'w' = true ∧
      readName true (.start "world:time: x:num") = .ok "world:time" ⟨10, ": x:num".toList, some 0⟩ ∧
      IsLongest (IsBareName true) "world:time: x:num".toList "world:time".toList ∧
      readName true (.start "world:time") = .ok "world:time" ⟨10, [], some 0⟩ := by
  have hhead : (Cursor.start "world:time: x:num").ahead.head? = some 'w' := by decide
  have hstart : isNameStart 'w' = true := by decide +kernel
  have hread : readName true (.start "world:time: x:num") = .ok "world:time" ⟨10, ": x:num".toList, some 0⟩ := by
    with_unfolding_all rfl
  obtain ⟨word, hlongest, hword, _, hagain⟩ := readName_longest true hhead hstart
  obtain ⟨hname, _⟩ := EStateM.Result.ok.inj (hread.symm.trans hword)
  obtain rfl : word = "world:time".toList := by rw [hname, String.toList_ofList]
  exact ⟨hhead, hstart, hread, hlongest, hagain⟩

end Prompter
