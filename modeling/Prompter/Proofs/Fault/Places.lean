import Mathlib.Algebra.GroupWithZero.Nat
import Mathlib.Data.Prod.Lex
import Mathlib.Order.Monotone.Basic
import Prompter.Proofs.Fault.Pointer

namespace Prompter

namespace Text

variable {text before rest : List Char} {c : Char} {p n : Nat}

/-- The offset at which the nth line begins: each line in front of it is followed by a newline. -/
def lineOffset (text : List Char) (n : Nat) : Nat :=
  (((pieces '\n' text).take (n - 1)).map fun line => line.length + 1).sum

theorem lineOffset_one : lineOffset text 1 = 0 := rfl

theorem lineOffset_cons :
    lineOffset (c :: rest) (n + 2) = lineOffset rest (if c = '\n' then n + 1 else n + 2) + 1 := by
  by_cases hc : c = '\n'
  · simp only [lineOffset, pieces, hc, if_true, Nat.add_sub_cancel, show n + 2 - 1 = n + 1 from rfl,
      List.take_succ_cons, List.map_cons, List.sum_cons, List.length_nil]
    omega
  · cases h : pieces '\n' rest with
    | nil => exact absurd h pieces_ne_nil
    | cons line others =>
        simp only [lineOffset, pieces, hc, h, if_false, show n + 2 - 1 = n + 1 from rfl, List.take_succ_cons,
          List.map_cons, List.sum_cons, List.length_cons]
        omega

theorem lineOffset_of_newline (h : text[p]? = some '\n') :
    lineOffset text ((text.take p).count '\n' + 2) = p + 1 := by
  induction text generalizing p with
  | nil => cases h
  | cons c rest ih =>
      cases p with
      | zero =>
          obtain rfl : c = '\n' := by simpa using h
          rw [List.take_zero, List.count_nil, lineOffset_cons, if_pos rfl, lineOffset_one]
      | succ p =>
          have hrest := ih (p := p) (by simpa using h)
          by_cases hc : c = '\n'
          · rw [List.take_succ_cons, hc, List.count_cons_self, lineOffset_cons, if_pos rfl, hrest]
          · rw [List.take_succ_cons, List.count_cons_of_ne hc, lineOffset_cons, if_neg hc, hrest]

theorem lastLine_concat : lastLine (before ++ [c]) = if c = '\n' then [] else lastLine before ++ [c] := by
  by_cases hc : c = '\n'
  · simp [lastLine, hc]
  · simp [lastLine, hc]

theorem length_lastLine_le : (lastLine before).length ≤ before.length := by
  rw [lastLine, List.length_reverse]
  exact (List.takeWhile_prefix _).length_le.trans_eq List.length_reverse

theorem place_newline (h : text[p]? = some '\n') : place text (p + 1) = ((place text p).1 + 1, 1) := by
  obtain ⟨hp, _⟩ := List.getElem?_eq_some_iff.1 h
  have hbefore : text.take (p + 1) = text.take p ++ ['\n'] := by rw [List.take_add_one, h, Option.toList_some]
  simp only [place, hbefore, lastLine_concat, if_true, List.count_append, List.count_singleton_self, List.length_append,
    List.length_take_of_le hp.le, List.length_singleton, List.length_nil, Nat.sub_zero, Nat.sub_self, Nat.zero_add]

theorem place_char (h : text[p]? ≠ some '\n') : place text (p + 1) = ((place text p).1, (place text p).2 + 1) := by
  have hshort : (lastLine (text.take p)).length ≤ (text.take p).length := length_lastLine_le
  rcases Nat.lt_or_ge p text.length with hp | hp
  · have hc : text[p] ≠ '\n' := by simpa [hp] using h
    have hbefore : text.take (p + 1) = text.take p ++ [text[p]] := by
      rw [List.take_add_one, List.getElem?_eq_getElem hp, Option.toList_some]
    rw [List.length_take_of_le hp.le] at hshort
    simp only [place, hbefore, lastLine_concat, hc, if_false, List.count_append, List.count_singleton, beq_iff_eq,
      List.length_append, List.length_take_of_le hp.le, List.length_singleton, Nat.add_zero, Prod.mk.injEq, true_and]
    omega
  · -- Past the end nothing is taken.
    rw [List.take_of_length_le hp] at hshort
    simp only [place, List.take_of_length_le hp, List.take_of_length_le (Nat.le_succ_of_le hp), Prod.mk.injEq, true_and]
    omega

theorem place_succ : place text (p + 1) =
    if text[p]? = some '\n' then ((place text p).1 + 1, 1) else ((place text p).1, (place text p).2 + 1) := by
  split
  · next h => exact place_newline h
  · next h => exact place_char h

example : (List.range 5).map (place "a\n\nb".toList) = [(1, 1), (1, 2), (2, 1), (3, 1), (3, 2)] := by decide

theorem place_lt_succ : toLex (place text p) < toLex (place text (p + 1)) := by
  rw [Prod.Lex.toLex_lt_toLex, place_succ]
  split
  · exact .inl (Nat.lt_succ_self _)
  · exact .inr ⟨rfl, Nat.lt_succ_self _⟩

theorem lineOffset_add_column : lineOffset text (place text p).1 + (place text p).2 = p + 1 := by
  induction p with
  | zero => rw [place_zero, lineOffset_one]
  | succ p ih =>
      by_cases h : text[p]? = some '\n'
      · rw [place_newline h]
        exact congrArg (· + 1) (lineOffset_of_newline h)
      · rw [place_char h, ← Nat.add_assoc, ih]

theorem line_le_length : (place text p).1 ≤ (pieces '\n' text).length := by
  rw [length_pieces]
  exact Nat.succ_le_succ ((List.take_sublist p text).count_le '\n')

end Text

namespace Fault

open Text

/-- Places are ordered as the offsets are, and an offset is where the line of its place begins and the column further
on. A fault at an offset has its place. -/
theorem places_identify_offsets (text : String) :
    place text.toList 0 = (1, 1) ∧
    (∀ p, place text.toList (p + 1) =
      if text.toList[p]? = some '\n' then ((place text.toList p).1 + 1, 1)
      else ((place text.toList p).1, (place text.toList p).2 + 1)) ∧
    StrictMono (fun p => toLex (place text.toList p)) ∧
    (∀ p, (place text.toList p).1 ≤ (pieces '\n' text.toList).length ∧
      p = lineOffset text.toList (place text.toList p).1 + ((place text.toList p).2 - 1)) ∧
    ∀ label cause p hint, (hinted ⟨text, label⟩ cause (p : Nat) hint).line = .integer (place text.toList p).1 ∧
      (hinted ⟨text, label⟩ cause p hint).column = .integer (place text.toList p).2 := by
  refine ⟨place_zero, fun p => place_succ, strictMono_nat_of_lt_succ fun p => place_lt_succ, fun p => ⟨?_, ?_⟩,
    fun label cause p hint => placed_natCast _ ⟨text, label⟩ p⟩
  · exact line_le_length
  · have hsum : lineOffset text.toList (place text.toList p).1 + (place text.toList p).2 = p + 1 :=
      lineOffset_add_column
    have hcolumn := (place_pos text.toList p).2
    omega

/-- Faults of one text that are shown at one place are at one offset. -/
theorem placed_injective {f g : Fault} {source : Source} {p q : Nat}
    (hline : (f.placed source p).line = (g.placed source q).line)
    (hcolumn : (f.placed source p).column = (g.placed source q).column) : p = q := by
  have hp : lineOffset source.text.toList _ + _ = p + 1 := lineOffset_add_column
  have hq : lineOffset source.text.toList _ + _ = q + 1 := lineOffset_add_column
  rw [(placed_natCast f source p).1, (placed_natCast g source q).1, Value.integer.injEq, Int.natCast_inj] at hline
  rw [(placed_natCast f source p).2, (placed_natCast g source q).2, Value.integer.injEq, Int.natCast_inj] at hcolumn
  rw [hline, hcolumn, hq] at hp
  exact (Nat.succ.inj hp).symm

end Fault

end Prompter
