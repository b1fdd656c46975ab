import Mathlib.Data.List.Basic
import Prompter.Literal.Written
import Prompter.Proofs.Literal.Bounds
import Prompter.Proofs.Literal.Extent
import Prompter.Proofs.Shown

namespace Prompter

open Text Reader

variable {text rest chars : List Char} {c d : Cursor} {x : Char} {l : Literal} {v : Value} {s : String}

def Joined (text : List Char) : Prop := ∀ behind, ':' :: behind <:+ text → ∃ c ∈ behind.head?, isNamePart c = true

structure IsWord (text : List Char) : Prop where
  start : ∃ c ∈ text.head?, isNameStart c = true
  joined : Joined text

theorem joined_nil : Joined [] := by
  intro behind h
  cases List.suffix_nil.1 h

theorem joined_cons :
    Joined (x :: text) ↔ (x = ':' → ∃ c ∈ text.head?, isNamePart c = true) ∧ Joined text := by
  constructor
  · intro h
    refine ⟨?_, fun behind hsuffix => h behind (List.suffix_cons_iff.2 (.inr hsuffix))⟩
    rintro rfl
    exact h text List.suffix_rfl
  · rintro ⟨hfirst, hrest⟩ behind hsuffix
    rcases List.suffix_cons_iff.1 hsuffix with heq | hsuffix
    · obtain ⟨rfl, rfl⟩ := List.cons.inj heq
      exact hfirst rfl
    · exact hrest behind hsuffix

theorem isBarePart_iff : isBarePart x = true ↔ isNamePart x = true ∨ x = ':' := by
  simp only [isBarePart, isNamePart, nameSigns, Bool.or_eq_true, List.contains_iff_mem, List.mem_cons,
    List.not_mem_nil, or_false]
  grind

theorem not_isNamePart_colon : isNamePart ':' = false := by decide +kernel

theorem isBarePart_of_isBareWord (h : isBareWord text = true) : ∀ c ∈ text, isBarePart c = true := by
  cases text with
  | nil => simp
  | cons x rest =>
      simp only [isBareWord, Bool.and_eq_true, List.all_eq_true] at h
      refine List.forall_mem_cons.2 ⟨?_, h.2⟩
      rcases (Bool.or_eq_true _ _).mp h.1.1 with halphanumeric | hline
      · rw [isBarePart, halphanumeric, Bool.true_or]
      · obtain rfl : x = '_' := by simpa using hline
        decide +kernel

theorem newline_notMem_of_isBareWord (h : isBareWord text = true) : '\n' ∉ text := by
  have hline : isBarePart '\n' = false := by decide +kernel
  intro hmem
  rw [isBarePart_of_isBareWord h _ hmem] at hline
  cases hline

theorem joined_append_of_parts (hchars : ∀ c ∈ chars, isNamePart c = true) (htext : Joined text) :
    Joined (chars ++ text) := by
  induction chars with
  | nil => exact htext
  | cons x chars ih =>
      obtain ⟨hx, hchars⟩ := List.forall_mem_cons.1 hchars
      refine joined_cons.2 ⟨?_, ih hchars⟩
      rintro rfl
      rw [not_isNamePart_colon] at hx
      cases hx

theorem Joined.getLast?_ne (h : Joined text) : text.getLast? ≠ some ':' := by
  intro hlast
  obtain ⟨front, rfl⟩ := List.getLast?_eq_some_iff.1 hlast
  obtain ⟨c, hc, _⟩ := h [] (List.suffix_append front [':'])
  cases hc

theorem Joined.not_double (h : Joined text) : ¬[':', ':'] <:+: text := by
  rintro ⟨front, behind, rfl⟩
  obtain ⟨c, hc, hpart⟩ := h (':' :: behind) ⟨front, by simp⟩
  obtain rfl : ':' = c := by simpa using hc
  rw [not_isNamePart_colon] at hpart
  cases hpart

theorem nameRun_eq_self (h : ∀ c ∈ text, isBarePart c = true) : nameRun true text = text ↔ Joined text := by
  induction text with
  | nil => simp [nameRun, joined_nil]
  | cons x text ih =>
      obtain ⟨hx, htext⟩ := List.forall_mem_cons.1 h
      rw [joined_cons, ← ih htext, nameRun]
      by_cases hpart : isNamePart x = true
      · have hcolon : x ≠ ':' := by
          rintro rfl
          rw [not_isNamePart_colon] at hpart
          cases hpart
        simp [hpart, hcolon]
      · obtain rfl : x = ':' := (isBarePart_iff.1 hx).resolve_left hpart
        have hfirst : text.head?.any isNamePart = true ↔ ∃ c ∈ text.head?, isNamePart c = true :=
          Option.any_eq_true _ _
        rw [if_neg hpart]
        by_cases hnext : text.head?.any isNamePart = true
        · rw [if_pos (by simpa using hnext), List.cons_inj_right]
          exact ⟨fun hrun => ⟨fun _ => hfirst.1 hnext, hrun⟩, And.right⟩
        · rw [if_neg (by simpa using hnext)]
          refine ⟨fun hrun => absurd hrun.symm (List.cons_ne_nil _ _), fun hjoined => ?_⟩
          exact absurd (hfirst.2 (hjoined.1 rfl)) hnext

section Reading

theorem isDecimal_of_isDigit (h : isDigit x = true) : isDecimal x = true := by
  have hall : ∀ n ∈ List.range' 48 10, isDecimal (.ofNat n) = true := by decide +kernel
  have hx := hall _ (toNat_of_isDigit h)
  rwa [Char.ofNat_toNat] at hx

theorem readLiteral_word (hc : c.ahead = x :: text) (hx : isNameStart x = true) :
    readLiteral c = .ok (.ofWord (.ofList (nameRun true c.ahead))) (c.skip (nameRun true c.ahead).length) := by
  rw [readLiteral, peek_bind_head hc (isBlank_of_isNamePart (isNamePart_of_isNameStart hx)), if_pos hx]
  rfl

theorem readLiteral_isWord (hw : IsWord text) (ht : ∀ c ∈ text, isBarePart c = true) (hc : c.ahead = text) :
    readLiteral c = .ok (.ofWord (.ofList text)) (c.skip text.length) := by
  obtain ⟨x, hx, hstart⟩ := hw.start
  obtain ⟨rest, hrest⟩ := List.head?_eq_some_iff.1 hx
  rw [readLiteral_word (hc.trans hrest) hstart, hc, (nameRun_eq_self ht).2 hw.joined]

theorem readLiteral_numeral (hc : c.ahead = x :: text) (hx : isAlphanumeric x = true) (hstart : isNameStart x = false)
    (hdecimal : isDecimal x = false) : readLiteral c ≠ .ok l d := by
  have hpart : isNamePart x = true := by rw [isNamePart, hx, Bool.true_or]
  have hdigit : isDigit x = false := by
    cases h : isDigit x with
    | false => rfl
    | true =>
        rw [isDecimal_of_isDigit h] at hdecimal
        cases hdecimal
  have hsigns : ∀ y ∈ ['"', '\'', '-', '+'], x ≠ y := by
    have hall : (['"', '\'', '-', '+'].all fun y => !isNamePart y) = true := by decide +kernel
    rintro y hy rfl
    have hy := List.all_eq_true.1 hall _ hy
    rw [hpart] at hy
    cases hy
  have hquote : ¬isQuote x = true := by simp [isQuote, hsigns '"' (by simp), hsigns '\'' (by simp)]
  rw [readLiteral, peek_bind_head hc (isBlank_of_isNamePart hpart), if_neg (by simp [hstart]), if_neg hquote,
    if_neg (hsigns '-' (by simp)), if_neg (hsigns '+' (by simp)), if_neg (by simp [hdigit])]
  exact fail_ne_ok

end Reading

section Quoting

theorem escaped_double (hx : x ≠ '\n') : (if x = '\\' ∨ x = '"' then ['\\', x] else [x]) = Quote.double.escaped x := by
  rw [Quote.escaped, if_neg hx]
  rfl

theorem quotedText_eq (h : '\n' ∉ s.toList) : quotedText s.toList = Quote.double.quoted s := by
  have hescaped : s.toList.flatMap (fun c => if c = '\\' ∨ c = '"' then ['\\', c] else [c]) =
      s.toList.flatMap Quote.double.escaped :=
    List.flatMap_congr fun c hc => escaped_double (ne_of_mem_of_not_mem hc h)
  rw [quotedText, hescaped]
  rfl

theorem breaks_of_newline (rest : List Char) (h : '\n' ∈ chars) :
    ∃ body read behind, StringBody '"' body read ∧ Breaks behind ∧
      chars.flatMap (fun c => if c = '\\' ∨ c = '"' then ['\\', c] else [c]) ++ rest = body ++ behind := by
  induction chars with
  | nil => cases h
  | cons x chars ih =>
      by_cases hline : x = '\n'
      · subst hline
        exact ⟨[], [], _, .nil, .inr rfl, rfl⟩
      · obtain ⟨body, read, behind, hbody, hbreaks, htext⟩ := ih ((List.mem_cons.1 h).resolve_left (Ne.symm hline))
        have hunit : StringUnit '"' (Quote.double.escaped x) [x] := Quote.unit_escaped (q := .double)
        refine ⟨_, _, behind, .cons hunit hbody, hbreaks, ?_⟩
        rw [List.flatMap_cons, escaped_double hline, List.append_assoc, htext, List.append_assoc]

end Quoting

namespace Value

/-- The value is what its literal means, and the literal is read to its end. -/
def ReadsBack (v : Value) : Prop :=
  ∃ written, v.written = .ok written ∧
    ∃ l d, readLiteral (.start written) = .ok l d ∧ l.toValue = v ∧ d.offset = written.toList.length ∧ d.ahead = []

/-- The values with a literal, apart from floating-point numbers. -/
inductive Exact : Value → Prop
  | plain (v : Value) (h : v.Plain) : Exact v
  | boolean (b : Bool) : Exact (boolean b)

theorem readsBack_of_ahead {written : String} (hw : v.written = .ok written)
    (h : readLiteral (.start written) = .ok l d) (hl : l.toValue = v) (hd : d.ahead = []) : v.ReadsBack := by
  have hin : d.Inside written.toList := (keeps_readLiteral (Cursor.inside_start written)).of_ok h
  refine ⟨written, hw, l, d, h, hl, ?_, hd⟩
  obtain ⟨hoffset, hahead⟩ := hin.within
  rw [hd] at hahead
  have hend := List.drop_eq_nil_iff.1 hahead.symm
  omega

theorem readsBack_of_yields {written : String} (hw : v.written = .ok written) (ht : written.toList = text)
    (h : Yields readLiteral text [] fun l => l.toValue = v) : v.ReadsBack := by
  obtain ⟨l, offset, hread, hl⟩ := h 0 (some 0)
  rw [List.append_nil, ← ht] at hread
  exact readsBack_of_ahead hw hread hl rfl

theorem toList_toString_int (i : Int) : (toString i).toList = decimalText i := by
  rw [decimalText]
  cases i with
  | ofNat n =>
      rw [if_neg (by simp), List.nil_append]
      exact String.toList_ofList
  | negSucc n =>
      have htext : toString (Int.negSucc n) = "-" ++ String.ofList (Nat.toDigits 10 (n + 1)) := rfl
      have hdigits : (String.ofList (Nat.toDigits 10 (n + 1))).toList = Nat.toDigits 10 (n + 1) := String.toList_ofList
      rw [if_pos (Int.negSucc_lt_zero n), htext, String.toList_append, hdigits]
      rfl

theorem written_bare (hw : isBareWord s.toList = true) (hr : Literal.reserved.lookup s = Option.none) :
    (string s).written = .ok s := by
  change Except.ok (writtenString s) = Except.ok s
  rw [writtenString, if_pos ⟨hw, by rw [hr]; rfl⟩]

theorem written_quoted (h : ¬(isBareWord s.toList = true ∧ Literal.reserved.lookup s = Option.none)) :
    (string s).written = .ok (.ofList (quotedText s.toList)) := by
  change Except.ok (writtenString s) = _
  rw [writtenString, if_neg (by rwa [Option.isNone_iff_eq_none])]

theorem readsBack_of_isWord (hs : v.written = .ok s) (hw : IsWord s.toList)
    (ht : ∀ c ∈ s.toList, isBarePart c = true) (hv : (Literal.ofWord s).toValue = v) : v.ReadsBack := by
  have hread : readLiteral (.start s) = _ := readLiteral_isWord hw ht rfl
  rw [String.ofList_toList] at hread
  exact readsBack_of_ahead hs hread hv List.drop_length

theorem isWord_of_readsBack_bare (hw : isBareWord s.toList = true) (hwritten : (string s).written = .ok s)
    (h : (string s).ReadsBack) : IsWord s.toList := by
  obtain ⟨s', hs', l, d, h, _, _, hd⟩ := h
  obtain rfl := Except.ok.inj (hwritten.symm.trans hs')
  have ht := isBarePart_of_isBareWord hw
  have hahead : (Cursor.start s).ahead = s.toList := rfl
  cases hs : s.toList with
  | nil =>
      rw [hs] at hw
      cases hw
  | cons x rest =>
      rw [hs] at hw hahead ht
      by_cases hstart : isNameStart x = true
      · rw [readLiteral_word hahead hstart, hahead] at h
        cases h
        have hdrop : (x :: rest).drop (nameRun true (x :: rest)).length = [] := hahead ▸ hd
        have hrun := nameRun_prefix.eq_of_length_le (List.drop_eq_nil_iff.1 hdrop)
        exact ⟨⟨x, rfl, hstart⟩, (nameRun_eq_self ht).1 hrun⟩
      · simp only [isBareWord, Bool.and_eq_true, Bool.or_eq_true, Bool.not_eq_true', beq_iff_eq] at hw
        rcases hw.1.1 with halphanumeric | rfl
        · exact absurd h (readLiteral_numeral hahead halphanumeric (Bool.eq_false_iff.2 hstart) hw.1.2)
        · exact absurd (by decide +kernel) hstart

/-- What is written bare is read back if the reader finds a word in it. -/
theorem readsBack_bare (hw : isBareWord s.toList = true) (hr : Literal.reserved.lookup s = Option.none) :
    (string s).ReadsBack ↔ IsWord s.toList := by
  have hwritten := written_bare hw hr
  refine ⟨isWord_of_readsBack_bare hw hwritten, fun h => ?_⟩
  refine readsBack_of_isWord hwritten h (isBarePart_of_isBareWord hw) ?_
  rw [Literal.ofWord, hr]
  rfl

theorem readsBack_quoted (hw : (string s).written = .ok (.ofList (quotedText s.toList))) :
    (string s).ReadsBack ↔ '\n' ∉ s.toList := by
  have htext : (String.ofList (quotedText s.toList)).toList = quotedText s.toList := String.toList_ofList
  constructor
  · rintro ⟨written, hs, l, d, h, _⟩ hline
    obtain rfl := Except.ok.inj (hw.symm.trans hs)
    have hahead : (Cursor.start (.ofList (quotedText s.toList))).ahead = quotedText s.toList := htext
    have hskip : (Cursor.start (.ofList (quotedText s.toList))).skip 1 =
        ⟨0 + 1, (quotedText s.toList).drop 1, some 0⟩ := by
      rw [Cursor.skip, hahead]
      rfl
    rw [readLiteral, peek_bind_head hahead (by decide), if_neg (by decide +kernel), if_pos (by decide), skip_bind,
      hskip] at h
    obtain ⟨t, e, ht, _⟩ := bind_eq_ok.1 h
    obtain ⟨body, read, behind, hbody, hbreaks, hbody'⟩ := breaks_of_newline ['"'] hline
    obtain ⟨_, _, herror, _⟩ := readQuoted_of_breaks (by decide) hbody (c := ⟨0 + 1, _, some 0⟩) hbody' hbreaks
    cases ht.symm.trans herror
  · intro hline
    exact readsBack_of_yields hw (htext.trans (quotedText_eq hline)) (yields_string ⟨[], isGap_nil⟩)

theorem isNamePart_of_reserved (h : Literal.reserved.lookup s = some l) :
    (∃ c ∈ s.toList.head?, isNameStart c = true) ∧ ∀ c ∈ s.toList, isNamePart c = true := by
  have hall : ∀ e ∈ Literal.reserved, (e.1.toList.head?.any isNameStart && e.1.toList.all isNamePart) = true := by
    decide +kernel
  have hs := hall (s, l) (mem_of_lookup h)
  rw [Bool.and_eq_true, List.all_eq_true] at hs
  exact ⟨(Option.any_eq_true _ _).1 hs.1, hs.2⟩

theorem isWord_of_reserved (h : Literal.reserved.lookup s = some l) : IsWord s.toList := by
  obtain ⟨hstart, hpart⟩ := isNamePart_of_reserved h
  refine ⟨hstart, fun rest hsuffix => ?_⟩
  have hcolon := hpart ':' (hsuffix.subset List.mem_cons_self)
  rw [not_isNamePart_colon] at hcolon
  cases hcolon

theorem readsBack_reserved (hs : v.written = .ok s) (h : Literal.reserved.lookup s = some l) (hv : l.toValue = v) :
    v.ReadsBack := by
  refine readsBack_of_isWord hs (isWord_of_reserved h) (fun c hc => ?_) ?_
  · exact isBarePart_iff.2 (.inl ((isNamePart_of_reserved h).2 c hc))
  · rw [Literal.ofWord, h]
    exact hv

theorem readsBack_string : (string s).ReadsBack ↔ '\n' ∉ s.toList ∧ (isBareWord s.toList = true → IsWord s.toList) := by
  by_cases hbare : isBareWord s.toList = true ∧ Literal.reserved.lookup s = Option.none
  · rw [readsBack_bare hbare.1 hbare.2]
    exact ⟨fun h => ⟨newline_notMem_of_isBareWord hbare.1, fun _ => h⟩, fun h => h.2 hbare.1⟩
  · rw [readsBack_quoted (written_quoted hbare)]
    refine ⟨fun h => ⟨h, fun hw => ?_⟩, And.left⟩
    cases hr : Literal.reserved.lookup s with
    | none => exact absurd ⟨hw, hr⟩ hbare
    | some l => exact isWord_of_reserved hr

theorem readsBack_integer {i : Int} (h : -0x8000000000000000 ≤ i ∧ i < 0x8000000000000000) : (integer i).ReadsBack := by
  have hread : Yields readLiteral (decimalText i) [] fun l => l.toValue = integer i :=
    Plain.yields_readLiteral (q := .double) (.integer i h) ⟨[], isGap_nil⟩ (by simp [Delimited])
  obtain ⟨written, hwritten⟩ := noText_integerText.exists_ok (not_tooLong_of_range h)
  have hshown : (integer i).written = integerText i := by
    change (integer i).shown = integerText i
    rw [shown, shownAs]
  refine readsBack_of_yields (hshown.trans hwritten) ?_ hread
  rw [text_of_integerText hwritten, toList_toString_int]

/-- Exactly those strings are not read back that hold the end of a line, or are written bare without being words. -/
theorem readsBack_iff (hv : v.Exact) :
    v.ReadsBack ↔ ∀ s, v = string s → '\n' ∉ s.toList ∧ (isBareWord s.toList = true → IsWord s.toList) := by
  cases hv with
  | boolean b =>
      refine iff_of_true ?_ nofun
      cases b <;> exact readsBack_reserved rfl rfl rfl
  | plain _ h =>
      cases h with
      | none => exact iff_of_true (readsBack_reserved rfl rfl rfl) nofun
      | integer i h => exact iff_of_true (readsBack_integer h) nofun
      | string s =>
          rw [readsBack_string]
          constructor
          · rintro h _ hs
            obtain rfl := string.inj hs
            exact h
          · exact fun h => h s rfl

/-- A word with a colon in it, and a string with marks that are escaped. -/
theorem readsBack_word : (string "side:left").ReadsBack ∧ (string "a \"b\\").ReadsBack := by
  have hparts : ∀ c ∈ "side:left".toList, isBarePart c = true := List.all_eq_true.1 (by decide +kernel)
  have hword : IsWord "side:left".toList :=
    ⟨⟨'s', rfl, by decide +kernel⟩, (nameRun_eq_self hparts).1 (by decide +kernel)⟩
  constructor
  · refine (readsBack_iff (.plain _ (.string _))).2 fun s hs => ?_
    obtain rfl := string.inj hs
    exact ⟨by decide, fun _ => hword⟩
  · refine (readsBack_iff (.plain _ (.string _))).2 fun s hs => ?_
    obtain rfl := string.inj hs
    exact ⟨by decide, fun h => absurd h (by decide +kernel)⟩

/-- The end of a line, a colon at the end, and a numeral at the start. -/
theorem not_readsBack_strings :
    ¬(string "a\nb").ReadsBack ∧ ¬(string "a:").ReadsBack ∧ ¬(string "²").ReadsBack := by
  refine ⟨?_, ?_, ?_⟩
  · rintro ⟨written, hs, l, d, h, _⟩
    obtain rfl : "\"a\nb\"" = written := Except.ok.inj ((by with_unfolding_all rfl : _ = _).trans hs)
    have hread : readLiteral (.start "\"a\nb\"") =
        .error ⟨.lineEnds "\"", 0⟩ ⟨2, "\nb\"".toList, some 0⟩ := by
      with_unfolding_all rfl
    rw [hread] at h
    cases h
  · rintro ⟨written, hs, l, d, h, _, _, hd⟩
    obtain rfl : "a:" = written := Except.ok.inj ((by with_unfolding_all rfl : _ = _).trans hs)
    have hread : readLiteral (.start "a:") = .ok (.string "a") ⟨1, [':'], some 0⟩ := by
      with_unfolding_all rfl
    rw [hread] at h
    cases h
    cases hd
  · rintro ⟨written, hs, l, d, h, _⟩
    obtain rfl : "²" = written := Except.ok.inj ((by with_unfolding_all rfl : _ = _).trans hs)
    have hread : readLiteral (.start "²") =
        .error ⟨.literalExpected '²', 0⟩ ⟨0, ['²'], some 0⟩ := by
      with_unfolding_all rfl
    rw [hread] at h
    cases h

end Value

end Prompter
