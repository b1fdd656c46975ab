import Prompter.Proofs.Interpreter.Failures

namespace Prompter

namespace Text

variable {text lead rest : List Char} {c : Char} {p n : Nat}

def Newlines (text : List Char) : Prop := ∀ c ∈ text, isLineBreak c = true → c = '\n'

instance (text : List Char) : Decidable (Newlines text) :=
  decidable_of_iff (text.all fun c => isLineBreak c → c = '\n')
    (by simp only [List.all_eq_true, decide_eq_true_eq, Newlines])

def lineStart (text : List Char) (p : Nat) : Nat := p + 1 - (place text p).2

theorem lines_cons (hc : c ≠ '\r') :
    lines (c :: rest) =
      if isLineBreak c then [] :: lines rest
      else match lines rest with
        | [] => [[c]]
        | line :: others => (c :: line) :: others := by
  rw [lines, linesBetween]
  · rfl
  · rintro rest rfl
    exact absurd rfl hc

theorem lines_of_break (hc : c ≠ '\r') (hbreak : isLineBreak c = true) : lines (c :: rest) = [] :: lines rest := by
  rw [lines_cons hc, if_pos hbreak]

theorem lines_of_char {line : List Char} {others : List (List Char)} (hc : isLineBreak c = false)
    (hrest : lines rest = line :: others) : lines (c :: rest) = (c :: line) :: others := by
  have hr : c ≠ '\r' := by
    rintro rfl
    exact absurd hc (by decide)
  rw [lines_cons hr, if_neg (by simp [hc]), hrest]

theorem exists_lines (hr : '\r' ∉ text) (h : text ≠ []) :
    ∃ others, lines text = text.takeWhile (!isLineBreak ·) :: others := by
  induction text with
  | nil => exact absurd rfl h
  | cons c rest ih =>
      obtain ⟨hc, hrest⟩ : '\r' ≠ c ∧ '\r' ∉ rest := by simpa using hr
      by_cases hbreak : isLineBreak c = true
      · rw [lines_of_break hc.symm hbreak, List.takeWhile_cons_of_neg (by simp [hbreak])]
        exact ⟨_, rfl⟩
      · have hchar : isLineBreak c = false := by simpa using hbreak
        rw [List.takeWhile_cons_of_pos (by simp [hchar])]
        by_cases hnil : rest = []
        · subst hnil
          exact ⟨[], by simp [hchar, lines, linesBetween]⟩
        · obtain ⟨others, hlines⟩ := ih hrest hnil
          exact ⟨others, lines_of_char hchar hlines⟩

theorem lines_append (hr : '\r' ∉ lead) (hlast : ∀ x ∈ lead.getLast?, x = '\n') :
    lines (lead ++ rest) = lines lead ++ lines rest := by
  induction lead with
  | nil => rfl
  | cons c lead ih =>
      obtain ⟨hc, hlead⟩ : '\r' ≠ c ∧ '\r' ∉ lead := by simpa using hr
      by_cases hnil : lead = []
      · subst hnil
        obtain rfl : c = '\n' := hlast c rfl
        rfl
      · have hall := ih hlead fun x hx => hlast x (by rwa [List.getLast?_cons_of_ne_nil hnil])
        by_cases hbreak : isLineBreak c = true
        · rw [List.cons_append, lines_of_break hc.symm hbreak, lines_of_break hc.symm hbreak, hall, List.cons_append]
        · have hchar : isLineBreak c = false := by simpa using hbreak
          obtain ⟨others, hlines⟩ := exists_lines hlead hnil
          rw [hlines, List.cons_append] at hall
          rw [List.cons_append, lines_of_char hchar hall, lines_of_char hchar hlines, List.cons_append]

theorem count_of_char (hc : isLineBreak c = false) : (c :: rest).count '\n' = rest.count '\n' := by
  refine List.count_cons_of_ne ?_
  rintro rfl
  exact absurd hc (by decide)

/-- Each newline ends a line; where there are no other separators, nothing else does. -/
theorem count_le_length_lines (hr : '\r' ∉ text) : text.count '\n' ≤ (lines text).length := by
  induction text with
  | nil => simp
  | cons c rest ih =>
      obtain ⟨hc, hrest⟩ : '\r' ≠ c ∧ '\r' ∉ rest := by simpa using hr
      have hle := ih hrest
      by_cases hbreak : isLineBreak c = true
      · rw [lines_of_break hc.symm hbreak, List.length_cons, List.count_cons]
        split <;> omega
      · have hchar : isLineBreak c = false := by simpa using hbreak
        rw [count_of_char hchar]
        by_cases hnil : rest = []
        · simp [hnil]
        · obtain ⟨others, hlines⟩ := exists_lines hrest hnil
          rw [hlines] at hle
          rwa [lines_of_char hchar hlines]

theorem length_lines (hr : '\r' ∉ text) (hlast : ∀ x ∈ text.getLast?, x = '\n') (h : Newlines text) :
    (lines text).length = text.count '\n' := by
  induction text with
  | nil => rfl
  | cons c rest ih =>
      obtain ⟨hc, hrest⟩ : '\r' ≠ c ∧ '\r' ∉ rest := by simpa using hr
      obtain ⟨hfirst, hothers⟩ := List.forall_mem_cons.1 h
      by_cases hnil : rest = []
      · subst hnil
        obtain rfl : c = '\n' := hlast c rfl
        rfl
      · have hlength := ih hrest (fun x hx => hlast x (by rwa [List.getLast?_cons_of_ne_nil hnil])) hothers
        by_cases hbreak : isLineBreak c = true
        · obtain rfl := hfirst hbreak
          rw [lines_of_break hc.symm hbreak, List.length_cons, List.count_cons_self, hlength]
        · have hchar : isLineBreak c = false := by simpa using hbreak
          obtain ⟨others, hlines⟩ := exists_lines hrest hnil
          rw [hlines] at hlength
          rwa [lines_of_char hchar hlines, count_of_char hchar]

theorem exists_place (hp : p < text.length) :
    ∃ lead seg c tail, text = lead ++ (seg ++ c :: tail) ∧ p = lead.length + seg.length ∧ '\n' ∉ seg ∧
      (∀ x ∈ lead.getLast?, x = '\n') ∧ place text p = (lead.count '\n' + 1, seg.length + 1) := by
  let before := text.take p
  let lead := (before.reverse.dropWhile (· ≠ '\n')).reverse
  have hsplit : before = lead ++ lastLine before := by
    rw [lastLine, ← List.reverse_append, List.takeWhile_append_dropWhile, List.reverse_reverse]
  have hseg : '\n' ∉ lastLine before := by
    intro hmem
    exact absurd (List.mem_takeWhile_imp (List.mem_reverse.1 hmem)) (by decide)
  have hlength : p = lead.length + (lastLine before).length := by
    rw [← List.length_append, ← hsplit, List.length_take_of_le hp.le]
  refine ⟨lead, lastLine before, text[p], text.drop (p + 1), ?_, hlength, hseg, ?_, ?_⟩
  · rw [← List.drop_eq_getElem_cons hp, ← List.append_assoc, ← hsplit, List.take_append_drop]
  · intro x hx
    rw [List.getLast?_reverse] at hx
    have hhead := List.head?_dropWhile_not (· ≠ '\n') before.reverse
    rw [hx] at hhead
    simpa using hhead
  · have hcount : before.count '\n' = lead.count '\n' := by
      rw [congrArg (List.count '\n') hsplit, List.count_append, List.count_eq_zero.2 hseg, Nat.add_zero]
    have hbefore : before.length = p := List.length_take_of_le hp.le
    rw [place, show text.take p = before from rfl, hcount]
    congr 1
    omega

theorem subset_of_mem_lines (hr : '\r' ∉ text) {line : List Char} (hline : line ∈ lines text) : line ⊆ text := by
  induction text generalizing line with
  | nil => cases hline
  | cons c rest ih =>
      obtain ⟨hc, hrest⟩ : '\r' ≠ c ∧ '\r' ∉ rest := by simpa using hr
      have hothers : ∀ line ∈ lines rest, line ⊆ c :: rest := fun line h => List.subset_cons_of_subset c (ih hrest h)
      by_cases hbreak : isLineBreak c = true
      · rw [lines_of_break hc.symm hbreak] at hline
        rcases List.mem_cons.1 hline with rfl | hline
        · exact List.nil_subset _
        · exact hothers line hline
      · by_cases hnil : rest = []
        · subst hnil
          obtain rfl : line = [c] := by simpa [hbreak, lines, linesBetween] using hline
          exact List.Subset.refl _
        · obtain ⟨others, hlines⟩ := exists_lines hrest hnil
          rw [lines_of_char (by simpa using hbreak) hlines] at hline
          rw [hlines] at hothers
          rcases List.mem_cons.1 hline with rfl | hline
          · exact List.cons_subset_cons c (ih hrest (hlines ▸ List.mem_cons_self))
          · exact hothers line (List.mem_cons_of_mem _ hline)

theorem getElem?_takeWhile {f : Char → Bool} {front tail : List Char} {c : Char} (h : ∀ x ∈ front ++ [c], f x = true) :
    ((front ++ c :: tail).takeWhile f)[front.length]? = some c := by
  rw [List.append_cons, List.takeWhile_append_of_pos h]
  simp

theorem length_takeWhile_le {f : Char → Bool} {front tail : List Char} {c : Char}
    (h : ¬∀ x ∈ front ++ [c], f x = true) : ((front ++ c :: tail).takeWhile f).length ≤ front.length := by
  by_contra hlong
  have hlength : (front ++ [c]).length ≤ ((front ++ c :: tail).takeWhile f).length := by
    rw [List.length_append]
    exact Nat.lt_of_not_le hlong
  have hfront : front ++ [c] <+: (front ++ c :: tail).takeWhile f := by
    refine List.prefix_of_prefix_length_le ?_ (List.takeWhile_prefix _) hlength
    rw [List.append_cons front c tail]
    exact List.prefix_append _ _
  exact h fun x hx => List.mem_takeWhile_imp (hfront.subset hx)

/-- The line that a place is looked up at: newlines as the only separators up to the place make it the line of the
offset; if others stand on that line first, it ends in front of the column. -/
theorem exists_line (hr : '\r' ∉ text) (hp : p < text.length) (hc : text[p]? ≠ some '\n') :
    ∃ shown, (lines text)[(place text p).1 - 1]? = some shown ∧
      (Newlines (text.take (p + 1)) → shown[(place text p).2 - 1]? = text[p]?) ∧
      (Newlines (text.take (lineStart text p)) → ¬Newlines (text.take (p + 1)) → shown.length < (place text p).2) := by
  obtain ⟨lead, seg, c, tail, rfl, rfl, hseg, hlast, hplace⟩ := exists_place hp
  have hstart : lineStart (lead ++ (seg ++ c :: tail)) (lead.length + seg.length) = lead.length := by
    rw [lineStart, hplace]
    omega
  have hupto : (lead ++ (seg ++ c :: tail)).take (lead.length + seg.length + 1) = lead ++ (seg ++ [c]) := by
    rw [Nat.add_assoc, List.take_length_add_append, List.take_length_add_append]
    rfl
  have hchar : (lead ++ (seg ++ c :: tail))[lead.length + seg.length]? = some c := by simp
  obtain ⟨hlead, hrest⟩ : '\r' ∉ lead ∧ '\r' ∉ seg ++ c :: tail := by simpa using hr
  obtain ⟨others, hlines⟩ := exists_lines hrest (by simp)
  rw [lines_append hlead hlast, hlines, hplace, hstart, hupto, List.take_left, hchar]
  rw [hchar] at hc
  simp only [Nat.add_sub_cancel]
  -- Separators other than newlines move the line that is found; it is found all the same.
  have hfound : ∃ shown, (lines lead ++ (seg ++ c :: tail).takeWhile (!isLineBreak ·) :: others)[lead.count '\n']? =
      some shown := by
    have hle := count_le_length_lines hlead
    refine ⟨_, List.getElem?_eq_getElem ?_⟩
    rw [List.length_append, List.length_cons]
    omega
  obtain ⟨shown, hline⟩ := hfound
  have hfirst : Newlines lead → shown = (seg ++ c :: tail).takeWhile (!isLineBreak ·) := by
    intro h
    rw [← length_lines hlead hlast h, List.getElem?_append_right le_rfl, Nat.sub_self] at hline
    exact (Option.some.inj hline).symm
  refine ⟨shown, hline, fun h => ?_, fun hbefore h => ?_⟩
  · rw [hfirst fun x hx => h x (List.mem_append_left _ hx)]
    refine getElem?_takeWhile fun x hx => ?_
    have hne : x ≠ '\n' := by
      rintro rfl
      rcases List.mem_append.1 hx with hx | hx
      · exact hseg hx
      · exact hc (by rw [List.mem_singleton.1 hx])
    simpa using mt (h x (List.mem_append_right _ hx)) hne
  · rw [hfirst hbefore]
    refine Nat.lt_succ_of_le (length_takeWhile_le fun hkept => h fun x hx => ?_)
    rcases List.mem_append.1 hx with hx | hx
    · exact hbefore x hx
    · intro hbreak
      simpa [hbreak] using hkept x hx

end Text

/-- A console drops no character of the text. -/
def StyledText.Kept (text : List Char) : Prop := ∀ c ∈ text, isDropped c = false

instance (text : List Char) : Decidable (StyledText.Kept text) :=
  decidable_of_iff (text.all (!StyledText.isDropped ·))
    (by simp only [List.all_eq_true, Bool.not_eq_true', StyledText.Kept])

def Rendering.rows : Rendering → List Rendering
  | group items => items
  | panel body _ => body.rows
  | rendering => [rendering]

def Rendering.caretLine (column : Nat) : List Char := List.replicate (column - 1) ' ' ++ ['^']

/-- The rendering shows the line, and below it a caret under the column. -/
def Rendering.Underlines (rendering : Rendering) (line : List Char) (column : Nat) : Prop :=
  ∃ source caret : StyledText, [.text source, .text caret] <:+: rendering.rows ∧ source.plain = line ∧
    caret.plain = caretLine column

namespace Fault

open Text Rendering

variable {f : Fault} {host : Host} {source : Source} {p : Nat} {line : List Char}

theorem plain_fragment (style : String) (h : StyledText.Kept line) :
    (StyledText.fragment (.ofList line) style).plain = line := by
  rw [StyledText.fragment]
  split
  · next hempty =>
      have hline : line = [] := by simpa using hempty
      rw [hline]
      rfl
  · rw [StyledText.of, String.toList_ofList, List.filter_eq_self]
    exact fun c hc => by rw [h c hc, Bool.not_false]

theorem caretAt_natCast {column : Nat} (hcolumn : 1 ≤ column) (hlimit : column < lineLimit) :
    caretAt (.integer column) = .ok (.ofList (caretLine column)) := by
  have hspaces : ((column : Int) - 1).toNat = column - 1 := by omega
  rw [caretAt_of_pos (by omega) (by omega), hspaces, caretLine]

theorem linePlace_natCast {n count : Nat} (hn : 1 ≤ n) (hle : n ≤ count) :
    linePlace count (.integer n) = .ok (some (n - 1)) := by
  rw [linePlace, if_neg (by omega), if_pos (by omega)]
  congr 2
  omega

theorem pointer_of_line {n column : Nat} {text : String} (hn : 1 ≤ n)
    (hline : (lines text.toList)[n - 1]? = some line) (hcolumn : 1 ≤ column) (hlimit : column < lineLimit) :
    pointer (.string text) (.integer n) (.integer column) =
      .ok [(.ofList line, "source"), (.ofList (caretLine column), "caret")] := by
  obtain ⟨hlength, _⟩ := List.getElem?_eq_some_iff.1 hline
  have hplace : linePlace ((lines text.toList).map String.ofList).length (.integer n) = .ok (some (n - 1)) := by
    rw [List.length_map]
    exact linePlace_natCast hn (by omega)
  have hnonempty : ((lines text.toList).map String.ofList).isEmpty = false := by
    simpa using List.ne_nil_of_length_pos (Nat.zero_lt_of_lt hlength)
  have hfound : ((lines text.toList).map String.ofList)[n - 1]? = some (.ofList line) := by
    rw [List.getElem?_map, hline]
    rfl
  simp only [pointer, linesOf, bind, Except.bind, hnonempty, Bool.false_eq_true, if_false, hplace, Option.bind_some,
    hfound, caretAt_natCast hcolumn hlimit]
  rfl

theorem placed_natCast (f : Fault) (source : Source) (p : Nat) :
    (f.placed source p).line = .integer (place source.text.toList p).1 ∧
      (f.placed source p).column = .integer (place source.text.toList p).2 := by
  simp only [placed, placeOf_natCast, and_self]

theorem describe_placed (f : Fault) (source : Source) (hline : ¬TooLong (place source.text.toList p).1)
    (hlimit : (place source.text.toList p).2 < lineLimit) : ∃ s, (f.placed source p).describe = .ok s := by
  obtain ⟨hplaceLine, hplaceColumn⟩ := placed_natCast f source p
  simp only [lineLimit] at hlimit
  exact exists_describe rfl hplaceLine hplaceColumn hline (not_tooLong_of_range (by omega))

theorem pointerLines_placed (host : Host) (f : Fault)
    (hline : (lines source.text.toList)[(place source.text.toList p).1 - 1]? = some line)
    (hlimit : (place source.text.toList p).2 < lineLimit) :
    (f.placed source p).pointerLines host =
      .ok [.fragment (.ofList line) (((f.placed source p).brush host).style "source"),
        .fragment (.ofList (caretLine (place source.text.toList p).2))
          (((f.placed source p).brush host).style "caret")] := by
  obtain ⟨hfirst, hleft⟩ := place_pos source.text.toList p
  obtain ⟨hplaceLine, hplaceColumn⟩ := placed_natCast f source p
  have htruth : ((f.placed source p).line.truth && (f.placed source p).column.truth) = true := by
    simp only [hplaceLine, hplaceColumn, Value.truth, Bool.and_eq_true, bne_iff_ne]
    omega
  have hpointer := pointer_of_line hfirst hline hleft hlimit
  rw [← hplaceLine, ← hplaceColumn] at hpointer
  rw [pointerLines, htruth]
  change (pointer (.string source.text) _ _ >>= _) = _
  rw [hpointer]
  rfl

theorem rows_of_pointerLines {message : String} {shown caret : StyledText} (hwords : f.HasWords)
    (hdescribe : f.describe = .ok message) (hlines : f.pointerLines host = .ok [shown, caret]) :
    ∃ rendering, f.rendering host = .ok rendering ∧ [.text shown, .text caret] <:+: rendering.rows := by
  obtain ⟨header, hheader⟩ := hwords.header host
  obtain ⟨hint, hhint⟩ := hwords.hintLine host
  rw [rendering, hheader, hdescribe, hlines, hhint]
  by_cases hfancy : f.presentation.fancy = true
  · refine ⟨_, rfl, ?_⟩
    rw [if_pos hfancy]
    exact ⟨[_], _, rfl⟩
  · refine ⟨_, rfl, ?_⟩
    rw [if_neg hfancy]
    exact ⟨[_, _], _, rfl⟩

/-- A fault with words that is placed at a character which is no newline shows a line with a caret under the column. The
caret is under the character when newlines are the only separators up to there. When others stand on its line first,
the line that is shown ends in front of the caret. -/
theorem rendering_placed (host : Host) (f : Fault) (hwords : f.HasWords) (hp : p < source.text.toList.length)
    (hnewline : source.text.toList[p]? ≠ some '\n') (hkept : StyledText.Kept source.text.toList)
    (hlineText : ¬TooLong (place source.text.toList p).1) (hlimit : (place source.text.toList p).2 < lineLimit) :
    ∃ rendering shown, (f.placed source p).rendering host = .ok rendering ∧
      rendering.Underlines shown (place source.text.toList p).2 ∧
      (Newlines (source.text.toList.take (p + 1)) →
        shown[(place source.text.toList p).2 - 1]? = source.text.toList[p]?) ∧
      (Newlines (source.text.toList.take (lineStart source.text.toList p)) →
        ¬Newlines (source.text.toList.take (p + 1)) → shown.length < (place source.text.toList p).2) := by
  have hr : '\r' ∉ source.text.toList := fun hmem => absurd (hkept _ hmem) (by decide)
  obtain ⟨shown, hline, hpoints, hmisses⟩ := exists_line hr hp hnewline
  have hsource : StyledText.Kept shown := fun c hc =>
    hkept c (subset_of_mem_lines hr (List.mem_of_getElem? hline) hc)
  have hcaret : StyledText.Kept (caretLine (place source.text.toList p).2) := by
    intro c hc
    rcases List.mem_append.1 hc with hc | hc
    · obtain rfl := List.eq_of_mem_replicate hc
      decide
    · obtain rfl := List.mem_singleton.1 hc
      decide
  obtain ⟨message, hmessage⟩ := describe_placed f source hlineText hlimit
  have hplaced : (f.placed source p).HasWords := ⟨hwords.title, hwords.hint⟩
  obtain ⟨rendering, hrendering, hrows⟩ :=
    rows_of_pointerLines hplaced hmessage (pointerLines_placed host f hline hlimit)
  refine ⟨rendering, shown, hrendering, ⟨_, _, hrows, ?_, ?_⟩, hpoints, hmisses⟩
  · exact plain_fragment _ hsource
  · exact plain_fragment _ hcaret

/-- A value that is no choice, on the second line. -/
theorem rendering_placed_paint :
    ∃ (r : Repository) (text : String) (f : Fault) (rendering : Rendering) (shown : List Char),
      text = "'paint'\n  'lamp'" ∧ painter.parse r (.string text) (.string "<prompt>") = .error (.fault f) ∧
      (f.line, f.column) = (.integer 2, .integer 3) ∧ f.rendering {} = .ok rendering ∧ rendering.Underlines shown 3 ∧
      shown[2]? = text.toList[10]? := by
  let source : Source := ⟨"'paint'\n  'lamp'", "<prompt>"⟩
  let f : Fault := .hinted source (.noChoice ⟨"what", .choice, false, .none, none, "shape"⟩ "lamp" ["box", "disc"]) 10
    "expected one of: box, disc"
  have hp : painter.parse ⟨[("paint", paint)]⟩ (.string "'paint'\n  'lamp'") (.string "<prompt>") =
      .error (.fault f) := by
    with_unfolding_all rfl
  have hplace : place source.text.toList 10 = (2, 3) := by decide
  obtain ⟨hline, hcolumn⟩ : f.line = .integer _ ∧ f.column = .integer _ := placed_natCast f source 10
  rw [hplace] at hline hcolumn
  have hnewlines : Newlines (source.text.toList.take 11) := by decide
  obtain ⟨rendering, shown, hrendering, hunderlines, hpoints, _⟩ :
      ∃ rendering shown, (f.placed source (10 : Nat)).rendering {} = .ok rendering ∧ _ :=
    rendering_placed {} f ⟨⟨_, rfl⟩, ⟨_, rfl⟩⟩ (by decide) (by decide) (by decide)
      (not_tooLong_of_range (by rw [hplace]; decide)) (by decide)
  rw [hplace] at hunderlines hpoints
  exact ⟨_, _, f, rendering, shown, rfl, hp, by rw [hline, hcolumn]; rfl, hrendering, hunderlines, hpoints hnewlines⟩

/-- A separator in front of what is no name: the line that is shown is empty, and the caret stands past its end. -/
theorem not_underlines_separator :
    ∃ (f : Fault) (rendering : Rendering),
      painter.parse {} (.string "\u2028!") (.string "<prompt>") = .error (.fault f) ∧
      f = f.placed ⟨"\u2028!", "<prompt>"⟩ 1 ∧ (place "\u2028!".toList 1).2 = 2 ∧ "\u2028!".toList[1]? = some '!' ∧
      StyledText.Kept "\u2028!".toList ∧ f.rendering {} = .ok rendering ∧
      ¬∃ shown, rendering.Underlines shown 2 ∧ shown[1]? = some '!' := by
  let f : Fault := .hinted ⟨"\u2028!", "<prompt>"⟩ (.nameExpected '!') 1
    "names start with a letter, '_', '$', '@' or '.', or are quoted"
  have hp : painter.parse {} (.string "\u2028!") (.string "<prompt>") = .error (.fault f) := by
    with_unfolding_all rfl
  have hdescribe : f.describe = .ok "<prompt>:1:2: identifier expected" := by
    with_unfolding_all rfl
  have hlines : f.pointerLines {} = .ok [⟨[], "", []⟩, ⟨[' ', '^'], "", []⟩] := by
    with_unfolding_all rfl
  obtain ⟨header, hheader⟩ : ∃ header, f.header {} = .ok header := ⟨_, rfl⟩
  obtain ⟨hint, hhint⟩ : ∃ hint, f.hintLine {} = .ok [hint] := ⟨_, by with_unfolding_all rfl⟩
  let message : StyledText := .of "<prompt>:1:2: identifier expected" ""
  have hrendering : f.rendering {} = .ok (.group
      [.text header, .text message, .text ⟨[], "", []⟩, .text ⟨[' ', '^'], "", []⟩, .text hint]) := by
    rw [rendering, hheader, hdescribe, hlines, hhint]
    rfl
  refine ⟨f, _, hp, rfl, by decide, by decide, by decide, hrendering, ?_⟩
  rintro ⟨shown, ⟨source, caret, ⟨before, after, hrows⟩, rfl, hcaret⟩, hpoints⟩
  have hmessage : message.plain ≠ caretLine 2 := by decide
  -- No two rows that follow each other are the line and the caret.
  rcases before with _ | ⟨_, _ | ⟨_, _ | ⟨_, _ | ⟨_, before⟩⟩⟩⟩
  · cases hrows
    exact hmessage hcaret
  · cases hrows
    cases hcaret
  · cases hrows
    cases hpoints
  · cases hrows
    cases hpoints
  · have hlength := congrArg List.length hrows
    simp only [Rendering.rows, List.length_append, List.length_cons, List.length_nil] at hlength
    omega

end Fault

end Prompter
