import Prompter.Interpreter.Basic
import Prompter.Proofs.Bounds
import Prompter.Proofs.Literal.Extent
import Prompter.Proofs.Prompt.Meaning
import Prompter.Proofs.Scheme.Writing

namespace Prompter

open Text Reader

instance (gap : List Char) : Decidable (IsGap gap) := decidable_of_iff (gap.all isBlank = true) List.all_eq_true

def Gap.nothing : Gap := ⟨[], isGap_nil⟩

def Gap.space : Gap := ⟨[' '], by decide⟩

/-- A text that is read as one name, to its end. -/
structure NameWritten (name : String) (text : List Char) : Prop where
  head : ∀ c ∈ text.head?, isBlank c = false
  reads : Reads (readName true) text [] name

structure Literal.Written (l : Literal) (text : List Char) : Prop where
  head : ∀ c ∈ text.head?, isBlank c = false
  reads : Reads readLiteral text [] l

inductive Given.Written : Given → List Char → Prop
  | plain {l : Literal} {text : List Char} (h : l.Written text) : Written (.plain l) text
  | bare : Written (.relative none) ['~']
  | relative {l : Literal} {text : List Char} (h : l.Written text) : Written (.relative (some l)) ('~' :: text)

inductive Item.Written : Item → List Char → Prop
  | ordered {given : Given} {text : List Char} (h : given.Written text) : Written (.ordered given) text
  | named {key : Literal} {given : Given} {keyText text : List Char} (hkey : key.Written keyText) (before behind : Gap)
      (h : given.Written text) : Written (.named key given) (keyText ++ (before.text ++ '=' :: (behind.text ++ text)))

namespace Prompt

/-- Items, each with white space behind it; behind the last one there may be none. -/
inductive ItemsWritten : List Item → List Char → Prop
  | nil : ItemsWritten [] []
  | cons {item : Item} {items : List Item} {text rest : List Char} (h : item.Written text) (gap : Gap)
      (hgap : gap.text = [] → items = []) (hrest : ItemsWritten items rest) :
      ItemsWritten (item :: items) (text ++ (gap.text ++ rest))

inductive Written (name : String) (items : List Item) : List Char → Prop
  | intro {nameText rest : List Char} (before : Gap) (hname : NameWritten name nameText) (gap : Gap)
      (hgap : gap.text = [] → items = []) (hrest : ItemsWritten items rest) :
      Written name items (before.text ++ (nameText ++ (gap.text ++ rest)))

end Prompt

namespace Reader

variable {α β : Type} {r : Reader α} {f : α → Reader β} {a : α} {b : β} {text text' rest : List Char}

/-- Wherever it starts, the reader takes exactly the text in front of the rest and yields `a`. -/
def Takes (r : Reader α) (text rest : List Char) (a : α) : Prop :=
  ∀ c : Cursor, c.ahead = text ++ rest → ∃ d : Cursor, r c = .ok a d ∧ d.ahead = rest

theorem Reads.takes (h : Reads r text rest a) : Takes r text rest a := by
  rintro ⟨offset, ahead, mark⟩ rfl
  obtain ⟨_, offset', ha, rfl⟩ := h offset mark
  exact ⟨_, ha, rfl⟩

end Reader

variable {l : Literal} {given : Given} {item : Item} {items : List Item} {name : String} {text rest : List Char}

def Spaced (rest : List Char) : Prop := ∀ c ∈ rest.head?, isBlank c = true

theorem Spaced.bounded (h : Spaced rest) : Bounded rest := fun c hc => .inl (h c hc)

theorem Gap.head?_append (gap : Gap) {c : Char} (h : c ∈ (gap.text ++ rest).head?) :
    isBlank c = true ∨ gap.text = [] ∧ c ∈ rest.head? := by
  cases hg : gap.text with
  | nil => exact .inr ⟨rfl, by simpa [hg] using h⟩
  | cons d text =>
      rw [hg] at h
      cases h
      exact .inl (gap.blank _ (by rw [hg]; exact List.mem_cons_self))

theorem spaced_gap (gap : Gap) (h : gap.text = [] → rest = []) : Spaced (gap.text ++ rest) := by
  intro c hc
  rcases gap.head?_append hc with hblank | ⟨hgap, hc⟩
  · exact hblank
  · rw [h hgap] at hc
    cases hc

theorem bounded_gap (gap : Gap) (h : Bounded rest) : Bounded (gap.text ++ rest) := by
  intro c hc
  rcases gap.head?_append hc with hblank | ⟨_, hc⟩
  · exact .inl hblank
  · exact h c hc

theorem Gap.bounded (gap : Gap) : Bounded gap.text := fun c hc => .inl (gap.blank c (List.mem_of_mem_head? hc))

theorem head_of_readLiteral {c d : Cursor} {x : Char} {tail : List Char} (hc : c.ahead = x :: tail)
    (hx : isBlank x = false) (h : readLiteral c = .ok l d) :
    isNameStart x = true ∨ isQuote x = true ∨ x = '-' ∨ x = '+' ∨ isDigit x = true := by
  obtain ⟨y, e, hy, h⟩ := bind_eq_ok.1 h
  rw [peek, skipBlanks_bind] at hy
  obtain ⟨rfl, tail', htail⟩ := peekRaw_eq_ok.1 hy
  obtain rfl : x = y := by simp_all [Cursor.skip]
  by_contra hno
  simp only [not_or] at hno
  rw [if_neg hno.1, if_neg hno.2.1, if_neg hno.2.2.1, if_neg hno.2.2.2.1, if_neg hno.2.2.2.2] at h
  exact fail_ne_ok h

theorem Literal.Written.exists_cons (h : l.Written text) :
    ∃ x tail, text = x :: tail ∧ isBlank x = false ∧ x ≠ '=' ∧ x ≠ '~' := by
  obtain ⟨_, _, hread, rfl⟩ := h.reads 0 (some 0)
  cases text with
  | nil => cases hread
  | cons x tail =>
      have hx : isBlank x = false := h.head x rfl
      have hstart := head_of_readLiteral (List.append_nil _) hx hread
      refine ⟨x, tail, rfl, hx, ?_, ?_⟩
      · rintro rfl
        exact absurd hstart (by rw [(sign_facts (by decide)).2.1]; decide)
      · rintro rfl
        exact absurd hstart (by rw [(sign_facts (by decide)).2.1]; decide)

theorem NameWritten.exists_cons (h : NameWritten name text) : ∃ x tail, text = x :: tail ∧ isBlank x = false := by
  obtain ⟨_, _, hread, rfl⟩ := h.reads 0 (some 0)
  cases text with
  | nil => cases hread
  | cons x tail => exact ⟨x, tail, rfl, h.head x rfl⟩

theorem Literal.Written.takes (h : l.Written text) (hr : Delimited rest) : Takes readLiteral text rest l :=
  (h.reads.before fun c _ => steady_readLiteral hr c).takes

theorem NameWritten.takes (h : NameWritten name text) (hr : Delimited rest) : Takes (readName true) text rest name :=
  (h.reads.before fun c _ => steady_readName hr c).takes

theorem Given.read_of_literal {c d : Cursor} (hc : c.ahead.head? ≠ some '~') (h : readLiteral c = .ok l d) :
    read c = .ok (.plain l) d := by
  have hsign : String.singleton '~' = "~" := by decide
  rw [read, standsAt_bind, if_neg (mt (standsAt_iff hsign).1 hc)]
  exact bind_eq_ok.2 ⟨l, d, h, rfl⟩

theorem Given.takes_plain (h : l.Written text) (hr : Bounded rest) : Takes read text rest (.plain l) := by
  intro c hc
  obtain ⟨x, tail, rfl, _, _, hx⟩ := h.exists_cons
  obtain ⟨d, hd, hrest⟩ := h.takes hr.delimited c hc
  exact ⟨d, read_of_literal (by simpa [hc] using hx) hd, hrest⟩

theorem Given.read_tilde {c : Cursor} (hc : c.ahead = '~' :: text) : read c = readDelta (c.skip 1) := by
  have hsign : String.singleton '~' = "~" := by decide
  rw [read, standsAt_bind, hc, if_pos ((standsAt_iff hsign).2 rfl), skip_bind]

theorem Given.Written.takes (h : given.Written text) (hr : Spaced rest) : Takes read text rest given := by
  cases h with
  | plain h => exact takes_plain h hr.bounded
  | bare =>
      intro c hc
      have hahead : (c.skip 1).ahead = rest := by simp [Cursor.skip, hc]
      refine ⟨c.skip 1, ?_, hahead⟩
      have hall : rest.head?.all isBlank = true := (Option.all_eq_true _ _).2 hr
      rw [read_tilde hc, readDelta, ahead_bind, hahead, if_pos hall]
      rfl
  | @relative l text h =>
      intro c hc
      obtain ⟨x, tail, rfl, hx, _, _⟩ := h.exists_cons
      have hahead : (c.skip 1).ahead = x :: tail ++ rest := by simp [Cursor.skip, hc]
      obtain ⟨d, hd, hrest⟩ := h.takes hr.bounded.delimited { c.skip 1 with mark := some (c.skip 1).offset } hahead
      refine ⟨d, ?_, hrest⟩
      rw [read_tilde hc, readDelta, ahead_bind, hahead, List.cons_append, List.head?_cons, Option.all_some,
        if_neg (by simp [hx]), setMark_bind]
      exact bind_eq_ok.2 ⟨l, d, hd, rfl⟩

theorem NameWritten.quoted (q : Quote) (name : String) : NameWritten name (q.quoted name) where
  head := by simp [Quote.quoted, Quote.isBlank_char]
  reads := Quote.reads_readName ⟨[], isGap_nil⟩

theorem Literal.written_constant (hl : l.toValue.Plain) (q : Quote) : l.Written (l.toValue.constantText q) where
  head := by
    generalize l.toValue = v at hl
    cases hl with
    | none => simp [Value.constantText]; decide
    | string s => simp [Value.constantText, Quote.quoted, Quote.isBlank_char]
    | integer n =>
        intro c hc
        have hmem : c ∈ decimalText n := List.mem_of_mem_head? hc
        rcases List.mem_append.1 hmem with h | h
        · split at h
          · rw [List.mem_singleton.1 h]
            decide
          · cases h
        · exact (digit_facts (isDigit_of_mem_toDigits h)).2.2.2.2.2.1
  reads := by
    have hend : Delimited [] := by simp [Delimited]
    have hread : Yields readLiteral (l.toValue.constantText q) [] fun l' => l'.toValue = l.toValue :=
      hl.yields_readLiteral ⟨[], isGap_nil⟩ hend
    exact hread.mono fun _ => Literal.toValue_injective

theorem Given.Written.exists_cons (h : given.Written text) :
    ∃ x tail, text = x :: tail ∧ isBlank x = false ∧ x ≠ '=' := by
  cases h with
  | plain h =>
      obtain ⟨x, tail, htext, hx, hsign, _⟩ := h.exists_cons
      exact ⟨x, tail, htext, hx, hsign⟩
  | bare | relative => exact ⟨'~', _, rfl, by decide, by decide⟩

theorem Item.Written.exists_cons (h : item.Written text) :
    ∃ x tail, text = x :: tail ∧ isBlank x = false ∧ x ≠ '=' := by
  cases h with
  | ordered h => exact h.exists_cons
  | named hkey =>
      obtain ⟨x, tail, rfl, hx, hsign, _⟩ := hkey.exists_cons
      exact ⟨x, _, rfl, hx, hsign⟩

namespace Cursor

variable {c : Cursor}

def Behind (text : List Char) (c : Cursor) : Prop := ∃ gap : Gap, c.ahead = gap.text ++ text

theorem behind_of_eq (h : c.ahead = text) : c.Behind text := ⟨⟨[], isGap_nil⟩, h⟩

theorem Behind.skip (h : c.Behind text) (ht : ∀ x ∈ text.head?, isBlank x = false) :
    (c.skip (c.ahead.takeWhile isBlank).length).ahead = text := by
  obtain ⟨gap, hgap⟩ := h
  rw [Cursor.skip, hgap, takeWhile_append_of_head gap.blank ht, List.drop_left]

theorem behind_of_gaps (gap wide : Gap) (h : c.ahead = gap.text ++ (wide.text ++ text)) : c.Behind text := by
  have hblank : IsGap (gap.text ++ wide.text) := by
    intro x hx
    exact (List.mem_append.1 hx).elim (gap.blank x) (wide.blank x)
  exact ⟨⟨_, hblank⟩, by rw [h, List.append_assoc]⟩

end Cursor

namespace Item

theorem next_of_written (h : item.Written text) (gap : Gap) (hgap : gap.text = [] → rest = [])
    (hrest : ∀ x ∈ rest.head?, isBlank x = false ∧ x ≠ '=') {c : Cursor} (hc : c.Behind (text ++ (gap.text ++ rest))) :
    ∃ d : Cursor, next c = .ok (some item) d ∧ d.Behind rest := by
  have hspaced : Spaced (gap.text ++ rest) := spaced_gap gap hgap
  have hblank : ∀ x ∈ rest.head?, isBlank x = false := fun x hx => (hrest x hx).1
  obtain ⟨x, tail, htext, hx, _⟩ := h.exists_cons
  have hahead : c.atValue.ahead = text ++ (gap.text ++ rest) := hc.skip (by simpa [htext] using hx)
  have hne : c.atValue.ahead ≠ [] := by simp [hahead, htext]
  cases h with
  | @ordered given text h =>
      -- Behind a plain value an equals sign is looked for, beyond the gap; behind a relative one it is not.
      obtain ⟨d, hd, hdrest⟩ := h.takes hspaced _ hahead
      cases given with
      | relative delta => exact ⟨d, next_eq_some.2 ⟨hne, _, d, hd, rfl⟩, gap, hdrest⟩
      | plain l =>
          have hbehind := Cursor.Behind.skip ⟨gap, hdrest⟩ hblank
          refine ⟨d.skip _, next_eq_some.2 ⟨hne, _, d, hd, ?_⟩, Cursor.behind_of_eq hbehind⟩
          have hno : rest.head? ≠ some '=' := fun hx => (hrest _ hx).2 rfl
          rw [nextGiven_plain, hbehind, if_neg hno]
  | @named key given keyText text hkey before behind h =>
      obtain ⟨y, ytail, rfl, hy, _⟩ := h.exists_cons
      simp only [List.append_assoc, List.cons_append] at hahead
      have hbounded : Bounded ('=' :: (behind.text ++ (y :: (ytail ++ (gap.text ++ rest))))) := by
        intro c hc
        cases hc
        exact .inr rfl
      obtain ⟨d, hd, hdrest⟩ := Given.takes_plain hkey (bounded_gap before hbounded) _ hahead
      have hequals := Cursor.Behind.skip ⟨before, hdrest⟩ (by simp; decide)
      have hvalue : ((d.skip (d.ahead.takeWhile isBlank).length).skip 1).Behind (y :: ytail ++ (gap.text ++ rest)) :=
        ⟨behind, congrArg (List.drop 1) hequals⟩
      obtain ⟨e, he, herest⟩ := h.takes hspaced (Cursor.atValue _) (hvalue.skip (by simpa using hy))
      refine ⟨e, next_eq_some.2 ⟨hne, _, d, hd, ?_⟩, gap, herest⟩
      rw [nextGiven_plain, hequals, List.head?_cons, if_pos rfl]
      exact nextKeyed_eq_ok.2 ⟨given, he, rfl⟩

end Item

namespace Prompt

theorem ItemsWritten.head (h : ItemsWritten items text) : ∀ x ∈ text.head?, isBlank x = false ∧ x ≠ '=' := by
  cases h with
  | nil => simp
  | cons h gap hgap hrest =>
      obtain ⟨y, tail, rfl, hy⟩ := h.exists_cons
      intro x hx
      cases hx
      exact hy

theorem ItemsWritten.eq_nil (h : ItemsWritten items text) (hitems : items = []) : text = [] := by
  cases h with
  | nil => rfl
  | cons => cases hitems

theorem next_of_end {c : Cursor} (hc : c.Behind []) : ∃ d, Item.next c = .ok none d :=
  ⟨_, Item.next_eq_none.2 ⟨hc.skip (by simp), rfl⟩⟩

theorem iterate_of_written (h : ItemsWritten items text) {c : Cursor} (hc : c.Behind text) (before : List Item) :
    ∃ d, iterate Item.nextBehind Item.progresses_nextBehind before c = .ok (before ++ items) d := by
  -- The gap behind an item is left in front of the next one, so the text lies ahead behind some gap.
  induction h generalizing before c with
  | nil =>
      obtain ⟨d, hd⟩ := next_of_end hc
      exact ⟨d, by rw [iterate_eq, Item.nextBehind_eq_none.2 hd, List.append_nil]⟩
  | @cons item items text rest hitem gap hgap hrest ih =>
      obtain ⟨d, hd, hbehind⟩ := Item.next_of_written hitem gap (fun h => hrest.eq_nil (hgap h)) hrest.head hc
      have hstep : Item.nextBehind before c = .ok (some (before ++ [item])) d :=
        Item.nextBehind_eq_some.2 ⟨item, hd, rfl⟩
      obtain ⟨e, he⟩ := ih hbehind (before ++ [item])
      rw [List.append_assoc] at he
      exact ⟨e, by rw [iterate_eq, hstep]; exact he⟩

theorem itemsOf_of_written {text : String} (h : Written name items text.toList) :
    itemsOf text = some (name, items) := by
  generalize htext : text.toList = chars at h
  obtain @⟨nameText, rest, before, hname, gap, hgap, hrest⟩ := h
  have hspaced : Spaced (gap.text ++ rest) := spaced_gap gap fun h => hrest.eq_nil (hgap h)
  obtain ⟨x, tail, hcons, hx⟩ := hname.exists_cons
  have hstart : (Cursor.start text).Behind (nameText ++ (gap.text ++ rest)) := ⟨before, htext⟩
  have hahead := hstart.skip (by simpa [hcons] using hx)
  obtain ⟨d, hd, hdrest⟩ := hname.takes hspaced.bounded.delimited
    { Cursor.skip (.start text) _ with mark := some (Cursor.skip (.start text) _).offset } hahead
  obtain ⟨e, he⟩ := iterate_of_written hrest ⟨gap, hdrest⟩ []
  refine itemsOf_eq_some.2 ⟨e, ?_⟩
  rw [readItems, skipBlanks_bind, setMark_bind]
  exact bind_eq_ok.2 ⟨name, d, hd, bind_eq_ok.2 ⟨items, e, he, rfl⟩⟩

end Prompt

/-- What a fault says, apart from the place in the text. -/
def Fault.unplaced (f : Fault) : Fault := { f with line := .none, column := .none, text := .none }

theorem Failure.unplaced_told {source source' : Source} {offset offset' : Int} {e : Failure Cause}
    (h : source.label = source'.label) :
    (e.told fun cause => Fault.ofCause source cause offset).map Fault.unplaced =
      (e.told fun cause => Fault.ofCause source' cause offset').map Fault.unplaced := by
  cases e with
  | misuse m => rfl
  | fault cause =>
      simp only [told]
      cases hhint : cause.report.hint with
      | error m => rw [Fault.ofCause_eq_error.2 hhint, Fault.ofCause_eq_error.2 hhint]
      | ok hint =>
          rw [Fault.ofCause_eq_ok.2 ⟨hint, hhint, rfl⟩, Fault.ofCause_eq_ok.2 ⟨hint, hhint, rfl⟩]
          simp only [map, Fault.unplaced, Fault.hinted, Fault.placed, h]

theorem Prompt.parse_eq_of_items {scope : Scope} {commands : Table Command} {source source' : Source}
    (hlabel : source.label = source'.label) (h : itemsOf source.text = some (name, items))
    (h' : itemsOf source'.text = some (name, items)) :
    (parse scope commands source).mapError (Failure.map Fault.unplaced) =
      (parse scope commands source').mapError (Failure.map Fault.unplaced) := by
  obtain ⟨offset, hparse⟩ : ∃ offset, parse scope commands source = _ := parse_eq_ofItems h
  obtain ⟨offset', hparse'⟩ : ∃ offset', parse scope commands source' = _ := parse_eq_ofItems h'
  rw [hparse, hparse']
  cases ofItems scope commands name items with
  | ok p => rfl
  | error e => exact congrArg Except.error (Failure.unplaced_told hlabel)

namespace Interpreter

variable {i : Interpreter} {r : Repository} {text text' : String} {label : Value}

/-- Two texts of the same name and items mean the same: the same prompt, or the same failure but for its place. -/
theorem parse_eq_of_written (h : Prompt.Written name items text.toList) (h' : Prompt.Written name items text'.toList) :
    (i.parse r (.string text) label).mapError (Failure.map Fault.unplaced) =
      (i.parse r (.string text') label).mapError (Failure.map Fault.unplaced) := by
  cases label with
  | string label =>
      rw [parse_string, parse_string]
      exact Prompt.parse_eq_of_items rfl (Prompt.itemsOf_of_written h) (Prompt.itemsOf_of_written h')
  | _ => rfl

/-- Lines, tabs and other blanks between the items and around an equals sign. -/
theorem parse_eq_of_written_lines :
    ∃ (i : Interpreter) (r : Repository) (text text' : String) (p : Prompt), text = "'paint' 'box' 'at'=~2" ∧
      text' = "\n'paint'\t'box'\u00a0 'at' =\n~2 " ∧ i.parse r (.string text) (.string "<prompt>") = .ok p ∧
      (p.args, p.kwargs) = ([.string "box"], [(.string "at", .integer 42)]) ∧
      (i.parse r (.string text') (.string "<prompt>")).mapError (Failure.map Fault.unplaced) = .ok p := by
  have hp : ({ repository := 0 } : Interpreter).parse
      ⟨[("paint", ⟨"paint", [⟨"what", .string, false, .none, none, ""⟩],
        [⟨"at", .integer, true, .none, some (.integer 40), ""⟩], .none⟩)]⟩
      (.string "'paint' 'box' 'at'=~2") (.string "<prompt>") =
        .ok ⟨⟨"paint", [⟨"what", .string, false, .none, none, ""⟩],
          [⟨"at", .integer, true, .none, some (.integer 40), ""⟩], .none⟩,
          [.string "box"], [(.string "at", .integer 42)]⟩ := by
    with_unfolding_all rfl
  have hname := NameWritten.quoted .single "paint"
  have hbox := Literal.written_constant (l := .string "box") (.string _) .single
  have hat := Literal.written_constant (l := .string "at") (.string _) .single
  have htwo := Literal.written_constant (l := .integer 2) (.integer 2 (by decide)) .single
  let tab : Gap := ⟨['\t'], by decide⟩
  let line : Gap := ⟨['\n'], by decide⟩
  let wide : Gap := ⟨['\u00a0', ' '], by decide⟩
  have hwritten := Prompt.Written.intro .nothing hname .space nofun
    (.cons (.ordered (.plain hbox)) .space nofun
      (.cons (.named hat .nothing .nothing (.relative htwo)) .nothing (fun _ => rfl) .nil))
  have hspaced := Prompt.Written.intro line hname tab nofun
    (.cons (.ordered (.plain hbox)) wide nofun
      (.cons (.named hat .space line (.relative htwo)) .space nofun .nil))
  exact ⟨_, _, _, _, _, rfl, rfl, hp, rfl, (parse_eq_of_written hspaced hwritten).trans (congrArg _ hp)⟩

end Interpreter

end Prompter
