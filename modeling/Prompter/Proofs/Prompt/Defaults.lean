import Prompter.Proofs.Prompt.FirstFault
import Prompter.Proofs.Prompt.Keywords
import Prompter.Proofs.Scheme.Defaults

namespace Prompter

open Text

section Further

open Reader

-- Items can be written behind any text whose items can be read, and do not change these.
variable {rest more : List Char} {gap : Gap} {c d e : Cursor} {given : Given} {l : Literal}

theorem Cursor.behind_before (h : c.atValue.ahead = []) (gap : Gap) : (c.before (gap.text ++ more)).Behind more := by
  have hblank : IsGap c.ahead := by
    intro x hx
    have hsplit : c.ahead.takeWhile isBlank ++ c.ahead.drop (c.ahead.takeWhile isBlank).length = c.ahead :=
      takeWhile_append_drop
    rw [show c.ahead.drop (c.ahead.takeWhile isBlank).length = [] from h, List.append_nil] at hsplit
    rw [← hsplit] at hx
    exact List.mem_takeWhile_imp hx
  exact behind_of_gaps ⟨c.ahead, hblank⟩ gap rfl

namespace Item

variable {item : Item}

theorem next_before (hr : Spaced rest) (h : next c = .ok (some item) d) :
    ∃ given e, nextGiven given e = .ok (some item) d ∧ next (c.before rest) = nextGiven given (e.before rest) := by
  obtain ⟨_, given, e, hg, hitem⟩ := next_eq_some.1 h
  have hg' := Given.read_before hr hg
  refine ⟨given, e, hitem, ?_⟩
  rw [next_eq, if_neg (Given.ahead_ne_nil_of_read hg'), bind_of_ok hg']

theorem nextKeyed_before (hr : Spaced rest) (hne : c.ahead ≠ []) (h : nextKeyed l c = .ok (some item) d) :
    nextKeyed l (c.before rest) = .ok (some item) (d.before rest) := by
  obtain ⟨given, hg, hitem⟩ := nextKeyed_eq_ok.1 h
  obtain ⟨x, tail, hahead⟩ := List.exists_cons_of_ne_nil hne
  refine nextKeyed_eq_ok.2 ⟨given, ?_, hitem⟩
  rw [Cursor.skip_before hahead]
  exact Given.read_before hr hg

theorem nextGiven_before (hr : Spaced rest) (h : nextGiven given e = .ok (some item) d)
    (hd : ∀ l, item = .ordered (.plain l) → d.ahead ≠ []) :
    nextGiven given (e.before rest) = .ok (some item) (d.before rest) := by
  cases given with
  | relative delta =>
      obtain ⟨hitem, rfl⟩ := pure_eq_ok.1 h
      exact pure_eq_ok.2 ⟨hitem, rfl⟩
  | plain l =>
      rw [nextGiven_plain] at h ⊢
      have hbehind : (e.skip (e.ahead.takeWhile isBlank).length).ahead ≠ [] := by
        intro hend
        rw [hend, if_neg (by simp)] at h
        cases h
        exact hd l rfl hend
      have hhead : ((e.skip (e.ahead.takeWhile isBlank).length).before rest).ahead.head? =
          (e.skip (e.ahead.takeWhile isBlank).length).ahead.head? := List.head?_append_of_ne_nil _ hbehind
      rw [skipBlanks_before hbehind, hhead]
      split at h
      · next hkeyed =>
          rw [if_pos hkeyed]
          exact nextKeyed_before hr hbehind h
      · next hplain =>
          cases h
          rw [if_neg hplain]

theorem nextGiven_of_end (hmore : ∀ x ∈ more.head?, isBlank x = false ∧ x ≠ '=') (gap : Gap)
    (h : nextGiven given e = .ok (some (.ordered (.plain l))) d) (hd : d.ahead = []) :
    ∃ d', nextGiven given (e.before (gap.text ++ more)) = .ok (some (.ordered (.plain l))) d' ∧ d'.ahead = more := by
  cases given with
  | relative delta => cases (pure_eq_ok.1 h).1
  | plain l' =>
      rw [nextGiven_plain] at h
      split at h
      · obtain ⟨_, _, hkeyed⟩ := nextKeyed_eq_ok.1 h
        cases hkeyed
      · cases h
        have hahead := (Cursor.behind_before hd gap).skip fun x hx => (hmore x hx).1
        have hno : more.head? ≠ some '=' := fun hx => (hmore _ hx).2 rfl
        refine ⟨_, ?_, hahead⟩
        rw [nextGiven_plain, hahead, if_neg hno]

end Item

namespace Prompt

variable {name : String} {items further before : List Item}

theorem iterate_before (hgap : gap.text ≠ []) (hfurther : ItemsWritten further more)
    (h : iterate Item.nextBehind Item.progresses_nextBehind before c = .ok items d) :
    ∃ d', iterate Item.nextBehind Item.progresses_nextBehind before (c.before (gap.text ++ more)) =
      .ok (items ++ further) d' := by
  have hspaced : Spaced (gap.text ++ more) := spaced_gap gap fun hnil => absurd hnil hgap
  -- By the text that is left. A step away from its end is the same step; the step that finds the end, and the one that
  -- takes a plain value up to the end, come to stand in front of the further items.
  induction hn : c.ahead.length using Nat.strongRecOn generalizing before c with
  | ind n ih =>
      subst hn
      rw [iterate_eq] at h
      split at h
      · cases h
      · next e hstep =>
          cases h
          have hend := (Item.next_eq_none.1 (Item.nextBehind_eq_none.1 hstep)).1
          exact iterate_of_written hfurther (Cursor.behind_before hend gap) _
      · next items' e hstep =>
          obtain ⟨item, hnext, rfl⟩ := Item.nextBehind_eq_some.1 hstep
          obtain ⟨given, c₁, hgiven, hbefore⟩ := Item.next_before hspaced hnext
          by_cases hend : ∃ l, item = .ordered (.plain l) ∧ e.ahead = []
          · obtain ⟨l, rfl, hend⟩ := hend
            obtain ⟨e', hstep', hahead⟩ := Item.nextGiven_of_end hfurther.head gap hgiven hend
            obtain ⟨_, hlast⟩ := iterate_of_written .nil (Cursor.behind_of_eq hend) (before ++ [.ordered (.plain l)])
            cases hlast.symm.trans h
            obtain ⟨d', hrest⟩ :=
              iterate_of_written hfurther (Cursor.behind_of_eq hahead) (before ++ [.ordered (.plain l)])
            refine ⟨d', ?_⟩
            rw [iterate_eq, Item.nextBehind_eq_some.2 ⟨_, hbefore.trans hstep', rfl⟩, List.append_nil]
            exact hrest
          · have hsame := Item.nextGiven_before hspaced hgiven fun l hl hnil => hend ⟨l, hl, hnil⟩
            obtain ⟨d', hrest⟩ := ih _ (Item.progresses_nextBehind _ _ _ _ hstep) h rfl
            refine ⟨d', ?_⟩
            rw [iterate_eq, Item.nextBehind_eq_some.2 ⟨_, hbefore.trans hsame, rfl⟩]
            exact hrest

/-- Behind white space, further items are added to those of any text whose items can be read. -/
theorem itemsOf_append {text tail : String} (h : itemsOf text = some (name, items)) (hgap : gap.text ≠ [])
    (hfurther : ItemsWritten further more) (htail : tail.toList = gap.text ++ more) :
    itemsOf (text ++ tail) = some (name, items ++ further) := by
  have hspaced : Spaced (gap.text ++ more) := spaced_gap gap fun hnil => absurd hnil hgap
  have hstart : Cursor.start (text ++ tail) = (Cursor.start text).before (gap.text ++ more) := by
    rw [Cursor.start, Cursor.start, String.toList_append, htail]
    rfl
  obtain ⟨d, hread⟩ := itemsOf_eq_some.1 h
  rw [readItems] at hread
  simp only [skipBlanks_bind, setMark_bind] at hread
  obtain ⟨name', c₁, hname, hread⟩ := bind_eq_ok.1 hread
  obtain ⟨items', c₂, hitems, hread⟩ := bind_eq_ok.1 hread
  obtain ⟨hwritten, rfl⟩ := pure_eq_ok.1 hread
  cases hwritten
  have hne : ((Cursor.start text).skip ((Cursor.start text).ahead.takeWhile isBlank).length).ahead ≠ [] := by
    intro hnil
    have hlt := (advances_readName true _ _ _ hname).length_lt
    rw [hnil] at hlt
    exact Nat.not_lt_zero _ hlt
  obtain ⟨d', hmore⟩ := iterate_before hgap hfurther hitems
  refine itemsOf_eq_some.2 ⟨d', ?_⟩
  rw [hstart, readItems]
  simp only [skipBlanks_bind, setMark_bind]
  rw [skipBlanks_before hne]
  have hname' := steady_readName hspaced.bounded.delimited _ _ _ hname
  exact bind_eq_ok.2 ⟨name, _, hname', bind_eq_ok.2 ⟨_, d', hmore, rfl⟩⟩

end Prompt

end Further

section Completion

open Checked

variable {scope : Scope} {commands : Table Command} {command : Command} {a : Argument} {b : Binding} {p : Prompt}
  {name : String} {items : List Item} {l : Literal}

theorem Slot.holds_default (hw : a.WellFormed) (hn : a.named = false) (hne : a.default ≠ .none) :
    a.Holds scope a.default := by
  refine ⟨(hw.default hne).2, fun hk => ?_⟩
  obtain ⟨ms, hms, hchoices, hmember⟩ := hw.inline hk hn
  obtain ⟨m, hm, hdefault⟩ := hmember hne
  refine ⟨m, a.choices, hdefault, by simp [members, hn], ?_⟩
  rw [hchoices]
  exact (Choices.holds_write_iff hms.ne_nil hms.no_bar).2 hm

theorem Signature.keyword?_of_mem (hk : (command.keyword.map (·.name)).Nodup) (ha : a ∈ command.keyword) :
    command.keyword? a.name = some a := by
  cases h : command.keyword? a.name with
  | none =>
      have hother := List.find?_eq_none.1 h a ha
      simp at hother
  | some a' => rw [List.inj_on_of_nodup_map hk (mem_of_keyword? h) ha (name_of_keyword? h)]

namespace Binding

theorem get?_defaults {slots : List Argument} (keep : String → Bool) (h : keep name = true) :
    Table.get? ((slots.filter fun a => keep a.name).map fun a => (a.name, a.default)) name =
      (slots.find? (·.name == name)).map Slot.default := by
  induction slots with
  | nil => rfl
  | cons a slots ih =>
      by_cases hname : a.name = name
      · subst hname
        simp [h, Table.get?_cons]
      · rw [List.find?_cons_of_neg (by simpa using hname), ← ih, List.filter_cons]
        split
        · rw [List.map_cons, Table.get?_cons, if_neg (Ne.symm hname)]
        · rfl

theorem get?_of_complete {key : Value} (h : b.complete command = .ok p) :
    Value.Entries.get? p.kwargs key = match key with
      | .string name => (b.named.get? name).or ((command.keyword? name).map Slot.default)
      | _ => none := by
  obtain ⟨_, _, rfl⟩ := complete_eq_ok.1 h
  refine Value.Entries.get?_map.trans ?_
  cases key with
  | string name =>
      change Table.get? (b.named ++ _) name = (b.named.get? name).or _
      rw [Table.get?_append]
      cases hb : b.named.get? name with
      | some v => rfl
      | none => exact get?_defaults (fun n => !b.named.has n) (by rw [Table.has_eq, hb]; rfl)
  | _ => rfl

theorem complete_put (hk : (command.keyword.map (·.name)).Nodup) (ha : a ∈ command.keyword) (ho : a.optional = true)
    (hb : b.named.get? a.name = none) :
    (∀ p, b.complete command = .ok p →
      ∃ p', ({ b with named := b.named.put a.name a.default } : Binding).complete command = .ok p' ∧ p.Alike p') ∧
    ∀ p', ({ b with named := b.named.put a.name a.default } : Binding).complete command = .ok p' →
      ∃ p, b.complete command = .ok p := by
  have hhas : ∀ name, (b.named.put a.name a.default).has name = (b.named.has name || name == a.name) := by
    intro name
    rw [Table.has_eq, Table.has_eq, Table.get?_put]
    by_cases hname : name = a.name <;> simp [hname]
  constructor
  · intro p h
    obtain ⟨hvacant, hunnamed, hp⟩ := complete_eq_ok.1 h
    have hunnamed' : ∀ a' ∈ command.keyword.filter fun a' => !(b.named.put a.name a.default).has a'.name,
        a'.optional = true := by
      intro a' ha'
      obtain ⟨hmem, hnot⟩ := List.mem_filter.1 ha'
      rw [hhas, Bool.not_or, Bool.and_eq_true] at hnot
      exact hunnamed a' (List.mem_filter.2 ⟨hmem, hnot.1⟩)
    have h' := (complete_eq_ok (b := { b with named := b.named.put a.name a.default })).2 ⟨hvacant, hunnamed', rfl⟩
    refine ⟨_, h', by rw [← hp], by rw [← hp], fun key => ?_⟩
    rw [get?_of_complete h', get?_of_complete h]
    cases key with
    | string name =>
        change ((b.named.put a.name a.default).get? name).or _ = (b.named.get? name).or _
        rw [Table.get?_put]
        by_cases hname : name = a.name
        · rw [if_pos hname, hname, hb, Signature.keyword?_of_mem hk ha]
          rfl
        · rw [if_neg hname]
    | _ => rfl
  · intro p' h'
    obtain ⟨hvacant, hunnamed, _⟩ := complete_eq_ok.1 h'
    refine ⟨_, complete_eq_ok.2 ⟨hvacant, fun a' ha' => ?_, rfl⟩⟩
    obtain ⟨hmem, hnot⟩ := List.mem_filter.1 ha'
    by_cases hname : a'.name = a.name
    · rwa [List.inj_on_of_nodup_map hk hmem ha hname]
    · exact hunnamed a' (List.mem_filter.2 ⟨hmem, by rw [hhas]; simpa [hname] using hnot⟩)

end Binding

namespace Prompt

theorem ofItems_eq_ok (hc : commands.get? name = some command) :
    ofItems scope commands name items = .ok p ↔ ∃ b,
      Binding.takeAll scope command { vacant := command.positional } items = .ok b ∧ b.complete command = .ok p := by
  have hlookup : lookup commands name = .ok command := by rw [lookup, hc]
  rw [ofItems, hlookup, ← bind_eq_ok]
  rfl

theorem ofItems_default (hc : commands.get? name = some command) (hk : (command.keyword.map (·.name)).Nodup)
    (ha : a ∈ command.keyword) (ho : a.optional = true) (hl : l.toValue = a.default) (hholds : a.Holds scope l.toValue)
    (hnot : a.name ∉ items.filterMap Item.name?) :
    (∀ p, ofItems scope commands name items = .ok p →
      ∃ p', ofItems scope commands name (items ++ [.named (.string a.name) (.plain l)]) = .ok p' ∧ p.Alike p' ∧
        Value.Entries.get? p.kwargs (.string a.name) = some a.default) ∧
    ∀ p', ofItems scope commands name (items ++ [.named (.string a.name) (.plain l)]) = .ok p' →
      ∃ p, ofItems scope commands name items = .ok p := by
  have hkeyword := Signature.keyword?_of_mem hk ha
  have htake : ∀ b : Binding, b.take scope command (.named (.string a.name) (.plain l)) =
      .ok { b with named := b.named.put a.name a.default } := by
    intro b
    have hkeyed : Binding.keyed command (.string a.name) = .ok a := by simp [Binding.keyed, hkeyword]
    have hbound : a.bound scope (.plain l) = .ok a.default := Slot.bound_eq_ok.2 ⟨hl.symm, hl ▸ hholds⟩
    exact bind_eq_ok.2 ⟨a, hkeyed, bind_eq_ok.2 ⟨_, hbound, rfl⟩⟩
  have hfree : ∀ b, Binding.takeAll scope command { vacant := command.positional } items = .ok b →
      b.named.get? a.name = none := by
    intro b hb
    obtain ⟨_, _, es, _, hes, rfl⟩ := Binding.takeAll_eq_ok.1 hb
    have hhas : (!(Table.putAll [] _).has a.name) = _ := Binding.not_has_putAll hes
    rw [decide_eq_true hnot, Table.has_eq] at hhas
    simpa using hhas
  have hall : ∀ b', Binding.takeAll scope command { vacant := command.positional }
      (items ++ [.named (.string a.name) (.plain l)]) = .ok b' ↔
        ∃ b, Binding.takeAll scope command { vacant := command.positional } items = .ok b ∧
          { b with named := b.named.put a.name a.default } = b' := by
    intro b'
    rw [Binding.takeAll, List.foldlM_append]
    simp only [bind_eq_ok, List.foldlM_cons, List.foldlM_nil, htake, pure_eq_ok, Except.ok.injEq, exists_eq_left']
    rfl
  simp only [ofItems_eq_ok hc, hall]
  constructor
  · rintro p ⟨b, hb, hp⟩
    obtain ⟨p', hp', halike⟩ := (Binding.complete_put hk ha ho (hfree b hb)).1 p hp
    refine ⟨p', ⟨_, ⟨b, hb, rfl⟩, hp'⟩, halike, ?_⟩
    rw [Binding.get?_of_complete hp]
    change (b.named.get? a.name).or _ = _
    rw [hfree b hb, hkeyword]
    rfl
  · rintro p' ⟨_, ⟨b, hb, rfl⟩, hp'⟩
    obtain ⟨p, hp⟩ := (Binding.complete_put hk ha ho (hfree b hb)).2 p' hp'
    exact ⟨p, b, hb, hp⟩

end Prompt

end Completion

open Scheme

/-- The default of a slot and the values that a prompt may give it are checked by the same rule, which leaves out only
what a scheme cannot know, the members of an enumeration by name. So a default can be written out: a prompt that omits a
slot by name, and the same prompt with the name and the default behind it, bind the same values, or both fail. -/
theorem defaults_agree :
    (∀ {name choices : String} {kind : Kind} {head : List Char} {taken : List String} {c c' d : Cursor} {a : Argument}
        {l : Literal} (scope : Scope), HeadWritten name kind choices head → Stands head (defaultOnly none) c →
      Stands head (defaultOnly (some l)) c' → readArgument taken c = .ok a d → l ≠ .none →
      a.optional = false ∧ ((∃ a d, readArgument taken c' = .ok a d) ↔
        if a.named then ∃ s, l = .string s else a.accepts scope l.toValue = .ok true)) ∧
    ∀ {i : Interpreter} {r : Repository} {source : Source} {executor label : Value} {command : Command} {a : Argument}
        {l : Literal} {name text tail : String} {items : List Item} {gap : Gap} {more : List Char},
      compile source executor = .ok command → a ∈ command.keyword → a.named = false → l ≠ .none →
      l.toValue = a.default → r.commands.get? name = some command → Prompt.itemsOf text = some (name, items) →
      a.name ∉ items.filterMap Item.name? → gap.text ≠ [] →
      Item.Written (.named (.string a.name) (.plain l)) more → tail.toList = gap.text ++ more →
      (∃ p p', i.parse r (.string text) label = .ok p ∧ i.parse r (.string (text ++ tail)) label = .ok p' ∧
          p.Alike p' ∧ Value.Entries.get? p.kwargs (.string a.name) = some a.default) ∨
        ∃ e e', i.parse r (.string text) label = .error e ∧ i.parse r (.string (text ++ tail)) label = .error e' := by
  constructor
  · intro name choices kind head taken c c' d a l scope hhead hc hc' hm hl
    obtain ⟨_, _, _, ho⟩ := parts_of_stands hhead hc hm
    exact ⟨ho, exists_default_iff hhead hc hc' hm hl⟩
  · intro i r source executor label command a l name text tail items gap more hcompile ha hn hl hdefault hcommand
      hitems hnot hgap hmore htail
    obtain ⟨d, hd⟩ := readCommand_of_compile hcompile
    have hcommandWell := wellFormed_of_readCommand hd
    have hw := hcommandWell.keyword a ha
    have hne : a.default ≠ .none := fun h => hl (Literal.toValue_injective (hdefault.trans h))
    have hholds : a.Holds i.scope l.toValue := by
      rw [hdefault]
      exact Slot.holds_default hw hn hne
    have hwritten : Prompt.ItemsWritten [.named (.string a.name) (.plain l)] (more ++ ([] ++ [])) :=
      .cons hmore .nothing (fun _ => rfl) .nil
    have hitems' : Prompt.itemsOf (text ++ tail) = some (name, items ++ [.named (.string a.name) (.plain l)]) :=
      Prompt.itemsOf_append hitems hgap hwritten (by simpa using htail)
    obtain ⟨hsame, hback⟩ := Prompt.ofItems_default hcommand hcommandWell.keyword_nodup ha
      (hw.default hne).1 hdefault hholds hnot
    cases label with
    | string label =>
        rw [Interpreter.parse_string, Interpreter.parse_string]
        exact Prompt.parse_related hitems hitems' hsame hback
    | _ => exact .inr ⟨_, _, rfl, rfl⟩

/-- An integer as a default, a string that is none, and the integer behind a prompt without it. -/
theorem defaults_agree_paint :
    (∃ a d, readArgument [] (.start "'at':int=2") = .ok a d) ∧
    (¬∃ a d, readArgument [] (.start "'at':int='up'") = .ok a d) ∧
    ∃ (i : Interpreter) (r : Repository) (command : Command) (p p' : Prompt),
      compile ⟨"'paint' 'what':str \x7b'at':int=2\x7d", "<scheme>"⟩ .none = .ok command ∧
      r.commands = [("paint", command)] ∧ i.parse r (.string "'paint' 'box'") (.string "<prompt>") = .ok p ∧
      i.parse r (.string ("'paint' 'box'" ++ " 'at'=2")) (.string "<prompt>") = .ok p' ∧ p.Alike p' ∧
      Value.Entries.get? p.kwargs (.string "at") = some (.integer 2) := by
  let at' : Argument := ⟨"at", .integer, true, .integer 2, none, ""⟩
  let command : Command := ⟨"paint", [⟨"what", .string, false, .none, none, ""⟩], [at'], .none⟩
  let i : Interpreter := { repository := 0 }
  let r : Repository := ⟨[("paint", command)]⟩
  have hhead : HeadWritten "at" .integer "" "'at':int".toList := headWritten_keyword .single "at" .nothing (by decide)
  have hname := NameWritten.quoted .single "paint"
  have hkey := Literal.written_constant (l := .string "at") (.string _) .single
  have hbox := Literal.written_constant (l := .string "box") (.string _) .single
  have htwo : (Literal.integer 2).Written ['2'] :=
    Literal.written_constant (l := .integer 2) (.integer 2 (by decide)) .single
  have hup : (Literal.string "up").Written "'up'".toList :=
    Literal.written_constant (l := .string "up") (.string _) .single
  have hbare : Stands "'at':int".toList (defaultOnly none) (.start "'at':int") := stands_nothing endsModifiers_nil rfl
  have hfits : Stands "'at':int".toList (defaultOnly (some (.integer 2))) (.start "'at':int=2") :=
    stands_initial .nothing .nothing htwo endsModifiers_nil rfl
  have hmisfits : Stands "'at':int".toList (defaultOnly (some (.string "up"))) (.start "'at':int='up'") :=
    stands_initial .nothing .nothing hup endsModifiers_nil rfl
  have hread : ∃ d, readArgument [] (.start "'at':int") = .ok ⟨"at", .integer, false, .none, none, ""⟩ d := by
    with_unfolding_all exact ⟨_, rfl⟩
  have hcompile : compile ⟨"'paint' 'what':str \x7b'at':int=2\x7d", "<scheme>"⟩ .none = .ok command := by
    with_unfolding_all rfl
  have hp : i.parse r (.string "'paint' 'box'") (.string "<prompt>") =
      .ok ⟨command, [.string "box"], [(.string "at", .integer 2)]⟩ := by
    with_unfolding_all rfl
  have hwritten : Prompt.Written "paint" [.ordered (.plain (.string "box"))] "'paint' 'box'".toList :=
    .intro .nothing hname .space nofun (.cons (.ordered (.plain hbox)) .nothing (fun _ => rfl) .nil)
  obtain ⟨d, hread⟩ := hread
  obtain ⟨hscheme, hprompt⟩ := defaults_agree
  refine ⟨?_, ?_, ?_⟩
  · exact (hscheme i.scope hhead hbare hfits hread nofun).2.2 rfl
  · intro h
    cases (hscheme i.scope hhead hbare hmisfits hread nofun).2.1 h
  · have hat : at'.name ∉ [Item.ordered (.plain (.string "box"))].filterMap Item.name? := by decide
    have hgap : Gap.space.text ≠ [] := nofun
    have hne : Literal.integer 2 ≠ .none := nofun
    have hwrite := Prompt.itemsOf_of_written hwritten
    have hmore : Item.Written (.named (.string "at") (.plain (.integer 2))) "'at'=2".toList :=
      .named hkey .nothing .nothing (.plain htwo)
    have hsame : (∃ p p', i.parse r (.string "'paint' 'box'") (.string "<prompt>") = .ok p ∧
        i.parse r (.string ("'paint' 'box'" ++ " 'at'=2")) (.string "<prompt>") = .ok p' ∧ _) ∨ _ :=
      hprompt hcompile (List.mem_singleton_self at') rfl hne rfl rfl hwrite hat hgap hmore rfl
    rcases hsame with ⟨p, p', h, h', halike, hget⟩ | ⟨e, _, h, _⟩
    · cases hp.symm.trans h
      exact ⟨i, r, command, _, p', hcompile, rfl, hp, h', halike, hget⟩
    · cases hp.symm.trans h

end Prompter
