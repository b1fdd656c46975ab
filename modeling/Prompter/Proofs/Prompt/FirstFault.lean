import Prompter.Proofs.Prompt.Bounds
import Prompter.Proofs.Prompt.Spacing

namespace Prompter

open Text Reader

namespace Reader

variable {ε α β : Type} {rest : List Char} {r : ReaderOf ε α} {f : α → ReaderOf ε β} {c d : Cursor} {a : α}

/-- What the reader fails with at the cursor, it fails with in front of the rest, too. -/
def FinalAt (rest : List Char) (r : ReaderOf ε α) (c : Cursor) : Prop :=
  ∀ e d, r c = .error e d → ∃ d', r (c.before rest) = .error e d'

theorem FinalAt.of_eq {r' : ReaderOf ε α} (h : r c = r' d) (h' : r (c.before rest) = r' (d.before rest))
    (hr : FinalAt rest r' d) : FinalAt rest r c := by
  intro e d₁ he
  rw [h']
  exact hr e d₁ (h ▸ he)

structure Carries (rest : List Char) (r : ReaderOf ε α) (c : Cursor) : Prop where
  steady : SteadyAt rest r c
  final : FinalAt rest r c

theorem Carries.bind (hr : Carries rest r c) (hf : ∀ a d, r c = .ok a d → Carries rest (f a) d) :
    Carries rest (r >>= f) c where
  steady := hr.steady.bind fun a d h => (hf a d h).steady
  final := by
    intro e d h
    rcases bind_eq_error.1 h with h | ⟨a, d₁, ha, h⟩
    · obtain ⟨d', h'⟩ := hr.final e d h
      exact ⟨d', bind_eq_error.2 (.inl h')⟩
    · obtain ⟨d', h'⟩ := (hf a d₁ ha).final e d h
      exact ⟨d', bind_eq_error.2 (.inr ⟨a, _, hr.steady a d₁ ha, h'⟩)⟩

theorem Carries.of_eq {r' : ReaderOf ε α} (h : r c = r' d) (h' : r (c.before rest) = r' (d.before rest))
    (hr : Carries rest r' d) : Carries rest r c where
  steady := by
    intro a d₁ ha
    rw [h']
    exact hr.steady a d₁ (h ▸ ha)
  final := .of_eq h h' hr.final

theorem carries_of_ok (h : r c = .ok a d) (hr : r (c.before rest) = .ok a (d.before rest)) : Carries rest r c where
  steady := by
    intro a' d' h'
    cases h.symm.trans h'
    exact hr
  final := by
    intro e d' h'
    cases h.symm.trans h'

theorem carries_pure : Carries rest (pure a : ReaderOf ε α) c := carries_of_ok rfl rfl

theorem carries_setMark : Carries rest (setMark : ReaderOf ε Unit) c := carries_of_ok rfl rfl

theorem carries_lift {r : Reader α} (h : r c = .ok a d) (hr : SteadyAt rest r c) :
    Carries rest (liftM r : BuildReader α) c :=
  carries_of_ok (lift_eq_ok.2 h) (lift_eq_ok.2 (hr a d h))

theorem carries_skipBlanks (h : (c.skip (c.ahead.takeWhile isBlank).length).ahead ≠ []) :
    Carries rest (skipBlanks : ReaderOf ε Unit) c :=
  carries_of_ok rfl (congrArg (EStateM.Result.ok ()) (skipBlanks_before h))

theorem carries_standsAt {mark : String} (h : c.ahead ≠ []) : Carries rest (standsAt mark : ReaderOf ε Bool) c := by
  obtain ⟨x, text, hc⟩ := List.exists_cons_of_ne_nil h
  refine carries_of_ok rfl ?_
  change EStateM.Result.ok _ _ = EStateM.Result.ok _ _
  simp [Cursor.before, hc]

theorem carries_skip_one (h : c.ahead ≠ []) : Carries rest (skip 1 : ReaderOf ε Unit) c := by
  obtain ⟨x, text, hc⟩ := List.exists_cons_of_ne_nil h
  exact carries_of_ok rfl (congrArg (EStateM.Result.ok ()) (Cursor.skip_before hc))

end Reader

namespace Given

variable {rest : List Char}

theorem steady_readDelta (hr : Spaced rest) : Steady rest readDelta := by
  intro c
  apply steadyAt_head_bind
  · intro y tail hrest
    have hy : isBlank y = true := hr y (by simp [hrest])
    simp [hy]
  · exact fun x text => rfl
  · split
    · exact steady_pure c
    · have hmark : SteadyAt rest (setMark : Reader Unit) c := carries_setMark.steady
      exact hmark.bind fun _ d _ => (steady_readLiteral hr.bounded.delimited d).bind_pure

theorem ahead_ne_nil_of_read {c d : Cursor} {given : Given} (h : read c = .ok given d) : c.ahead ≠ [] := by
  intro hc
  have hlt : d.ahead.length < c.ahead.length := (advances_read _ _ _ h).2
  simp [hc] at hlt

theorem steady_read (hr : Spaced rest) : Steady rest read := by
  intro c given d h
  have hstands : SteadyAt rest (standsAt "~" : Reader Bool) c := (carries_standsAt (ahead_ne_nil_of_read h)).steady
  refine (hstands.bind fun found c₁ hfound => ?_) given d h
  cases hfound
  split
  · have hskip : SteadyAt rest (skip 1 : Reader Unit) c := (carries_skip_one (ahead_ne_nil_of_read h)).steady
    exact hskip.bind fun _ e _ => steady_readDelta hr e
  · exact (steady_readLiteral hr.bounded.delimited c).bind_pure

theorem read_before {c d : Cursor} {given : Given} (hr : Spaced rest) (h : read c.atValue = .ok given d) :
    read (c.before rest).atValue = .ok given (d.before rest) := by
  have hstart : (c.before rest).atValue = c.atValue.before rest := by
    rw [Cursor.atValue, skipBlanks_before (ahead_ne_nil_of_read h :)]
    rfl
  rw [hstart]
  exact steady_read hr _ _ _ h

end Given

theorem Literal.Written.read_plain {l : Literal} {text rest : List Char} {c : Cursor} (h : l.Written text)
    (hr : Bounded rest) (hc : c.ahead = text ++ rest) :
    ∃ offset, Given.read c = .ok (.plain l) ⟨offset, rest, c.mark⟩ := by
  have hreads : Reads readLiteral text rest l := h.reads.before fun c _ => steady_readLiteral hr.delimited c
  obtain ⟨l', offset, hl, hsame⟩ := hreads c.offset c.mark
  obtain ⟨x, tail, htext, _, _, htilde⟩ := h.exists_cons
  rw [← hc, hsame] at hl
  exact ⟨offset, Given.read_of_literal (by simpa [hc, htext] using htilde) hl⟩

namespace Prompt

variable {scope : Scope} {command : Command} {b b' : Binding} {c d : Cursor} {rest text more : List Char}
  {gap wide : Gap} {given : Given} {item : Item} {items : List Item} {l : Literal}

theorem carries_here {α : Type} {x : Checked α} : Carries rest (here x) c := by
  constructor
  · intro a d h
    obtain ⟨rfl, rfl⟩ := here_eq_ok.1 h
    rfl
  · intro e d h
    obtain ⟨e', rfl, rfl⟩ := here_eq_error h
    exact ⟨_, rfl⟩

theorem carries_readNamed {key : Literal} (hr : Spaced rest) (hne : c.ahead ≠ [])
    (h : Item.nextKeyed key c = .ok (some item) d) : Carries rest (readNamed scope command key b) c := by
  obtain ⟨given, hg, _⟩ := Item.nextKeyed_eq_ok.1 h
  refine carries_here.bind fun a c' ha => ?_
  obtain ⟨_, rfl⟩ := here_eq_ok.1 ha
  refine (carries_skip_one hne).bind fun _ c' hc' => ?_
  obtain rfl := skip_eq_ok.1 hc'
  refine (carries_skipBlanks (Given.ahead_ne_nil_of_read hg :)).bind fun _ c' hc' => ?_
  cases hc'
  refine carries_setMark.bind fun _ c' hc' => ?_
  cases hc'
  exact (carries_lift hg (Given.steady_read hr _)).bind fun _ _ _ => carries_here

theorem readItem_of_read (hg : Given.read c.atValue = .ok given d) :
    readItem scope command b c = takeGiven scope command b given d := by
  rw [readItem_eq, if_neg (Given.ahead_ne_nil_of_read hg), bind_of_ok (lift_eq_ok.2 hg)]

theorem carries_readItem (hr : Spaced rest) (hnext : Item.next c = .ok (some item) d)
    (hd : ∀ l, item = .ordered (.plain l) → d.ahead ≠ []) : Carries rest (readItem scope command b) c := by
  obtain ⟨_, given, c₂, hg, hitem⟩ := Item.next_eq_some.1 hnext
  refine Carries.of_eq (readItem_of_read hg) (readItem_of_read (Given.read_before hr hg)) ?_
  cases given with
  | relative delta => exact carries_here.bind fun _ _ _ => carries_pure
  | plain l =>
      rw [Item.nextGiven_plain] at hitem
      have hbehind : (c₂.skip (c₂.ahead.takeWhile isBlank).length).ahead ≠ [] := by
        intro hend
        rw [hend] at hitem
        cases hitem
        exact hd l rfl hend
      refine (carries_skipBlanks hbehind).bind fun _ c' hc' => ?_
      cases hc'
      refine (carries_standsAt hbehind).bind fun keyed c' hc' => ?_
      cases hc'
      split
      · next hkeyed =>
          have hsign : String.singleton '=' = "=" := by decide
          rw [if_pos ((standsAt_iff hsign).1 hkeyed)] at hitem
          exact (carries_readNamed hr hbehind hitem).bind fun _ _ _ => carries_pure
      · exact carries_here.bind fun _ _ _ => carries_pure

theorem here_of_mark {α : Type} {x : Checked α} {c' : Cursor} {e : Failure Complaint}
    (hmark : c.valueOffset = c'.valueOffset)
    (h : (do return some (← here x) : BuildReader (Option α)) c = .error e d) :
    ∃ d', (do return some (← here x) : BuildReader (Option α)) c' = .error e d' := by
  rcases bind_eq_error.1 h with h | ⟨_, _, _, h⟩
  · obtain ⟨e', rfl, rfl⟩ := here_eq_error h
    exact ⟨c', by rw [hmark]; rfl⟩
  · cases h

/-- A plain value at the end of a text may yet become a key, but further items do not make it one. -/
theorem finalAt_readItem_of_end (h : l.Written text) (hwide : wide.text = [] → more = [])
    (hmore : ∀ x ∈ more.head?, isBlank x = false ∧ x ≠ '=') (hc : c.Behind (text ++ gap.text)) :
    FinalAt (wide.text ++ more) (readItem scope command b) c := by
  obtain ⟨x, tail, rfl, hx, _⟩ := h.exists_cons
  have hahead : c.atValue.ahead = x :: tail ++ gap.text := hc.skip (by simpa using hx)
  obtain ⟨offset, hg⟩ := h.read_plain gap.bounded hahead
  have hg' := Given.read_before (spaced_gap wide hwide) hg
  refine FinalAt.of_eq (readItem_of_read hg) (readItem_of_read hg') fun e d hrun => ?_
  -- There is no equals sign behind the value, neither at the end of the text nor in front of further items.
  have hend : more.head? ≠ some '=' := fun hx => (hmore _ hx).2 rfl
  rw [takeGiven_plain, Cursor.Behind.skip ⟨gap, (List.append_nil _).symm⟩ (by simp), if_neg (by simp)] at hrun
  rw [takeGiven_plain, (Cursor.behind_of_gaps gap wide rfl).skip fun x hx => (hmore x hx).1, if_neg hend]
  refine here_of_mark ?_ hrun
  rfl

/-- What the last item of a text is at fault for, it is at fault for in front of further items. -/
theorem finalAt_readItem (h : item.Written text) (hwide : wide.text = [] → more = [])
    (hmore : ∀ x ∈ more.head?, isBlank x = false ∧ x ≠ '=') (hc : c.Behind (text ++ gap.text))
    (hnext : Item.next c = .ok (some item) d) : FinalAt (wide.text ++ more) (readItem scope command b) c := by
  have hspaced : Spaced (wide.text ++ more) := spaced_gap wide hwide
  -- Only a plain value looks behind itself, for the sign that would make it a key.
  cases h with
  | ordered h =>
      cases h with
      | plain h => exact finalAt_readItem_of_end h hwide hmore hc
      | bare | relative => exact (carries_readItem hspaced hnext (by rintro _ ⟨⟩)).final
  | named => exact (carries_readItem hspaced hnext (by rintro _ ⟨⟩)).final

theorem iterate_of_end (scope : Scope) (command : Command) (b : Binding) (hc : c.Behind []) :
    ∃ d, iterate (readItem scope command) (progresses_readItem scope command) b c = .ok b d := by
  obtain ⟨d, hd⟩ := next_of_end hc
  exact ⟨d, by rw [iterate_eq, readItem_of_next hd]⟩

/-- What the items of a text are at fault for, they are at fault for in front of further items. -/
theorem finalAt_iterate (h : ItemsWritten items text) (hwide : wide.text = [] → more = [])
    (hmore : ∀ x ∈ more.head?, isBlank x = false ∧ x ≠ '=') (hc : c.Behind text) :
    FinalAt (wide.text ++ more) (iterate (readItem scope command) (progresses_readItem scope command) b) c := by
  have hspaced : Spaced (wide.text ++ more) := spaced_gap wide hwide
  -- By induction on the items, for any binding: an item with more behind it carries the step and its fault alike. Behind
  -- the last item there is no step to carry, as the end of the text has no fault.
  induction h generalizing b c with
  | nil =>
      intro e d herror
      obtain ⟨d', hend⟩ := iterate_of_end scope command b hc
      cases hend.symm.trans herror
  | @cons item items text rest h gap hgap hrest ih =>
      intro e d herror
      have hempty : gap.text = [] → rest = [] := fun hg => hrest.eq_nil (hgap hg)
      obtain ⟨d₁, hnext, hd₁⟩ := Item.next_of_written h gap hempty hrest.head hc
      have hcarries : rest ≠ [] → Carries (wide.text ++ more) (readItem scope command b) c := by
        refine fun hne => carries_readItem hspaced hnext fun _ _ hend => hne ?_
        obtain ⟨gap', hgap'⟩ := hd₁
        rw [hend] at hgap'
        exact (List.append_eq_nil_iff.1 hgap'.symm).2
      rw [iterate_eq] at herror
      split at herror
      · next e₁ c₁ hstep =>
          cases herror
          have hfinal : FinalAt (wide.text ++ more) (readItem scope command b) c := by
            by_cases hne : rest = []
            · subst hne
              rw [List.append_nil] at hc
              exact finalAt_readItem h hwide hmore hc hnext
            · exact (hcarries hne).final
          obtain ⟨d', hstep'⟩ := hfinal _ _ hstep
          exact ⟨d', by rw [iterate_eq, hstep']⟩
      · cases herror
      · next b' c₁ hstep =>
          rcases next_of_readItem hstep with ⟨hnone, _⟩ | ⟨item', _, _, hnext', _⟩
          · cases hnone
          · cases hnext.symm.trans hnext'
            by_cases hne : rest = []
            · subst hne
              obtain ⟨d', hend⟩ := iterate_of_end scope command b' hd₁
              cases hend.symm.trans herror
            · obtain ⟨d', herror'⟩ := ih hd₁ _ _ herror
              exact ⟨d', by rw [iterate_eq, (hcarries hne).steady _ _ hstep]; exact herror'⟩

theorem carries_readName {name : String} {commands : Table Command} (hr : Spaced rest) (hname : NameWritten name text)
    (hc : c.Behind (text ++ more)) (hmore : Spaced more) : Carries rest (readName commands) c := by
  obtain ⟨x, tail, rfl, hx⟩ := hname.exists_cons
  have hahead := hc.skip (by simpa using hx)
  have hne : (c.skip (c.ahead.takeWhile isBlank).length).ahead ≠ [] := by simp [hahead]
  obtain ⟨d, hd, _⟩ := hname.takes hmore.bounded.delimited
    { c.skip (c.ahead.takeWhile isBlank).length with mark := some (Cursor.skip _ _).offset } hahead
  refine (carries_skipBlanks hne).bind fun _ c' hc' => ?_
  cases hc'
  refine carries_setMark.bind fun _ c' hc' => ?_
  cases hc'
  exact (carries_lift hd (steady_readName hr.bounded.delimited _)).bind fun _ _ _ => carries_here

theorem readName_of_written (commands : Table Command) {name : String} (hname : NameWritten name text)
    (hc : c.Behind (text ++ more)) (hmore : Spaced more) :
    ∃ d : Cursor, d.ahead = more ∧ readName commands c = here (lookup commands name) d := by
  obtain ⟨x, tail, rfl, hx⟩ := hname.exists_cons
  let start : Cursor := c.skip (c.ahead.takeWhile isBlank).length
  have hahead : start.ahead = x :: tail ++ more := hc.skip (by simpa using hx)
  obtain ⟨d, hd, hdmore⟩ := hname.takes hmore.bounded.delimited { start with mark := some start.offset } hahead
  refine ⟨d, hdmore, ?_⟩
  rw [readName]
  simp only [skipBlanks_bind, setMark_bind]
  rw [bind_of_ok (lift_eq_ok.2 hd)]
  rfl

theorem ahead_of_readName {name : String} {commands : Table Command} (hname : NameWritten name text)
    (hc : c.Behind (text ++ more)) (hmore : Spaced more) (h : readName commands c = .ok command d) :
    d.ahead = more := by
  obtain ⟨d', hahead, hread⟩ := readName_of_written commands hname hc hmore
  rw [hread] at h
  obtain ⟨_, rfl⟩ := here_eq_ok.1 h
  exact hahead

theorem missing_of_omitted {e : Failure Cause} {byName : Bool} {a : Argument}
    (h : Binding.omitted command byName a = .error e) : e = .fault (.missing command a byName) := by
  rw [Binding.omitted] at h
  split at h
  · cases h
  · cases h
    rfl

theorem missing_of_complete {e : Failure Cause} (h : b.complete command = .error e) :
    ∃ a byName, e = .fault (.missing command a byName) := by
  rcases Checked.bind_eq_error.1 h with h | ⟨_, _, h⟩
  · obtain ⟨a, _, ha⟩ := Checked.exists_of_mapM_eq_error h
    exact ⟨a, false, missing_of_omitted ha⟩
  · rcases Checked.bind_eq_error.1 h with h | ⟨_, _, h⟩
    · obtain ⟨a, _, ha⟩ := Checked.exists_of_mapM_eq_error h
      rcases Checked.bind_eq_error.1 ha with ha | ⟨_, _, ha⟩
      · exact ⟨a, true, missing_of_omitted ha⟩
      · cases ha
    · cases h

/-- Whatever a prompt is at fault for, but for a value that is missing, it is at fault for in front of further items. -/
theorem error_of_read {name : String} {commands : Table Command} {e : Failure Complaint}
    (hwritten : Written name items text) (hwide : wide.text = [] → more = [])
    (hmore : ∀ x ∈ more.head?, isBlank x = false ∧ x ≠ '=') (hc : c.ahead = text)
    (he : ∀ command a byName offset, e ≠ .fault ⟨.missing command a byName, offset⟩)
    (h : read scope commands c = .error e d) :
    ∃ d', read scope commands (c.before (wide.text ++ more)) = .error e d' := by
  obtain @⟨nameText, rest, before, hname, gap, hgap, hrest⟩ := hwritten
  have hspaced : Spaced (wide.text ++ more) := spaced_gap wide hwide
  have hgapped : Spaced (gap.text ++ rest) := spaced_gap gap fun hg => hrest.eq_nil (hgap hg)
  have hfirst : Carries (wide.text ++ more) (readName commands) c :=
    carries_readName hspaced hname ⟨before, hc⟩ hgapped
  rcases bind_eq_error.1 h with h | ⟨command, c₁, hcommand, h⟩
  · obtain ⟨d', h'⟩ := hfirst.final _ _ h
    exact ⟨d', bind_eq_error.2 (.inl h')⟩
  · have hbehind : c₁.Behind rest := ⟨gap, ahead_of_readName hname ⟨before, hc⟩ hgapped hcommand⟩
    rcases bind_eq_error.1 h with h | ⟨b, c₂, _, h⟩
    · obtain ⟨d', h'⟩ := finalAt_iterate hrest hwide hmore hbehind _ _ h
      exact ⟨d', bind_eq_error.2 (.inr ⟨command, _, hfirst.steady _ _ hcommand, bind_eq_error.2 (.inl h')⟩)⟩
    · rw [setMark_bind] at h
      obtain ⟨e', hcomplete, rfl⟩ := here_eq_error h
      obtain ⟨a, byName, rfl⟩ := missing_of_complete hcomplete
      exact absurd rfl (he _ _ _ _)

end Prompt

theorem Text.placeOf_append {text tail : List Char} {offset : Int} (h : 0 ≤ offset ∧ offset ≤ text.length) :
    placeOf (text ++ tail) offset = placeOf text offset := by
  obtain ⟨p, rfl⟩ := Int.eq_ofNat_of_zero_le h.1
  have hp : p ≤ text.length := Int.ofNat_le.1 h.2
  rw [placeOf_natCast, placeOf_natCast, place, place, List.take_append_of_le_length hp]

/-- What stands behind a text moves no fault of it. -/
theorem Complaint.Inside.fault_append {source source' : Source} {tail : List Char} {e : Complaint} {f : Fault}
    (h : e.Inside source.text.toList) (hlabel : source'.label = source.label)
    (htext : source'.text.toList = source.text.toList ++ tail) (hf : e.fault source = .ok f) :
    e.fault source' = .ok { f with text := .string source'.text } := by
  have hplace : placeOf source'.text.toList e.offset = placeOf source.text.toList e.offset := by
    rw [htext]
    exact placeOf_append h
  obtain ⟨hint, hhint, rfl⟩ := Fault.ofCause_eq_ok.1 hf
  refine Fault.ofCause_eq_ok.2 ⟨hint, hhint, ?_⟩
  simp only [Fault.hinted, Fault.placed, hplace, hlabel]

namespace Prompt

variable {scope : Scope} {commands : Table Command} {f : Fault} {name : String} {items : List Item} {more : List Char}
  {wide : Gap}

theorem parse_of_fault (source source' : Source) (hwritten : Written name items source.text.toList)
    (hwide : wide.text = [] → more = []) (hmore : ∀ x ∈ more.head?, isBlank x = false ∧ x ≠ '=')
    (hlabel : source'.label = source.label)
    (htext : source'.text.toList = source.text.toList ++ (wide.text ++ more))
    (h : parse scope commands source = .error (.fault f)) (hf : f.kind ≠ .missingArgument) :
    parse scope commands source' = .error (.fault { f with text := .string source'.text }) := by
  obtain ⟨e, d, hread, htold, hinside⟩ := error_of_parse h
  have he : ∀ command a byName offset, Failure.fault e ≠ .fault ⟨.missing command a byName, offset⟩ := by
    rintro command a byName offset he
    obtain rfl := Failure.fault.inj he
    obtain ⟨_, _, rfl⟩ := Fault.ofCause_eq_ok.1 htold
    exact hf rfl
  obtain ⟨d', hread'⟩ := error_of_read hwritten hwide hmore rfl he hread
  have hstart : Cursor.start source'.text = (Cursor.start source.text).before (wide.text ++ more) := by
    rw [Cursor.start, Cursor.start, htext]
    rfl
  rw [parse, hstart, hread']
  exact congrArg Except.error (Failure.told_of_ok (hinside.fault_append hlabel htext htold))

end Prompt

/-- The first fault of a prompt is final: behind white space and any further items, the text is at fault in the same way
and at the same place. A value that is missing may still come. -/
theorem Interpreter.parse_of_first_fault {i : Interpreter} {r : Repository} {text tail name : String} {label : Value}
    {items further : List Item} {more : List Char} {gap : Gap} {f : Fault}
    (hwritten : Prompt.Written name items text.toList) (hgap : gap.text ≠ [])
    (hfurther : Prompt.ItemsWritten further more) (htail : tail.toList = gap.text ++ more)
    (h : i.parse r (.string text) label = .error (.fault f)) (hf : f.kind ≠ .missingArgument) :
    i.parse r (.string (text ++ tail)) label = .error (.fault { f with text := .string (text ++ tail) }) := by
  cases label with
  | string label =>
      rw [parse_string] at h ⊢
      have htext : (text ++ tail).toList = text.toList ++ (gap.text ++ more) := by rw [String.toList_append, htail]
      exact Prompt.parse_of_fault ⟨text, label⟩ ⟨text ++ tail, label⟩ hwritten (fun hnone => absurd hnone hgap)
        hfurther.head rfl htext h hf
  | _ =>
      rw [parse_of_misuse _ _ rfl] at h
      cases h

/-- A value that is no choice, in front of one that would be. -/
theorem Interpreter.parse_of_first_fault_paint :
    ∃ (r : Repository) (text tail : String) (f : Fault), text = "'paint' 'lamp'" ∧ tail = " 'box' 'at'=~1" ∧
      painter.parse r (.string text) (.string "<prompt>") = .error (.fault f) ∧
      (f.kind, f.line, f.column) = (.invalidEnumValue, .integer 1, .integer 9) ∧
      painter.parse r (.string (text ++ tail)) (.string "<prompt>") =
        .error (.fault { f with text := .string (text ++ tail) }) := by
  let f : Fault := .hinted ⟨"'paint' 'lamp'", "<prompt>"⟩
    (.noChoice ⟨"what", .choice, false, .none, none, "shape"⟩ "lamp" ["box", "disc"]) 8 "expected one of: box, disc"
  have hp : painter.parse ⟨[("paint", paint)]⟩ (.string "'paint' 'lamp'") (.string "<prompt>") = .error (.fault f) := by
    with_unfolding_all rfl
  have hname := NameWritten.quoted .single "paint"
  have hlamp := Literal.written_constant (l := .string "lamp") (.string _) .single
  have hbox := Literal.written_constant (l := .string "box") (.string _) .single
  have hat := Literal.written_constant (l := .string "at") (.string _) .single
  have hone := Literal.written_constant (l := .integer 1) (.integer 1 (by decide)) .single
  have hwritten := Prompt.Written.intro .nothing hname .space nofun
    (.cons (.ordered (.plain hlamp)) .nothing (fun _ => rfl) .nil)
  have hfurther := Prompt.ItemsWritten.cons (.ordered (.plain hbox)) .space nofun
    (.cons (.named hat .nothing .nothing (.relative hone)) .nothing (fun _ => rfl) .nil)
  have hgap : Gap.space.text ≠ [] := nofun
  exact ⟨_, _, " 'box' 'at'=~1", f, rfl, rfl, hp, rfl, parse_of_first_fault hwritten hgap hfurther rfl hp (by decide)⟩

end Prompter
