import Prompter.Proofs.Scheme.Argument

namespace Prompter.Scheme

open Text Reader

/-- What stands between the colon and the choices: white space, perhaps with the word for their kind. -/
inductive BeforeChoices : List Char → Prop
  | bare {gap : List Char} (h : IsGap gap) : BeforeChoices gap
  | word {gap behind : List Char} (h : IsGap gap) (hb : IsGap behind) : BeforeChoices (gap ++ ("enum".toList ++ behind))

def membersText (ms : List String) : List Char := '[' :: (joined '|' (ms.map String.toList) ++ [']'])

def referenceText (name : String) : List Char := '$' :: name.toList

inductive BeginsWith : String → List Char → Prop
  | members {ms : List String} {behind : List Char} (h : Choices.Written ms) :
      BeginsWith (Choices.write ms) (membersText ms ++ behind)
  | reference {name : String} {behind : List Char} (h : Choices.Reference name) (hb : WordEnds behind) :
      BeginsWith name (referenceText name ++ behind)

/-- In the text, the argument is read where its name stands, a colon, and then the choices. -/
def Declares (text : String) (a : Argument) (choices : List Char) : Prop :=
  ∃ taken c d e before, (Cursor.start text).Reaches c ∧ readArgument taken c = .ok a d ∧
    readFreshName taken c = .ok a.name e ∧ BeforeChoices before ∧ e.ahead = ':' :: (before ++ choices)

def Inline (text : String) (a : Argument) (ms : List String) : Prop :=
  Choices.Written ms ∧ ∃ behind, Declares text a (membersText ms ++ behind)

def Refers (text : String) (a : Argument) (name : String) : Prop :=
  Choices.Reference name ∧ ∃ behind, WordEnds behind ∧ Declares text a (referenceText name ++ behind)

variable {c d e : Cursor} {a : Argument} {s s' text : String} {x : Char} {rest rest' before before' : List Char}

section Text

theorem BeforeChoices.append {gap : List Char} (h : BeforeChoices before) (hg : IsGap gap) :
    BeforeChoices (before ++ gap) := by
  have happend : ∀ {g}, IsGap g → IsGap (g ++ gap) := fun h => List.forall_mem_append.2 ⟨h, hg⟩
  cases h with
  | bare h => exact .bare (happend h)
  | word h hb =>
      rw [List.append_assoc, List.append_assoc]
      exact .word h (happend hb)

def isBefore (x : Char) : Bool := x != '[' && x != '$'

theorem BeforeChoices.isBefore (h : BeforeChoices before) : ∀ x ∈ before, isBefore x = true := by
  have hgap : ∀ {gap}, IsGap gap → ∀ x ∈ gap, Scheme.isBefore x = true := by
    intro gap hg x hx
    by_contra hnot
    have hx := hg x hx
    obtain rfl | rfl : x = '[' ∨ x = '$' := by simpa [Scheme.isBefore, -not_and, not_and_or] using hnot
    all_goals exact absurd hx (by decide)
  cases h with
  | bare h => exact hgap h
  | word h hb =>
      refine List.forall_mem_append.2 ⟨hgap h, List.forall_mem_append.2 ⟨?_, hgap hb⟩⟩
      exact List.all_eq_true.1 (by decide)

theorem BeginsWith.head (h : BeginsWith s rest) : ∃ x behind, rest = x :: behind ∧ (x = '[' ∨ x = '$') := by
  cases h with
  | members => exact ⟨_, _, rfl, .inl rfl⟩
  | reference => exact ⟨_, _, rfl, .inr rfl⟩

/-- Where the choices begin is certain, whatever stands before them. -/
theorem BeforeChoices.dropWhile (hb : BeforeChoices before) (hx : x = '[' ∨ x = '$') :
    (before ++ x :: rest).dropWhile Scheme.isBefore = x :: rest := by
  rw [List.dropWhile_append_of_pos hb.isBefore]
  rcases hx with rfl | rfl <;> rfl

theorem takeWhile_membersText {ms : List String} {behind : List Char} (h : ∀ m ∈ ms, ']' ∉ m.toList) :
    (membersText ms ++ behind).tail.takeWhile (· ≠ ']') = joined '|' (ms.map String.toList) := by
  have htail : (membersText ms ++ behind).tail = joined '|' (ms.map String.toList) ++ ']' :: behind := by
    simp [membersText]
  rw [htail]
  refine takeWhile_append_of_head (fun x hx => ?_) (by simp)
  rcases mem_joined hx with rfl | ⟨p, hp, hx⟩
  · decide
  · obtain ⟨m, hm, rfl⟩ := List.mem_map.1 hp
    have hne : x ≠ ']' := fun heq => h m hm (heq ▸ hx)
    simpa using hne

theorem takeWhile_referenceText {name : String} {behind : List Char} (h : Choices.Reference name)
    (hb : WordEnds behind) :
    (referenceText name ++ behind).tail.takeWhile (fun x => isNamePart x && x != '$') = name.toList :=
  takeWhile_append_of_head (fun x hx => by simpa using h.plain x hx) hb

theorem BeginsWith.unique (h : BeginsWith s rest) (h' : BeginsWith s' rest') (heq : rest = rest') : s = s' := by
  cases h with
  | members hms =>
      cases h' with
      | members hms' =>
          have hjoined := congrArg (fun rest => rest.tail.takeWhile (· ≠ ']')) heq
          simp only [takeWhile_membersText hms.no_bracket, takeWhile_membersText hms'.no_bracket] at hjoined
          rw [Choices.write, Choices.write, hjoined]
      | reference => exact absurd (List.cons.inj heq).1 (by decide)
  | reference href hb =>
      cases h' with
      | members => exact absurd (List.cons.inj heq).1 (by decide)
      | reference href' hb' =>
          have hname := congrArg (fun rest => rest.tail.takeWhile fun x => isNamePart x && x != '$') heq
          simp only [takeWhile_referenceText href hb, takeWhile_referenceText href' hb'] at hname
          exact String.toList_inj.1 hname

end Text

theorem ahead_of_readKind (h : readKind c = .ok .choice d) :
    ∃ before, BeforeChoices before ∧ c.ahead = before ++ d.ahead := by
  obtain ⟨x, c₁, hx, h⟩ := bind_eq_ok.1 h
  obtain ⟨gap, rest, hgap, hc, _⟩ := ahead_of_peek hx
  split at h
  · obtain ⟨_, rfl⟩ := pure_eq_ok.1 h
    exact ⟨gap, .bare hgap, hc⟩
  · rw [offset_bind] at h
    obtain ⟨word, c₂, hword, h⟩ := bind_eq_ok.1 h
    obtain ⟨_, hahead, _⟩ := ahead_of_takeWhile hword
    split at h
    · exact absurd h fail_ne_ok
    · generalize hkind : Kind.ofKeyword? (.ofList word) = kind? at h
      cases kind? with
      | some kind =>
          obtain ⟨rfl, rfl⟩ := pure_eq_ok.1 h
          have hword : word = "enum".toList := by
            rw [← String.toList_ofList (l := word), ← Kind.keyword_of_ofKeyword? hkind]
            rfl
          refine ⟨gap ++ ("enum".toList ++ []), .word hgap isGap_nil, ?_⟩
          rw [hc, hahead, hword, List.append_nil, List.append_assoc]
      | none => exact absurd h failAt_ne_ok

theorem BeforeChoices.reads (hb : BeforeChoices before) (hx : x = '[' ∨ x = '$') : ∃ front gap,
    before = front ++ gap ∧ IsGap gap ∧ ∀ rest, Reads readKind front (gap ++ x :: rest) .choice := by
  have hblank : isBlank x = false := by rcases hx with rfl | rfl <;> decide
  cases hb with
  | bare hg =>
      refine ⟨before, [], (List.append_nil _).symm, isGap_nil, fun rest => ?_⟩
      apply (reads_peek hg hblank).bind_end
      rw [if_pos hx]
      exact reads_pure
  | @word gap gap' hg hg' =>
      refine ⟨gap ++ Kind.choice.keyword.toList, gap', (List.append_assoc ..).symm, hg', fun rest => ?_⟩
      have hends : WordEnds (gap' ++ x :: rest) := by
        intro y hy
        cases gap' with
        | nil =>
            obtain rfl : x = y := by simpa using hy
            rcases hx with rfl | rfl
            · rw [(sign_facts (by decide)).1, Bool.false_and]
            · simp
        | cons z gap' =>
            obtain rfl : z = y := by simpa using hy
            rw [(isNamePart_of_blank (hg' z List.mem_cons_self)).1, Bool.false_and]
      exact reads_readKind ⟨gap, hg⟩ hends

theorem kind_of_readKind {kind : Kind} (hb : BeforeChoices before) (hx : x = '[' ∨ x = '$')
    (hc : c.ahead = before ++ x :: rest) (h : readKind c = .ok kind d) : kind = .choice := by
  obtain ⟨front, gap, rfl, _, hreads⟩ := hb.reads hx
  obtain ⟨offset, ahead, mark⟩ := c
  obtain rfl : ahead = front ++ gap ++ x :: rest := hc
  obtain ⟨_, offset', hchoice, rfl⟩ := hreads rest offset mark
  rw [← List.append_assoc] at hchoice
  cases h.symm.trans hchoice
  rfl

theorem ahead_of_readChoices (h : readChoices c = .ok s d) :
    ∃ gap rest, IsGap gap ∧ BeginsWith s rest ∧ c.ahead = gap ++ rest := by
  obtain ⟨x, c₁, hx, h⟩ := bind_eq_ok.1 h
  obtain ⟨gap, rest, hgap, hc, hrest⟩ := ahead_of_peek hx
  refine ⟨gap, c₁.ahead, hgap, ?_, hc⟩
  split at h
  · next hbracket =>
      subst hbracket
      obtain ⟨ms, hms, rfl, hahead⟩ := written_of_readMembers h
      have htext : c₁.ahead = membersText ms ++ d.ahead := by
        rw [hrest, List.drop_one, List.tail_cons] at hahead
        rw [hrest, hahead]
        simp [membersText]
      rw [htext]
      exact .members hms
  · obtain ⟨_, c₂, hsign, h⟩ := bind_eq_ok.1 h
    have hdollar : c₁.ahead = '$' :: c₂.ahead := ahead_of_expect (by decide) hsign
    obtain ⟨word, c₃, hword, h⟩ := bind_eq_ok.1 h
    obtain ⟨hrun, hahead, hends⟩ := ahead_of_takeWhile hword
    split at h
    · exact absurd h fail_ne_ok
    · next hne =>
        obtain ⟨rfl, rfl⟩ := pure_eq_ok.1 h
        have htext : c₁.ahead = referenceText (.ofList word) ++ c₃.ahead := by
          rw [hdollar, hahead, referenceText, String.toList_ofList, List.cons_append]
        rw [htext]
        subst hrun
        exact .reference (reference_wordRun fun hnil => hne (List.isEmpty_iff.2 hnil)) hends

theorem parts_of_readArgument {taken : List String} (h : readArgument taken c = .ok a d) :
    ∃ e c₂ c₃, readFreshName taken c = .ok a.name e ∧ e.ahead = ':' :: c₂.ahead ∧ readKind c₂ = .ok a.kind c₃ ∧
      (a.kind = .choice → ∃ c₄, readChoices c₃ = .ok a.choices c₄) := by
  obtain ⟨draft, e, hd, hmake⟩ := bind_eq_ok.1 h
  obtain ⟨name, kind, choices, m, c₁, c₂, c₃, _, hname, hcolon, hkind, hchoices, _, _, rfl⟩ :=
    draft_of_readDraft (lift_eq_ok.1 hd)
  obtain ⟨_, _, _, _, o, _, rfl⟩ := Slot.make_eq_ok.1 (build_eq_ok.1 hmake).1
  exact ⟨c₁, c₂, c₃, hname, ahead_of_expect (by decide) hcolon, hkind, hchoices⟩

theorem ahead_of_readArgument {taken : List String} (h : readArgument taken c = .ok a d) (hk : a.kind = .choice) :
    ∃ e before rest, readFreshName taken c = .ok a.name e ∧ BeforeChoices before ∧ BeginsWith a.choices rest ∧
      e.ahead = ':' :: (before ++ rest) := by
  obtain ⟨e, c₂, c₃, hname, hcolon, hkind, hchoices⟩ := parts_of_readArgument h
  obtain ⟨c₄, hchoices⟩ := hchoices hk
  rw [hk] at hkind
  obtain ⟨before, hbefore, hword⟩ := ahead_of_readKind hkind
  obtain ⟨gap, rest, hgap, hbegins, hahead⟩ := ahead_of_readChoices hchoices
  refine ⟨e, before ++ gap, rest, hname, hbefore.append hgap, hbegins, ?_⟩
  rw [hcolon, hword, hahead, List.append_assoc]

theorem begins_of_readArgument {taken : List String} {name : String} (h : readArgument taken c = .ok a d)
    (hname : readFreshName taken c = .ok name e) (hb : BeforeChoices before) (hx : x = '[' ∨ x = '$')
    (he : e.ahead = ':' :: (before ++ x :: rest)) : a.kind = .choice ∧ BeginsWith a.choices (x :: rest) := by
  obtain ⟨e', c₂, c₃, hname', hcolon, hkind, _⟩ := parts_of_readArgument h
  cases hname.symm.trans hname'
  have hk := kind_of_readKind hb hx (List.cons.inj (hcolon.symm.trans he)).2 hkind
  obtain ⟨e', before', rest', hname', hb', hbegins, he'⟩ := ahead_of_readArgument h hk
  cases hname.symm.trans hname'
  obtain ⟨x', behind, rfl, hx'⟩ := hbegins.head
  have hdrop := congrArg (List.dropWhile isBefore) (List.cons.inj (he'.symm.trans he)).2
  rw [hb'.dropWhile hx', hb.dropWhile hx] at hdrop
  exact ⟨hk, hdrop ▸ hbegins⟩

/-- A declaration determines the choices of the slot. -/
theorem Declares.choices (h : Declares text a rest) (hb : BeginsWith s rest) : a.kind = .choice ∧ a.choices = s := by
  obtain ⟨taken, c, d, e, before, _, hread, hname, hbefore, hahead⟩ := h
  obtain ⟨x, behind, rfl, hx⟩ := hb.head
  obtain ⟨hk, hbegins⟩ := begins_of_readArgument hread hname hbefore hx hahead
  exact ⟨hk, hbegins.unique hb rfl⟩

theorem Inline.choices {ms : List String} (h : Inline text a ms) :
    a.kind = .choice ∧ a.choices = Choices.write ms := by
  obtain ⟨hms, behind, hdeclares⟩ := h
  exact hdeclares.choices (.members hms)

theorem Refers.choices {name : String} (h : Refers text a name) : a.kind = .choice ∧ a.choices = name := by
  obtain ⟨href, behind, hends, hdeclares⟩ := h
  exact hdeclares.choices (.reference href hends)

/-- All choices of a compiled command are declared in its scheme, in one of the two ways. -/
theorem inline_or_refers_of_compile {source : Source} {executor : Value} {command : Command}
    (h : compile source executor = .ok command) (ha : a ∈ command.positional ++ command.keyword)
    (hk : a.kind = .choice) : (∃ ms, Inline source.text a ms) ∨ ∃ name, Refers source.text a name := by
  obtain ⟨d, hd⟩ := readCommand_of_compile h
  have hdeclares : ∀ taken c a d, (Cursor.start source.text).Reaches c → readArgument taken c = .ok a d →
      a.kind = .choice → ∃ rest, Declares source.text a rest ∧ BeginsWith a.choices rest := by
    intro taken c a d hc hread hk
    obtain ⟨e, before, rest, hname, hbefore, hbegins, hahead⟩ := ahead_of_readArgument hread hk
    exact ⟨rest, ⟨taken, c, d, e, before, hc, hread, hname, hbefore, hahead⟩, hbegins⟩
  obtain ⟨hpositional, hkeyword⟩ := forall_slots_of_readCommand hdeclares hd
  obtain ⟨rest, hrest, hbegins⟩ : ∃ rest, Declares source.text a rest ∧ BeginsWith a.choices rest := by
    rcases List.mem_append.1 ha with ha | ha
    · exact hpositional a ha hk
    · exact hkeyword a ha hk
  generalize a.choices = s at hbegins
  cases hbegins with
  | members hms => exact .inl ⟨_, hms, _, hrest⟩
  | reference href hends => exact .inr ⟨_, href, _, hends, hrest⟩

end Prompter.Scheme
