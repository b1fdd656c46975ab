import Prompter.Proofs.Scheme.Declarations
import Prompter.Proofs.Scheme.Defaults

namespace Prompter.Scheme

open Text Reader

/-- A text that is read as a name where a colon follows. White space may stand in front. -/
def LabelWritten (name : String) (text : List Char) : Prop :=
  ∀ rest, Reads (do skipBlanks; readName false : Reader String) text (':' :: rest) name

variable {c d : Cursor} {name s : String} {ms : List String} {x : Char} {label before behind tail : List Char}
  {taken : List String} {last : Sign → Option Literal} {l : Literal} {a : Argument}

section Labels

theorem labelWritten_quoted (g : Gap) (q : Quote) (name : String) : LabelWritten name (g.text ++ q.quoted name) := by
  intro rest
  refine (reads_skipBlanks g.blank ?_).bind (Quote.reads_readName ⟨[], isGap_nil⟩)
  simp [Quote.quoted, Quote.isBlank_char]

theorem labelWritten_bare (g : Gap) (hx : isNameStart x = true) (ht : ∀ y ∈ tail, isNamePart y = true) :
    LabelWritten (.ofList (x :: tail)) (g.text ++ x :: tail) := by
  intro rest
  have hpart : ∀ y ∈ x :: tail, isNamePart y = true := List.forall_mem_cons.2 ⟨isNamePart_of_isNameStart hx, ht⟩
  have hblank : isBlank x = false := isBlank_of_isNamePart (hpart x List.mem_cons_self)
  have hrun : Reads (run (nameRun false) : Reader (List Char)) (x :: tail) (':' :: rest) (x :: tail) := by
    apply reads_run
    rw [nameRun_false]
    refine takeWhile_append_of_head hpart ?_
    simp only [List.head?_cons, Option.mem_some_iff, forall_eq']
    decide +kernel
  refine (reads_skipBlanks g.blank (by simpa using hblank)).bind (yields_peek_bind_head hblank ?_)
  rw [if_neg (by simp [isQuote_of_isNameStart hx]), if_pos hx]
  exact hrun.bind_pure

theorem LabelWritten.fresh (taken : List String) (hl : LabelWritten name label)
    (hc : c.ahead = label ++ ':' :: behind) :
    ∃ e offset, e.ahead = ':' :: behind ∧ readFreshName taken c =
      (if taken.contains name then failAt offset (.repeatedName name) else pure name : Reader String) e := by
  obtain ⟨offset, ahead, mark⟩ := c
  obtain rfl : ahead = label ++ ':' :: behind := hc
  obtain ⟨_, offset', hname, rfl⟩ := hl behind offset mark
  rw [skipBlanks_bind] at hname
  exact ⟨_, _, rfl, readFreshName_of_readName taken hname⟩

end Labels

section Heads

theorem headWritten_choices (hl : LabelWritten name label) (hb : BeforeChoices before) (hx : x = '[' ∨ x = '$')
    (hchoices : ∀ gap, IsGap gap → Reads readChoices (gap ++ x :: behind) [] s) :
    HeadWritten name .choice s (label ++ ([':'] ++ (before ++ x :: behind))) := by
  obtain ⟨front, gap, rfl, hgap, hkind⟩ := hb.reads hx
  have hassoc : readHead = ((do skipBlanks; readName false : Reader String) >>= fun name => do
      expect ":"
      let kind ← readKind
      let choices ← if kind = .choice then readChoices else pure ""
      return (name, kind, choices)) := rfl
  have hcolon : ∀ rest, Reads (expect ":") [':'] rest () := fun rest => reads_expect (by decide)
  have hword : Reads readKind front (gap ++ x :: behind ++ []) .choice := by
    rw [List.append_nil]
    exact hkind behind
  rw [HeadWritten, hassoc, List.append_assoc]
  refine (hl _).bind ((hcolon _).bind (hword.bind ?_))
  dsimp only
  rw [if_pos rfl]
  exact (hchoices gap hgap).bind_pure

theorem headWritten_members (hl : LabelWritten name label) (hb : BeforeChoices before) (h : Choices.Written ms) :
    HeadWritten name .choice (Choices.write ms) (label ++ ':' :: (before ++ membersText ms)) := by
  refine headWritten_choices hl hb (.inl rfl) fun gap hg => ?_
  have hread : Reads readChoices _ [] _ := reads_readChoices_members hg h
  rwa [Choices.write, Choices.body_barred] at hread

theorem headWritten_reference (hl : LabelWritten name label) (hb : BeforeChoices before) (h : Choices.Reference s) :
    HeadWritten name .choice s (label ++ ':' :: (before ++ referenceText s)) :=
  headWritten_choices hl hb (.inr rfl) fun _ hg => reads_readChoices_reference hg h (by simp [WordEnds])

end Heads

section Members

/-- Between brackets there is one set at most, and none where a member could not be written. -/
theorem written_of_begins (hbracket : ∀ m ∈ ms, ']' ∉ m.toList) (hbar : ∀ m ∈ ms, '|' ∉ m.toList)
    (h : BeginsWith s (membersText ms ++ behind)) : Choices.Written ms := by
  generalize hrest : membersText ms ++ behind = rest at h
  cases h with
  | @members ms' behind' hms =>
      have hjoined := congrArg (fun rest => rest.tail.takeWhile (· ≠ ']')) hrest
      simp only [takeWhile_membersText hbracket, takeWhile_membersText hms.no_bracket] at hjoined
      have hpieces := congrArg (pieces '|') hjoined
      have hpieces' : pieces '|' (joined '|' (ms'.map String.toList)) = ms'.map String.toList :=
        pieces_joined (by simpa using hms.ne_nil) (by simpa using hms.no_bar)
      rw [hpieces'] at hpieces
      cases ms with
      | nil =>
          -- Nothing between the brackets is one empty member, and not no members.
          have hempty : "" ∈ ms' := by
            have hmem : [] ∈ ms'.map String.toList := hpieces ▸ List.mem_singleton_self _
            simpa using hmem
          exact absurd rfl (hms.ne_empty "" hempty)
      | cons m ms =>
          rw [pieces_joined (by simp) (by simpa using hbar)] at hpieces
          rwa [List.map_injective_iff.2 (fun s t => String.toList_inj.1) hpieces]
  | reference => exact absurd (List.cons.inj hrest).1 (by decide)

theorem begins_of_stands (hl : LabelWritten name label) (hb : BeforeChoices before) (hx : x = '[' ∨ x = '$')
    (hc : Stands (label ++ ':' :: (before ++ x :: tail)) last c) (h : readArgument taken c = .ok a d) :
    ∃ behind, BeginsWith a.choices (x :: (tail ++ behind)) := by
  obtain ⟨_, text, rest, _, _, _, hahead⟩ := hc
  have htext : c.ahead = label ++ ':' :: (before ++ x :: (tail ++ (text ++ rest))) := by simp [hahead]
  obtain ⟨e, offset, he, hfresh⟩ := hl.fresh taken htext
  obtain ⟨e', _, _, hname, _⟩ := parts_of_readArgument h
  have hsame := hfresh.symm.trans hname
  split at hsame
  · exact absurd hsame failAt_ne_ok
  · obtain ⟨_, rfl⟩ := pure_eq_ok.1 hsame
    exact ⟨text ++ rest, (begins_of_readArgument h hname hb hx he).2⟩

theorem unsuitable_choice {o : Literal} : Unsuitable .choice o := .inl rfl

/-- Members between brackets are an argument when each of them can be written, and the default is one of them. -/
theorem exists_readArgument_members_iff (hl : LabelWritten name label) (hb : BeforeChoices before)
    (hbracket : ∀ m ∈ ms, ']' ∉ m.toList) (hbar : ∀ m ∈ ms, '|' ∉ m.toList)
    (hc : Stands (label ++ ':' :: (before ++ membersText ms)) last c) :
    (∃ a d, readArgument taken c = .ok a d) ↔ Choices.Written ms ∧ (name ∉ taken ∧ name ≠ "") ∧
      last .origin = none ∧ ∀ l, last .initial = some l → l = .none ∨ ∃ m ∈ ms, l = .string m := by
  have hread : Choices.Written ms → ((∃ a d, readArgument taken c = .ok a d) ↔ (name ∉ taken ∧ name ≠ "") ∧
      last .origin = none ∧ ∀ l, last .initial = some l → l = .none ∨ ∃ m ∈ ms, l = .string m) := by
    intro hms
    rw [exists_readArgument_iff (headWritten_members hl hb hms) hc]
    simp only [unsuitable_choice, not_true_eq_false, imp_false, fits_write_iff hms, Option.eq_none_iff_forall_ne_some]
  constructor
  · rintro ⟨a, d, h⟩
    obtain ⟨behind, hbegins⟩ := begins_of_stands hl hb (.inl rfl) hc h
    have hms := written_of_begins hbracket hbar hbegins
    exact ⟨hms, (hread hms).1 ⟨a, d, h⟩⟩
  · rintro ⟨hms, h⟩
    exact (hread hms).2 h

end Members

end Prompter.Scheme
