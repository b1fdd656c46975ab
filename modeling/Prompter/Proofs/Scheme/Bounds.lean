import Mathlib.Data.List.Nodup
import Prompter.Proofs.Literal.Bounds
import Prompter.Proofs.Literal.Strings
import Prompter.Proofs.Scheme.WellFormed

namespace Prompter

open Text Reader

variable {text : List Char} {c d : Cursor}

/-- Quotes with nothing between them, except that the line may be continued. -/
def HasEmptyQuote (text : List Char) : Prop :=
  ∃ q n, isQuote q = true ∧ q :: (List.replicate n ['\\', '\n']).flatten ++ [q] <:+: text

section Names

variable {q : Char} {chars : List Char} {opening : Int} {colon : Bool}

theorem ahead_of_readEscape_nil (h : readEscape c = .ok [] d) : c.ahead = '\n' :: d.ahead := by
  obtain ⟨tail, hu, ⟨rest, hc⟩, rfl⟩ := (readEscape_eq_ok (q := '"')).1 h
  cases hu with
  | continued => simp [Cursor.skip, ← hc]

theorem ahead_of_readQuotedFrom_nil (h : readQuotedFrom opening (.singleton q) c = .ok chars d) (hnil : chars = []) :
    ∃ n, c.ahead = (List.replicate n ['\\', '\n']).flatten ++ q :: d.ahead := by
  generalize hquote : String.singleton q = quote at h
  fun_induction readQuotedFrom opening quote c generalizing chars with
  | case1 => cases h
  | case2 => cases h
  | case3 c x rest ha hn hx =>
      cases h
      refine ⟨0, ?_⟩
      obtain rfl : x = q := String.singleton_inj.1 (hx.trans hquote.symm)
      simp [Cursor.skip, ha]
  | case4 => cases h
  | case5 c rest escape e he ha _ _ _ ih =>
      obtain ⟨tail, htail, happend⟩ := mapped_eq_ok.1 h
      obtain ⟨rfl, rfl⟩ := List.append_eq_nil_iff.1 (happend.trans hnil)
      obtain ⟨n, hn⟩ := ih rfl htail
      have hescape := ahead_of_readEscape_nil he
      simp only [Cursor.skip, ha, List.drop_one, List.tail_cons] at hescape
      refine ⟨n + 1, ?_⟩
      rw [ha, hescape, hn, List.replicate_succ]
      rfl
  | case6 =>
      obtain ⟨tail, _, hcons⟩ := mapped_eq_ok.1 h
      cases hcons.trans hnil

theorem hasEmptyQuote_of_readName (hc : c.Inside text) (h : readName colon c = .ok "" d) : HasEmptyQuote text := by
  obtain ⟨x, e, hx, h⟩ := bind_eq_ok.1 h
  have he := (keeps_peek hc).of_ok hx
  obtain ⟨_, rest, _, _, ha⟩ := ahead_of_peek hx
  have hinfix : e.ahead <:+: text := by
    rw [he.within.2]
    exact (List.drop_suffix _ _).isInfix
  split at h
  · next hq =>
      obtain ⟨chars, hchars, hempty⟩ := mapped_eq_ok.1 h
      obtain ⟨n, hn⟩ := ahead_of_readQuotedFrom_nil hchars (by simpa using hempty)
      refine ⟨x, n, hq, List.IsInfix.trans ?_ hinfix⟩
      simp only [Cursor.skip, ha, List.drop_one, List.tail_cons] at hn
      rw [ha, hn]
      exact ⟨[], d.ahead, by simp⟩
  · split at h
    · next hstart =>
        obtain ⟨run, e', hrun, h⟩ := bind_eq_ok.1 h
        obtain ⟨hnil, _⟩ := pure_eq_ok.1 h
        obtain ⟨rfl, _⟩ := run_eq_ok.1 hrun
        rw [ha] at hnil
        exact absurd (by simpa using hnil) (nameRun_ne_nil hstart)
    · exact absurd h fail_ne_ok

end Names

namespace Scheme

variable {start : Nat} {name : String} {kind : Kind} {choices : String} {taken : List String}

section Choices

theorem keeps_readKind (hc : c.Inside text) : Keeps text readKind c := by
  refine keeps_peek_bind hc fun x rest d ha hd => ?_
  split
  · exact stays_pure hd
  · refine stays_offset_bind ((stays_wordRun hd).bind fun word e _ he => ?_)
    split
    · exact keeps_fail he ⟨_, rfl⟩
    · split
      · exact stays_pure he
      · exact keeps_failAt_natCast he hd.offset_le ⟨_, rfl⟩

theorem keeps_checkMembers {body : List Char} (hc : c.Inside text) (hs : start + 1 + body.length ≤ text.length) :
    Keeps text (checkMembers start body) c := by
  unfold checkMembers
  split
  · next i hi =>
      obtain ⟨hlt, _⟩ := List.findIdx?_eq_some_iff_getElem.1 hi
      exact keeps_failAt_natCast hc (by omega) ⟨_, rfl⟩
  · split
    · exact keeps_failAt_natCast hc (by omega) ⟨_, rfl⟩
    · split
      · exact keeps_failAt_natCast hc (by omega) ⟨_, rfl⟩
      · exact stays_pure hc

theorem keeps_readMembers {x : Char} {rest : List Char} (hc : c.Inside text) (ha : c.ahead = x :: rest) :
    Keeps text readMembers c := by
  apply stays_offset_bind
  refine (stays_skip_one hc ha).bind fun _ c₁ h₁ hc₁ => (stays_takeWhile hc₁).bind fun body c₂ h₂ hc₂ => ?_
  obtain rfl := skip_eq_ok.1 h₁
  obtain ⟨_, rfl⟩ := run_eq_ok.1 h₂
  apply stays_hasNext_bind
  dsimp only
  split
  · exact (keeps_fail hc₂ ⟨_, rfl⟩).bind fun _ _ h => absurd h fail_ne_ok
  · next hnext =>
      refine (keeps_checkMembers hc₂ hc₂.offset_le).bind fun _ c₃ h₃ hc₃ => ?_
      obtain ⟨_, _, rfl⟩ := checkMembers_eq_ok.1 h₃
      obtain ⟨y, tail, hy⟩ := List.exists_cons_of_ne_nil (by simpa using hnext)
      exact (stays_skip_one hc₃ hy).bind_pure

theorem keeps_readChoices (hc : c.Inside text) : Keeps text readChoices c := by
  refine keeps_peek_bind hc fun x rest d ha hd => ?_
  split
  · exact keeps_readMembers hd ha
  · refine (keeps_expect hd).bind fun _ e _ he => (stays_wordRun he).bind fun word e' _ he' => ?_
    split
    · exact keeps_fail he' ⟨_, rfl⟩
    · exact stays_pure he'

end Choices

section Modifiers

structure Modifiers.Inside (text : List Char) (m : Modifiers) : Prop where
  initial : ∀ l ∈ m.initial, 1 ≤ l.2 ∧ l.2 ≤ text.length
  origin : ∀ l ∈ m.origin, 1 ≤ l.2 ∧ l.2 ≤ text.length

variable {m n : Modifiers}

theorem keeps_readModifier (hc : c.Inside text) : Keeps text (readModifier m) c := by
  refine (stays_skipBlanks hc).bind fun _ d _ hd => ?_
  apply stays_ahead_bind
  split
  · next ha =>
      exact (stays_skip_one hd ha).bind fun _ e _ he => stays_offset_bind (keeps_readLiteral he).bind_pure
  · next ha =>
      exact (stays_skip_one hd ha).bind fun _ e _ he => stays_offset_bind (keeps_readLiteral he).bind_pure
  · exact stays_pure hd

theorem Modifiers.Inside.next (hm : m.Inside text) (hc : c.Inside text) (h : readModifier m c = .ok (some n) d) :
    n.Inside text := by
  obtain ⟨_, e, he, h⟩ := bind_eq_ok.1 h
  have hin : Cursor.Inside text e := (stays_skipBlanks hc : Keeps text skipBlanks c).of_ok he
  rw [ahead_bind] at h
  generalize ha : e.ahead = ahead at h
  split at h
  · simp only [skip_bind, offset_bind] at h
    obtain ⟨l, e', _, h⟩ := bind_eq_ok.1 h
    obtain ⟨hn, _⟩ := pure_eq_ok.1 h
    obtain rfl := Option.some.inj hn
    exact ⟨by simpa using hin.behind ha, hm.origin⟩
  · simp only [skip_bind, offset_bind] at h
    obtain ⟨l, e', _, h⟩ := bind_eq_ok.1 h
    obtain ⟨hn, _⟩ := pure_eq_ok.1 h
    obtain rfl := Option.some.inj hn
    exact ⟨hm.initial, by simpa using hin.behind ha⟩
  · cases h

theorem Modifiers.inside_empty : Modifiers.Inside text {} := ⟨by simp, by simp⟩

theorem keeps_readModifiers (hc : c.Inside text) : Keeps text readModifiers c :=
  stays_iterate (I := fun _ => True) (fun _ _ _ hd => keeps_readModifier hd) (fun _ _ _ _ _ _ _ => trivial) trivial hc

theorem inside_of_readModifiers (hc : c.Inside text) (h : readModifiers c = .ok m d) : m.Inside text := by
  have hstart : Modifiers.Inside text {} ∧ c.Inside text := ⟨Modifiers.inside_empty, hc⟩
  obtain ⟨_, hm, _⟩ := iterate_invariant (P := fun m c => m.Inside text ∧ c.Inside text)
    (fun _ _ _ _ h hstep => ⟨h.1.next h.2 hstep, (keeps_readModifier h.2).of_ok hstep⟩) hstart h
  exact hm

theorem keeps_checkOrigin {l : Literal} (hc : c.Inside text) (hs : 1 ≤ start ∧ start ≤ text.length) :
    Keeps text (checkOrigin name kind l start) c := by
  unfold checkOrigin
  split
  · exact keeps_failAt hc (by omega) ⟨_, rfl⟩
  · split
    · exact keeps_failAt_natCast hc hs.2 ⟨_, rfl⟩
    · exact stays_pure hc

theorem keeps_checkDefault {l : Literal} (hc : c.Inside text) (hs : start ≤ text.length) :
    Keeps text (checkDefault name kind choices l start) c := by
  unfold checkDefault
  split
  · exact stays_pure hc
  · exact keeps_failAt_natCast hc hs ⟨_, rfl⟩

theorem keeps_checkModifiers (hc : c.Inside text) (hm : m.Inside text) :
    Keeps text (checkModifiers name kind choices m) c := by
  have hdefault : ∀ {d : Cursor}, d.Inside text →
      Keeps text (checkModifiers name kind choices { m with origin := none }) d := by
    intro d hd
    rw [checkModifiers]
    dsimp only
    split
    · next hi => exact keeps_checkDefault hd (hm.initial _ hi).2
    · exact stays_pure hd
  rw [checkModifiers]
  split
  · next ho => exact (keeps_checkOrigin hc (hm.origin _ ho)).bind fun _ _ _ hd => hdefault hd
  · exact hdefault hc

end Modifiers

section Arguments

/-- What the host is blamed for when a scheme is read: a name is empty, and the text has an empty quote to show for it. -/
def NamesNothing (text : List Char) (m : Misuse) : Prop := (∃ owner, m = .nameEmpty owner) ∧ HasEmptyQuote text

theorem keeps_readFreshName (hc : c.Inside text) : Keeps text (readFreshName taken) c := by
  refine (stays_skipBlanks hc).bind fun _ d _ hd => stays_offset_bind ((keeps_readName hd).bind fun name e _ he => ?_)
  split
  · exact keeps_failAt_natCast he hd.offset_le ⟨_, rfl⟩
  · exact stays_pure he

theorem of_readFreshName (hc : c.Inside text) (h : readFreshName taken c = .ok name d) :
    name ∉ taken ∧ (name = "" → HasEmptyQuote text) := by
  rw [readFreshName, bind_eq_ok] at h
  obtain ⟨_, e, he, h⟩ := h
  have hin : e.Inside text := (stays_skipBlanks hc : Keeps text skipBlanks c).of_ok he
  rw [offset_bind, bind_eq_ok] at h
  obtain ⟨read, e', hread, h⟩ := h
  split at h
  · exact absurd h failAt_ne_ok
  · next hfresh =>
      obtain ⟨rfl, _⟩ := pure_eq_ok.1 h
      refine ⟨by simpa using hfresh, ?_⟩
      rintro rfl
      exact hasEmptyQuote_of_readName hin hread

theorem keeps_readDraft (hc : c.Inside text) : Keeps text (readDraft taken) c := by
  refine (keeps_readFreshName hc).bind fun name _ _ h₁ => (keeps_expect h₁).bind fun _ _ _ h₂ =>
    (keeps_readKind h₂).bind fun kind _ _ h₃ => ?_
  have hrest : ∀ choices d, d.Inside text → Keeps text (do
      let modifiers ← readModifiers
      checkModifiers name kind choices modifiers
      return draft name kind choices modifiers) d := fun choices d hd =>
    (keeps_readModifiers hd).bind fun m e hm he =>
      (keeps_checkModifiers he (inside_of_readModifiers hd hm)).bind_pure
  split
  · exact (keeps_readChoices h₃).bind fun choices d _ hd => hrest choices d hd
  · exact (stays_pure h₃).bind fun choices d _ hd => hrest choices d hd

theorem make_of_checked {m : Modifiers} (hname : name ≠ "") (hchoices : choices ≠ "" ↔ kind = .choice)
    (hm : checkModifiers name kind choices m c = .ok () d) : ∃ a, Slot.make (draft name kind choices m) = .ok a := by
  obtain ⟨horigin, _, _⟩ := checkModifiers_eq_ok.1 hm
  have hinitial : (m.initial.isSome = false → (draft name kind choices m).initial = .none) ∧
      (draft name kind choices m).initial.kindName?.isSome := by
    rw [draft]
    cases m.initial with
    | none => exact ⟨fun _ => rfl, rfl⟩
    | some l => exact ⟨nofun, by simp [Literal.kindName?_toValue]⟩
  -- The literals that may stand behind a tilde are those that an origin can be made of.
  have hmade : ∃ o, Slot.originFor name kind (draft name kind choices m).origin = .ok o := by
    rw [draft]
    cases ho : m.origin with
    | none => exact ⟨none, Slot.originFor_eq_ok.2 ⟨rfl, by simp⟩⟩
    | some l =>
        obtain ⟨hnumeric, hboolean⟩ := horigin l ho
        obtain ⟨l, start⟩ := l
        cases l with
        | none => exact ⟨none, Slot.originFor_eq_ok.2 ⟨rfl, by simp⟩⟩
        | boolean b => exact absurd rfl (hboolean b)
        | integer i => exact ⟨some (.integer i), Slot.originFor_eq_ok.2 ⟨rfl, fun _ => hnumeric⟩⟩
        | number x => exact ⟨some (.number x), Slot.originFor_eq_ok.2 ⟨rfl, fun _ => hnumeric⟩⟩
        | string s => exact ⟨some (.named s), Slot.originFor_eq_ok.2 ⟨rfl, fun _ => hnumeric⟩⟩
  obtain ⟨o, ho⟩ := hmade
  exact ⟨_, Slot.make_eq_ok.2 ⟨hname, hinitial.1, hinitial.2, hchoices, o, ho, rfl⟩⟩

theorem make_of_nameless {m : Modifiers} : Slot.make (draft "" kind choices m) = .error (.nameEmpty "argument") := rfl

theorem choices_ne_empty_of_readChoices (h : readChoices c = .ok choices d) : choices ≠ "" := by
  rcases written_of_readChoices h with ⟨ms, _, rfl⟩ | href
  · intro hempty
    have hhead := Choices.head_write ms
    rw [hempty] at hhead
    cases hhead
  · exact href.ne_empty

/-- Everything that the construction of an argument checks has been seen to by the reader, except the name. -/
theorem stays_readArgument (hc : c.Inside text) :
    Stays text (Failure.Blames text (NamesNothing text)) (readArgument taken) c := by
  refine (keeps_readDraft hc).lift.bind fun draft d hdraft hd => stays_build hd fun misuse hmisuse => ?_
  obtain ⟨name, kind, choices, m, c₁, _, _, _, hname, _, _, hchoice, hnone, hm, rfl⟩ :=
    draft_of_readDraft (lift_eq_ok.1 hdraft)
  have hchoices : choices ≠ "" ↔ kind = .choice := by
    constructor
    · intro hne
      by_contra hk
      exact hne (hnone hk)
    · intro hk
      obtain ⟨_, hread⟩ := hchoice hk
      exact choices_ne_empty_of_readChoices hread
  by_cases hempty : name = ""
  · subst hempty
    rw [make_of_nameless] at hmisuse
    obtain rfl := Except.error.inj hmisuse
    exact ⟨⟨_, rfl⟩, (of_readFreshName hc hname).2 rfl⟩
  · obtain ⟨a, ha⟩ := make_of_checked hempty hchoices hm
    rw [ha] at hmisuse
    cases hmisuse

theorem name_not_mem_of_readArgument {a : Argument} (hc : c.Inside text) (h : readArgument taken c = .ok a d) :
    a.name ∉ taken := by
  obtain ⟨draft, e, hdraft, h⟩ := bind_eq_ok.1 h
  obtain ⟨name, kind, choices, m, _, _, _, _, hname, _, _, _, _, _, rfl⟩ := draft_of_readDraft (lift_eq_ok.1 hdraft)
  obtain ⟨_, _, _, _, _, _, rfl⟩ := Slot.make_eq_ok.1 (build_eq_ok.1 h).1
  exact (of_readFreshName hc hname).1

end Arguments

section Commands

-- The names of the arguments that have been read are distinct, so that the construction of the command has nothing to
-- say against them.
variable {slots slots' : List Argument} {a : Argument}

theorem nodup_of_readArgument (hs : (slots.map (·.name)).Nodup) (hc : c.Inside text)
    (h : readArgument (slots.map (·.name)) c = .ok a d) : ((slots ++ [a]).map (·.name)).Nodup := by
  have hfresh := name_not_mem_of_readArgument hc h
  rw [List.map_append, List.map_singleton]
  exact List.Nodup.append hs (List.nodup_singleton _) (List.disjoint_singleton.2 hfresh)

theorem stays_readNamed (hc : c.Inside text) :
    Stays text (Failure.Blames text (NamesNothing text)) (readNamed slots) c := by
  refine (stays_skipBlanks hc).bind fun _ d _ hd => ?_
  apply stays_ahead_bind
  split
  · exact (keeps_fail hd ⟨_, rfl⟩).lift
  · next ha => exact (stays_skip_one hd ha).bind_pure
  · exact (stays_readArgument hd).bind_pure

theorem nodup_of_readNamed (hs : (slots.map (·.name)).Nodup) (hc : c.Inside text)
    (h : readNamed slots c = .ok (some slots') d) : (slots'.map (·.name)).Nodup := by
  obtain ⟨_, e, he, h⟩ := bind_eq_ok.1 h
  have hin : e.Inside text := (stays_skipBlanks (E := fun _ => True) hc).of_ok he
  rw [ahead_bind] at h
  generalize e.ahead = ahead at h
  split at h
  · exact absurd (lift_eq_ok.1 h) fail_ne_ok
  · cases h
  · obtain ⟨a, e', ha, h⟩ := bind_eq_ok.1 h
    obtain ⟨hslots, _⟩ := pure_eq_ok.1 h
    obtain rfl := Option.some.inj hslots
    exact nodup_of_readArgument hs hin ha

theorem stays_readBlock {x : Char} {rest : List Char} (hc : c.Inside text) (ha : c.ahead = x :: rest) :
    Stays text (Failure.Blames text (NamesNothing text)) readBlock c :=
  (stays_skip_one hc ha).bind fun _ _ _ hd => stays_iterate (I := fun _ => True) (fun _ _ _ he => stays_readNamed he)
    (fun _ _ _ _ _ _ _ => trivial) trivial hd

theorem nodup_of_readBlock {x : Char} {rest : List Char} (hc : c.Inside text) (ha : c.ahead = x :: rest)
    (h : readBlock c = .ok slots d) : (slots.map (·.name)).Nodup := by
  obtain ⟨_, e, hskip, h⟩ := bind_eq_ok.1 h
  obtain rfl := skip_eq_ok.1 hskip
  have hstart : (([] : List Argument).map (·.name)).Nodup ∧ (c.skip 1).Inside text := ⟨by simp, hc.skip_one ha⟩
  obtain ⟨_, hnodup, _⟩ := iterate_invariant (P := fun slots c => (slots.map (·.name)).Nodup ∧ c.Inside text)
    (fun _ _ _ _ h hstep => ⟨nodup_of_readNamed h.1 h.2 hstep, (stays_readNamed h.2).of_ok hstep⟩) hstart h
  exact hnodup

structure Slots.Distinct (slots : Slots) : Prop where
  positional : (slots.positional.map (·.name)).Nodup
  keyword : ((slots.keyword.getD []).map (·.name)).Nodup

theorem stays_readSlots {slots : Slots} (hc : c.Inside text) :
    Stays text (Failure.Blames text (NamesNothing text)) (readSlots slots) c := by
  refine (stays_skipBlanks hc).bind fun _ d _ hd => ?_
  apply stays_ahead_bind
  split
  · exact stays_pure hd
  · next ha =>
      split
      · exact (keeps_fail hd ⟨_, rfl⟩).lift
      · exact (stays_readBlock hd ha).bind_pure
  · exact (stays_readArgument hd).bind_pure

theorem distinct_of_readSlots {slots slots' : Slots} (hs : slots.Distinct) (hc : c.Inside text)
    (h : readSlots slots c = .ok (some slots') d) : slots'.Distinct := by
  obtain ⟨_, e, he, h⟩ := bind_eq_ok.1 h
  have hin : e.Inside text := (stays_skipBlanks (E := fun _ => True) hc).of_ok he
  rw [ahead_bind] at h
  generalize ha : e.ahead = ahead at h
  split at h
  · cases h
  · split at h
    · exact absurd (lift_eq_ok.1 h) fail_ne_ok
    · obtain ⟨block, e', hblock, h⟩ := bind_eq_ok.1 h
      obtain ⟨hslots, _⟩ := pure_eq_ok.1 h
      obtain rfl := Option.some.inj hslots
      exact ⟨hs.positional, nodup_of_readBlock hin ha hblock⟩
  · obtain ⟨a, e', hread, h⟩ := bind_eq_ok.1 h
    obtain ⟨hslots, _⟩ := pure_eq_ok.1 h
    obtain rfl := Option.some.inj hslots
    exact ⟨nodup_of_readArgument hs.positional hin hread, hs.keyword⟩

theorem keeps_readTitle (hc : c.Inside text) : Keeps text readTitle c := by
  refine (stays_skipBlanks hc).bind fun _ d _ hd => (keeps_readName hd).bind fun name e _ he => ?_
  exact stays_standsAt_bind he (fun hskip => hskip) he

theorem hasEmptyQuote_of_readTitle (hc : c.Inside text) (h : readTitle c = .ok "" d) : HasEmptyQuote text := by
  obtain ⟨_, e, he, h⟩ := bind_eq_ok.1 h
  have hin : e.Inside text := (stays_skipBlanks hc : Keeps text skipBlanks c).of_ok he
  obtain ⟨name, e', hname, h⟩ := bind_eq_ok.1 h
  obtain rfl : name = "" := by
    rw [standsAt_bind] at h
    dsimp only at h
    split at h <;> cases h <;> rfl
  exact hasEmptyQuote_of_readName hin hname

theorem stays_readCommand {executor : Value} (hc : c.Inside text) :
    Stays text (Failure.Blames text (NamesNothing text)) (readCommand executor) c := by
  refine (keeps_readTitle hc).lift.bind fun name c₁ htitle h₁ => ?_
  have hslots : Stays text (Failure.Blames text (NamesNothing text)) (iterate readSlots progresses_readSlots {}) c₁ :=
    stays_iterate (I := fun _ => True) (fun _ _ _ hd => stays_readSlots hd) (fun _ _ _ _ _ _ _ => trivial) trivial h₁
  refine hslots.bind fun slots c₂ hread h₂ => stays_build h₂ fun misuse hmisuse => ?_
  have hstart : ({} : Slots).Distinct ∧ c₁.Inside text := ⟨⟨by simp, by simp⟩, h₁⟩
  obtain ⟨_, hdistinct, _⟩ := iterate_invariant (P := fun slots c => slots.Distinct ∧ c.Inside text)
    (fun _ _ _ _ h hstep => ⟨distinct_of_readSlots h.1 h.2 hstep, (stays_readSlots h.2).of_ok hstep⟩) hstart hread
  by_cases hempty : name = ""
  · subst hempty
    obtain rfl : Misuse.nameEmpty "command" = misuse := Except.error.inj hmisuse
    exact ⟨⟨_, rfl⟩, hasEmptyQuote_of_readTitle hc (lift_eq_ok.1 htitle)⟩
  · have hmade := hmisuse.symm.trans (Signature.make_eq_ok.2 ⟨hempty, hdistinct.positional, hdistinct.keyword, rfl⟩)
    cases hmade

end Commands

/-- A scheme gives a command or a fault at a place of the scheme; or the host is to blame. -/
theorem compile_blames (source : Source) (executor : Value) :
    (∃ command, compile source executor = .ok command) ∨
      (∃ f, compile source executor = .error (.fault f) ∧ f.PointsInto source) ∨
      ∃ m, compile source executor = .error (.misuse m) ∧ NamesNothing source.text.toList m := by
  have hread : Stays _ (Failure.Blames _ _) (readCommand executor) _ :=
    stays_readCommand (Cursor.inside_start source.text)
  rw [compile]
  cases hrun : readCommand executor (.start source.text) with
  | ok command d => exact .inl ⟨command, rfl⟩
  | error e d =>
      rcases (hread.of_error hrun).2.told with ⟨f, hf, hinto⟩ | ⟨m, hm, hnothing⟩
      · exact .inr (.inl ⟨f, congrArg Except.error hf, hinto⟩)
      · exact .inr (.inr ⟨m, congrArg Except.error hm, hnothing⟩)

theorem pointsInto_of_compile {source : Source} {executor : Value} {f : Fault}
    (h : compile source executor = .error (.fault f)) : f.PointsInto source := by
  rcases compile_blames source executor with ⟨command, hc⟩ | ⟨f', hf, hinto⟩ | ⟨m, hm, _⟩
  · cases hc.symm.trans h
  · cases hf.symm.trans h
    exact hinto
  · cases hm.symm.trans h

/-- A scheme gives a command or a fault at a place of the scheme; or a name in it is empty and quoted, and the host
fails. -/
theorem compile_cases (source : Source) (executor : Value) :
    (∃ command, compile source executor = .ok command) ∨
      (∃ f, compile source executor = .error (.fault f) ∧ f.PointsInto source) ∨
      ∃ owner, compile source executor = .error (.misuse (.nameEmpty owner)) ∧ HasEmptyQuote source.text.toList := by
  rcases compile_blames source executor with hc | hf | ⟨m, hm, ⟨owner, rfl⟩, hquote⟩
  · exact .inl hc
  · exact .inr (.inl hf)
  · exact .inr (.inr ⟨owner, hm, hquote⟩)

/-- The name of a command, and that of an argument, between quotes with nothing in them. -/
theorem compile_nameEmpty :
    compile ⟨"\"\": x:num", "<scheme>"⟩ .none = .error (.misuse (.nameEmpty "command")) ∧
      compile ⟨"t: '':num", "<scheme>"⟩ .none = .error (.misuse (.nameEmpty "argument")) := by
  constructor <;> with_unfolding_all rfl

end Scheme

end Prompter
