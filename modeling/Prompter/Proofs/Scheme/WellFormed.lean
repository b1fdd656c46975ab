import Prompter.Proofs.Choices
import Prompter.Proofs.Construction
import Prompter.Prompt.Check
import Prompter.Scheme.Command

namespace Prompter

open Text

namespace Choices

/-- The members that a scheme can write: one or more, none empty, without bars, closing brackets and blanks. -/
structure Written (ms : List String) : Prop where
  ne_nil : ms ≠ []
  ne_empty : ∀ m ∈ ms, m ≠ ""
  plain : ∀ m ∈ ms, ∀ c ∈ m.toList, c ≠ '|' ∧ c ≠ ']' ∧ isBlank c = false

/-- The name of an enumeration: identifier characters without dollar signs. -/
structure Reference (name : String) : Prop where
  ne_empty : name ≠ ""
  plain : ∀ c ∈ name.toList, isNamePart c = true ∧ c ≠ '$'

theorem Written.no_bar {ms : List String} (h : Written ms) : ∀ m ∈ ms, '|' ∉ m.toList :=
  fun m hm hc => (h.plain m hm _ hc).1 rfl

theorem Written.no_bracket {ms : List String} (h : Written ms) : ∀ m ∈ ms, ']' ∉ m.toList :=
  fun m hm hc => (h.plain m hm _ hc).2.1 rfl

end Choices

structure Slot.WellFormed (a : Argument) : Prop where
  name_ne_empty : a.name ≠ ""
  choices_iff : a.choices ≠ "" ↔ a.kind = .choice
  inline : a.kind = .choice → a.named = false →
    ∃ ms, Choices.Written ms ∧ a.choices = Choices.write ms ∧ (a.default ≠ .none → ∃ m ∈ ms, a.default = .string m)
  reference : a.kind = .choice → a.named = true → Choices.Reference a.choices
  origin : ∀ o, a.origin = some o →
    (a.kind = .number ∨ a.kind = .integer) ∧ (o.toValue.isNumeric = true ∨ o.toValue.isString = true)
  default : a.default ≠ .none → a.optional = true ∧ a.kind.takes a.default = true

/-- What a scheme says of a command. The arguments by name are found under the names that they bear. -/
structure Signature.WellFormed (c : Command) : Prop where
  name_ne_empty : c.name ≠ ""
  positional : ∀ a ∈ c.positional, a.WellFormed
  keyword : ∀ a ∈ c.keyword, a.WellFormed
  positional_nodup : (c.positional.map (·.name)).Nodup
  keyword_nodup : (c.keyword.map (·.name)).Nodup
  keyed : ∀ key a, c.keyword? key = some a → a.name = key

theorem Literal.frozen_toValue (l : Literal) : l.toValue.frozen = l.toValue := by cases l <;> rfl

namespace Choices

variable {s : String}

theorem Reference.head (h : Reference s) : s.toList.head?.any (· ≠ '|') = true := by
  cases hs : s.toList with
  | nil => exact absurd (by simpa using hs) h.ne_empty
  | cons x rest =>
      have hx := (h.plain x (by simp [hs])).1
      have hbar : isNamePart '|' = false := by decide +kernel
      have : x ≠ '|' := by
        rintro rfl
        simp [hbar] at hx
      simpa using this

theorem head_write (ms : List String) : (write ms).toList.head? = some '|' := by simp [write]

end Choices

namespace Scheme

open Reader

variable {c d : Cursor} {name s : String} {kind : Kind} {start : Nat}

theorem checkMembers_eq_ok {body : List Char} {u : Unit} :
    checkMembers start body c = .ok u d ↔
      (∀ x ∈ body, isBlank x = false) ∧ (∀ p ∈ pieces '|' body, p ≠ []) ∧ c = d := by
  rw [checkMembers]
  cases hb : body.findIdx? isBlank with
  | some i =>
      have : ¬∀ x ∈ body, isBlank x = false := by
        rw [← List.findIdx?_eq_none_iff, hb]
        simp
      simp [this, failAt_ne_ok]
  | none =>
      have hblank := List.findIdx?_eq_none_iff.1 hb
      have hempty : (pieces '|' body).any List.isEmpty = true ↔ ¬∀ p ∈ pieces '|' body, p ≠ [] := by simp
      cases body with
      | nil => simp [pieces, failAt_ne_ok]
      | cons x rest =>
          rw [List.isEmpty_cons, if_neg (by simp)]
          split
          · next hp => simp [hempty.1 hp, failAt_ne_ok]
          · next hp =>
              have hp := not_not.1 (hempty.not.1 hp)
              rw [pure_eq_ok]
              exact ⟨fun h => ⟨hblank, hp, h.2⟩, fun h => ⟨rfl, h.2.2⟩⟩

theorem written_pieces {body : List Char} (hb : ∀ x ∈ body, x ≠ ']' ∧ isBlank x = false)
    (hp : ∀ p ∈ pieces '|' body, p ≠ []) : Choices.Written ((pieces '|' body).map .ofList) where
  ne_nil := by simpa using pieces_ne_nil
  ne_empty := by simpa using hp
  plain := by
    intro m hm x hx
    obtain ⟨p, hmem, rfl⟩ := List.mem_map.1 hm
    rw [String.toList_ofList] at hx
    obtain ⟨hxb, hbar⟩ := mem_of_mem_pieces hmem hx
    exact ⟨hbar, hb x hxb⟩

theorem written_of_readMembers (h : readMembers c = .ok s d) :
    ∃ ms, Choices.Written ms ∧ s = Choices.write ms ∧
      c.ahead.drop 1 = joined '|' (ms.map String.toList) ++ ']' :: d.ahead := by
  rw [readMembers, offset_bind, skip_bind] at h
  obtain ⟨body, c₂, h₂, h⟩ := bind_eq_ok.1 h
  rw [hasNext_bind] at h
  obtain ⟨hnext, h⟩ := guard_eq_ok (fun _ _ _ => fail_ne_ok) h
  obtain ⟨_, c₄, h₄, h⟩ := bind_eq_ok.1 h
  rw [skip_bind] at h
  obtain ⟨rfl, rfl⟩ := pure_eq_ok.1 h
  obtain ⟨rfl, hahead, hstop⟩ := ahead_of_takeWhile h₂
  obtain ⟨hblank, hp, rfl⟩ := checkMembers_eq_ok.1 h₄
  have hbody : ∀ x ∈ (c.skip 1).ahead.takeWhile (· ≠ ']'), x ≠ ']' := fun x hx => by
    simpa using List.mem_takeWhile_imp hx
  refine ⟨_, written_pieces (fun x hx => ⟨hbody x hx, hblank x hx⟩) hp, Choices.write_pieces.symm, ?_⟩
  have hclose : c₂.ahead = ']' :: (c₂.skip 1).ahead := by
    cases hc : c₂.ahead with
    | nil => simp [hc] at hnext
    | cons y rest =>
        have hy : y = ']' := by simpa using hstop y (by simp [hc])
        simp [hy, Cursor.skip, hc]
  have hpieces : joined '|' (((pieces '|' ((c.skip 1).ahead.takeWhile (· ≠ ']'))).map .ofList).map String.toList) =
      (c.skip 1).ahead.takeWhile (· ≠ ']') := by
    simp [Function.comp_def, joined_pieces]
  rw [hpieces, ← hclose, ← hahead]
  rfl

theorem reference_wordRun {text : List Char} (h : wordRun text ≠ []) : Choices.Reference (.ofList (wordRun text)) where
  ne_empty := by simpa using h
  plain := by
    intro x hx
    rw [String.toList_ofList] at hx
    simpa using List.mem_takeWhile_imp hx

theorem written_of_readChoices (h : readChoices c = .ok s d) :
    (∃ ms, Choices.Written ms ∧ s = Choices.write ms) ∨ Choices.Reference s := by
  rw [readChoices] at h
  obtain ⟨x, c₁, _, h⟩ := bind_eq_ok.1 h
  split at h
  · obtain ⟨ms, hms, hs, _⟩ := written_of_readMembers h
    exact .inl ⟨ms, hms, hs⟩
  · obtain ⟨_, c₂, _, h⟩ := bind_eq_ok.1 h
    obtain ⟨text, c₃, h₃, h⟩ := bind_eq_ok.1 h
    split at h
    · exact absurd h fail_ne_ok
    · next ht =>
        obtain ⟨rfl, _⟩ := pure_eq_ok.1 h
        obtain ⟨rfl, _⟩ := run_eq_ok.1 h₃
        exact .inr (reference_wordRun (by simpa using ht))

theorem checkOrigin_eq_ok {l : Literal} {u : Unit} :
    checkOrigin name kind l start c = .ok u d ↔ (kind.numeric = true ∧ ∀ b, l ≠ .boolean b) ∧ c = d := by
  unfold checkOrigin
  cases hk : kind.numeric with
  | false => simp [failAt_ne_ok]
  | true => cases l <;> simp [pure_eq_ok, failAt_ne_ok]

theorem checkDefault_eq_ok {choices : String} {l : Literal} {u : Unit} :
    checkDefault name kind choices l start c = .ok u d ↔ fits kind choices l = true ∧ c = d := by
  rw [checkDefault]
  split
  · next h => simp [h, pure_eq_ok]
  · next h => simp [h, failAt_ne_ok]

theorem checkModifiers_eq_ok {choices : String} {m : Modifiers} {u : Unit} :
    checkModifiers name kind choices m c = .ok u d ↔
      (∀ o ∈ m.origin, kind.numeric = true ∧ ∀ b, o.1 ≠ .boolean b) ∧
        (∀ i ∈ m.initial, fits kind choices i.1 = true) ∧ c = d := by
  obtain ⟨initial, origin⟩ := m
  cases origin <;> cases initial <;>
    simp [checkModifiers, bind_eq_ok, checkOrigin_eq_ok, checkDefault_eq_ok, pure_eq_ok, and_assoc]

theorem draft_of_readDraft {taken : List String} {draft : Slot.Draft} (h : readDraft taken c = .ok draft d) :
    ∃ name kind choices m c₁ c₂ c₃ e, readFreshName taken c = .ok name c₁ ∧ expect ":" c₁ = .ok () c₂ ∧
      readKind c₂ = .ok kind c₃ ∧ (kind = .choice → ∃ c₄, readChoices c₃ = .ok choices c₄) ∧
      (kind ≠ .choice → choices = "") ∧ checkModifiers name kind choices m e = .ok () d ∧
      draft = Scheme.draft name kind choices m := by
  rw [readDraft] at h
  obtain ⟨name, c₁, hname, h⟩ := bind_eq_ok.1 h
  obtain ⟨_, c₂, hcolon, h⟩ := bind_eq_ok.1 h
  obtain ⟨kind, c₃, hkind, h⟩ := bind_eq_ok.1 h
  dsimp only at h
  split at h
  · next hk =>
      obtain ⟨choices, c₄, h₄, h⟩ := bind_eq_ok.1 h
      obtain ⟨m, c₅, _, h⟩ := bind_eq_ok.1 h
      obtain ⟨_, c₆, h₆, h⟩ := bind_eq_ok.1 h
      obtain ⟨rfl, rfl⟩ := pure_eq_ok.1 h
      exact ⟨name, kind, choices, m, c₁, c₂, c₃, c₅, hname, hcolon, hkind, fun _ => ⟨c₄, h₄⟩, fun hn => absurd hk hn,
        h₆, rfl⟩
  · next hk =>
      obtain ⟨choices, c₄, h₄, h⟩ := bind_eq_ok.1 h
      obtain ⟨m, c₅, _, h⟩ := bind_eq_ok.1 h
      obtain ⟨_, c₆, h₆, h⟩ := bind_eq_ok.1 h
      obtain ⟨rfl, rfl⟩ := pure_eq_ok.1 h
      obtain ⟨rfl, _⟩ := pure_eq_ok.1 h₄
      exact ⟨name, kind, "", m, c₁, c₂, c₃, c₅, hname, hcolon, hkind, fun hn => absurd hn hk, fun _ => rfl, h₆, rfl⟩

theorem takes_of_fits {choices : String} {l : Literal} (h : fits kind choices l = true) (hl : l.toValue ≠ .none) :
    kind.takes l.toValue = true := by
  cases l <;> cases kind <;>
    simp_all [fits, Kind.takes, Literal.toValue, Value.isNumeric, Value.isInteger, Value.isString]

theorem mem_of_fits {ms : List String} {l : Literal} (hms : Choices.Written ms)
    (h : fits .choice (Choices.write ms) l = true) (hl : l.toValue ≠ .none) : ∃ m ∈ ms, l.toValue = .string m := by
  cases l with
  | string s =>
      have hs : Choices.holds (Choices.write ms) s = true := by simpa [fits, Choices.head_write] using h
      exact ⟨s, (Choices.holds_write_iff hms.ne_nil hms.no_bar).1 hs, rfl⟩
  | none => exact absurd rfl hl
  | boolean | integer | number => cases h

theorem default_of_make {choices : String} {m : Modifiers} {a : Argument}
    (hfits : ∀ i ∈ m.initial, fits kind choices i.1 = true) (h : Slot.make (draft name kind choices m) = .ok a)
    (hne : a.default ≠ .none) : ∃ l, a.optional = true ∧ fits kind choices l = true ∧ a.default = l.toValue := by
  obtain ⟨_, _, _, _, o, _, rfl⟩ := Slot.make_eq_ok.1 h
  rcases hi : m.initial with _ | ⟨l, start⟩
  · simp [Slot.default, hi, Value.frozen] at hne
  · exact ⟨l, by simp, hfits _ hi, by simp [Slot.default, Literal.frozen_toValue]⟩

theorem wellFormed_of_make {choices : String} {m : Modifiers} {a : Argument}
    (hchoices : kind = .choice → (∃ ms, Choices.Written ms ∧ choices = Choices.write ms) ∨ Choices.Reference choices)
    (hm : checkModifiers name kind choices m c = .ok () d) (h : Slot.make (draft name kind choices m) = .ok a) :
    a.WellFormed := by
  have hdefault := default_of_make (checkModifiers_eq_ok.1 hm).2.1 h
  obtain ⟨hname, _, _, hiff, o, ho, rfl⟩ := Slot.make_eq_ok.1 h
  obtain ⟨_, hnum⟩ := Slot.originFor_eq_ok.1 ho
  refine ⟨hname, hiff, fun hk hn => ?_, fun hk hn => ?_, fun p hp => ?_, fun hne => ?_⟩
  · rcases hchoices hk with ⟨ms, hms, rfl⟩ | href
    · refine ⟨ms, hms, rfl, fun hne => ?_⟩
      obtain ⟨l, _, hl, he⟩ := hdefault hne
      obtain rfl : kind = .choice := hk
      rw [he] at hne ⊢
      exact mem_of_fits hms hl hne
    · exact absurd href.head (by simpa [Slot.named] using hn)
  · rcases hchoices hk with ⟨ms, hms, rfl⟩ | href
    · simp [Slot.named, Choices.head_write] at hn
    · exact href
  · obtain rfl : o = some p := hp
    refine ⟨by simpa [Kind.numeric] using hnum rfl, ?_⟩
    cases p <;> simp [Origin.toValue, Value.isNumeric, Value.isString]
  · obtain ⟨l, hsome, hl, he⟩ := hdefault hne
    rw [he] at hne ⊢
    exact ⟨hsome, takes_of_fits hl hne⟩

theorem wellFormed_of_readArgument {taken : List String} {a : Argument} (h : readArgument taken c = .ok a d) :
    a.WellFormed := by
  obtain ⟨draft, e, hd, h⟩ := bind_eq_ok.1 h
  obtain ⟨name, kind, choices, m, _, _, _, _, _, _, _, hread, _, hm, rfl⟩ := draft_of_readDraft (lift_eq_ok.1 hd)
  refine wellFormed_of_make (fun hk => ?_) hm (build_eq_ok.1 h).1
  obtain ⟨_, hchoices⟩ := hread hk
  exact written_of_readChoices hchoices

section

-- What holds of every argument that is read behind `c` holds of all the slots that are read from `c` on.
variable {Q : Argument → Prop} {e : Cursor}

theorem readNamed_forall {slots slots' : List Argument}
    (hQ : ∀ taken e a f, c.Reaches e → readArgument taken e = .ok a f → Q a) (hs : ∀ a ∈ slots, Q a) (hc : c.Reaches e)
    (h : readNamed slots e = .ok (some slots') d) : (∀ a ∈ slots', Q a) ∧ c.Reaches d := by
  refine ⟨?_, hc.trans (forward_readNamed _ _ _ _ h)⟩
  rw [readNamed] at h
  obtain ⟨_, e₁, hskip, h⟩ := bind_eq_ok.1 h
  have he := hc.trans (forward_skipBlanks _ _ _ hskip)
  rw [ahead_bind] at h
  generalize e₁.ahead = text at h
  split at h
  · exact absurd (lift_eq_ok.1 h) fail_ne_ok
  · cases h
  · obtain ⟨a, e₂, ha, h⟩ := bind_eq_ok.1 h
    obtain ⟨hslots, _⟩ := pure_eq_ok.1 h
    obtain rfl := Option.some.inj hslots
    exact List.forall_mem_append.2 ⟨hs, List.forall_mem_singleton.2 (hQ _ _ _ _ he ha)⟩

theorem readBlock_forall {block : List Argument}
    (hQ : ∀ taken e a f, c.Reaches e → readArgument taken e = .ok a f → Q a) (hc : c.Reaches e)
    (h : readBlock e = .ok block d) : ∀ a ∈ block, Q a := by
  obtain ⟨_, e₁, hskip, h⟩ := bind_eq_ok.1 h
  have he := hc.trans (forward_skip _ _ _ _ hskip)
  have hnil : (∀ a ∈ ([] : List Argument), Q a) ∧ c.Reaches e₁ := ⟨by simp, he⟩
  obtain ⟨_, hall, _⟩ := iterate_invariant (fun _ _ _ _ hs hstep => readNamed_forall hQ hs.1 hs.2 hstep) hnil h
  exact hall

def Slots.All (Q : Argument → Prop) (slots : Slots) : Prop :=
  (∀ a ∈ slots.positional, Q a) ∧ ∀ a ∈ slots.keyword.getD [], Q a

theorem readSlots_all {slots slots' : Slots}
    (hQ : ∀ taken e a f, c.Reaches e → readArgument taken e = .ok a f → Q a) (hs : slots.All Q) (hc : c.Reaches e)
    (h : readSlots slots e = .ok (some slots') d) : slots'.All Q ∧ c.Reaches d := by
  refine ⟨?_, hc.trans (forward_readSlots _ _ _ _ h)⟩
  rw [readSlots] at h
  obtain ⟨_, e₁, hskip, h⟩ := bind_eq_ok.1 h
  have he := hc.trans (forward_skipBlanks _ _ _ hskip)
  rw [ahead_bind] at h
  generalize e₁.ahead = text at h
  split at h
  · cases h
  · split at h
    · exact absurd (lift_eq_ok.1 h) fail_ne_ok
    · obtain ⟨block, e₂, hb, h⟩ := bind_eq_ok.1 h
      obtain ⟨hslots, _⟩ := pure_eq_ok.1 h
      obtain rfl := Option.some.inj hslots
      exact ⟨hs.1, readBlock_forall hQ he hb⟩
  · obtain ⟨a, e₂, ha, h⟩ := bind_eq_ok.1 h
    obtain ⟨hslots, _⟩ := pure_eq_ok.1 h
    obtain rfl := Option.some.inj hslots
    exact ⟨List.forall_mem_append.2 ⟨hs.1, List.forall_mem_singleton.2 (hQ _ _ _ _ he ha)⟩, hs.2⟩

theorem forall_slots_of_readCommand {executor : Value} {command : Command}
    (hQ : ∀ taken e a f, c.Reaches e → readArgument taken e = .ok a f → Q a)
    (h : readCommand executor c = .ok command d) : (∀ a ∈ command.positional, Q a) ∧ ∀ a ∈ command.keyword, Q a := by
  obtain ⟨name, c₁, hname, h⟩ := bind_eq_ok.1 h
  obtain ⟨slots, c₂, hslots, h⟩ := bind_eq_ok.1 h
  obtain ⟨_, _, _, rfl⟩ := Signature.make_eq_ok.1 (build_eq_ok.1 h).1
  have hnone : ({} : Slots).All Q ∧ c.Reaches c₁ := ⟨⟨by simp, by simp⟩, forward_readTitle _ _ _ (lift_eq_ok.1 hname)⟩
  obtain ⟨_, hall, _⟩ := iterate_invariant (fun _ _ _ _ hs hstep => readSlots_all hQ hs.1 hs.2 hstep) hnone hslots
  exact hall

end

theorem wellFormed_of_readCommand {executor : Value} {command : Command}
    (h : readCommand executor c = .ok command d) : command.WellFormed := by
  obtain ⟨hpositional, hkeyword⟩ := forall_slots_of_readCommand (fun _ _ _ _ _ ha => wellFormed_of_readArgument ha) h
  obtain ⟨name, c₁, _, h⟩ := bind_eq_ok.1 h
  obtain ⟨slots, c₂, _, h⟩ := bind_eq_ok.1 h
  obtain ⟨hname, hp, hk, rfl⟩ := Signature.make_eq_ok.1 (build_eq_ok.1 h).1
  exact ⟨hname, hpositional, hkeyword, hp, hk, fun _ _ => Signature.name_of_keyword?⟩

theorem readCommand_of_compile {source : Source} {executor : Value} {command : Command}
    (h : compile source executor = .ok command) : ∃ d, readCommand executor (.start source.text) = .ok command d := by
  rw [compile] at h
  split at h
  · next he =>
      cases h
      exact ⟨_, he⟩
  · cases h

/-- Every command that a scheme compiles to is well formed. -/
theorem compile_wellFormed {source : Source} {executor : Value} {command : Command}
    (h : compile source executor = .ok command) : command.WellFormed := by
  obtain ⟨d, hd⟩ := readCommand_of_compile h
  exact wellFormed_of_readCommand hd

/-- Choices without their word, a quoted name, a default that is given twice, and a block in front. -/
theorem compile_wellFormed_teleport :
    ∃ command,
      compile ⟨"'teleport' \x7b'speed':int~3=2\x7d 'to':[near|far]='x'='far' 'who':$team=none", "<scheme>"⟩ .none =
        .ok command ∧ command.WellFormed := by
  have h : compile ⟨"'teleport' \x7b'speed':int~3=2\x7d 'to':[near|far]='x'='far' 'who':$team=none", "<scheme>"⟩ .none =
      .ok ⟨"teleport",
        [⟨"to", .choice, true, .string "far", none, "|near|far|"⟩, ⟨"who", .choice, true, .none, none, "team"⟩],
        [⟨"speed", .integer, true, .integer 2, some (.integer 3), ""⟩], .none⟩ := by
    with_unfolding_all rfl
  exact ⟨_, h, compile_wellFormed h⟩

end Scheme

end Prompter
