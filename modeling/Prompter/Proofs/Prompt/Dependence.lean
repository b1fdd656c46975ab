import Prompter.Interpreter.Basic
import Prompter.Proofs.Prompt.Soundness

namespace Prompter

open Reader

variable {scope scope' : Scope} {a : Argument} {v : Value} {given : Given} {P : Given → Prop} {command : Command}

namespace Slot

def SameChoices (scope scope' : Scope) (a : Argument) : Prop :=
  a.named = true → scope.enumerations a.choices = scope'.enumerations a.choices

def SameOrigin (scope scope' : Scope) (a : Argument) : Prop :=
  ∀ name, a.origin = some (.named name) → scope.valueOf name = scope'.valueOf name

/-- The scopes make no difference to the slot, as long as `P` holds of what is given. -/
structure Same (scope scope' : Scope) (P : Given → Prop) (a : Argument) : Prop where
  takes : ∀ given, P given → takes scope a given = Slot.takes scope' a given
  bound : ∀ given, P given → bound scope a given = Slot.bound scope' a given

theorem members_congr (h : a.SameChoices scope scope') : members scope a = members scope' a := by
  unfold members
  split
  · next hnamed => rw [h hnamed]
  · rfl

theorem accepts_congr (h : a.SameChoices scope scope') : accepts scope a v = accepts scope' a v := by
  unfold accepts
  rw [members_congr h]

theorem insist_congr (h : a.SameChoices scope scope') : insist scope a v = insist scope' a v := by
  unfold insist
  rw [accepts_congr h]

theorem takes_congr (h : a.SameChoices scope scope') : takes scope a given = takes scope' a given := by
  unfold takes
  rw [accepts_congr h]
  cases given with
  | plain l => exact accepts_congr h
  | relative delta => rfl

theorem resolve_congr {delta : Option Value} (h : a.SameOrigin scope scope') :
    resolve scope a delta = resolve scope' a delta := by
  have horigin : originValue scope a = originValue scope' a := by
    unfold originValue
    split
    · rfl
    · next name hname => exact h name hname
    · rfl
  rw [resolve, resolve, horigin]

theorem bound_congr (hc : a.SameChoices scope scope')
    (ho : ∀ delta, given = .relative delta → a.SameOrigin scope scope') :
    bound scope a given = bound scope' a given := by
  unfold bound
  simp only [insist_congr hc]
  cases given with
  | plain l => rfl
  | relative delta => simp only [resolve_congr (ho delta rfl)]

theorem same_of_agreement (hc : a.SameChoices scope scope')
    (ho : ∀ delta, P (.relative delta) → a.SameOrigin scope scope') : a.Same scope scope' P where
  takes := fun _ _ => takes_congr hc
  bound := by
    rintro given hP
    refine bound_congr hc ?_
    rintro delta rfl
    exact ho delta hP

end Slot

namespace Binding

variable {slots : List Argument} {b : Binding}

theorem fill_congr (h : ∀ a ∈ slots, a.Same scope scope' P) (hP : P given) :
    fill scope command given slots = fill scope' command given slots := by
  induction slots with
  | nil => rfl
  | cons a slots ih =>
      obtain ⟨ha, hslots⟩ := List.forall_mem_cons.1 h
      rw [fill, fill, ha.takes given hP, ha.bound given hP, ih hslots]

theorem put_congr (h : ∀ a ∈ b.vacant, a.Same scope scope' P) (hP : P given) :
    b.put scope command given = b.put scope' command given := by
  rw [put, put, fill_congr h hP]

theorem putNamed_congr (h : a.Same scope scope' P) (hP : P given) :
    putNamed scope given a b = putNamed scope' given a b := by
  rw [putNamed, putNamed, h.bound given hP]

end Binding

namespace Cursor

variable {c d : Cursor}

def Offers (P : Given → Prop) (c : Cursor) : Prop :=
  ∀ d given e, c.Reaches d → Given.read d = .ok given e → P given

theorem Offers.reaches (h : c.Offers P) (hd : c.Reaches d) : d.Offers P :=
  fun e given e' he hread => h e given e' (hd.trans he) hread

theorem Offers.of_read {e : Cursor} {mark : Option Int} (h : c.Offers P) (hd : c.Reaches d)
    (hread : Given.read { d with mark } = .ok given e) : P given :=
  h { d with mark } given e hd hread

theorem offers_of_no_tilde (h : '~' ∉ c.ahead) : c.Offers fun given => ∀ delta, given ≠ .relative delta := by
  rintro d given e hd hread delta rfl
  have hsign : String.singleton '~' = "~" := by decide
  have hhead : d.ahead.head? ≠ some '~' := fun hd' => h (hd.subset (List.mem_of_mem_head? hd'))
  rw [Given.read, standsAt_bind, if_neg (mt (standsAt_iff hsign).1 hhead)] at hread
  obtain ⟨l, e', _, hread⟩ := bind_eq_ok.1 hread
  cases hread

end Cursor

namespace Prompt

variable {b : Binding} {c : Cursor} {commands commands' : Table Command} {source : Source} {name : String}

theorem readNamed_congr {key : Literal} (h : ∀ a ∈ command.keyword, a.Same scope scope' P) (hc : c.Offers P) :
    readNamed scope command key b c = readNamed scope' command key b c := by
  refine bind_congr rfl fun a c₁ ha => ?_
  obtain ⟨hkey, rfl⟩ := here_eq_ok.1 ha
  simp only [skip_bind, skipBlanks_bind, setMark_bind]
  refine bind_congr rfl fun given c₂ hread => ?_
  have hreaches : c.Reaches ((c.skip 1).skip ((c.skip 1).ahead.takeWhile Text.isBlank).length) :=
    (c.reaches_skip 1).trans (Cursor.reaches_skip _ _)
  have hP : P given := hc.of_read hreaches (lift_eq_ok.1 hread)
  rw [Binding.putNamed_congr (h a (Signature.mem_of_keyword? (Binding.keyword?_of_keyed hkey))) hP]

theorem readItem_congr (hvacant : ∀ a ∈ b.vacant, a.Same scope scope' P)
    (hkeyword : ∀ a ∈ command.keyword, a.Same scope scope' P) (hc : c.Offers P) :
    readItem scope command b c = readItem scope' command b c := by
  rw [readItem, readItem]
  simp only [skipBlanks_bind, hasNext_bind]
  have hreaches : c.Reaches (c.skip (c.ahead.takeWhile Text.isBlank).length) := c.reaches_skip _
  generalize c.skip (c.ahead.takeWhile Text.isBlank).length = c₁ at hreaches
  split
  · rfl
  · simp only [setMark_bind]
    refine bind_congr rfl fun given c₂ hread => ?_
    have hP : P given := hc.of_read hreaches (lift_eq_ok.1 hread)
    have hput : b.put scope command given = b.put scope' command given := Binding.put_congr hvacant hP
    cases given with
    | relative delta => simp only [hput]
    | plain l =>
        have hbehind : c.Reaches c₂ :=
          hreaches.trans (reaches_of_marked Given.advances_read.forward (lift_eq_ok.1 hread))
        simp only [skipBlanks_bind, standsAt_bind, hput]
        split
        · refine bind_congr (readNamed_congr hkeyword (hc.reaches (hbehind.trans (c₂.reaches_skip _)))) ?_
          exact fun _ _ _ => rfl
        · rfl

theorem forward_readItem : Forward (readItem scope command b) := by
  refine forward_skipBlanks.bind fun _ => forward_hasNext.bind fun more => ?_
  split
  · exact forward_pure _
  · refine forward_setMark.bind fun _ => Given.advances_read.lift.forward.bind fun given => ?_
    split
    · refine forward_skipBlanks.bind fun _ => (forward_standsAt _).bind fun keyed => ?_
      split
      · exact (forward_readNamed _ _ _ _).bind fun _ => forward_pure _
      · exact (forward_here _).bind fun _ => forward_pure _
    · exact (forward_here _).bind fun _ => forward_pure _

/-- Behind the name, two scopes that make no difference to the slots of the command lead to the same end. -/
theorem iterate_readItem_congr (h : ∀ a ∈ command.positional ++ command.keyword, a.Same scope scope' P)
    (hc : c.Offers P) :
    iterate (readItem scope command) (progresses_readItem scope command) { vacant := command.positional } c =
      iterate (readItem scope' command) (progresses_readItem scope' command) { vacant := command.positional } c := by
  -- The slots that are open are always slots of the command, and what lies ahead is always an end of the text.
  refine iterate_congr (I := fun b c => b.Sound scope command ∧ c.Offers P) ?_ ?_ ⟨Binding.sound_empty, hc⟩
  · rintro b c ⟨hb, hc⟩
    obtain ⟨filled, hslots, _⟩ := hb.ordered
    refine readItem_congr (fun a ha => h a ?_) (fun a ha => h a (List.mem_append_right _ ha)) hc
    rw [hslots]
    exact List.mem_append_left _ (List.mem_append_right _ ha)
  · rintro b c b' d ⟨hb, hc⟩ hstep
    refine ⟨?_, hc.reaches (forward_readItem _ _ _ hstep)⟩
    rcases next_of_readItem hstep with ⟨h, _⟩ | ⟨item, _, h, _, htake⟩
    · cases h
    · obtain rfl := Option.some.inj h
      exact hb.take htake

def readFront : Reader String := do
  skipBlanks
  setMark
  Prompter.readName true

def nameOf (text : String) : Option String :=
  match readFront (.start text) with
  | .ok name _ => some name
  | .error .. => none

theorem readName_of_nameOf {text : String} (command : Command) (h : nameOf text = some name) :
    ∃ c, Cursor.Reaches (.start text) c ∧ ∀ commands : Table Command, commands.get? name = some command →
      readName commands (.start text) = .ok command c := by
  rw [nameOf] at h
  split at h
  · next name' c hfront =>
      obtain rfl := Option.some.inj h
      rw [readFront] at hfront
      simp only [skipBlanks_bind, setMark_bind] at hfront
      have hreaches : Cursor.Reaches (.start text) c :=
        (Cursor.reaches_skip _ _).trans (reaches_of_marked (advances_readName true).forward hfront)
      refine ⟨c, hreaches, fun commands hget => ?_⟩
      rw [readName]
      simp only [skipBlanks_bind, setMark_bind]
      refine bind_eq_ok.2 ⟨name', c, lift_eq_ok.2 hfront, ?_⟩
      rw [hget]
      rfl
  · cases h

theorem parse_congr (hname : nameOf source.text = some name) (hc : commands.get? name = some command)
    (hc' : commands'.get? name = some command)
    (h : ∀ a ∈ command.positional ++ command.keyword, a.Same scope scope' P)
    (hP : Cursor.Offers P (.start source.text)) :
    parse scope commands source = parse scope' commands' source := by
  obtain ⟨c, hreaches, hread⟩ := readName_of_nameOf command hname
  have hsame : read scope commands (.start source.text) = read scope' commands' (.start source.text) := by
    refine bind_congr ((hread commands hc).trans (hread commands' hc').symm) fun command' c₁ hcommand => ?_
    obtain ⟨rfl, rfl⟩ := EStateM.Result.ok.inj ((hread commands' hc').symm.trans hcommand)
    exact bind_congr (iterate_readItem_congr h (hP.reaches hreaches)) fun _ _ _ => rfl
  rw [parse, parse, hsame]

end Prompt

namespace Interpreter

variable {i i' : Interpreter} {r r' : Repository} {text name : String} {label : Value}

/-- Where two interpreters have the same command under the name in front of a text, and agree on the named sets of its
slots and on the variables that they are relative to, the text means the same to both: the same prompt, or the same
failure. The variables do not matter to a text without a tilde. -/
theorem parse_of_agreement (hname : Prompt.nameOf text = some name) (hc : r.commands.get? name = some command)
    (hc' : r'.commands.get? name = some command)
    (hchoices : ∀ a ∈ command.positional ++ command.keyword, a.named = true →
      i.enumerations.get? a.choices = i'.enumerations.get? a.choices)
    (horigins : '~' ∈ text.toList → ∀ a ∈ command.positional ++ command.keyword, ∀ origin,
      a.origin = some (.named origin) → i.vars.get (.string origin) = i'.vars.get (.string origin)) :
    i.parse r (.string text) label = i'.parse r' (.string text) label := by
  cases label with
  | string label =>
      rw [parse_string, parse_string]
      by_cases htilde : '~' ∈ text.toList
      · refine Prompt.parse_congr (P := fun _ => True) hname hc hc' (fun a ha => ?_) fun _ _ _ _ _ => trivial
        exact Slot.same_of_agreement (hchoices a ha) fun _ _ => horigins htilde a ha
      · refine Prompt.parse_congr hname hc hc' (fun a ha => ?_) (Cursor.offers_of_no_tilde htilde)
        exact Slot.same_of_agreement (hchoices a ha) fun delta h => absurd rfl (h delta)
  | _ => rw [parse_of_misuse _ _ rfl, parse_of_misuse _ _ rfl]

/-- Variables, sets of choices and commands that the text does not mention make no difference. -/
theorem parse_of_agreement_paint :
    ∃ (i i' : Interpreter) (r r' : Repository) (p : Prompt),
      r.commands.names = ["paint"] ∧ r'.commands.names = ["erase", "paint"] ∧
      i.enumerations.names = ["shape"] ∧ i'.enumerations.names = ["tool", "shape"] ∧
      i.vars.get (.string "size") = .ok (.integer 1) ∧ i'.vars.get (.string "size") = .ok (.integer 4) ∧
      i.parse r (.string "'paint' 'box' ~2") (.string "<prompt>") = .ok p ∧
      i'.parse r' (.string "'paint' 'box' ~2") (.string "<prompt>") = .ok p ∧
      p.args = [.string "box", .integer 3] := by
  let one : Interpreter := { painter with vars := .constant (.integer 1) }
  let other : Interpreter := {
    repository := 1, vars := .length, enumerations := [("tool", "|pen|"), ("shape", "|box|disc|")] }
  let r : Repository := ⟨[("paint", paint)]⟩
  let r' : Repository := ⟨[("erase", ⟨"erase", [], [], .none⟩), ("paint", paint)]⟩
  have hp : one.parse r (.string "'paint' 'box' ~2") (.string "<prompt>") =
      .ok ⟨paint, [.string "box", .integer 3], [(.string "how", .none), (.string "at", .integer 0)]⟩ := by
    with_unfolding_all rfl
  have hname : Prompt.nameOf "'paint' 'box' ~2" = some "paint" := by with_unfolding_all rfl
  have hchoices : ∀ a ∈ paint.positional ++ paint.keyword, a.named = true →
      one.enumerations.get? a.choices = other.enumerations.get? a.choices := by
    decide
  have horigin : ∀ a ∈ paint.positional ++ paint.keyword, ∀ origin, a.origin = some (.named origin) →
      origin = "n" := by
    simp +contextual [paint, eq_comm]
  have hsame : one.parse r (.string "'paint' 'box' ~2") (.string "<prompt>") =
      other.parse r' (.string "'paint' 'box' ~2") (.string "<prompt>") :=
    parse_of_agreement hname rfl rfl hchoices fun _ a ha origin ho => by rw [horigin a ha origin ho]; rfl
  exact ⟨_, _, r, r', _, rfl, rfl, rfl, rfl, rfl, rfl, hp, hsame.symm.trans hp, rfl⟩

end Interpreter

end Prompter
