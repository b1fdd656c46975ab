import Prompter.Proofs.Literal.Bounds
import Prompter.Proofs.Literal.Range
import Prompter.Proofs.Prompt.Soundness

namespace Prompter

open Reader

variable {α β : Type} {M : Misuse → Prop}

namespace Checked

/-- A check may find the text at fault; of what it blames the host for, `M` holds, as of what keeps the fault from being
told. -/
def Blames (M : Misuse → Prop) : Checked α → Prop
  | .ok _ => True
  | .error (.fault cause) => ∀ m, cause.report.hint = .error m → M m
  | .error (.misuse m) => M m

variable {x : Checked α} {f : α → Checked β}

theorem Blames.bind (hx : Blames M x) (hf : ∀ a, x = .ok a → Blames M (f a)) : Blames M (x >>= f) := by
  cases x with
  | ok a => exact hf a rfl
  | error e =>
      cases e with
      | fault cause => exact hx
      | misuse m => exact hx

theorem blames_pure {a : α} : Blames M (pure a : Checked α) := trivial

theorem blames_fault {cause : Cause} (h : ∀ m, cause.report.hint = .error m → M m) :
    Blames M (fault cause : Checked α) := h

theorem blames_told {cause : Cause} (h : cause.Told) : Blames M (fault cause : Checked α) := by
  obtain ⟨hint, hhint⟩ := h
  refine blames_fault fun m hm => ?_
  cases hhint.symm.trans hm

theorem blames_mapM {f : α → Checked β} {as : List α} (hf : ∀ a ∈ as, Blames M (f a)) : Blames M (as.mapM f) := by
  induction as with
  | nil => exact blames_pure
  | cons a as ih =>
      obtain ⟨ha, has⟩ := List.forall_mem_cons.1 hf
      rw [List.mapM_cons]
      exact ha.bind fun _ _ => (ih has).bind fun _ _ => blames_pure

theorem blames_true : Blames (fun _ => True) x := by
  cases x with
  | ok a => trivial
  | error e =>
      cases e with
      | fault cause => exact fun _ _ => trivial
      | misuse m => trivial

end Checked

def Given.InRange : Given → Prop
  | .plain l => l.InRange
  | .relative delta => ∀ l ∈ delta, l.InRange

structure Slot.Blames (scope : Scope) (M : Misuse → Prop) (a : Argument) : Prop where
  takes : ∀ given : Given, given.InRange → Checked.Blames M (Slot.takes scope a given)
  bound : ∀ given : Given, given.InRange → Checked.Blames M (Slot.bound scope a given)

theorem Slot.blames_true {scope : Scope} {a : Argument} : a.Blames scope fun _ => True :=
  ⟨fun _ _ => Checked.blames_true, fun _ _ => Checked.blames_true⟩

structure Signature.Blames (scope : Scope) (M : Misuse → Prop) (command : Command) : Prop where
  usage : ∀ m, command.usage = .error m → M m
  positional : ∀ a ∈ command.positional, a.Blames scope M
  keyword : ∀ a ∈ command.keyword, a.Blames scope M

variable {scope : Scope} {command : Command} {given : Given} {a : Argument} {b : Binding}

theorem Signature.blames_true : command.Blames scope fun _ => True :=
  ⟨fun _ _ => trivial, fun _ _ => Slot.blames_true, fun _ _ => Slot.blames_true⟩

theorem Cause.error_of_suggestion {close : List String} {advice : Except Misuse String} {m : Misuse}
    (h : suggestion close advice = .error m) : advice = .error m := by
  cases close with
  | nil => exact h
  | cons name close => cases h

theorem Cause.error_of_usageHint {m : Misuse} (h : usageHint command = .error m) : command.usage = .error m := by
  rcases Checked.bind_eq_error.1 h with h | ⟨_, _, h⟩
  · exact h
  · cases h

theorem Signature.Blames.vacant (hM : command.Blames scope M) (hb : b.Sound scope command) :
    ∀ a ∈ b.vacant, a.Blames scope M := by
  intro a ha
  obtain ⟨filled, hslots, _⟩ := hb.ordered
  apply hM.positional
  rw [hslots]
  exact List.mem_append_right _ ha

namespace Binding

open Checked

theorem blames_fill {slots : List Argument} (husage : ∀ m, command.usage = .error m → M m)
    (hslots : ∀ a ∈ slots, a.Blames scope M) (hg : given.InRange) :
    Checked.Blames M (fill scope command given slots) := by
  induction slots with
  | nil =>
      refine blames_fault fun m hm => husage m ?_
      rcases bind_eq_error.1 hm with hm | ⟨_, _, hm⟩
      · exact hm
      · cases hm
  | cons a slots ih =>
      obtain ⟨ha, hrest⟩ := List.forall_mem_cons.1 hslots
      refine (ha.takes given hg).bind fun taken _ => ?_
      cases taken with
      | true => exact (ha.bound given hg).bind fun _ _ => blames_pure
      | false => exact (ih hrest).bind fun _ _ => blames_pure

theorem blames_put (hM : command.Blames scope M) (hvacant : ∀ a ∈ b.vacant, a.Blames scope M) (hg : given.InRange) :
    Checked.Blames M (b.put scope command given) :=
  (blames_fill hM.usage hvacant hg).bind fun _ _ => blames_pure

theorem blames_keyed {key : Literal} (hM : command.Blames scope M) : Checked.Blames M (keyed command key) := by
  unfold keyed
  split
  · split
    · exact blames_pure
    · exact blames_fault fun m hm => hM.usage m (Cause.error_of_usageHint (Cause.error_of_suggestion hm))
  · exact blames_told ⟨_, rfl⟩

theorem mem_keyword_of_keyed {key : Literal} (h : keyed command key = .ok a) : a ∈ command.keyword :=
  Signature.mem_of_keyword? (keyword?_of_keyed h)

theorem blames_putNamed (ha : a.Blames scope M) (hg : given.InRange) :
    Checked.Blames M (b.putNamed scope given a) :=
  (ha.bound given hg).bind fun _ _ => blames_pure

theorem blames_omitted {byName : Bool} (hM : command.Blames scope M) :
    Checked.Blames M (omitted command byName a) := by
  unfold omitted
  split
  · exact blames_pure
  · exact blames_fault fun m hm => hM.usage m (Cause.error_of_usageHint hm)

theorem blames_complete (hM : command.Blames scope M) : Checked.Blames M (b.complete command) := by
  refine (blames_mapM fun _ _ => blames_omitted hM).bind fun _ _ => ?_
  exact (blames_mapM fun _ _ => (blames_omitted hM).bind fun _ _ => blames_pure).bind fun _ _ => blames_pure

end Binding

variable {text : List Char} {c d : Cursor}

namespace Given

theorem keeps_readDelta (hc : c.Inside text) : Keeps text readDelta c := by
  apply stays_ahead_bind
  split
  · exact stays_pure hc
  · exact (stays_setMark hc).bind fun _ _ _ hd => (keeps_readLiteral hd).bind_pure

theorem keeps_read (hc : c.Inside text) : Keeps text read c := by
  refine stays_standsAt_bind hc (fun hskip => ?_) ?_
  · exact keeps_readDelta hskip
  · exact (keeps_readLiteral hc).bind_pure

theorem inRange_of_readDelta (h : readDelta c = .ok given d) : given.InRange := by
  rw [readDelta, ahead_bind] at h
  split at h
  · obtain ⟨rfl, _⟩ := pure_eq_ok.1 h
    exact nofun
  · rw [setMark_bind] at h
    obtain ⟨l, e, hl, h⟩ := bind_eq_ok.1 h
    obtain ⟨rfl, _⟩ := pure_eq_ok.1 h
    rintro l' hl'
    obtain rfl := Option.some.inj hl'
    exact inRange_of_readLiteral hl

theorem inRange_of_read (h : read c = .ok given d) : given.InRange := by
  rw [read, standsAt_bind] at h
  split at h
  · rw [skip_bind] at h
    exact inRange_of_readDelta h
  · obtain ⟨l, e, hl, h⟩ := bind_eq_ok.1 h
    obtain ⟨rfl, _⟩ := pure_eq_ok.1 h
    exact inRange_of_readLiteral hl

end Given

namespace Prompt

theorem stays_here {x : Checked α} (hc : c.Inside text) (hx : Checked.Blames M x) :
    Stays text (Failure.Blames text M) (here x) c := by
  cases x with
  | ok a => exact hc
  | error e =>
      refine ⟨hc, ?_⟩
      cases e with
      | fault cause => exact ⟨hc.valueOffset, hx⟩
      | misuse m => exact hx

theorem stays_readRelative (hc : c.Inside text)
    (hM : ∀ delta, Checked.Blames M (Slot.resolve scope a delta)) :
    Stays text (Failure.Blames text M) (readRelative scope a) c := by
  have hgiven : Keeps text (do expect "~"; Given.readDelta) c :=
    (keeps_expect hc).bind fun _ _ _ hd => Given.keeps_readDelta hd
  refine hgiven.lift.bind fun given d _ hd => ?_
  cases given with
  | plain l => exact stays_pure hd
  | relative delta => exact stays_here hd (hM _)

/-- The sign behind a key is skipped unseen; the reader in front has seen it. -/
theorem stays_readNamed {key : Literal} (hM : command.Blames scope M) (hc : c.Inside text)
    (hskip : (c.skip 1).Inside text) : Stays text (Failure.Blames text M) (readNamed scope command key b) c := by
  refine (stays_here hc (Binding.blames_keyed hM)).bind fun a c₁ ha _ => ?_
  obtain ⟨hkey, rfl⟩ := here_eq_ok.1 ha
  have hsign : Stays text (Failure.Blames text M) (skip 1 : BuildReader Unit) c := hskip
  refine hsign.bind fun _ c₂ _ h₂ => (stays_skipBlanks h₂).bind fun _ c₃ _ h₃ => (stays_setMark h₃).bind
    fun _ c₄ _ h₄ => (Given.keeps_read h₄).lift.bind fun given c₅ hgiven h₅ => stays_here h₅ ?_
  exact Binding.blames_putNamed (hM.keyword a (Binding.mem_keyword_of_keyed hkey))
    (Given.inRange_of_read (lift_eq_ok.1 hgiven))

theorem stays_readItem (hM : command.Blames scope M) (hvacant : ∀ a ∈ b.vacant, a.Blames scope M)
    (hc : c.Inside text) : Stays text (Failure.Blames text M) (readItem scope command b) c := by
  refine (stays_skipBlanks hc).bind fun _ c₁ _ h₁ => stays_hasNext_bind ?_
  split
  · exact stays_pure h₁
  · refine (stays_setMark h₁).bind fun _ c₂ _ h₂ => (Given.keeps_read h₂).lift.bind fun given c₃ hgiven h₃ => ?_
    have hput : Checked.Blames M (b.put scope command given) :=
      Binding.blames_put hM hvacant (Given.inRange_of_read (lift_eq_ok.1 hgiven))
    cases given with
    | relative delta => exact (stays_here h₃ hput).bind_pure
    | plain l =>
        refine (stays_skipBlanks h₃).bind fun _ c₄ _ h₄ => stays_standsAt_bind h₄ (fun hskip => ?_) ?_
        · exact (stays_readNamed hM h₄ hskip).bind_pure
        · exact (stays_here h₄ hput).bind_pure

theorem stays_readName {commands : Table Command} (hc : c.Inside text) :
    Stays text (Failure.Blames text M) (readName commands) c := by
  refine (stays_skipBlanks hc).bind fun _ c₁ _ h₁ => (stays_setMark h₁).bind fun _ c₂ _ h₂ =>
    (keeps_readName h₂).lift.bind fun name c₃ _ h₃ => stays_here h₃ ?_
  split
  · exact Checked.blames_pure
  · refine Checked.blames_fault fun m hm => ?_
    cases Cause.error_of_suggestion hm

theorem get?_of_readName {commands : Table Command} (h : readName commands c = .ok command d) :
    ∃ name, commands.get? name = some command := by
  rw [readName] at h
  simp only [skipBlanks_bind, setMark_bind] at h
  obtain ⟨name, c₂, _, h⟩ := bind_eq_ok.1 h
  obtain ⟨hget, _⟩ := here_eq_ok.1 h
  split at hget
  · next hfound =>
      obtain rfl := Except.ok.inj hget
      exact ⟨name, hfound⟩
  · exact absurd hget Checked.fault_ne_ok

theorem stays_read {commands : Table Command}
    (hM : ∀ command d, readName commands c = .ok command d → command.Blames scope M) (hc : c.Inside text) :
    Stays text (Failure.Blames text M) (read scope commands) c := by
  refine (stays_readName hc).bind fun command c₁ hname h₁ => ?_
  have hcommand : command.Blames scope M := hM command c₁ hname
  have hitems : Stays text (Failure.Blames text M)
      (iterate (readItem scope command) (progresses_readItem scope command) { vacant := command.positional }) c₁ := by
    refine stays_iterate (I := Binding.Sound scope command)
      (fun b c hb hc => stays_readItem hcommand (hcommand.vacant hb) hc) (fun b c b' d hb _ hstep => ?_)
      Binding.sound_empty h₁
    rcases next_of_readItem hstep with ⟨h, _⟩ | ⟨item, _, h, _, htake⟩
    · cases h
    · cases h
      exact hb.take htake
  exact hitems.bind fun b c₂ _ h₂ => (stays_setMark h₂).bind fun _ c₃ _ h₃ => stays_here h₃
    (Binding.blames_complete hcommand)

/-- A text gives a prompt or a fault at a place of the text; or the host is to blame. -/
theorem parse_cases {commands : Table Command} (source : Source)
    (hM : ∀ command d, readName commands (.start source.text) = .ok command d → command.Blames scope M) :
    (∃ p, parse scope commands source = .ok p) ∨
      (∃ f, parse scope commands source = .error (.fault f) ∧ f.PointsInto source) ∨
      ∃ m, parse scope commands source = .error (.misuse m) ∧ M m := by
  have hread := stays_read hM (Cursor.inside_start source.text)
  rw [parse]
  cases h : read scope commands (.start source.text) with
  | ok p d => exact .inl ⟨p, rfl⟩
  | error e d =>
      rcases (hread.of_error h).2.told with ⟨f, hf, hinto⟩ | ⟨m, hm, hblame⟩
      · exact .inr (.inl ⟨f, congrArg Except.error hf, hinto⟩)
      · exact .inr (.inr ⟨m, congrArg Except.error hm, hblame⟩)

theorem error_of_parse {commands : Table Command} {source : Source} {f : Fault}
    (h : parse scope commands source = .error (.fault f)) :
    ∃ e d, read scope commands (.start source.text) = .error (.fault e) d ∧ e.fault source = .ok f ∧
      e.Inside source.text.toList := by
  have hstays : Stays source.text.toList (Failure.Blames source.text.toList fun _ => True) (read scope commands)
      (.start source.text) :=
    stays_read (fun _ _ _ => Signature.blames_true) (Cursor.inside_start source.text)
  have hread : ∀ e d, read scope commands (.start source.text) = .error e d →
      e.Blames source.text.toList fun _ => True :=
    fun _ _ hread => (hstays.of_error hread).2
  rw [parse] at h
  split at h
  · cases h
  · next e d herror =>
      obtain ⟨e, rfl, htold⟩ := Failure.told_eq_fault.1 (Except.error.inj h)
      exact ⟨e, d, herror, htold, (hread _ _ herror).1⟩

theorem pointsInto_of_parse {commands : Table Command} {source : Source} {f : Fault}
    (h : parse scope commands source = .error (.fault f)) : f.PointsInto source := by
  obtain ⟨e, _, _, htold, hinside⟩ := error_of_parse h
  exact hinside.fault htold

end Prompt

end Prompter
