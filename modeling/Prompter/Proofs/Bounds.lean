import Prompter.Proofs.Reading

namespace Prompter

open Text

variable {text : List Char} {c d : Cursor} {n : Nat}

def Complaint.Inside (text : List Char) (e : Complaint) : Prop := 0 ≤ e.offset ∧ e.offset ≤ text.length

/-- The fault is an error in the text, at the place of an offset of the text or of its end, and it has words for what is
wrong. -/
structure Fault.PointsInto (source : Source) (f : Fault) : Prop where
  isError : f.kind.isWarning = false
  label : f.source = .string source.label
  text : f.text = .string source.text
  title : ∃ title, f.title = some (.string title)
  hint : ∃ hint, f.hint = .string hint
  place : ∃ p ≤ source.text.toList.length,
    f.line = .integer (place source.text.toList p).1 ∧ f.column = .integer (place source.text.toList p).2

theorem Cause.isWarning_report (cause : Cause) : cause.report.kind.isWarning = false := by cases cause <;> rfl

def Cause.Told (cause : Cause) : Prop := ∃ hint, cause.report.hint = .ok hint

theorem Fault.ofCause_eq_ok {source : Source} {cause : Cause} {offset : Int} {f : Fault} :
    ofCause source cause offset = .ok f ↔
      ∃ hint, cause.report.hint = .ok hint ∧ hinted source cause offset hint = f := by
  simp only [ofCause, Checked.bind_eq_ok, Checked.pure_eq_ok]

theorem Fault.ofCause_eq_error {source : Source} {cause : Cause} {offset : Int} {m : Misuse} :
    ofCause source cause offset = .error m ↔ cause.report.hint = .error m := by
  rw [ofCause]
  cases cause.report.hint <;> simp [bind, Except.bind, pure, Except.pure]

theorem Complaint.Inside.fault {source : Source} {e : Complaint} {f : Fault} (h : e.Inside source.text.toList)
    (hf : e.fault source = .ok f) : f.PointsInto source := by
  obtain ⟨cause, offset⟩ := e
  obtain ⟨hlow, hhigh⟩ := h
  obtain ⟨p, rfl⟩ := Int.eq_ofNat_of_zero_le hlow
  obtain ⟨hint, _, rfl⟩ := Fault.ofCause_eq_ok.1 hf
  refine ⟨cause.isWarning_report, rfl, rfl, ⟨_, rfl⟩, ⟨hint, rfl⟩, p, Int.ofNat_le.1 hhigh, ?_, ?_⟩
  · simp only [Fault.hinted, Fault.placed, placeOf_natCast]
  · simp only [Fault.hinted, Fault.placed, placeOf_natCast]

structure Complaint.Tells (text : List Char) (e : Complaint) : Prop where
  inside : e.Inside text
  told : e.cause.Told

namespace Cursor

/-- The cursor stands in the text or at its end, and so does the mark of the value that is being read. -/
structure Inside (text : List Char) (c : Cursor) : Prop where
  within : c.Within text
  mark : ∀ m ∈ c.mark, 0 ≤ m ∧ m ≤ text.length

theorem inside_start (text : String) : Inside text.toList (start text) where
  within := within_start text
  mark := by
    intro m hm
    obtain rfl : 0 = m := Option.some.inj hm
    omega

theorem Inside.offset_le (h : c.Inside text) : c.offset ≤ text.length := h.within.1

theorem Inside.skip (h : c.Inside text) (hn : n ≤ c.ahead.length) : (c.skip n).Inside text where
  within := h.within.skip hn
  mark := h.mark

theorem Inside.skip_one (h : c.Inside text) {x : Char} {rest : List Char} (hc : c.ahead = x :: rest) :
    (c.skip 1).Inside text := by
  apply h.skip
  simp [hc]

theorem Inside.behind (h : c.Inside text) {x : Char} {rest : List Char} (hc : c.ahead = x :: rest) :
    1 ≤ (c.skip 1).offset ∧ (c.skip 1).offset ≤ text.length :=
  ⟨Nat.le_add_left 1 c.offset, (h.skip_one hc).offset_le⟩

theorem Inside.setMark (h : c.Inside text) : Inside text { c with mark := some c.offset } where
  within := h.within
  mark := by
    intro m hm
    obtain rfl : (c.offset : Int) = m := Option.some.inj hm
    have := h.offset_le
    omega

theorem Inside.valueOffset (h : c.Inside text) : 0 ≤ c.valueOffset ∧ c.valueOffset ≤ text.length := by
  rw [Cursor.valueOffset]
  cases hm : c.mark with
  | none =>
      have := h.offset_le
      simp only [Option.getD_none]
      omega
  | some m => exact h.mark m hm

theorem Inside.back {text : String} {count : Int} (h : c.Inside text.toList) (hd : back text count c = .ok d) :
    d.Inside text.toList := by
  unfold Cursor.back at hd
  split at hd
  · obtain ⟨_, _, hd⟩ := Checked.bind_eq_ok.1 hd
    cases hd
  · cases hd
    have := h.offset_le
    exact ⟨⟨by simp only [seek]; omega, rfl⟩, h.mark⟩

end Cursor

/-- A fault is at a place of the text, and `M` holds of a misuse, as of what keeps the fault from being told. -/
def Failure.Blames (text : List Char) (M : Misuse → Prop) : Failure Complaint → Prop
  | .fault e => e.Inside text ∧ ∀ m, e.cause.report.hint = .error m → M m
  | .misuse m => M m

theorem Complaint.Tells.blames {e : Complaint} {M : Misuse → Prop} (h : e.Tells text) :
    Failure.Blames text M (.fault e) := by
  obtain ⟨hint, hhint⟩ := h.told
  refine ⟨h.inside, fun m hm => ?_⟩
  cases hhint.symm.trans hm

theorem Failure.Blames.told {source : Source} {M : Misuse → Prop} {e : Failure Complaint}
    (h : e.Blames source.text.toList M) :
    (∃ f, e.told (Complaint.fault source) = .fault f ∧ f.PointsInto source) ∨
      ∃ m, e.told (Complaint.fault source) = .misuse m ∧ M m := by
  cases e with
  | misuse m => exact .inr ⟨m, rfl, h⟩
  | fault e =>
      cases hf : e.fault source with
      | ok f => exact .inl ⟨f, told_of_ok hf, h.1.fault hf⟩
      | error m => exact .inr ⟨m, told_of_error hf, h.2 m (Fault.ofCause_eq_error.1 hf)⟩

namespace Reader

variable {ε α β σ : Type} {E E' : ε → Prop} {M : Misuse → Prop} {r : ReaderOf ε α} {f : α → ReaderOf ε β}

def Ends (text : List Char) (E : ε → Prop) : EStateM.Result ε Cursor α → Prop
  | .ok _ d => d.Inside text
  | .error e d => d.Inside text ∧ E e

/-- However the reader ends from the cursor on, it ends in the text. -/
def Stays (text : List Char) (E : ε → Prop) (r : ReaderOf ε α) (c : Cursor) : Prop := Ends text E (r c)

abbrev Keeps (text : List Char) : Reader α → Cursor → Prop := Stays text (Complaint.Tells text)

theorem Ends.mapped {x : EStateM.Result ε Cursor α} {g : α → β} (hx : Ends text E x) :
    Ends text E (Reader.mapped g x) := by
  cases x with
  | ok a d => exact hx
  | error e d => exact hx

theorem Stays.of_ok {a : α} (hr : Stays text E r c) (h : r c = .ok a d) : d.Inside text := by
  rw [Stays, h] at hr
  exact hr

theorem Stays.of_error {e : ε} (hr : Stays text E r c) (h : r c = .error e d) : d.Inside text ∧ E e := by
  rw [Stays, h] at hr
  exact hr

theorem Stays.mono (hr : Stays text E r c) (h : ∀ e, E e → E' e) : Stays text E' r c := by
  rw [Stays]
  cases hrc : r c with
  | ok a d => exact hr.of_ok hrc
  | error e d => exact ⟨(hr.of_error hrc).1, h e (hr.of_error hrc).2⟩

theorem Stays.bind (hr : Stays text E r c) (hf : ∀ a d, r c = .ok a d → d.Inside text → Stays text E (f a) d) :
    Stays text E (r >>= f) c := by
  change Ends text E (EStateM.bind r f c)
  rw [EStateM.bind]
  cases h : r c with
  | ok a d => exact hf a d h (hr.of_ok h)
  | error e d => exact hr.of_error h

theorem Stays.bind_pure {g : α → β} (hr : Stays text E r c) : Stays text E (r >>= fun a => pure (g a)) c :=
  hr.bind fun _ _ _ hd => hd

theorem stays_pure {a : α} (hc : c.Inside text) : Stays text E (pure a : ReaderOf ε α) c := hc

section

-- These readers leave the cursor alone: what follows them goes on with what they saw.
theorem stays_ahead_bind {f : List Char → ReaderOf ε β} (h : Stays text E (f c.ahead) c) :
    Stays text E (ahead >>= f) c := h

theorem stays_offset_bind {f : Nat → ReaderOf ε β} (h : Stays text E (f c.offset) c) :
    Stays text E (offset >>= f) c := h

theorem stays_hasNext_bind {f : Bool → ReaderOf ε β} (h : Stays text E (f !c.ahead.isEmpty) c) :
    Stays text E (hasNext >>= f) c := h

end

theorem keeps_failAt {offset : Int} {cause : Cause} (hc : c.Inside text) (h : 0 ≤ offset ∧ offset ≤ text.length)
    (hcause : cause.Told) : Keeps text (failAt offset cause : Reader α) c := ⟨hc, h, hcause⟩

theorem keeps_failAt_natCast {start : Nat} {cause : Cause} (hc : c.Inside text) (hs : start ≤ text.length)
    (hcause : cause.Told) : Keeps text (failAt start cause : Reader α) c := by
  refine keeps_failAt hc ?_ hcause
  omega

theorem keeps_fail {cause : Cause} (hc : c.Inside text) (hcause : cause.Told) :
    Keeps text (fail cause : Reader α) c :=
  keeps_failAt_natCast hc hc.offset_le hcause

theorem stays_skip (hc : c.Inside text) (hn : n ≤ c.ahead.length) : Stays text E (skip n : ReaderOf ε Unit) c :=
  hc.skip hn

theorem stays_skip_one (hc : c.Inside text) {x : Char} {rest : List Char} (ha : c.ahead = x :: rest) :
    Stays text E (skip 1 : ReaderOf ε Unit) c := hc.skip_one ha

theorem stays_setMark (hc : c.Inside text) : Stays text E (setMark : ReaderOf ε Unit) c := hc.setMark

theorem stays_run {rule : List Char → List Char} (hc : c.Inside text) (h : (rule c.ahead).length ≤ c.ahead.length) :
    Stays text E (run rule : ReaderOf ε (List Char)) c := hc.skip h

theorem stays_takeWhile {p : Char → Bool} (hc : c.Inside text) :
    Stays text E (takeWhile p : ReaderOf ε (List Char)) c :=
  stays_run hc (List.takeWhile_sublist p).length_le

theorem stays_skipBlanks (hc : c.Inside text) : Stays text E (skipBlanks : ReaderOf ε Unit) c :=
  (stays_takeWhile (p := isBlank) hc).bind_pure

theorem keeps_peekRaw (hc : c.Inside text) : Keeps text peekRaw c := by
  apply stays_ahead_bind
  split
  · exact keeps_fail hc ⟨_, rfl⟩
  · exact stays_pure hc

theorem keeps_peek (hc : c.Inside text) : Keeps text peek c :=
  (stays_skipBlanks hc).bind fun _ _ _ hd => keeps_peekRaw hd

theorem keeps_next (hc : c.Inside text) : Keeps text next c := by
  refine (keeps_peekRaw hc).bind fun x d hx hd => ?_
  obtain ⟨rfl, rest, hrest⟩ := peekRaw_eq_ok.1 hx
  exact hd.skip_one hrest

theorem keeps_peek_bind {g : Char → Reader α} (hc : c.Inside text)
    (hg : ∀ x rest d, d.ahead = x :: rest → d.Inside text → Keeps text (g x) d) : Keeps text (peek >>= g) c := by
  refine (keeps_peek hc).bind fun x d hx hd => ?_
  obtain ⟨_, e, _, hraw⟩ := bind_eq_ok.1 hx
  obtain ⟨rfl, rest, hrest⟩ := peekRaw_eq_ok.1 hraw
  exact hg x rest _ hrest hd

theorem stays_standsAt_bind {mark : String} {f : Bool → ReaderOf ε β} (hc : c.Inside text)
    (hfound : (c.skip 1).Inside text → Stays text E (f true) c) (hnone : Stays text E (f false) c) :
    Stays text E (standsAt mark >>= f) c := by
  change Stays text E (f (c.ahead.head?.any (String.singleton · == mark))) c
  cases hm : c.ahead.head?.any (String.singleton · == mark) with
  | false => exact hnone
  | true =>
      obtain ⟨x, hx, _⟩ := (Option.any_eq_true _ _).1 hm
      obtain ⟨rest, hrest⟩ := List.head?_eq_some_iff.1 hx
      exact hfound (hc.skip_one hrest)

theorem keeps_expect {mark : String} (hc : c.Inside text) : Keeps text (expect mark) c :=
  stays_standsAt_bind hc (fun hskip => hskip) (keeps_fail hc ⟨_, rfl⟩)

theorem Stays.lift {r : Reader α} (h : Keeps text r c) :
    Stays text (Failure.Blames text M) (liftM r : BuildReader α) c := by
  rw [Stays]
  simp only [liftM, monadLift, MonadLift.monadLift]
  cases hr : r c with
  | ok a d => exact h.of_ok hr
  | error e d => exact ⟨(h.of_error hr).1, (h.of_error hr).2.blames⟩

theorem stays_build {x : Except Misuse α} (hc : c.Inside text) (h : ∀ m, x = .error m → M m) :
    Stays text (Failure.Blames text M) (liftM x : BuildReader α) c := by
  cases x with
  | ok a => exact hc
  | error m => exact ⟨hc, h m rfl⟩

/-- A loop stays in the text when each of its steps does. `I` is what the steps know of the state. -/
theorem stays_iterate {step : σ → ReaderOf ε (Option σ)} {hstep : Progresses step} {s : σ} {I : σ → Prop}
    (hstays : ∀ s c, I s → c.Inside text → Stays text E (step s) c)
    (hI : ∀ s c t d, I s → c.Inside text → step s c = .ok (some t) d → I t) (hs : I s) (hc : c.Inside text) :
    Stays text E (iterate step hstep s) c := by
  -- As in `iterate` itself, each step shortens what is ahead.
  induction hn : c.ahead.length using Nat.strongRecOn generalizing s c with
  | ind n ih =>
      subst hn
      change Ends text E (iterate step hstep s c)
      rw [iterate_eq]
      cases h : step s c with
      | error e d => exact (hstays s c hs hc).of_error h
      | ok t? d =>
          have hd := (hstays s c hs hc).of_ok h
          cases t? with
          | none => exact hd
          | some t => exact ih _ (hstep _ _ _ _ h) (hI _ _ _ _ hs hc h) hd rfl

end Reader

end Prompter
