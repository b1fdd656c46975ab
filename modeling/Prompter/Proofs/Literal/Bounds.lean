import Prompter.Literal.Reader
import Prompter.Proofs.Bounds

namespace Prompter

open Text Reader

variable {text : List Char} {c : Cursor} {start base : Nat} {sign : Int}

section Numbers

theorem keeps_boundedInteger {i : Int} (hc : c.Inside text) (hs : start ≤ text.length) :
    Keeps text (boundedInteger start i) c := by
  unfold boundedInteger
  split
  · exact stays_pure hc
  · exact keeps_failAt_natCast hc hs ⟨_, rfl⟩

theorem keeps_boundedNumber {mantissa : Nat} {exponent : Int} (hc : c.Inside text) (hs : start ≤ text.length) :
    Keeps text (boundedNumber start sign mantissa exponent) c := by
  unfold boundedNumber
  split
  · split
    · exact stays_pure hc
    · exact keeps_failAt_natCast hc hs ⟨_, rfl⟩
  · exact keeps_failAt_natCast hc hs ⟨_, rfl⟩

theorem keeps_signed {n : Numeral} (hc : c.Inside text) (hs : start ≤ text.length) :
    Keeps text (n.signed start sign) c := by
  cases n with
  | integer => exact keeps_boundedInteger hc hs
  | scaled => exact keeps_boundedNumber hc hs

theorem keeps_readNumberEnd (hc : c.Inside text) (hs : start ≤ text.length) : Keeps text (readNumberEnd start) c := by
  apply stays_ahead_bind
  split
  · exact keeps_failAt_natCast hc hs ⟨_, rfl⟩
  · exact stays_pure hc

theorem keeps_readFraction (hc : c.Inside text) : Keeps text readFraction c := by
  apply stays_ahead_bind
  split
  · next ha =>
      split
      · exact (stays_skip_one hc ha).bind fun _ _ _ hd => (stays_takeWhile hd).bind_pure
      · exact stays_pure hc
  · exact stays_pure hc

theorem keeps_readExponentSign (hc : c.Inside text) : Keeps text readExponentSign c := by
  apply stays_ahead_bind
  split
  · next ha => exact (stays_skip_one hc ha).bind_pure
  · next ha => exact (stays_skip_one hc ha).bind_pure
  · exact stays_pure hc

theorem keeps_readExponent (hc : c.Inside text) (hs : start ≤ text.length) : Keeps text (readExponent start) c := by
  apply stays_ahead_bind
  split
  · next ha =>
      split
      · refine (stays_skip_one hc ha).bind fun _ _ _ h₁ => (keeps_readExponentSign h₁).bind fun _ _ _ h₂ =>
          (stays_takeWhile h₂).bind fun digits _ _ h₃ => ?_
        split
        · exact (keeps_failAt_natCast h₃ hs ⟨_, rfl⟩).bind_pure
        · exact stays_pure h₃
      · exact stays_pure hc
  · exact stays_pure hc

theorem keeps_readBased (hc : c.Inside text) (hs : start ≤ text.length) (hlen : 2 ≤ c.ahead.length) :
    Keeps text (readBased start base) c := by
  refine (stays_skip hc hlen).bind fun _ _ _ h₁ => (stays_takeWhile h₁).bind fun _ _ _ h₂ => ?_
  split
  · exact keeps_failAt_natCast h₂ hs ⟨_, rfl⟩
  · exact (keeps_readNumberEnd h₂ hs).bind_pure

theorem keeps_readDecimal (hc : c.Inside text) (hs : start ≤ text.length) : Keeps text (readDecimal start) c := by
  refine (stays_takeWhile hc).bind fun _ _ _ h₁ => (keeps_readFraction h₁).bind fun _ _ _ h₂ =>
    (keeps_readExponent h₂ hs).bind fun _ _ _ h₃ => (keeps_readNumberEnd h₃ hs).bind fun _ _ _ h₄ => ?_
  split
  · split
    · exact stays_pure h₄
    · exact keeps_failAt_natCast h₄ hs ⟨_, rfl⟩
  · exact stays_pure h₄

theorem keeps_readNumeral (hc : c.Inside text) : Keeps text readNumeral c := by
  apply stays_offset_bind
  apply stays_ahead_bind
  split
  · exact keeps_failAt_natCast hc hc.offset_le ⟨_, rfl⟩
  · split
    · next hb =>
        refine keeps_readBased hc hc.offset_le ?_
        unfold baseAt? at hb
        split at hb
        · next ha => simp [ha]
        · cases hb
    · exact keeps_readDecimal hc hc.offset_le

theorem keeps_readNumber (hc : c.Inside text) : Keeps text (readNumber sign) c :=
  stays_offset_bind ((keeps_readNumeral hc).bind fun _ _ _ hd => keeps_signed hd hc.offset_le)

/-- The only misuse is a factor that has no floating-point number near. -/
theorem stays_readMultiple {M : Misuse → Prop} {factor : Int} (hc : c.Inside text)
    (hM : Decimal.ofInt? factor = none → M .numberOverflow) :
    Stays text (Failure.Blames text M) (readMultiple factor) c := by
  apply stays_offset_bind
  refine (keeps_readNumeral hc).lift.bind fun n d _ hd => ?_
  split
  · next hfactor _ => exact ⟨hd, hM hfactor⟩
  · exact (keeps_signed hd hc.offset_le).lift

end Numbers

section Strings

variable {letter : Char} {width : Nat} {quote : String} {opening : Int} {E : Complaint → Prop}

theorem keeps_readHex (hc : c.Inside text) : Keeps text (readHex letter width) c := by
  apply stays_ahead_bind
  dsimp only
  split
  · next h =>
      have hlen : width ≤ c.ahead.length := by
        rw [← h.1, List.length_take]
        exact Nat.min_le_right _ _
      exact (stays_skip hc hlen).bind_pure
  · exact keeps_fail hc ⟨_, rfl⟩

theorem keeps_readEscape (hc : c.Inside text) : Keeps text readEscape c := by
  refine (keeps_peekRaw hc).bind fun x d hx hd => ?_
  obtain ⟨rfl, rest, ha⟩ := peekRaw_eq_ok.1 hx
  have hskip : Keeps text (skip 1 : Reader Unit) d := stays_skip_one hd ha
  split
  · exact hskip.bind_pure
  · exact hskip.bind fun _ _ _ he => (keeps_readHex he).bind_pure
  · split
    · exact hskip.bind_pure
    · exact keeps_fail hd ⟨_, rfl⟩

/-- A string that is not closed is placed at its opening quote, wherever the host says that this stood. -/
theorem ends_readQuotedFrom (hE : ∀ e, e.Tells text → E e) (hopening : ∀ cause, cause.Told → E ⟨cause, opening⟩)
    (hc : c.Inside text) : Ends text E (readQuotedFrom opening quote c) := by
  fun_induction readQuotedFrom opening quote c with
  | case1 c => exact ⟨hc, hopening _ ⟨_, rfl⟩⟩
  | case2 c => exact ⟨hc, hopening _ ⟨_, rfl⟩⟩
  | case3 c x rest ha => exact hc.skip_one ha
  | case4 c rest e d he ha =>
      have hescape := (keeps_readEscape (hc.skip_one ha)).of_error he
      exact ⟨hescape.1, hE _ hescape.2⟩
  | case5 c rest chars d he ha _ _ _ ih =>
      have hd := (keeps_readEscape (hc.skip_one ha)).of_ok he
      exact (ih hd).mapped
  | case6 c x rest ha _ _ _ ih => exact (ih (hc.skip_one ha)).mapped

/-- Behind a quote, a string that is not closed is placed in the text. -/
theorem keeps_readQuoted (hc : c.Inside text) (hbehind : 1 ≤ c.offset) : Keeps text (readQuoted quote) c := by
  apply Ends.mapped
  refine ends_readQuotedFrom (fun _ he => he) (fun _ htold => ⟨?_, htold⟩) hc
  have := hc.offset_le
  constructor
  · change (0 : Int) ≤ (c.offset : Int) - 1
    omega
  · change (c.offset : Int) - 1 ≤ text.length
    omega

theorem stays_readQuoted (hc : c.Inside text) : Stays text (fun _ => True) (readQuoted quote) c :=
  (ends_readQuotedFrom (fun _ _ => trivial) (fun _ _ => trivial) hc).mapped

end Strings

section Words

variable {ε : Type} {E : ε → Prop} {colon : Bool}

theorem stays_nameRun (hc : c.Inside text) : Stays text E (run (nameRun colon) : ReaderOf ε (List Char)) c :=
  stays_run hc nameRun_prefix.length_le

theorem stays_wordRun (hc : c.Inside text) : Stays text E (run wordRun : ReaderOf ε (List Char)) c :=
  stays_run hc (List.takeWhile_sublist _).length_le

theorem keeps_skip_readQuoted {x : Char} {rest : List Char} {quote : String} (hc : c.Inside text)
    (ha : c.ahead = x :: rest) : Keeps text (do skip 1; readQuoted quote) c :=
  keeps_readQuoted (hc.skip_one ha) (hc.behind ha).1

theorem keeps_readName (hc : c.Inside text) : Keeps text (readName colon) c := by
  refine keeps_peek_bind hc fun x rest d ha hd => ?_
  split
  · exact keeps_skip_readQuoted hd ha
  · split
    · exact (stays_nameRun hd).bind_pure
    · exact keeps_fail hd ⟨_, rfl⟩

theorem keeps_readLiteral (hc : c.Inside text) : Keeps text readLiteral c := by
  refine keeps_peek_bind hc fun x rest d ha hd => ?_
  have hskip : Keeps text (skip 1 : Reader Unit) d := stays_skip_one hd ha
  split
  · exact (stays_nameRun hd).bind_pure
  split
  · have hquoted : Keeps text (readQuoted (.singleton x)) (d.skip 1) := keeps_skip_readQuoted hd ha
    exact hquoted.bind_pure
  split
  · exact hskip.bind fun _ _ _ he => keeps_readNumber he
  split
  · exact hskip.bind fun _ _ _ he => keeps_readNumber he
  split
  · exact keeps_readNumber hd
  · exact keeps_fail hd ⟨_, rfl⟩

end Words

end Prompter
