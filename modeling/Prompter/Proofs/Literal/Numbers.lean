import Prompter.Proofs.Literal.Range
import Prompter.Proofs.Yielding

namespace Prompter

open Text Reader

def baseLetters : List (Char × Nat) := [('x', 16), ('X', 16), ('o', 8), ('O', 8), ('b', 2), ('B', 2)]

def NumberEnds (rest : List Char) : Prop := ∀ x ∈ rest.head?, isAlphanumeric x = false ∧ x ≠ '_' ∧ x ≠ '.'

/-- The digits that a run of letters and numerals is taken for. Decimal digits of every script count as those from 0 to 9,
and a zero and a letter of the base may stand in front. -/
def Spells (base : Nat) (run digits : List Char) : Prop :=
  digits ≠ [] ∧ (∀ d ∈ digits, isDigitOf base d = true) ∧
    (run.map plainDigit = digits ∨ ∃ letter, (letter, base) ∈ baseLetters ∧ run.map plainDigit = '0' :: letter :: digits)

def Complaint.IsMalformed (start : Int) (e : Complaint) : Prop :=
  e.cause.report.kind = .malformedNumber ∧ e.offset = start

variable {c d : Cursor} {x letter : Char} {digits run rest text : List Char} {start base n : Nat} {sign : Int}
  {l : Literal}

section Letters

theorem lookup_bases_eq : bases.lookup letter.toLower = baseLetters.lookup letter := by
  have hcapital : ∀ n ∈ List.range' 65 26,
      bases.lookup (Char.ofNat n).toLower = baseLetters.lookup (Char.ofNat n) := by decide
  by_cases h : letter.toNat ∈ List.range' 65 26
  · have hletter := hcapital _ h
    rwa [Char.ofNat_toNat] at hletter
  · have hlower : letter.toLower = letter := by
      apply dif_neg
      rintro ⟨hlow, hhigh⟩
      exact h (List.mem_range'_1.2 ⟨hlow, Nat.lt_succ_of_le hhigh⟩)
    have hcapitals : ∀ n ∈ ['X', 'O', 'B'].map Char.toNat, n ∈ List.range' 65 26 := by decide
    have hne : ∀ y ∈ ['X', 'O', 'B'], (letter == y) = false := fun y hy =>
      beq_eq_false_iff_ne.2 fun hletter => h (hletter ▸ hcapitals _ (List.mem_map_of_mem hy))
    rw [hlower]
    simp only [bases, baseLetters, List.lookup_cons, hne 'X' (by simp), hne 'O' (by simp), hne 'B' (by simp)]

theorem lookup_bases_iff : bases.lookup letter.toLower = some base ↔ (letter, base) ∈ baseLetters := by
  have hall : ∀ e ∈ baseLetters, baseLetters.lookup e.1 = some e.2 := by decide
  rw [lookup_bases_eq]
  exact ⟨mem_of_lookup, hall (letter, base)⟩

theorem baseAt?_cons (h : (letter, base) ∈ baseLetters) : baseAt? ('0' :: letter :: text) = some base :=
  lookup_bases_iff.2 h

theorem baseAt?_eq_none (hd : ∀ x ∈ digits, isDigit x = true) (hne : digits ≠ [])
    (hbase : digits = ['0'] → ∀ x ∈ rest.head?, ∀ base, (x, base) ∉ baseLetters) : baseAt? (digits ++ rest) = none := by
  have hdigit : ∀ e ∈ baseLetters, isDigit e.1 = false := by decide
  cases hbaseAt : baseAt? (digits ++ rest) with
  | none => rfl
  | some base =>
      unfold baseAt? at hbaseAt
      split at hbaseAt
      · next letter text htext =>
          have hletter := lookup_bases_iff.1 hbaseAt
          cases digits with
          | nil => exact absurd rfl hne
          | cons first digits =>
              obtain ⟨rfl, htail⟩ := List.cons.inj htext
              cases digits with
              | nil =>
                  obtain rfl : rest = letter :: text := htail
                  exact absurd hletter (hbase rfl letter rfl base)
              | cons second digits =>
                  obtain ⟨rfl, _⟩ := List.cons.inj htail
                  have hplain := hdigit _ hletter
                  rw [hd _ (by simp)] at hplain
                  cases hplain
      · cases hbaseAt

end Letters

section Ends

theorem ends_iff : (rest.head?.any fun x => isAlphanumeric x || x == '_' || x == '.') = false ↔ NumberEnds rest := by
  cases rest <;> simp [NumberEnds, and_assoc]

theorem readNumberEnd_eq_ok {u : Unit} : readNumberEnd start c = .ok u d ↔ NumberEnds c.ahead ∧ c = d := by
  rw [readNumberEnd, ahead_bind, ← ends_iff]
  split
  · next h => simp [h, failAt_ne_ok]
  · next h => simp [h, pure_eq_ok]

theorem readFraction_of_ends (h : NumberEnds c.ahead) : readFraction c = .ok none c := by
  rw [readFraction, ahead_bind]
  generalize hc : c.ahead = text
  split
  · exact absurd rfl (h '.' (by simp [hc])).2.2
  · rfl

theorem readFraction_eq_none (h : readFraction c = .ok none d) : c = d := by
  rw [readFraction, ahead_bind] at h
  generalize c.ahead = text at h
  split at h
  · split at h
    · obtain ⟨_, _, _, h⟩ := bind_eq_ok.1 h
      obtain ⟨_, _, _, h⟩ := bind_eq_ok.1 h
      cases h
    · exact (pure_eq_ok.1 h).2
  · exact (pure_eq_ok.1 h).2

theorem readExponent_of_ends (h : NumberEnds c.ahead) : readExponent start c = .ok none c := by
  have hletters : isAlphanumeric 'e' = true ∧ isAlphanumeric 'E' = true := by decide +kernel
  rw [readExponent, ahead_bind]
  generalize hc : c.ahead = text
  split
  · next x _ =>
      have hx := (h x (by simp [hc])).1
      have he : ¬(x = 'e' ∨ x = 'E') := by
        rintro (rfl | rfl)
        · rw [hletters.1] at hx
          cases hx
        · rw [hletters.2] at hx
          cases hx
      rw [if_neg he]
      rfl
  · rfl

theorem readExponent_eq_none (h : readExponent start c = .ok none d) : c = d := by
  rw [readExponent, ahead_bind] at h
  generalize c.ahead = text at h
  split at h
  · split at h
    · obtain ⟨_, _, _, h⟩ := bind_eq_ok.1 h
      obtain ⟨_, _, _, h⟩ := bind_eq_ok.1 h
      obtain ⟨_, _, _, h⟩ := bind_eq_ok.1 h
      split at h
      · obtain ⟨_, _, h, _⟩ := bind_eq_ok.1 h
        exact absurd h failAt_ne_ok
      · obtain ⟨h, _⟩ := pure_eq_ok.1 h
        cases h
    · exact (pure_eq_ok.1 h).2
  · exact (pure_eq_ok.1 h).2

end Ends

section Complaints

theorem complains_malformed {α : Type} {slip : NumberSlip} :
    Complains (Complaint.IsMalformed start) (failAt start (.number slip) : Reader α) :=
  complains_failAt ⟨by cases slip <;> rfl, rfl⟩

theorem complains_boundedInteger {i : Int} : Complains (Complaint.IsMalformed start) (boundedInteger start i) := by
  unfold boundedInteger
  split
  · exact complains_pure
  · exact complains_malformed

theorem complains_signed {n : Numeral} : Complains (Complaint.IsMalformed start) (n.signed start sign) := by
  cases n with
  | integer n => exact complains_boundedInteger
  | scaled mantissa exponent =>
      simp only [Numeral.signed, boundedNumber]
      split
      · split
        · exact complains_pure
        · exact complains_malformed
      · exact complains_malformed

theorem complains_readNumberEnd : Complains (Complaint.IsMalformed start) (readNumberEnd start) := by
  refine complains_ahead.bind fun text => ?_
  split
  · exact complains_malformed
  · exact complains_pure

theorem complains_readFraction {E : Complaint → Prop} : Complains E readFraction := by
  refine complains_ahead.bind fun text => ?_
  split
  · split
    · exact complains_skip.bind fun _ => complains_takeWhile.bind fun _ => complains_pure
    · exact complains_pure
  · exact complains_pure

theorem complains_readExponentSign {E : Complaint → Prop} : Complains E readExponentSign := by
  refine complains_ahead.bind fun text => ?_
  split
  · exact complains_skip.bind fun _ => complains_pure
  · exact complains_skip.bind fun _ => complains_pure
  · exact complains_pure

theorem complains_readExponent : Complains (Complaint.IsMalformed start) (readExponent start) := by
  refine complains_ahead.bind fun text => ?_
  split
  · split
    · refine complains_skip.bind fun _ => complains_readExponentSign.bind fun _ => complains_takeWhile.bind fun _ => ?_
      simp only
      split
      · exact complains_malformed.bind fun _ => complains_pure
      · exact complains_pure
    · exact complains_pure
  · exact complains_pure

theorem complains_readDecimal : Complains (Complaint.IsMalformed start) (readDecimal start) := by
  refine complains_takeWhile.bind fun _ => complains_readFraction.bind fun _ => complains_readExponent.bind fun _ =>
    complains_readNumberEnd.bind fun _ => ?_
  split
  · split
    · exact complains_pure
    · exact complains_malformed
  · exact complains_pure

theorem complains_readBased : Complains (Complaint.IsMalformed start) (readBased start base) := by
  refine complains_skip.bind fun _ => complains_takeWhile.bind fun _ => ?_
  split
  · exact complains_malformed
  · exact complains_readNumberEnd.bind fun _ => complains_pure

theorem malformed_of_readNumeral {e : Complaint} (h : readNumeral c = .error e d) : e.IsMalformed c.offset := by
  rw [readNumeral, offset_bind, ahead_bind] at h
  split at h
  · exact complains_malformed _ _ _ h
  · generalize baseAt? c.ahead = base at h
    cases base with
    | some base => exact complains_readBased _ _ _ h
    | none => exact complains_readDecimal _ _ _ h

theorem malformed_of_readNumber {e : Complaint} (h : readNumber sign c = .error e d) : e.IsMalformed c.offset := by
  rw [readNumber, offset_bind] at h
  rcases bind_eq_error.1 h with h | ⟨n, _, _, h⟩
  · exact malformed_of_readNumeral h
  · exact complains_signed _ _ _ h

end Complaints

section Signs

/-- A host that gives a sign has the number read as a literal with that sign is. -/
theorem readMultiple_eq (hs : sign = 1 ∨ sign = -1) :
    readMultiple sign c = (liftM (readNumber sign) : BuildReader Literal) c := by
  have hsome : ∃ s, Decimal.ofInt? sign = some s := by
    refine Option.isSome_iff_exists.1 (Decimal.ofInt?_isSome ?_)
    rcases hs with rfl | rfl <;> decide
  obtain ⟨s, hsome⟩ := hsome
  have hnumber : readNumber sign c = (readNumeral >>= fun n => n.signed c.offset sign) c := offset_bind
  rw [lift_congr hnumber, lift_bind, readMultiple, offset_bind, hsome]
  refine bind_congr rfl fun n d _ => ?_
  cases n <;> rfl

end Signs

section Decimals

theorem readDecimal_eq_integer : readDecimal start c = .ok (.integer n) d ↔
    ∃ digits, c.ahead.takeWhile isDigit = digits ∧ c.skip digits.length = d ∧ NumberEnds d.ahead ∧
      digits.length ≤ maxDecimalDigits ∧ valueIn 10 digits = n := by
  constructor
  · intro h
    obtain ⟨digits, c₁, hdigits, h⟩ := bind_eq_ok.1 h
    obtain ⟨fraction, c₂, hfraction, h⟩ := bind_eq_ok.1 h
    obtain ⟨exponent, c₃, hexponent, h⟩ := bind_eq_ok.1 h
    obtain ⟨_, c₄, hend, h⟩ := bind_eq_ok.1 h
    obtain ⟨hends, rfl⟩ := readNumberEnd_eq_ok.1 hend
    split at h
    · split at h
      · next hlen =>
          obtain ⟨hn, rfl⟩ := pure_eq_ok.1 h
          obtain rfl := readExponent_eq_none hexponent
          obtain rfl := readFraction_eq_none hfraction
          obtain ⟨hdigits, hskip⟩ := run_eq_ok.1 hdigits
          exact ⟨digits, hdigits, hskip, hends, hlen, Numeral.integer.inj hn⟩
      · exact absurd h failAt_ne_ok
    · cases (pure_eq_ok.1 h).1
  · rintro ⟨digits, hdigits, rfl, hends, hlen, rfl⟩
    refine bind_eq_ok.2 ⟨digits, _, run_eq_ok.2 ⟨hdigits, rfl⟩, ?_⟩
    refine bind_eq_ok.2 ⟨none, _, readFraction_of_ends hends, ?_⟩
    refine bind_eq_ok.2 ⟨none, _, readExponent_of_ends hends, ?_⟩
    refine bind_eq_ok.2 ⟨(), _, readNumberEnd_eq_ok.2 ⟨hends, rfl⟩, ?_⟩
    simp only [hlen, if_true]
    rfl

theorem readNumber_of_decimal (hdigit : c.ahead.head?.any isDigit = true) (hbase : baseAt? c.ahead = none) :
    readNumber sign c = (readDecimal c.offset >>= fun n => n.signed c.offset sign) c := by
  have hnumeral : readNumeral c = readDecimal c.offset c := by
    rw [readNumeral, offset_bind, ahead_bind, hdigit, hbase]
    rfl
  rw [readNumber, offset_bind]
  exact bind_congr hnumeral fun _ _ _ => rfl

theorem error_of_ne_ok (h : ∀ l d, readNumber sign c ≠ .ok l d) :
    ∃ e d, readNumber sign c = .error e d ∧ e.IsMalformed c.offset := by
  cases hread : readNumber sign c with
  | ok l d => exact absurd hread (h l d)
  | error e d => exact ⟨e, d, rfl, malformed_of_readNumber hread⟩

theorem malformed_of_no_digit (h : c.ahead.head?.any isDigit = false) :
    ∃ e d, readNumber sign c = .error e d ∧ e.IsMalformed c.offset := by
  refine error_of_ne_ok fun l d hread => ?_
  obtain ⟨n, d', hn, _⟩ := bind_eq_ok.1 (offset_bind.symm.trans hread)
  rw [readNumeral, offset_bind, ahead_bind, h] at hn
  exact failAt_ne_ok hn

section

variable (hc : c.ahead = digits ++ rest) (hd : ∀ x ∈ digits, isDigit x = true)
  (hr : ∀ x ∈ rest.head?, isDigit x = false) (hne : digits ≠ [])
  (hbase : digits = ['0'] → ∀ x ∈ rest.head?, ∀ base, (x, base) ∉ baseLetters)

include hc hd hne hbase

theorem readNumber_of_digits :
    readNumber sign c = (readDecimal c.offset >>= fun n => n.signed c.offset sign) c := by
  apply readNumber_of_decimal
  · obtain ⟨x, tail, rfl⟩ := List.exists_cons_of_ne_nil hne
    rw [hc]
    exact hd x List.mem_cons_self
  · rw [hc]
    exact baseAt?_eq_none hd hne hbase

include hr

theorem readNumber_of_ends (hends : NumberEnds rest) (hlen : digits.length ≤ maxDecimalDigits) :
    readNumber sign c = .ok l d ↔ (Literal.integer (sign * valueIn 10 digits)).InRange ∧
      .integer (sign * valueIn 10 digits) = l ∧ c.skip digits.length = d := by
  have hahead : (c.skip digits.length).ahead = rest := by simp [Cursor.skip, hc]
  have htake : c.ahead.takeWhile isDigit = digits := by rw [hc, takeWhile_append_of_head hd hr]
  have hdecimal : readDecimal c.offset c = .ok (.integer (valueIn 10 digits)) (c.skip digits.length) :=
    readDecimal_eq_integer.2 ⟨digits, htake, rfl, by rwa [hahead], hlen, rfl⟩
  rw [readNumber_of_digits hc hd hne hbase, bind_of_ok hdecimal, signed_integer_eq_ok]

theorem number_of_glued (hends : ¬NumberEnds rest) (h : readNumber sign c = .ok l d) : ∃ x, l = .number x := by
  rw [readNumber_of_digits hc hd hne hbase] at h
  obtain ⟨n, d', hn, h⟩ := bind_eq_ok.1 h
  cases n with
  | scaled mantissa exponent => exact signed_scaled_eq_ok h
  | integer n =>
      obtain ⟨_, rfl, rfl, hends', _⟩ := readDecimal_eq_integer.1 hn
      rw [hc, takeWhile_append_of_head hd hr] at hends'
      simp only [Cursor.skip, hc, List.drop_left] at hends'
      exact absurd hends' hends

end

/-- What is read of a run of digits that is no zero in front of the letter of a base. In front of the end of the number, it
is the integer when that fits; in front of anything else, it is a floating-point number, if it is a number at all. -/
theorem readNumber_decimal (hs : sign = 1 ∨ sign = -1) (hc : c.ahead = digits ++ rest)
    (hd : ∀ x ∈ digits, isDigit x = true) (hr : ∀ x ∈ rest.head?, isDigit x = false) (hlen : digits.length ≤ 4300)
    (hbase : digits = ['0'] → ∀ x ∈ rest.head?, ∀ base, (x, base) ∉ baseLetters) :
    readMultiple sign c = (liftM (readNumber sign) : BuildReader Literal) c ∧
    (digits = [] → ∃ e d, readNumber sign c = .error e d ∧ e.IsMalformed c.offset) ∧
    (digits ≠ [] → NumberEnds rest →
      ((Literal.integer (sign * valueIn 10 digits)).InRange →
        readNumber sign c = .ok (.integer (sign * valueIn 10 digits)) (c.skip digits.length)) ∧
      (¬(Literal.integer (sign * valueIn 10 digits)).InRange →
        ∃ e d, readNumber sign c = .error e d ∧ e.IsMalformed c.offset)) ∧
    (digits ≠ [] → ¬NumberEnds rest →
      (∃ x d, readNumber sign c = .ok (.number x) d) ∨
        ∃ e d, readNumber sign c = .error e d ∧ e.IsMalformed c.offset) := by
  refine ⟨readMultiple_eq hs, ?_, fun hne hends => ?_, fun hne hends => ?_⟩
  · rintro rfl
    apply malformed_of_no_digit
    rw [hc, List.nil_append]
    cases hrest : rest.head? with
    | none => rfl
    | some x => exact hr x hrest
  · have hread : ∀ l d, readNumber sign c = .ok l d ↔ _ := fun _ _ => readNumber_of_ends hc hd hr hne hbase hends hlen
    exact ⟨fun hrange => (hread _ _).2 ⟨hrange, rfl, rfl⟩,
      fun hrange => error_of_ne_ok fun l d h => hrange ((hread l d).1 h).1⟩
  · cases h : readNumber sign c with
    | ok l d =>
        obtain ⟨x, rfl⟩ := number_of_glued hc hd hr hne hbase hends h
        exact .inl ⟨x, d, rfl⟩
    | error e d => exact .inr ⟨e, d, rfl, malformed_of_readNumber h⟩

theorem readNumber_least :
    readNumber (-1) (.start "9223372036854775808,") = .ok (.integer (-9223372036854775808)) ⟨19, [','], some 0⟩ := by
  have hdigits : ∀ x ∈ "9223372036854775808".toList, isDigit x = true := List.all_eq_true.1 (by decide)
  have hcomma : isAlphanumeric ',' = false ∧ isDigit ',' = false := by decide +kernel
  have hends : NumberEnds [','] := by simpa [NumberEnds] using hcomma.1
  have hc : (Cursor.start "9223372036854775808,").ahead = "9223372036854775808".toList ++ [','] := rfl
  obtain ⟨_, _, hread, _⟩ := readNumber_decimal (.inr rfl) hc hdigits (by simpa using hcomma.2) (by decide) nofun
  exact (hread (by decide) hends).1 (Literal.inRange_integer.2 (by decide))

end Decimals

section Based

theorem numeral?_eq_some :
    numeral? base text = some n ↔ text ≠ [] ∧ (∀ d ∈ text, isDigitOf base d = true) ∧ valueIn base text = n := by
  simp [numeral?, and_assoc]

theorem dropBase_cons (h : (letter, base) ∈ baseLetters) : dropBase base ('0' :: letter :: digits) = digits :=
  if_pos (lookup_bases_iff.2 h)

theorem dropBase_cases (base : Nat) (text : List Char) :
    (∃ letter digits, (letter, base) ∈ baseLetters ∧ text = '0' :: letter :: digits) ∨
      dropBase base text = text := by
  unfold dropBase
  split
  · next letter digits =>
      by_cases h : bases.lookup letter.toLower = some base
      · exact .inl ⟨letter, digits, lookup_bases_iff.1 h, rfl⟩
      · exact .inr (if_neg h)
  · exact .inr rfl

/-- A letter of the base is none of its digits, so digits are never taken for the letter behind a zero. -/
theorem dropBase_of_digits (hd : ∀ d ∈ digits, isDigitOf base d = true) : dropBase base digits = digits := by
  have hall : ∀ e ∈ baseLetters, isDigitOf e.2 e.1 = false := by decide
  rcases dropBase_cases base digits with ⟨letter, tail, hletter, rfl⟩ | h
  · have hnone := hall _ hletter
    rw [hd letter (by simp)] at hnone
    cases hnone
  · exact h

theorem basedValue?_eq_some : basedValue? base run = some n ↔ ∃ digits, Spells base run digits ∧ valueIn base digits = n := by
  rw [basedValue?, numeral?_eq_some]
  constructor
  · rintro ⟨hne, hd, hn⟩
    refine ⟨_, ⟨hne, hd, ?_⟩, hn⟩
    rcases dropBase_cases base (run.map plainDigit) with ⟨letter, digits, hletter, hrun⟩ | h
    · exact .inr ⟨letter, hletter, by rw [hrun, dropBase_cons hletter]⟩
    · exact .inl h.symm
  · rintro ⟨digits, ⟨hne, hd, hrun⟩, rfl⟩
    have hdrop : dropBase base (run.map plainDigit) = digits := by
      rcases hrun with hrun | ⟨letter, hletter, hrun⟩
      · rw [hrun, dropBase_of_digits hd]
      · rw [hrun, dropBase_cons hletter]
    rw [hdrop]
    exact ⟨hne, hd, rfl⟩

theorem plainDigit_of_isDigitOf (hx : isDigitOf base x = true) : plainDigit x = x := by
  have hall : ∀ n < 128, plainDigit (.ofNat n) = .ofNat n := by decide +kernel
  have hsmall : x.toNat < 128 := by
    have hle : ∀ y : Char, x ≤ y → x.toNat ≤ y.toNat := fun _ h => h
    simp only [isDigitOf, digitValue?, isDigit, Bool.and_eq_true, decide_eq_true_eq] at hx
    split at hx
    · next h => exact Nat.lt_of_le_of_lt (hle _ h.2) (by decide)
    · split at hx
      · next h => exact Nat.lt_of_le_of_lt (hle _ h.2) (by decide)
      · split at hx
        · next h => exact Nat.lt_of_le_of_lt (hle _ h.2) (by decide)
        · cases hx
  have hplain := hall _ hsmall
  rwa [Char.ofNat_toNat] at hplain

theorem spells_self (hne : run ≠ []) (hd : ∀ d ∈ run, isDigitOf base d = true) :
    Spells base run run := by
  refine ⟨hne, hd, .inl ?_⟩
  have hplain : run.map plainDigit = run.map id := List.map_congr_left fun x hx => plainDigit_of_isDigitOf (hd x hx)
  rw [hplain, List.map_id]

section

variable (hbase : (letter, base) ∈ baseLetters) (hc : c.ahead = '0' :: letter :: (run ++ rest))
  (hrun : ∀ x ∈ run, isAlphanumeric x = true) (hr : ∀ x ∈ rest.head?, isAlphanumeric x = false)

include hc hrun hr in
theorem readBased_eq_ok {m : Numeral} : readBased start base c = .ok m d ↔
    ∃ digits, Spells base run digits ∧ NumberEnds rest ∧ .integer (valueIn base digits) = m ∧
      c.skip (run.length + 2) = d := by
  have htake : (takeWhile isAlphanumeric : Reader (List Char)) (c.skip 2) = .ok run (c.skip (run.length + 2)) := by
    refine run_eq_ok.2 ⟨?_, Cursor.skip_skip⟩
    simp only [Cursor.skip, hc, List.drop_succ_cons, List.drop_zero]
    exact takeWhile_append_of_head hrun hr
  have hahead : (c.skip (run.length + 2)).ahead = rest := by simp [Cursor.skip, hc]
  rw [readBased, skip_bind, bind_of_ok htake]
  cases hvalue : basedValue? base run with
  | none =>
      refine iff_of_false failAt_ne_ok ?_
      rintro ⟨digits, hspells, _⟩
      rw [basedValue?_eq_some.2 ⟨digits, hspells, rfl⟩] at hvalue
      cases hvalue
  | some n =>
      obtain ⟨digits, hspells, rfl⟩ := basedValue?_eq_some.1 hvalue
      simp only [bind_eq_ok, readNumberEnd_eq_ok, pure_eq_ok, hahead]
      constructor
      · rintro ⟨_, _, ⟨hends, rfl⟩, rfl, rfl⟩
        exact ⟨digits, hspells, hends, rfl, rfl⟩
      · rintro ⟨digits', hspells', hends, rfl, rfl⟩
        have hvalue' := basedValue?_eq_some.2 ⟨digits', hspells', rfl⟩
        have hsame : valueIn base digits = valueIn base digits' := Option.some.inj (hvalue.symm.trans hvalue')
        exact ⟨(), _, ⟨hends, rfl⟩, by rw [hsame], rfl⟩

include hbase hc in
theorem readNumber_of_base :
    readNumber sign c = (readBased c.offset base >>= fun n => n.signed c.offset sign) c := by
  have hnumeral : readNumeral c = readBased c.offset base c := by
    rw [readNumeral, offset_bind, ahead_bind, hc, baseAt?_cons hbase]
    rfl
  rw [readNumber, offset_bind]
  exact bind_congr hnumeral fun _ _ _ => rfl

end

/-- What is read of a zero in front of the letter of a base: the integer that the run behind them spells, when the run is
the end of the number and the integer fits. Nothing else is a number there. -/
theorem readNumber_based (hs : sign = 1 ∨ sign = -1) (hbase : (letter, base) ∈ baseLetters)
    (hc : c.ahead = '0' :: letter :: (run ++ rest)) (hrun : ∀ x ∈ run, isAlphanumeric x = true)
    (hr : ∀ x ∈ rest.head?, isAlphanumeric x = false) :
    readMultiple sign c = (liftM (readNumber sign) : BuildReader Literal) c ∧
    (∀ l d, readNumber sign c = .ok l d ↔ ∃ digits, Spells base run digits ∧ NumberEnds rest ∧
      (Literal.integer (sign * valueIn base digits)).InRange ∧ l = .integer (sign * valueIn base digits) ∧
      d = c.skip (run.length + 2)) ∧
    (∀ e d, readNumber sign c = .error e d → e.IsMalformed c.offset) := by
  refine ⟨readMultiple_eq hs, fun l d => ?_, fun e d h => malformed_of_readNumber h⟩
  rw [readNumber_of_base hbase hc, bind_eq_ok]
  constructor
  · rintro ⟨n, d', hn, hsigned⟩
    obtain ⟨digits, hspells, hends, rfl, rfl⟩ := (readBased_eq_ok hc hrun hr).1 hn
    obtain ⟨hrange, hl, hd⟩ := signed_integer_eq_ok.1 hsigned
    exact ⟨digits, hspells, hends, hrange, hl.symm, hd.symm⟩
  · rintro ⟨digits, hspells, hends, hrange, rfl, rfl⟩
    exact ⟨_, _, (readBased_eq_ok hc hrun hr).2 ⟨digits, hspells, hends, rfl, rfl⟩,
      signed_integer_eq_ok.2 ⟨hrange, rfl, rfl⟩⟩

theorem readNumber_mask : readNumber (-1) (.start "0xFf") = .ok (.integer (-255)) ⟨4, [], some 0⟩ := by
  have hdigits : ∀ x ∈ ['F', 'f'], isDigitOf 16 x = true := List.all_eq_true.1 (by decide)
  have hrun : ∀ x ∈ ['F', 'f'], isAlphanumeric x = true := List.all_eq_true.1 (by decide +kernel)
  obtain ⟨_, hread, _⟩ := readNumber_based (c := .start "0xFf") (.inr rfl) (by decide : ('x', 16) ∈ baseLetters)
    (rfl : _ = '0' :: 'x' :: (['F', 'f'] ++ [])) hrun nofun
  exact (hread _ _).2 ⟨_, spells_self (by decide) hdigits, nofun, Literal.inRange_integer.2 (by decide), rfl, rfl⟩

/-- The letter of the base may stand twice, so a run that is not of digits of the base alone is read. -/
theorem readNumber_doubled : "0x1f".toList.all (isDigitOf 16) = false ∧
    readNumber 1 (.start "0x0x1f") = .ok (.integer 31) ⟨6, [], some 0⟩ := by
  have hspells : Spells 16 ['0', 'x', '1', 'f'] ['1', 'f'] :=
    ⟨by decide, List.all_eq_true.1 (by decide), .inr ⟨'x', by decide, by decide +kernel⟩⟩
  have hrun : ∀ x ∈ ['0', 'x', '1', 'f'], isAlphanumeric x = true := List.all_eq_true.1 (by decide +kernel)
  have hc : (Cursor.start "0x0x1f").ahead = '0' :: 'x' :: (['0', 'x', '1', 'f'] ++ []) := rfl
  have hbased : readBased 0 16 (.start "0x0x1f") = .ok (.integer 31) ⟨6, [], some 0⟩ :=
    (readBased_eq_ok hc hrun nofun).2 ⟨_, hspells, nofun, rfl, rfl⟩
  refine ⟨by decide, ?_⟩
  rw [readNumber_of_base (by decide : ('x', 16) ∈ baseLetters) hc]
  exact (bind_of_ok hbased).trans (signed_integer_eq_ok.2 ⟨Literal.inRange_integer.2 (by decide), rfl, rfl⟩)

end Based

end Prompter
