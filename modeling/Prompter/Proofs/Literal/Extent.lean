import Prompter.Proofs.Literal.Constants

namespace Prompter

open Text Reader

def Cursor.before (c : Cursor) (rest : List Char) : Cursor := ⟨c.offset, c.ahead ++ rest, c.mark⟩

namespace Reader

variable {ε α β : Type} {rest : List Char} {r : ReaderOf ε α} {f : α → ReaderOf ε β} {c : Cursor} {a : α}

/-- What the reader yields at the cursor, it yields there in front of the rest, too. -/
def SteadyAt (rest : List Char) (r : ReaderOf ε α) (c : Cursor) : Prop :=
  ∀ a d, r c = .ok a d → r (c.before rest) = .ok a (d.before rest)

def Steady (rest : List Char) (r : ReaderOf ε α) : Prop := ∀ c, SteadyAt rest r c

theorem SteadyAt.bind (hr : SteadyAt rest r c) (hf : ∀ a d, r c = .ok a d → SteadyAt rest (f a) d) :
    SteadyAt rest (r >>= f) c := by
  intro b e h
  obtain ⟨a, d, ha, hb⟩ := bind_eq_ok.1 h
  exact bind_eq_ok.2 ⟨a, _, hr a d ha, hf a d ha b e hb⟩

theorem Steady.bind (hr : Steady rest r) (hf : ∀ a, Steady rest (f a)) : Steady rest (r >>= f) :=
  fun c => (hr c).bind fun a d _ => hf a d

theorem SteadyAt.bind_pure {g : α → β} (hr : SteadyAt rest r c) :
    SteadyAt rest (r >>= fun a => pure (g a)) c := by
  refine hr.bind fun a d _ b e h => ?_
  cases h
  rfl

theorem steady_pure : Steady rest (pure a : ReaderOf ε α) := by
  intro c b d h
  cases h
  rfl

theorem steadyAt_of_ne_ok (h : ∀ a d, r c ≠ .ok a d) : SteadyAt rest r c := fun a d ha => absurd ha (h a d)

theorem steady_failAt {offset : Int} {cause : Cause} : Steady rest (failAt offset cause : Reader α) :=
  fun _ => steadyAt_of_ne_ok fun _ _ => failAt_ne_ok

theorem steady_fail {cause : Cause} : Steady rest (fail cause : Reader α) :=
  fun _ => steadyAt_of_ne_ok fun _ _ => fail_ne_ok

theorem steadyAt_skip {n : Nat} (h : n ≤ c.ahead.length) : SteadyAt rest (skip n : ReaderOf ε Unit) c := by
  intro _ d hd
  obtain rfl := skip_eq_ok.1 hd
  rw [skip_eq_ok]
  simp [Cursor.before, Cursor.skip, List.drop_append_of_le_length h]

theorem steady_offset : Steady rest (offset : ReaderOf ε Nat) := by
  intro c n d h
  cases h
  rfl

/-- A reader that looks at the text ahead is steady where it goes on alike with and without the rest. -/
theorem steadyAt_ahead_bind {f : List Char → ReaderOf ε β} (hf : f (c.ahead ++ rest) = f c.ahead)
    (h : SteadyAt rest (f c.ahead) c) : SteadyAt rest (ahead >>= f) c := by
  intro b d hb
  rw [ahead_bind] at hb ⊢
  have hahead : (c.before rest).ahead = c.ahead ++ rest := rfl
  rw [hahead, hf]
  exact h b d hb

/-- A reader that goes by the characters in front is steady where the rest neither adds to them nor, at the end of the
text, begins with one that the reader goes on with. -/
theorem steadyAt_head_bind {f : List Char → ReaderOf ε β} (hend : ∀ y tail, rest = y :: tail → f (y :: tail) = f [])
    (hcons : ∀ x text, f (x :: (text ++ rest)) = f (x :: text)) (h : SteadyAt rest (f c.ahead) c) :
    SteadyAt rest (ahead >>= f) c := by
  refine steadyAt_ahead_bind ?_ h
  cases c.ahead with
  | cons x text => exact hcons x text
  | nil =>
      cases hrest : rest with
      | nil => rfl
      | cons y tail => exact hend y tail hrest

theorem steadyAt_run {rule : List Char → List Char} (h : rule (c.ahead ++ rest) = rule c.ahead)
    (hlen : (rule c.ahead).length ≤ c.ahead.length) : SteadyAt rest (run rule : ReaderOf ε (List Char)) c := by
  intro text d ht
  obtain ⟨rfl, rfl⟩ := run_eq_ok.1 ht
  rw [run_eq_ok]
  exact ⟨h, by simp [Cursor.before, Cursor.skip, List.drop_append_of_le_length hlen]⟩

theorem takeWhile_before {p : Char → Bool} (hr : ∀ c ∈ rest.head?, p c = false) (text : List Char) :
    (text ++ rest).takeWhile p = text.takeWhile p := by
  induction text with
  | nil => exact takeWhile_append_of_head (by simp) hr
  | cons c text ih => rw [List.cons_append, List.takeWhile_cons, List.takeWhile_cons, ih]

theorem takeWhile_before_of_lt {p : Char → Bool} {text : List Char} (h : (text.takeWhile p).length < text.length) :
    (text ++ rest).takeWhile p = text.takeWhile p := by
  rw [List.takeWhile_append, if_neg (Nat.ne_of_lt h)]

theorem steady_takeWhile {p : Char → Bool} (hr : ∀ c ∈ rest.head?, p c = false) :
    Steady rest (takeWhile p : ReaderOf ε (List Char)) :=
  fun _ => steadyAt_run (takeWhile_before hr _) (List.takeWhile_sublist p).length_le

theorem steadyAt_hasNext_bind {f : Bool → ReaderOf ε β} (hc : c.ahead ≠ []) (h : SteadyAt rest (f true) c) :
    SteadyAt rest (hasNext >>= f) c := by
  intro b d hb
  have hnext : c.ahead.isEmpty = false := by simpa using hc
  have hbefore : (c.before rest).ahead.isEmpty = false := by simp [Cursor.before, hc]
  rw [hasNext_bind, hnext] at hb
  rw [hasNext_bind, hbefore]
  exact h b d hb

theorem steady_peekRaw : Steady rest peekRaw := by
  intro c x d h
  obtain ⟨rfl, text, htext⟩ := peekRaw_eq_ok.1 h
  exact peekRaw_eq_ok.2 ⟨rfl, text ++ rest, by simp [Cursor.before, htext]⟩

theorem skipBlanks_before (h : (c.skip (c.ahead.takeWhile isBlank).length).ahead ≠ []) :
    (c.before rest).skip ((c.before rest).ahead.takeWhile isBlank).length =
      (c.skip (c.ahead.takeWhile isBlank).length).before rest := by
  have hlt : (c.ahead.takeWhile isBlank).length < c.ahead.length := by
    by_contra hle
    exact h (List.drop_eq_nil_of_le (Nat.le_of_not_lt hle))
  have hahead : (c.before rest).ahead = c.ahead ++ rest := rfl
  rw [hahead, takeWhile_before_of_lt hlt]
  simp [Cursor.before, Cursor.skip, List.drop_append_of_le_length (Nat.le_of_lt hlt)]

/-- The next character that is not blank stands before the rest, so the rest is not reached. -/
theorem steady_peek : Steady rest peek := by
  intro c x d h
  rw [peek, skipBlanks_bind] at h ⊢
  obtain ⟨rfl, text, htext⟩ := peekRaw_eq_ok.1 h
  rw [skipBlanks_before (by simp [htext]), peekRaw_eq_ok]
  exact ⟨rfl, text ++ rest, by simp [Cursor.before, htext]⟩

theorem steady_skipBlanks_bind (h : Steady rest r) (ha : Advances r) :
    Steady rest (skipBlanks >>= fun _ => r) := by
  intro c a d hread
  rw [skipBlanks_bind] at hread ⊢
  have hne : (c.skip (c.ahead.takeWhile isBlank).length).ahead ≠ [] := by
    intro hnil
    have hlt := (ha _ _ _ hread).length_lt
    rw [hnil] at hlt
    exact Nat.not_lt_zero _ hlt
  rw [skipBlanks_before hne]
  exact h _ a d hread

theorem steady_expect {mark : String} : Steady rest (expect mark) := by
  intro c
  cases hc : c.ahead with
  | nil =>
      refine steadyAt_of_ne_ok fun u d h => ?_
      rw [expect, standsAt_bind, hc] at h
      exact fail_ne_ok h
  | cons x tail =>
      intro u d h
      have hbefore : (c.before rest).ahead.head? = c.ahead.head? := by simp [Cursor.before, hc]
      rw [expect, standsAt_bind] at h ⊢
      rw [hbefore]
      split at h
      · next hfound =>
          rw [if_pos hfound]
          exact steadyAt_skip (by simp [hc]) u d h
      · exact absurd h fail_ne_ok

/-- What a reader takes whole by itself, it takes in front of a rest that makes no difference. -/
theorem Reads.before {text : List Char} (h : Reads r text [] a) (hr : ∀ c, c.ahead = text → SteadyAt rest r c) :
    Reads r text rest a := by
  intro offset mark
  obtain ⟨_, offset', ha, rfl⟩ := h offset mark
  rw [List.append_nil] at ha
  exact ⟨_, offset', hr _ rfl _ _ ha, rfl⟩

end Reader

/-- What may stand behind a literal of a prompt: white space, the sign behind a key, or nothing. -/
def Bounded (rest : List Char) : Prop := ∀ c ∈ rest.head?, isBlank c = true ∨ c = '='

variable {rest text : List Char} {c : Char}

theorem Bounded.delimited (h : Bounded rest) : Delimited rest := by
  intro c hc
  rcases h c hc with hb | rfl
  · exact isNamePart_of_blank hb
  · obtain ⟨hpart, _, hcolon⟩ := sign_facts (c := '=') (by decide)
    exact ⟨hpart, hcolon⟩

section Numbers

variable {start base : Nat} {c : Cursor}

theorem steady_readNumberEnd (hr : Delimited rest) : Steady rest (readNumberEnd start) := by
  intro c
  apply steadyAt_head_bind
  · intro y tail hy
    rw [← hy, ends_iff.2 hr.numberEnds]
    rfl
  · exact fun x text => rfl
  · split
    · exact steady_failAt c
    · exact steady_pure c

theorem steady_readFraction (hr : Delimited rest) : Steady rest readFraction := by
  intro c
  apply steadyAt_head_bind
  · intro y tail hrest
    have hy : y ≠ '.' := ne_of_isNamePart (hr y (by simp [hrest])).1 (by decide)
    simp [hy]
  · -- A point at the end of the text is no fraction, and the rest does not begin with a digit.
    intro x text
    by_cases hx : x = '.'
    · subst hx
      cases text with
      | cons y text => rfl
      | nil =>
          cases hrest : rest with
          | nil => rfl
          | cons y rest => simp [hr.isDigit y (by simp [hrest])]
    · simp [hx]
  · split
    · next hc =>
        split
        · exact (steadyAt_skip (by simp [hc])).bind fun _ d _ => (steady_takeWhile hr.isDigit d).bind_pure
        · exact steady_pure c
    · exact steady_pure c

theorem steadyAt_readExponentSign (hc : c.ahead ≠ []) : SteadyAt rest readExponentSign c := by
  obtain ⟨x, text, hx⟩ := List.exists_cons_of_ne_nil hc
  apply steadyAt_ahead_bind
  · rw [hx, List.cons_append]
    by_cases hplus : x = '+'
    · subst hplus
      rfl
    · by_cases hminus : x = '-'
      · subst hminus
        rfl
      · simp [hplus, hminus]
  · split
    · next hc => exact (steadyAt_skip (by simp [hc])).bind fun _ d _ => steady_pure d
    · next hc => exact (steadyAt_skip (by simp [hc])).bind fun _ d _ => steady_pure d
    · exact steady_pure c

theorem steady_readExponent (hr : Delimited rest) : Steady rest (readExponent start) := by
  intro c
  apply steadyAt_head_bind
  · intro y tail hrest
    have hy := (hr y (by simp [hrest])).1
    have hlower : y ≠ 'e' := ne_of_isNamePart hy (by decide)
    have hupper : y ≠ 'E' := ne_of_isNamePart hy (by decide)
    simp [hlower, hupper]
  · exact fun x text => rfl
  · split
    · next x text hc =>
        split
        · refine (steadyAt_skip (by simp [hc])).bind fun _ d _ => ?_
          by_cases hd : d.ahead = []
          · -- An exponent without digits is none, so the rest may begin with a sign.
            refine steadyAt_of_ne_ok fun a e h => ?_
            have hsign : readExponentSign d = .ok 1 d := by
              rw [readExponentSign, ahead_bind, hd]
              rfl
            have hdigits : (takeWhile isDigit : Reader (List Char)) d = .ok [] (d.skip 0) :=
              run_eq_ok.2 ⟨by rw [hd]; rfl, rfl⟩
            rw [bind_of_ok hsign, bind_of_ok hdigits] at h
            obtain ⟨_, _, hfail, _⟩ := bind_eq_ok.1 h
            exact failAt_ne_ok hfail
          · refine (steadyAt_readExponentSign hd).bind fun sign e _ =>
              (steady_takeWhile hr.isDigit e).bind fun digits e' _ => ?_
            split
            · exact (steady_failAt e').bind fun _ _ _ => steady_pure _
            · exact steady_pure e'
        · exact steady_pure c
    · exact steady_pure c

theorem steady_readDecimal (hr : Delimited rest) : Steady rest (readDecimal start) := by
  refine (steady_takeWhile hr.isDigit).bind fun whole => (steady_readFraction hr).bind fun fraction =>
    (steady_readExponent hr).bind fun exponent => (steady_readNumberEnd hr).bind fun _ => ?_
  split
  · split
    · exact steady_pure
    · exact steady_failAt
  · exact steady_pure

theorem steadyAt_readBased (hr : Delimited rest) {d : Cursor} (hlen : 2 ≤ d.ahead.length) :
    SteadyAt rest (readBased start base) d := by
  refine (steadyAt_skip hlen).bind fun _ e _ => ?_
  refine (steady_takeWhile hr.isAlphanumeric e).bind fun digits e' _ => ?_
  split
  · exact steady_failAt e'
  · exact (steady_readNumberEnd hr e').bind_pure

theorem length_of_baseAt? (h : baseAt? text = some base) : 2 ≤ text.length := by
  unfold baseAt? at h
  split at h
  · simp
  · cases h

theorem baseAt?_before (hr : Delimited rest) (hne : text ≠ []) : baseAt? (text ++ rest) = baseAt? text := by
  cases text with
  | nil => exact absurd rfl hne
  | cons x text =>
      by_cases hx : x = '0'
      · subst hx
        cases text with
        | cons y text => rfl
        | nil =>
            cases hrest : rest with
            | nil => rfl
            | cons y rest => exact lookup_bases (hr y (by simp [hrest])).1
      · simp [baseAt?, hx]

theorem steady_readNumeral (hr : Delimited rest) : Steady rest readNumeral := by
  refine steady_offset.bind fun start c => ?_
  by_cases hc : c.ahead = []
  · refine steadyAt_of_ne_ok fun n d h => ?_
    rw [ahead_bind, hc] at h
    exact failAt_ne_ok h
  · have hhead : (c.ahead ++ rest).head? = c.ahead.head? := by
      obtain ⟨x, text, hx⟩ := List.exists_cons_of_ne_nil hc
      rw [hx, List.cons_append, List.head?_cons, List.head?_cons]
    apply steadyAt_ahead_bind
    · rw [hhead, baseAt?_before hr hc]
    · split
      · exact steady_failAt c
      · split
        · next hbase => exact steadyAt_readBased hr (length_of_baseAt? hbase)
        · exact steady_readDecimal hr c

theorem steady_signed {sign : Int} {n : Numeral} : Steady rest (n.signed start sign) := by
  cases n with
  | integer n =>
      simp only [Numeral.signed, boundedInteger]
      split
      · exact steady_pure
      · exact steady_failAt
  | scaled mantissa exponent =>
      simp only [Numeral.signed, boundedNumber]
      split
      · split
        · exact steady_pure
        · exact steady_failAt
      · exact steady_failAt

theorem steady_readNumber {sign : Int} (hr : Delimited rest) : Steady rest (readNumber sign) :=
  steady_offset.bind fun _ => (steady_readNumeral hr).bind fun _ => steady_signed

end Numbers

section Strings

-- A string ends at its closing mark, whatever stands behind it.
variable {letter : Char} {width : Nat} {quote : String} {opening : Int}

theorem steady_readHex : Steady rest (readHex letter width) := by
  intro c
  by_cases hlen : width ≤ c.ahead.length
  · have htake : (c.ahead ++ rest).take width = c.ahead.take width := List.take_append_of_le_length hlen
    apply steadyAt_ahead_bind
    · rw [htake]
    · simp only
      split
      · exact (steadyAt_skip hlen).bind_pure
      · exact steady_fail c
  · refine steadyAt_of_ne_ok fun x d h => ?_
    rw [readHex, ahead_bind, if_neg (by simp; omega)] at h
    exact fail_ne_ok h

theorem steady_readEscape : Steady rest readEscape := by
  intro c
  refine (steady_peekRaw c).bind fun x d h => ?_
  obtain ⟨rfl, text, htext⟩ := peekRaw_eq_ok.1 h
  have hskip : SteadyAt rest (skip 1 : Reader Unit) d := steadyAt_skip (by simp [htext])
  split
  · exact hskip.bind_pure
  · exact hskip.bind fun _ e _ => (steady_readHex e).bind_pure
  · split
    · exact hskip.bind_pure
    · exact steady_fail d

theorem Cursor.before_ahead {c : Cursor} {x : Char} (hc : c.ahead = x :: text) :
    (c.before rest).ahead = x :: (text ++ rest) := by
  simp [Cursor.before, hc]

theorem Cursor.skip_before {c : Cursor} {x : Char} (hc : c.ahead = x :: text) :
    (c.before rest).skip 1 = (c.skip 1).before rest := by
  simp [Cursor.skip, Cursor.before, hc]

theorem steady_readQuotedFrom : Steady rest (readQuotedFrom opening quote) := by
  intro c chars d h
  fun_induction readQuotedFrom opening quote c generalizing chars with
  | case1 => cases h
  | case2 => cases h
  | case3 c x text hc hline hquote =>
      cases h
      rw [readQuotedFrom_cons (Cursor.before_ahead hc)]
      rw [if_neg hline, if_pos hquote, Cursor.skip_before hc]
  | case4 => cases h
  | case5 c text escape e he hc hline hquote _ ih =>
      obtain ⟨tail, htail, rfl⟩ := mapped_eq_ok.1 h
      have hescape : readEscape ((c.before rest).skip 1) = .ok escape (e.before rest) := by
        rw [Cursor.skip_before hc]
        exact steady_readEscape _ _ _ he
      rw [readQuotedFrom_cons (Cursor.before_ahead hc)]
      rw [if_neg hline, if_neg hquote, if_pos rfl, hescape]
      exact mapped_eq_ok.2 ⟨tail, ih _ htail, rfl⟩
  | case6 c x text hc hline hquote hescape ih =>
      obtain ⟨tail, htail, rfl⟩ := mapped_eq_ok.1 h
      rw [readQuotedFrom_cons (Cursor.before_ahead hc)]
      rw [if_neg hline, if_neg hquote, if_neg hescape, Cursor.skip_before hc]
      exact mapped_eq_ok.2 ⟨tail, ih _ htail, rfl⟩

theorem steady_readQuoted : Steady rest (readQuoted quote) := by
  intro c s d h
  obtain ⟨chars, hchars, rfl⟩ := mapped_eq_ok.1 h
  exact mapped_eq_ok.2 ⟨chars, steady_readQuotedFrom _ _ _ hchars, rfl⟩

end Strings

section Words

variable {colon : Bool}

theorem nameRun_before (hr : Delimited rest) : nameRun colon (text ++ rest) = nameRun colon text := by
  induction text with
  | nil => exact hr.nameRun_eq_nil
  | cons c text ih =>
      have hhead : (text ++ rest).head?.any isNamePart = text.head?.any isNamePart := by
        cases text with
        | cons => rfl
        | nil =>
            cases hrest : rest with
            | nil => rfl
            | cons d rest => simpa using (hr d (by simp [hrest])).1
      rw [List.cons_append, nameRun, nameRun, ih, hhead]

theorem steady_run_nameRun (hr : Delimited rest) : Steady rest (run (nameRun colon) : Reader (List Char)) :=
  fun _ => steadyAt_run (nameRun_before hr) nameRun_prefix.length_le

theorem steadyAt_skip_of_peek {c d : Cursor} {x : Char} (h : peek c = .ok x d) :
    SteadyAt rest (skip 1 : Reader Unit) d := by
  obtain ⟨_, e, _, hraw⟩ := bind_eq_ok.1 h
  obtain ⟨rfl, text, htext⟩ := peekRaw_eq_ok.1 hraw
  exact steadyAt_skip (by simp [htext])

theorem steady_readName (hr : Delimited rest) : Steady rest (readName colon) := by
  intro c
  refine (steady_peek c).bind fun x d hx => ?_
  split
  · exact (steadyAt_skip_of_peek hx).bind fun _ e _ => steady_readQuoted e
  · split
    · exact (steady_run_nameRun hr d).bind_pure
    · exact steady_fail d

/-- A literal ends where no word and no number goes on. -/
theorem steady_readLiteral (hr : Delimited rest) : Steady rest readLiteral := by
  intro c
  refine (steady_peek c).bind fun x d hx => ?_
  have hskip : SteadyAt rest (skip 1 : Reader Unit) d := steadyAt_skip_of_peek hx
  split
  · exact (steady_run_nameRun hr d).bind_pure
  split
  · exact hskip.bind fun _ e _ => (steady_readQuoted e).bind_pure
  split
  · exact hskip.bind fun _ e _ => steady_readNumber hr e
  split
  · exact hskip.bind fun _ e _ => steady_readNumber hr e
  split
  · exact steady_readNumber hr d
  · exact steady_fail d

end Words

end Prompter
