import Prompter.Literal.Reader
import Prompter.Proofs.Literal.Numbers
import Prompter.Proofs.Literal.Strings
import Prompter.Proofs.Scheme.Writing

namespace Prompter

open Text Reader

variable {rest text : List Char} {c : Char}

/-- What no word and no number goes on with. -/
def Delimited (rest : List Char) : Prop := ∀ c ∈ rest.head?, isNamePart c = false ∧ c ≠ ':'

def blankCodes : List Nat := blankRanges.flatMap fun r => List.range' r.1 (r.2 + 1 - r.1)

theorem mem_blankCodes (h : isBlank c = true) : c.toNat ∈ blankCodes := by
  obtain ⟨r, hr, hlow, hhigh⟩ := exists_of_inRanges h
  refine List.mem_flatMap.2 ⟨r, hr, List.mem_range'_1.2 ⟨hlow, ?_⟩⟩
  omega

theorem isNamePart_of_blank (h : isBlank c = true) : isNamePart c = false ∧ c ≠ ':' := by
  have hall : ∀ n ∈ blankCodes, isNamePart (.ofNat n) = false ∧ Char.ofNat n ≠ ':' := by decide +kernel
  have hc := hall _ (mem_blankCodes h)
  rwa [Char.ofNat_toNat] at hc

theorem isBlank_of_isNamePart (h : isNamePart c = true) : isBlank c = false := by
  cases hc : isBlank c with
  | false => rfl
  | true =>
      rw [(isNamePart_of_blank hc).1] at h
      cases h

def signs : List Char := ['=', '~', '[', '\x7b', '\x7d', '"', '\'']

theorem sign_facts (h : c ∈ signs) : isNamePart c = false ∧ isNameStart c = false ∧ c ≠ ':' := by
  have hall : (signs.all fun c => !isNamePart c && !isNameStart c && c != ':') = true := by decide +kernel
  simpa [and_assoc] using List.all_eq_true.1 hall c h

theorem isQuote_of_isNameStart (h : isNameStart c = true) : isQuote c = false := by
  refine Bool.eq_false_iff.2 fun hq => ?_
  have hsign : c ∈ signs := by
    obtain rfl | rfl : c = '"' ∨ c = '\'' := by simpa [isQuote] using hq
    all_goals decide
  rw [(sign_facts hsign).2.1] at h
  cases h

def numeralSigns : List Char := ['_', '.', 'b', 'e', 'E', 'o', 'x']

theorem ne_of_isNamePart {d : Char} (h : isNamePart c = false) (hd : d ∈ numeralSigns) : c ≠ d := by
  have hall : numeralSigns.all isNamePart = true := by decide +kernel
  rintro rfl
  rw [List.all_eq_true.1 hall c hd] at h
  cases h

theorem delimited_cons (h : isNamePart c = false ∧ c ≠ ':') : Delimited (c :: rest) := by
  intro d hd
  obtain rfl : c = d := by simpa using hd
  exact h

theorem delimited_sign (h : c ∈ signs) : Delimited (c :: rest) :=
  have hfacts := sign_facts h
  delimited_cons ⟨hfacts.1, hfacts.2.2⟩

theorem delimited_gap (g : Gap) (h : Delimited rest) : Delimited (g.text ++ rest) := by
  cases hg : g.text with
  | nil => exact h
  | cons c gap =>
      have hc : isBlank c = true := g.blank c (by simp [hg])
      exact delimited_cons (isNamePart_of_blank hc)

namespace Quote

variable {q : Quote} {s : String} {colon : Bool}

theorem isQuote_char : isQuote q.char = true := by cases q <;> rfl

theorem isBlank_char : isBlank q.char = false := by cases q <;> decide

theorem isNameStart_char : isNameStart q.char = false := (sign_facts (by cases q <;> decide)).2.1

theorem ne_newline : q.char ≠ '\n' := by cases q <;> decide

theorem ne_backslash : q.char ≠ '\\' := by cases q <;> decide

theorem unit_escaped {x : Char} : StringUnit q.char (q.escaped x) [x] := by
  rw [escaped]
  split
  · next hn =>
      subst hn
      exact .escape (by decide)
  · next hn =>
      split
      · next hx =>
          refine .escape ?_
          rcases hx with rfl | rfl
          · decide
          · cases q <;> decide
      · next hx => exact .plain (fun h => hx (.inr h)) (fun h => hx (.inl h)) hn

theorem body_escaped (chars : List Char) : StringBody q.char (chars.flatMap q.escaped) chars := by
  induction chars with
  | nil => exact .nil
  | cons x chars ih => exact .cons unit_escaped ih

theorem reads_readQuoted : Reads (readQuoted (.singleton q.char)) (s.toList.flatMap q.escaped ++ [q.char]) rest s := by
  intro offset mark
  have hrest : (s.toList.flatMap q.escaped ++ [q.char] ++ rest).drop ((s.toList.flatMap q.escaped).length + 1) = rest :=
    List.drop_left' List.length_append
  refine ⟨s, offset + ((s.toList.flatMap q.escaped).length + 1), ?_, rfl⟩
  rw [readQuoted_of_body ne_backslash ne_newline (body_escaped s.toList) (List.append_assoc ..), String.ofList_toList]
  simp only [Cursor.skip, hrest]

theorem reads_mark : Reads (skip 1 : Reader Unit) [q.char] rest () := reads_skip rfl

theorem reads_readName (g : Gap) : Reads (readName colon) (g.text ++ q.quoted s) rest s := by
  rw [quoted]
  apply yields_peek_bind g.blank isBlank_char
  rw [if_pos isQuote_char]
  exact reads_mark.bind reads_readQuoted

end Quote

section Digits

variable {digits : List Char} {n : Nat} {d : Char}

theorem toNat_of_isDigit (h : isDigit c = true) : c.toNat ∈ List.range' 48 10 := by
  simp only [isDigit, Bool.and_eq_true, decide_eq_true_eq, Char.le_def, UInt32.le_iff_toNat_le] at h
  exact List.mem_range'_1.2 ⟨h.1, Nat.lt_succ_of_le h.2⟩

theorem digit_facts (h : isDigit c = true) :
    isNamePart c = true ∧ isNameStart c = false ∧ isQuote c = false ∧ c ≠ '-' ∧ c ≠ '+' ∧ isBlank c = false ∧
      bases.lookup c.toLower = none := by
  have hall : ∀ n ∈ List.range' 48 10, isNamePart (.ofNat n) = true ∧ isNameStart (.ofNat n) = false ∧
      isQuote (.ofNat n) = false ∧ Char.ofNat n ≠ '-' ∧ Char.ofNat n ≠ '+' ∧ isBlank (.ofNat n) = false ∧
      bases.lookup (Char.ofNat n).toLower = none := by decide +kernel
  have hfacts := hall _ (toNat_of_isDigit h)
  rwa [Char.ofNat_toNat] at hfacts

theorem isDigit_of_mem_toDigits (h : d ∈ Nat.toDigits 10 n) : isDigit d = true := by
  have hd := Nat.isDigit_of_mem_toDigits (by decide) (by decide) h
  simpa [isDigit, Char.isDigit, Char.le_def] using hd

theorem digitValue?_digitChar (h : n < 10) : digitValue? n.digitChar = some n := by
  have hall : ∀ n < 10, digitValue? (Nat.digitChar n) = some n := by decide
  exact hall n h

theorem valueIn_toDigits (n : Nat) : valueIn 10 (Nat.toDigits 10 n) = n := by
  induction n using Nat.strongRecOn with
  | ind n ih =>
      by_cases hn : n < 10
      · rw [Nat.toDigits_of_lt_base hn]
        simp [valueIn, digitValue?_digitChar hn]
      · have hlast : n % 10 < 10 := Nat.mod_lt _ (by decide)
        rw [Nat.toDigits_of_base_le (by decide) (by omega), valueIn_concat, ih (n / 10) (by omega),
          digitValue?_digitChar hlast, Option.getD_some]
        omega

theorem lookup_bases (h : isNamePart c = false) : bases.lookup c.toLower = none := by
  have hall : baseLetters.all (fun e => isNamePart e.1) = true := by decide +kernel
  cases hbase : bases.lookup c.toLower with
  | none => rfl
  | some base =>
      have hpart := List.all_eq_true.1 hall _ (lookup_bases_iff.1 hbase)
      rw [h] at hpart
      cases hpart

theorem Delimited.isDigit (hr : Delimited rest) : ∀ c ∈ rest.head?, isDigit c = false := by
  intro c hc
  cases hdigit : Text.isDigit c with
  | false => rfl
  | true => exact absurd (digit_facts hdigit).1 (by simp [(hr c hc).1])

theorem Delimited.isAlphanumeric (hr : Delimited rest) : ∀ c ∈ rest.head?, isAlphanumeric c = false := by
  intro c hc
  have hpart := (hr c hc).1
  rw [isNamePart, Bool.or_eq_false_iff] at hpart
  exact hpart.1

theorem Delimited.numberEnds (hr : Delimited rest) : NumberEnds rest := fun c hc =>
  have hpart := (hr c hc).1
  ⟨hr.isAlphanumeric c hc, ne_of_isNamePart hpart (by decide), ne_of_isNamePart hpart (by decide)⟩

theorem reads_readNumber {sign : Int} {n : Nat} (hr : Delimited rest)
    (hn : -0x8000000000000000 ≤ sign * n ∧ sign * n < 0x8000000000000000)
    (hlen : n ≤ 0x8000000000000000) : Reads (readNumber sign) (Nat.toDigits 10 n) rest (.integer (sign * n)) := by
  have hd : ∀ d ∈ Nat.toDigits 10 n, isDigit d = true := fun d => isDigit_of_mem_toDigits
  have hfew : (Nat.toDigits 10 n).length ≤ maxDecimalDigits := by
    have h20 : (Nat.toDigits 10 n).length ≤ 20 := (Nat.length_toDigits_le_iff (by decide) (by decide)).2 (by omega)
    exact Nat.le_trans h20 (by decide)
  have hbase : Nat.toDigits 10 n = ['0'] → ∀ x ∈ rest.head?, ∀ base, (x, base) ∉ baseLetters := by
    intro _ x hx base hletter
    have hnone := lookup_bases (hr x hx).1
    rw [lookup_bases_iff.2 hletter] at hnone
    cases hnone
  intro offset mark
  have hread : readNumber sign ⟨offset, Nat.toDigits 10 n ++ rest, mark⟩ = .ok _ _ :=
    (readNumber_of_ends rfl hd hr.isDigit Nat.toDigits_ne_nil hbase hr.numberEnds hfew).2
      ⟨by rw [valueIn_toDigits]; exact Literal.inRange_integer.2 hn, rfl, rfl⟩
  rw [valueIn_toDigits] at hread
  exact ⟨_, offset + (Nat.toDigits 10 n).length, by simpa [Cursor.skip] using hread, rfl⟩

end Digits

theorem Delimited.nameRun_eq_nil {colon : Bool} (hr : Delimited rest) : nameRun colon rest = [] := by
  cases rest with
  | nil => rfl
  | cons c rest =>
      obtain ⟨hpart, hcolon⟩ := hr c rfl
      simp [nameRun, hpart, hcolon]

theorem nameRun_append {colon : Bool} (ht : ∀ c ∈ text, isNamePart c = true) (hr : Delimited rest) :
    nameRun colon (text ++ rest) = text := by
  rw [nameRun_append_of_parts ht, hr.nameRun_eq_nil, List.append_nil]

namespace Value

variable {q : Quote} {v : Value}

theorem yields_none (g : Gap) (hr : Delimited rest) :
    Yields readLiteral (g.text ++ none.constantText q) rest fun l => l.toValue = none := by
  have hpart : ∀ c ∈ "none".toList, isNamePart c = true := List.all_eq_true.1 (by decide +kernel)
  have hword : nameRun true ("none".toList ++ rest) = "none".toList := nameRun_append hpart hr
  apply yields_peek_bind g.blank (by decide)
  rw [if_pos (by decide +kernel)]
  exact Yields.bind_pure (reads_run hword) fun _ h => by rw [h]; rfl

theorem yields_natural (g : Gap) (hr : Delimited rest) {n : Nat} (hn : n < 0x8000000000000000) :
    Yields readLiteral (g.text ++ Nat.toDigits 10 n) rest fun l => l.toValue = integer n := by
  have hnumber : Reads (readNumber 1) (Nat.toDigits 10 n) rest (.integer n) := by
    have h : Reads (readNumber 1) (Nat.toDigits 10 n) rest (.integer (1 * n)) :=
      reads_readNumber hr (by omega) (by omega)
    rwa [Int.one_mul] at h
  cases htext : Nat.toDigits 10 n with
  | nil => exact absurd htext Nat.toDigits_ne_nil
  | cons d digits =>
      have hdigit : isDigit d = true := isDigit_of_mem_toDigits (by rw [htext]; exact List.mem_cons_self)
      obtain ⟨_, hstart, hquote, hminus, hplus, hblank, _⟩ := digit_facts hdigit
      rw [htext] at hnumber
      apply yields_peek_bind g.blank hblank
      rw [if_neg (by simp [hstart]), if_neg (by simp [hquote]), if_neg hminus, if_neg hplus, if_pos hdigit]
      intro offset mark
      obtain ⟨_, offset', h, rfl⟩ := hnumber offset mark
      exact ⟨_, offset', h, rfl⟩

theorem yields_negative (g : Gap) (hr : Delimited rest) {n : Nat} (hn : n ≤ 0x8000000000000000) :
    Yields readLiteral (g.text ++ '-' :: Nat.toDigits 10 n) rest fun l => l.toValue = integer (-n) := by
  have hnumber : Reads (readNumber (-1)) (Nat.toDigits 10 n) rest (.integer (-1 * n)) :=
    reads_readNumber hr (by omega) hn
  have hsign : Reads (skip 1 : Reader Unit) ['-'] (Nat.toDigits 10 n ++ rest) () := reads_skip rfl
  apply yields_peek_bind g.blank (by decide)
  rw [if_neg (by decide +kernel), if_neg (by decide), if_pos rfl]
  apply hsign.bind
  intro offset mark
  obtain ⟨_, offset', h, rfl⟩ := hnumber offset mark
  refine ⟨_, offset', h, ?_⟩
  simp only [Literal.toValue]
  rw [Int.neg_mul, Int.one_mul]

theorem yields_string (g : Gap) {s : String} :
    Yields readLiteral (g.text ++ q.quoted s) rest fun l => l.toValue = string s := by
  rw [Quote.quoted]
  apply yields_peek_bind g.blank Quote.isBlank_char
  rw [if_neg (by simp [Quote.isNameStart_char]), if_pos Quote.isQuote_char]
  exact Quote.reads_mark.bind (Yields.bind_pure Quote.reads_readQuoted fun _ h => by rw [h]; rfl)

theorem Plain.yields_readLiteral (hv : v.Plain) (g : Gap) (hr : Delimited rest) :
    Yields readLiteral (g.text ++ v.constantText q) rest fun l => l.toValue = v := by
  cases hv with
  | none => exact yields_none g hr
  | string s => exact yields_string g
  | integer i h =>
      rw [constantText, decimalText]
      by_cases hi : i < 0
      · have hneg : i = -(i.natAbs : Int) := by omega
        rw [if_pos hi, List.singleton_append]
        have hread := yields_negative g hr (show i.natAbs ≤ 0x8000000000000000 by omega)
        rwa [← hneg] at hread
      · have hpos : i = (i.natAbs : Int) := by omega
        rw [if_neg hi, List.nil_append]
        have hread := yields_natural g hr (show i.natAbs < 0x8000000000000000 by omega)
        rwa [← hpos] at hread

end Value

end Prompter
