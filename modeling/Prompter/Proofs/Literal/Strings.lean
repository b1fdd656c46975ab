import Prompter.Literal.Quoted
import Prompter.Proofs.Reading

namespace Prompter

open Text Reader

/-- A unit of a string between marks `q`, and what it stands for. -/
inductive StringUnit (q : Char) : List Char → List Char → Prop
  | plain {x : Char} (hq : x ≠ q) (hb : x ≠ '\\') (hn : x ≠ '\n') : StringUnit q [x] [x]
  | escape {x d : Char} (h : (x, d) ∈ escapes) : StringUnit q ['\\', x] [d]
  | continued : StringUnit q ['\\', '\n'] []
  | code {letter : Char} {digits : List Char} (hlen : (letter, digits.length) ∈ [('x', 2), ('u', 4)])
      (hd : ∀ d ∈ digits, isDigitOf 16 d = true) :
      StringUnit q ('\\' :: letter :: digits) [.ofNat (valueIn 16 digits)]

inductive StringBody (q : Char) : List Char → List Char → Prop
  | nil : StringBody q [] []
  | cons {unit chars body tail : List Char} (hu : StringUnit q unit chars) (h : StringBody q body tail) :
      StringBody q (unit ++ body) (chars ++ tail)

/-- Where a unit would have to begin, the text or the line is over. -/
def Breaks (rest : List Char) : Prop := rest = [] ∨ rest.head? = some '\n'

variable {q x d : Char} {c e : Cursor} {unit body chars rest : List Char} {opening : Int}

section Escapes

theorem lookup_escapes : escapes.lookup x = some d ↔ (x, d) ∈ escapes := by
  have hall : ∀ e ∈ escapes, escapes.lookup e.1 = some e.2 := by decide
  exact ⟨mem_of_lookup, hall (x, d)⟩

theorem hexWidth?_eq_some {width : Nat} : hexWidth? x = some width ↔ (x, width) ∈ [('x', 2), ('u', 4)] := by
  unfold hexWidth?
  split
  · next hx => simp [hx, eq_comm]
  · split
    · next hx => simp [hx, eq_comm]
    · next hx hu => simp [hx, hu]

theorem readHex_eq_ok {letter : Char} {width : Nat} :
    readHex letter width c = .ok x e ↔ ∃ digits, digits.length = width ∧ (∀ d ∈ digits, isDigitOf 16 d = true) ∧
      digits <+: c.ahead ∧ x = .ofNat (valueIn 16 digits) ∧ e = c.skip width := by
  rw [readHex, ahead_bind]
  constructor
  · intro h
    split at h
    · next hdigits =>
        obtain ⟨hx, he⟩ := pure_eq_ok.1 h
        exact ⟨_, hdigits.1, List.all_eq_true.1 hdigits.2, List.take_prefix _ _, hx.symm, he.symm⟩
    · exact absurd h fail_ne_ok
  · rintro ⟨digits, rfl, hd, hprefix, rfl, rfl⟩
    have htake : c.ahead.take digits.length = digits := (List.prefix_iff_eq_take.1 hprefix).symm
    rw [htake, if_pos ⟨rfl, List.all_eq_true.2 hd⟩]
    rfl

theorem readEscape_cons (hc : c.ahead = x :: rest) :
    readEscape c = match escapes.lookup x, hexWidth? x with
      | some d, _ => .ok [d] (c.skip 1)
      | none, some width => mapped ([·]) (readHex x width (c.skip 1))
      | none, none => if x = '\n' then .ok [] (c.skip 1) else .error ⟨.unknownEscape x, c.offset⟩ c := by
  refine (bind_of_ok (peekRaw_eq_ok.2 ⟨rfl, rest, hc⟩)).trans ?_
  cases escapes.lookup x with
  | some d => rfl
  | none =>
      cases hexWidth? x with
      | some width =>
          change (readHex x width >>= fun d => pure [d]) (c.skip 1) = mapped ([·]) (readHex x width (c.skip 1))
          cases h : readHex x width (c.skip 1) with
          | ok d e => exact bind_of_ok h
          | error e d => exact bind_eq_error.2 (.inl h)
      | none =>
          by_cases hn : x = '\n'
          · subst hn
            rfl
          · simp only [if_neg hn]
            rfl

theorem readEscape_eq_ok : readEscape c = .ok chars e ↔
    ∃ tail, StringUnit q ('\\' :: tail) chars ∧ tail <+: c.ahead ∧ e = c.skip tail.length := by
  constructor
  · intro h
    obtain ⟨x, c', hx, _⟩ := bind_eq_ok.1 h
    obtain ⟨rfl, rest, hc⟩ := peekRaw_eq_ok.1 hx
    rw [readEscape_cons hc] at h
    split at h
    · next hd =>
        cases h
        exact ⟨[x], .escape (lookup_escapes.1 hd), by simp [hc], rfl⟩
    · next hw =>
        obtain ⟨y, hy, rfl⟩ := mapped_eq_ok.1 h
        obtain ⟨digits, rfl, hd, hprefix, rfl, rfl⟩ := readHex_eq_ok.1 hy
        refine ⟨x :: digits, .code (hexWidth?_eq_some.1 hw) hd, ?_, Cursor.skip_skip⟩
        rw [hc]
        simpa [Cursor.skip, hc] using hprefix
    · split at h
      · next hn =>
          cases h
          exact ⟨['\n'], .continued, by simp [hc, hn], rfl⟩
      · cases h
  · rintro ⟨tail, hu, ⟨rest, hc⟩, rfl⟩
    cases hu with
    | plain _ hb => exact absurd rfl hb
    | escape h =>
        rw [readEscape_cons hc.symm, lookup_escapes.2 h]
        rfl
    | continued =>
        rw [readEscape_cons hc.symm]
        rfl
    | @code letter digits hlen hd =>
        have hnone : ∀ e ∈ [('x', 2), ('u', 4)], escapes.lookup e.1 = none := by decide
        have hhex : readHex letter digits.length (c.skip 1) =
            .ok (.ofNat (valueIn 16 digits)) ((c.skip 1).skip digits.length) :=
          readHex_eq_ok.2 ⟨digits, rfl, hd, ⟨rest, by simp [Cursor.skip, ← hc]⟩, rfl, rfl⟩
        rw [readEscape_cons hc.symm, hnone _ hlen, hexWidth?_eq_some.2 hlen]
        exact mapped_eq_ok.2 ⟨_, hhex.trans (congrArg _ Cursor.skip_skip), rfl⟩

theorem complains_readEscape : Complains (fun e => e.cause.report.kind ≠ .unterminatedString) readEscape := by
  have hpeek : Complains (fun e => e.cause.report.kind ≠ .unterminatedString) peekRaw := by
    refine complains_ahead.bind fun text => ?_
    split
    · exact complains_fail fun _ => nofun
    · exact complains_pure
  have hhex : ∀ letter width, Complains (fun e => e.cause.report.kind ≠ .unterminatedString) (readHex letter width) := by
    refine fun letter width => complains_ahead.bind fun text => ?_
    simp only
    split
    · exact complains_skip.bind fun _ => complains_pure
    · exact complains_fail fun _ => nofun
  refine hpeek.bind fun x => ?_
  split
  · exact complains_skip.bind fun _ => complains_pure
  · exact complains_skip.bind fun _ => (hhex _ _).bind fun _ => complains_pure
  · split
    · exact complains_skip.bind fun _ => complains_pure
    · exact complains_fail fun _ => nofun

end Escapes

section Strings

theorem readQuotedFrom_cons {quote : String} (hc : c.ahead = x :: rest) :
    readQuotedFrom opening quote c =
      if x = '\n' then .error ⟨.lineEnds quote, opening⟩ c
      else if .singleton x = quote then .ok [] (c.skip 1)
      else if x = '\\' then
        match readEscape (c.skip 1) with
        | .error e d => .error e d
        | .ok chars d => mapped (chars ++ ·) (readQuotedFrom opening quote d)
      else mapped (x :: ·) (readQuotedFrom opening quote (c.skip 1)) := by
  rw [readQuotedFrom]
  split
  · next h => rw [hc] at h; cases h
  · next h =>
      rw [hc] at h
      cases h
      split
      · rfl
      · split
        · rfl
        · split
          · split <;> simp_all
          · rfl

theorem readQuotedFrom_unit (hb : q ≠ '\\') (hu : StringUnit q unit chars) (hc : c.ahead = unit ++ rest) :
    readQuotedFrom opening (.singleton q) c =
      mapped (chars ++ ·) (readQuotedFrom opening (.singleton q) (c.skip unit.length)) := by
  have hback : String.singleton '\\' ≠ .singleton q := mt String.singleton_inj.1 hb.symm
  have hescaped : ∀ tail, unit = '\\' :: tail → readQuotedFrom opening (.singleton q) c =
      mapped (chars ++ ·) (readQuotedFrom opening (.singleton q) (c.skip unit.length)) := by
    rintro tail rfl
    have hescape : readEscape (c.skip 1) = .ok chars ((c.skip 1).skip tail.length) :=
      readEscape_eq_ok.2 ⟨tail, hu, ⟨rest, by simp [Cursor.skip, hc]⟩, rfl⟩
    rw [readQuotedFrom_cons hc, if_neg (by decide), if_neg hback, if_pos rfl, hescape, Cursor.skip_skip]
    rfl
  cases hu with
  | @plain x hq hx hn =>
      have hmark : String.singleton x ≠ .singleton q := mt String.singleton_inj.1 hq
      rw [readQuotedFrom_cons hc, if_neg hn, if_neg hmark, if_neg hx]
      rfl
  | escape | continued | code => exact hescaped _ rfl

theorem readQuotedFrom_body (hb : q ≠ '\\') (h : StringBody q body chars) (hc : c.ahead = body ++ rest) :
    readQuotedFrom opening (.singleton q) c =
      mapped (chars ++ ·) (readQuotedFrom opening (.singleton q) (c.skip body.length)) := by
  induction h generalizing c with
  | nil =>
      change _ = mapped ([] ++ ·) (readQuotedFrom opening (.singleton q) c)
      cases readQuotedFrom opening (.singleton q) c <;> rfl
  | @cons unit chars body tail hu h ih =>
      rw [List.append_assoc] at hc
      have hahead : (c.skip unit.length).ahead = body ++ rest := by simp [Cursor.skip, hc]
      rw [readQuotedFrom_unit hb hu hc, ih hahead, Cursor.skip_skip, Nat.add_comm, ← List.length_append]
      cases readQuotedFrom opening (.singleton q) (c.skip (unit ++ body).length) with
      | ok s e => simp [mapped, List.append_assoc]
      | error e d => rfl

theorem readQuotedFrom_close (hn : q ≠ '\n') (hc : c.ahead = q :: rest) :
    readQuotedFrom opening (.singleton q) c = .ok [] (c.skip 1) := by
  rw [readQuotedFrom_cons hc, if_neg hn, if_pos rfl]

theorem readQuotedFrom_break (opening : Int) (quote : String) (h : Breaks c.ahead) :
    ∃ cause, readQuotedFrom opening quote c = .error ⟨cause, opening⟩ c ∧ cause.report.kind = .unterminatedString := by
  cases hc : c.ahead with
  | nil =>
      refine ⟨.textEnds quote, ?_, rfl⟩
      rw [readQuotedFrom]
      split <;> simp_all
  | cons x rest =>
      rw [Breaks, hc] at h
      obtain rfl : x = '\n' := by simpa using h
      exact ⟨.lineEnds quote, by rw [readQuotedFrom_cons hc, if_pos rfl], rfl⟩

/-- Where the string goes on, a unit begins, or the reader complains of an escape. -/
theorem unit_or_error (hx : x ≠ q) (hn : x ≠ '\n') (hc : c.ahead = x :: rest) :
    (∃ unit chars rest', StringUnit q unit chars ∧ unit ≠ [] ∧ c.ahead = unit ++ rest') ∨
      ∃ e d, readQuotedFrom opening (.singleton q) c = .error e d ∧ e.cause.report.kind ≠ .unterminatedString := by
  by_cases hb : x = '\\'
  · subst hb
    cases hescape : readEscape (c.skip 1) with
    | ok chars d =>
        obtain ⟨tail, hu, ⟨rest', hrest⟩, _⟩ := readEscape_eq_ok.1 hescape
        refine .inl ⟨_, chars, rest', hu, List.cons_ne_nil _ _, ?_⟩
        rw [hc, List.cons_append, hrest]
        simp [Cursor.skip, hc]
    | error e d =>
        refine .inr ⟨e, d, ?_, complains_readEscape _ _ _ hescape⟩
        rw [readQuotedFrom_cons hc, if_neg hn, if_neg (mt String.singleton_inj.1 hx), if_pos rfl, hescape]
  · exact .inl ⟨[x], [x], rest, .plain hx hb hn, List.cons_ne_nil _ _, hc⟩

/-- The reader takes units as long as there are some. Behind them it finds its mark, or the end of the line, or an escape
to complain of. -/
theorem readQuotedFrom_cases (hb : q ≠ '\\') (opening : Int) (c : Cursor) :
    ∃ body chars rest, StringBody q body chars ∧ c.ahead = body ++ rest ∧
      (rest.head? = some q ∨ Breaks rest ∨
        ∃ e d, readQuotedFrom opening (.singleton q) c = .error e d ∧ e.cause.report.kind ≠ .unterminatedString) := by
  induction hlen : c.ahead.length using Nat.strongRecOn generalizing c with
  | ind n ih =>
      subst hlen
      cases hc : c.ahead with
      | nil => exact ⟨[], [], [], .nil, rfl, .inr (.inl (.inl rfl))⟩
      | cons x rest =>
          by_cases hline : x = '\n'
          · exact ⟨[], [], x :: rest, .nil, rfl, .inr (.inl (.inr (congrArg some hline)))⟩
          · by_cases hmark : x = q
            · exact ⟨[], [], x :: rest, .nil, rfl, .inl (congrArg some hmark)⟩
            · rcases unit_or_error hmark hline hc with ⟨unit, chars, rest', hu, hne, hrest⟩ | herror
              · have hahead : (c.skip unit.length).ahead = rest' := by simp [Cursor.skip, hrest]
                have hshort : (c.skip unit.length).ahead.length < c.ahead.length :=
                  (Cursor.passes_skip (by simp [hc]) (List.length_pos_iff.2 hne)).length_lt
                obtain ⟨body, tail, last, hbody, hlast, hend⟩ := ih _ hshort _ rfl
                refine ⟨unit ++ body, chars ++ tail, last, .cons hu hbody, ?_, ?_⟩
                · rw [← hc, hrest, ← hahead, hlast, List.append_assoc]
                · refine hend.imp_right (Or.imp_right fun ⟨e, d, herror, hkind⟩ => ⟨e, d, ?_, hkind⟩)
                  rw [readQuotedFrom_unit hb hu hrest, herror]
                  rfl
              · exact ⟨[], [], x :: rest, .nil, rfl, .inr (.inr herror)⟩

theorem readQuoted_of_body (hb : q ≠ '\\') (hn : q ≠ '\n') (h : StringBody q body chars)
    (hc : c.ahead = body ++ q :: rest) :
    readQuoted (.singleton q) c = .ok (.ofList chars) (c.skip (body.length + 1)) := by
  have hmark : (c.skip body.length).ahead = q :: rest := by simp [Cursor.skip, hc]
  rw [readQuoted, readQuotedFrom_body hb h hc, readQuotedFrom_close hn hmark, Cursor.skip_skip, Nat.add_comm]
  simp [mapped]

theorem readQuoted_of_breaks (hb : q ≠ '\\') (h : StringBody q body chars) (hc : c.ahead = body ++ rest)
    (hbreaks : Breaks rest) :
    ∃ e d, readQuoted (.singleton q) c = .error e d ∧ e.cause.report.kind = .unterminatedString ∧
      e.offset = (c.offset : Int) - 1 := by
  have hend : (c.skip body.length).ahead = rest := by simp [Cursor.skip, hc]
  obtain ⟨cause, herror, hkind⟩ := readQuotedFrom_break ((c.offset : Int) - 1) (.singleton q) (hend ▸ hbreaks)
  refine ⟨⟨cause, _⟩, c.skip body.length, ?_, hkind, rfl⟩
  rw [readQuoted, readQuotedFrom_body hb h hc, herror]
  rfl

/-- A string is read when units and its mark are ahead: as what the units stand for, and to behind the mark. Any other
text is complained of: as an unterminated string where the line or the text ends with no mark behind the units, and then
at the mark that opened the string. -/
theorem readQuoted_iff (hb : q ≠ '\\') (hn : q ≠ '\n') (c : Cursor) :
    (∀ s d, readQuoted (.singleton q) c = .ok s d ↔
      ∃ body chars, StringBody q body chars ∧ c.ahead = body ++ q :: d.ahead ∧ s = .ofList chars ∧
        d = c.skip (body.length + 1)) ∧
    ((¬∃ body chars rest, StringBody q body chars ∧ c.ahead = body ++ q :: rest) →
      ∃ e d, readQuoted (.singleton q) c = .error e d ∧
        (e.cause.report.kind = .unterminatedString ↔
          ∃ body chars rest, StringBody q body chars ∧ c.ahead = body ++ rest ∧ Breaks rest) ∧
        (e.cause.report.kind = .unterminatedString → e.offset = (c.offset : Int) - 1)) := by
  obtain ⟨body, chars, rest, hbody, hc, hend⟩ := readQuotedFrom_cases hb ((c.offset : Int) - 1) c
  refine ⟨fun s d => ⟨fun h => ?_, ?_⟩, fun hnone => ?_⟩
  · rcases hend with hmark | hbreaks | ⟨e, d', herror, _⟩
    · obtain ⟨rest, rfl⟩ := List.head?_eq_some_iff.1 hmark
      obtain ⟨rfl, rfl⟩ := EStateM.Result.ok.inj (h.symm.trans (readQuoted_of_body hb hn hbody hc))
      exact ⟨body, chars, hbody, by simp [Cursor.skip, hc], rfl, rfl⟩
    · obtain ⟨e, d', herror, _⟩ := readQuoted_of_breaks hb hbody hc hbreaks
      cases h.symm.trans herror
    · rw [readQuoted, herror] at h
      cases h
  · rintro ⟨body, chars, hbody, hc, rfl, rfl⟩
    exact readQuoted_of_body hb hn hbody hc
  · rcases hend with hmark | hbreaks | ⟨e, d, herror, hkind⟩
    · obtain ⟨rest, rfl⟩ := List.head?_eq_some_iff.1 hmark
      exact absurd ⟨body, chars, rest, hbody, hc⟩ hnone
    · obtain ⟨e, d, herror, hkind, hoffset⟩ := readQuoted_of_breaks hb hbody hc hbreaks
      exact ⟨e, d, herror, iff_of_true hkind ⟨body, chars, rest, hbody, hc, hbreaks⟩, fun _ => hoffset⟩
    · have hread : readQuoted (.singleton q) c = .error e d := by rw [readQuoted, herror]; rfl
      refine ⟨e, d, hread, iff_of_false hkind ?_, fun h => absurd h hkind⟩
      rintro ⟨body, chars, rest, hbody, hc, hbreaks⟩
      obtain ⟨e', d', herror', hkind', _⟩ := readQuoted_of_breaks hb hbody hc hbreaks
      cases hread.symm.trans herror'
      exact hkind hkind'

theorem readQuoted_escaped :
    '"' ≠ '\\' ∧ '"' ≠ '\n' ∧
      readQuoted (.singleton '"') ⟨1, "a\\x41\" b".toList, none⟩ = .ok "aA" ⟨7, " b".toList, none⟩ := by
  have hbody : StringBody '"' ("a\\x41".toList) ['a', 'A'] :=
    .cons (.plain (by decide) (by decide) (by decide))
      (.cons (@StringUnit.code '"' 'x' ['4', '1'] (by decide) (List.all_eq_true.1 (by decide))) .nil)
  exact ⟨by decide, by decide, ((readQuoted_iff (by decide) (by decide) _).1 _ _).2
    ⟨_, _, hbody, by decide, by decide, rfl⟩⟩

end Strings

end Prompter
