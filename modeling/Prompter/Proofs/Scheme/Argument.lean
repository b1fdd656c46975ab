import Prompter.Proofs.Literal.Constants
import Prompter.Proofs.Scheme.WellFormed

namespace Prompter.Scheme

open Text Reader

variable {rest text : List Char} {kind : Kind} {a : Argument} {ms : List String} {name : String}

section Choices

def WordEnds (rest : List Char) : Prop := ∀ c ∈ rest.head?, (isNamePart c && c != '$') = false

theorem wordEnds_of_delimited (h : Delimited rest) : WordEnds rest := by
  intro c hc
  rw [(h c hc).1, Bool.false_and]

theorem reads_wordRun (ht : ∀ c ∈ text, (isNamePart c && c != '$') = true) (hr : WordEnds rest) :
    Reads (run wordRun : Reader (List Char)) text rest text :=
  reads_run (takeWhile_append_of_head ht hr)

theorem keyword_facts (kind : Kind) :
    ∃ x tail, kind.keyword.toList = x :: tail ∧ isBlank x = false ∧ ¬(x = '[' ∨ x = '$') ∧
      ∀ c ∈ kind.keyword.toList, (isNamePart c && c != '$') = true := by
  cases kind <;> exact ⟨_, _, rfl, by decide, by decide, List.all_eq_true.1 (by decide +kernel)⟩

theorem reads_readKind (g : Gap) (hr : WordEnds rest) : Reads readKind (g.text ++ kind.keyword.toList) rest kind := by
  obtain ⟨x, tail, hword, hblank, hx, hall⟩ := keyword_facts kind
  have hrun := reads_wordRun hall hr
  have hkind : Kind.ofKeyword? (.ofList kind.keyword.toList) = some kind := by
    rw [String.ofList_toList, Kind.ofKeyword?_keyword]
  rw [hword] at hrun hkind ⊢
  apply yields_peek_bind g.blank hblank
  rw [if_neg hx]
  apply yields_offset_bind
  intro start
  apply hrun.bind_end
  rw [hkind]
  exact reads_pure

theorem mem_joined {x sep : Char} {ps : List (List Char)} (h : x ∈ joined sep ps) : x = sep ∨ ∃ p ∈ ps, x ∈ p := by
  induction ps with
  | nil => cases h
  | cons p ps ih =>
      cases ps with
      | nil => exact .inr ⟨p, List.mem_cons_self, h⟩
      | cons q qs =>
          have hjoined : joined sep (p :: q :: qs) = p ++ sep :: joined sep (q :: qs) := rfl
          rw [hjoined, List.mem_append, List.mem_cons] at h
          rcases h with h | h | h
          · exact .inr ⟨p, List.mem_cons_self, h⟩
          · exact .inl h
          · obtain hsep | ⟨r, hr, hx⟩ := ih h
            · exact .inl hsep
            · exact .inr ⟨r, List.mem_cons_of_mem _ hr, hx⟩

theorem body_write (h : Choices.Written ms) :
    pieces '|' (Choices.body (Choices.write ms)) = ms.map String.toList ∧
      ∀ x ∈ Choices.body (Choices.write ms), x ≠ ']' ∧ isBlank x = false := by
  rw [Choices.write, Choices.body_barred]
  refine ⟨pieces_joined (by simpa using h.ne_nil) (by simpa using h.no_bar), fun x hx => ?_⟩
  rcases mem_joined hx with rfl | ⟨p, hp, hx⟩
  · decide
  · obtain ⟨m, hm, rfl⟩ := List.mem_map.1 hp
    exact (h.plain m hm x hx).2

theorem reads_checkMembers {start : Nat} {body : List Char} (hb : ∀ x ∈ body, isBlank x = false)
    (hp : ∀ p ∈ pieces '|' body, p ≠ []) : Reads (checkMembers start body) [] rest () :=
  fun offset _ => ⟨(), offset, checkMembers_eq_ok.2 ⟨hb, hp, rfl⟩, rfl⟩

theorem reads_readMembers (h : Choices.Written ms) :
    Reads readMembers (['['] ++ (Choices.body (Choices.write ms) ++ [']'])) rest (Choices.write ms) := by
  obtain ⟨hpieces, hbody⟩ := body_write h
  have hopen : Reads (skip 1 : Reader Unit) ['['] (Choices.body (Choices.write ms) ++ [']'] ++ rest) () :=
    reads_skip rfl
  have hclose : Reads (skip 1 : Reader Unit) [']'] rest () := reads_skip rfl
  have htake : Reads (takeWhile (· ≠ ']') : Reader (List Char)) (Choices.body (Choices.write ms)) ([']'] ++ rest)
      (Choices.body (Choices.write ms)) :=
    reads_takeWhile (fun x hx => by simpa using (hbody x hx).1) (by simp)
  have hpiece : ∀ p ∈ pieces '|' (Choices.body (Choices.write ms)), p ≠ [] := by
    rw [hpieces]
    intro p hp
    obtain ⟨m, hm, rfl⟩ := List.mem_map.1 hp
    simpa using h.ne_empty m hm
  have hstored : String.ofList ('|' :: Choices.body (Choices.write ms) ++ ['|']) = Choices.write ms := by
    rw [Choices.write, Choices.body_barred]
  refine yields_offset_bind fun start => hopen.bind (htake.bind (yields_hasNext_bind ?_))
  apply (reads_checkMembers (fun x hx => (hbody x hx).2) hpiece).bind_nil
  exact Yields.bind_pure hclose fun _ _ => hstored

def choicesText (a : Argument) : List Char :=
  if a.kind ≠ .choice then [] else if a.named then '$' :: a.choices.toList else '[' :: (Choices.body a.choices ++ [']'])

theorem toList_kindText (a : Argument) : a.kindText.toList = a.kind.keyword.toList ++ choicesText a := by
  unfold Slot.kindText choicesText
  by_cases hk : a.kind = .choice
  · by_cases hn : a.named = true
    · simp [hk, hn, Kind.keyword]
    · simp [hk, hn, Kind.keyword]
  · simp [hk]

theorem reads_readChoices_members {gap : List Char} (hg : IsGap gap) (h : Choices.Written ms) :
    Reads readChoices (gap ++ '[' :: (Choices.body (Choices.write ms) ++ [']'])) rest (Choices.write ms) := by
  apply yields_peek_bind hg (by decide)
  rw [if_pos rfl]
  exact reads_readMembers h

theorem reads_readChoices_reference {gap : List Char} (hg : IsGap gap) (h : Choices.Reference name)
    (hr : WordEnds rest) : Reads readChoices (gap ++ '$' :: name.toList) rest name := by
  have hexpect : Reads (expect "$") ['$'] (name.toList ++ rest) () := reads_expect (by decide)
  have hrun := reads_wordRun (fun c hc => by simpa using h.plain c hc) hr
  have hne : name.toList ≠ [] := by simpa using h.ne_empty
  apply yields_peek_bind hg (by decide)
  rw [if_neg (by decide)]
  refine hexpect.bind (hrun.bind_end ?_)
  rw [if_neg (by simpa using hne), String.ofList_toList]
  exact reads_pure

theorem reads_readChoices (ha : a.WellFormed) (hk : a.kind = .choice) (hr : Delimited rest) :
    Reads readChoices (choicesText a) rest a.choices := by
  rw [choicesText, if_neg (by simp [hk])]
  by_cases hn : a.named = true
  · rw [if_pos hn, ← List.nil_append ('$' :: a.choices.toList)]
    exact reads_readChoices_reference isGap_nil (ha.reference hk hn) (wordEnds_of_delimited hr)
  · obtain ⟨ms, hms, hchoices, _⟩ := ha.inline hk (by simpa using hn)
    rw [if_neg hn, hchoices, ← List.nil_append ('[' :: _)]
    exact reads_readChoices_members isGap_nil hms

end Choices

section Modifiers

/-- What follows an argument: a quoted name, a brace, or the end. -/
def Closed (rest : List Char) : Prop := ∀ c ∈ rest.head?, isQuote c = true ∨ c = '\x7b' ∨ c = '\x7d'

theorem closed_facts {c : Char} (h : isQuote c = true ∨ c = '\x7b' ∨ c = '\x7d') :
    isBlank c = false ∧ c ≠ '=' ∧ c ≠ '~' ∧ isNamePart c = false ∧ c ≠ ':' := by
  have hcase : c = '"' ∨ c = '\'' ∨ c = '\x7b' ∨ c = '\x7d' := by simpa [isQuote, or_assoc] using h
  have hsign : c ∈ signs := by rcases hcase with rfl | rfl | rfl | rfl <;> decide
  have hplain : isBlank c = false ∧ c ≠ '=' ∧ c ≠ '~' := by rcases hcase with rfl | rfl | rfl | rfl <;> decide
  obtain ⟨hpart, _, hcolon⟩ := sign_facts hsign
  exact ⟨hplain.1, hplain.2.1, hplain.2.2, hpart, hcolon⟩

theorem Closed.delimited (h : Closed rest) : Delimited rest := fun c hc => (closed_facts (h c hc)).2.2.2

def Modifiers.values (m : Modifiers) : Option Value × Option Value :=
  (m.initial.map (·.1.toValue), m.origin.map (·.1.toValue))

def update (s : Option Value × Option Value) : Modifier → Option Value × Option Value
  | .initial _ v => (some v, s.2)
  | .origin _ v => (s.1, some v)

def constant : Modifier → Value
  | .initial _ v => v
  | .origin _ v => v

variable {m : Modifiers} {x : Modifier} {xs : List Modifier}

theorem yields_constant {sign : Char} {l : Modifier.Layout} {v : Value} {g : Nat → Literal → Option Modifiers}
    {Q : Option Modifiers → Prop} (hv : v.Plain) (hr : Delimited rest)
    (hg : ∀ start lit, lit.toValue = v → Q (g start lit)) :
    Yields (skip 1 >>= fun _ => offset >>= fun start => readLiteral >>= fun lit => pure (g start lit))
      (sign :: (l.behind.text ++ v.constantText l.quote)) rest Q := by
  have hsign : Reads (skip 1 : Reader Unit) [sign] (l.behind.text ++ v.constantText l.quote ++ rest) () :=
    reads_skip rfl
  refine hsign.bind (yields_offset_bind fun start => ?_)
  exact Yields.bind_pure (hv.yields_readLiteral l.behind hr) (hg start)

theorem yields_readModifier (hx : (constant x).Plain) (hr : Delimited rest) :
    Yields (readModifier m) x.text rest fun n? => ∃ n, n? = some n ∧ n.values = update m.values x := by
  cases x with
  | initial l v | origin l v =>
      refine (reads_skipBlanks l.before.blank (by simp; decide)).bind (yields_ahead_bind ?_)
      refine yields_constant hx hr fun start lit hlit => ⟨_, rfl, ?_⟩
      simp only [Modifiers.values, update, Option.map_some, hlit]

theorem reads_readModifier_end (g : Gap) (hr : Closed rest) : Reads (readModifier m) g.text rest none := by
  have hblank : ∀ c ∈ rest.head?, isBlank c = false := fun c hc => (closed_facts (hr c hc)).1
  refine (reads_skipBlanks g.blank hblank).bind_end (yields_ahead_bind ?_)
  rw [List.nil_append]
  split
  · exact absurd rfl (closed_facts (hr _ rfl)).2.1
  · exact absurd rfl (closed_facts (hr _ rfl)).2.2.1
  · exact reads_pure

theorem delimited_modifiers (h : Delimited rest) : Delimited (xs.flatMap Modifier.text ++ rest) := by
  cases xs with
  | nil => exact h
  | cons x xs =>
      cases x with
      | initial l v | origin l v =>
          simp only [List.flatMap_cons, Modifier.text, List.append_assoc]
          exact delimited_gap l.before (delimited_sign (by decide))

theorem yields_readModifiers (hx : ∀ x ∈ xs, (constant x).Plain) (g : Gap) (hr : Closed rest) :
    Yields (iterate readModifier progresses_readModifier m) (xs.flatMap Modifier.text ++ g.text) rest
      fun n => n.values = xs.foldl update m.values := by
  induction xs generalizing m with
  | nil => exact yields_iterate_end (reads_readModifier_end g hr) rfl
  | cons x xs ih =>
      obtain ⟨hfirst, hx⟩ := List.forall_mem_cons.1 hx
      have hdelimited : Delimited (xs.flatMap Modifier.text ++ g.text ++ rest) := by
        rw [List.append_assoc]
        exact delimited_modifiers (delimited_gap g hr.delimited)
      rw [List.flatMap_cons, List.append_assoc]
      apply yields_iterate_step (yields_readModifier hfirst hdelimited)
      intro n hn
      rw [List.foldl_cons, ← hn]
      exact ih hx

theorem foldl_modifiers (l : Slot.Layout) (a : Argument) :
    (l.modifiers a).foldl update (none, none) =
      (if a.optional then some a.initial else none, a.origin.map Origin.toValue) := by
  unfold Slot.Layout.modifiers
  cases ho : a.optional <;> cases hg : a.origin <;> cases hf : l.originFirst <;> rfl

theorem mem_modifiers {l : Slot.Layout} (h : x ∈ l.modifiers a) :
    (a.optional = true ∧ x = .initial l.initial a.initial) ∨
      ∃ o, a.origin = some o ∧ x = .origin l.origin o.toValue := by
  unfold Slot.Layout.modifiers at h
  cases ho : a.optional <;> cases hg : a.origin <;> cases hf : l.originFirst <;> simp_all [or_comm]

theorem plain_of_mem_modifiers (ha : a.Plain) {l : Slot.Layout} : ∀ x ∈ l.modifiers a, (constant x).Plain := by
  intro x hx
  rcases mem_modifiers hx with ⟨_, rfl⟩ | ⟨o, ho, rfl⟩
  · exact ha.initial
  · exact ha.origin o ho

end Modifiers

section Arguments

variable {taken : List String} {l : Slot.Layout} {m : Modifiers}

theorem default_of_plain (ha : a.Plain) : a.default = a.initial := by
  have h := ha.initial
  unfold Slot.default
  generalize a.initial = v at h
  cases h <;> rfl

theorem initial_of_not_optional (hw : a.WellFormed) (hp : a.Plain) (ho : a.optional = false) : a.initial = .none := by
  by_contra hne
  rw [← default_of_plain hp] at hne
  have hopt := (hw.default hne).1
  rw [ho] at hopt
  cases hopt

theorem fits_of_takes {choices : String} {lit : Literal} (hk : kind ≠ .choice) (h : kind.takes lit.toValue = true) :
    fits kind choices lit = true := by
  cases lit <;> cases kind <;>
    simp_all [fits, Kind.takes, Literal.toValue, Value.isNumeric, Value.isInteger, Value.isString]

theorem string_of_takes {lit : Literal} (h : Kind.choice.takes lit.toValue = true) : ∃ s, lit = .string s := by
  cases lit <;> simp_all [Kind.takes, Literal.toValue, Value.isString]

theorem fits_reference_iff {choices : String} {lit : Literal} (hn : choices.toList.head?.any (· ≠ '|') = true) :
    fits .choice choices lit = true ↔ lit = .none ∨ ∃ s, lit = .string s := by
  have hhead : choices.toList.head? ≠ some '|' := by
    intro h
    simp [h] at hn
  cases lit <;> simp [fits, hhead]

theorem fits_write_iff {lit : Literal} (h : Choices.Written ms) :
    fits .choice (Choices.write ms) lit = true ↔ lit = .none ∨ ∃ m ∈ ms, lit = .string m := by
  cases lit <;> simp [fits, Choices.head_write, Choices.holds_write_iff h.ne_nil h.no_bar]

theorem fits_of_wellFormed (hw : a.WellFormed) (hp : a.Plain) {lit : Literal} (hl : lit.toValue = a.initial) :
    fits a.kind a.choices lit = true := by
  have hdefault : a.default = lit.toValue := by rw [default_of_plain hp, hl]
  by_cases hnone : lit.toValue = .none
  · obtain rfl : lit = .none := Literal.toValue_injective hnone
    unfold fits
    cases a.kind <;> rfl
  · have htakes := (hw.default (by rwa [hdefault])).2
    rw [hdefault] at htakes
    by_cases hk : a.kind = .choice
    · rw [hk] at htakes ⊢
      obtain ⟨s, rfl⟩ := string_of_takes htakes
      by_cases hn : a.named = true
      · -- The members of a named set are not known to the scheme.
        exact (fits_reference_iff hn).2 (.inr ⟨s, rfl⟩)
      · obtain ⟨ms, hms, hchoices, hmember⟩ := hw.inline hk (by simpa using hn)
        obtain ⟨m, hm, he⟩ := hmember (by rwa [hdefault])
        rw [hchoices]
        exact (fits_write_iff hms).2 (.inr ⟨m, hm, Literal.toValue_injective (hdefault.symm.trans he)⟩)
    · exact fits_of_takes hk htakes

theorem reads_checkModifiers (hw : a.WellFormed) (hp : a.Plain)
    (hm : m.values = (if a.optional then some a.initial else none, a.origin.map Origin.toValue)) :
    Reads (checkModifiers a.name a.kind a.choices m) [] rest () := by
  obtain ⟨hinitial, horigin⟩ := Prod.mk.inj hm
  refine fun offset mark => ⟨(), offset, checkModifiers_eq_ok.2 ⟨fun o ho => ?_, fun i hi => ?_, rfl⟩, rfl⟩
  · rw [Option.mem_def.1 ho, Option.map_some, eq_comm, Option.map_eq_some_iff] at horigin
    obtain ⟨o', ho', hvalue⟩ := horigin
    refine ⟨by simpa [Kind.numeric] using (hw.origin o' ho').1, fun b hb => ?_⟩
    rw [hb] at hvalue
    cases o' <;> cases hvalue
  · rw [Option.mem_def.1 hi, Option.map_some] at hinitial
    split at hinitial
    · exact fits_of_wellFormed hw hp (Option.some.inj hinitial)
    · cases hinitial

def drafted (a : Argument) : Slot.Draft where
  name := .string a.name
  kind := .kind a.kind
  optional := .boolean a.optional
  initial := a.initial
  origin := Origin.asValue a.origin
  choices := .string a.choices

theorem draft_of_values (hw : a.WellFormed) (hp : a.Plain)
    (hm : m.values = (if a.optional then some a.initial else none, a.origin.map Origin.toValue)) :
    draft a.name a.kind a.choices m = drafted a := by
  obtain ⟨hinitial, horigin⟩ := Prod.mk.inj hm
  have hsome : m.initial.isSome = a.optional := by
    rw [← Option.isSome_map (f := fun i => i.1.toValue), hinitial]
    cases a.optional <;> rfl
  have hvalue : (m.initial.map (·.1.toValue)).getD .none = a.initial := by
    rw [hinitial]
    cases ho : a.optional with
    | true => rfl
    | false => exact (initial_of_not_optional hw hp ho).symm
  have hbase : (m.origin.map (·.1.toValue)).getD .none = Origin.asValue a.origin := by
    rw [horigin]
    cases a.origin <;> rfl
  rw [draft, hsome, hvalue, hbase, drafted]

theorem make_of_wellFormed (hw : a.WellFormed) (hp : a.Plain) : Slot.make (drafted a) = .ok a := by
  have hkind : a.initial.kindName?.isSome := by
    have h := hp.initial
    generalize a.initial = v at h
    cases h <;> rfl
  have horigin : Slot.originFor a.name a.kind (Origin.asValue a.origin) = .ok a.origin := by
    refine Slot.originFor_eq_ok.2 ⟨rfl, fun h => ?_⟩
    obtain ⟨o, ho⟩ := Option.isSome_iff_exists.1 h
    simpa [Kind.numeric] using (hw.origin o ho).1
  have hinitial := initial_of_not_optional hw hp
  exact Slot.make_eq_ok.2 ⟨hw.name_ne_empty, hinitial, hkind, hw.choices_iff, a.origin, horigin, rfl⟩

theorem reads_readFreshName {q : Quote} (h : name ∉ taken) : Reads (readFreshName taken) (q.quoted name) rest name := by
  have hblank : ∀ c ∈ (q.quoted name ++ rest).head?, isBlank c = false := by
    simp [Quote.quoted, Quote.isBlank_char]
  have hname : Reads (readName false) ([] ++ q.quoted name) rest name := Quote.reads_readName ⟨[], isGap_nil⟩
  refine (reads_skipBlanks isGap_nil hblank).bind_nil (yields_offset_bind fun start => hname.bind_end ?_)
  rw [if_neg (by simpa using h)]
  exact reads_pure

theorem write_eq (l : Slot.Layout) (a : Argument) :
    l.write a = l.name.quoted a.name ++ ([':'] ++ ((l.colon.text ++ a.kind.keyword.toList) ++
      (choicesText a ++ ((l.modifiers a).flatMap Modifier.text ++ l.behind.text)))) := by
  simp [Slot.Layout.write, toList_kindText]

theorem wordEnds_choicesText (hr : Delimited rest) : WordEnds (choicesText a ++ rest) := by
  unfold choicesText
  split
  · exact wordEnds_of_delimited hr
  · split
    · simp [WordEnds]
    · exact wordEnds_of_delimited (delimited_sign (by decide))

theorem reads_readArgument (hw : a.WellFormed) (hp : a.Plain) (ht : a.name ∉ taken) (hr : Closed rest) :
    Reads (readArgument taken) (l.write a) rest a := by
  have hmodifiers : Delimited ((l.modifiers a).flatMap Modifier.text ++ l.behind.text ++ rest) := by
    rw [List.append_assoc]
    exact delimited_modifiers (delimited_gap l.behind hr.delimited)
  have hdraft : Reads (readDraft taken) (l.write a) rest (drafted a) := by
    have hcolon : ∀ rest, Reads (expect ":") [':'] rest () := fun rest => reads_expect (by decide)
    have hplain := plain_of_mem_modifiers hp (l := l)
    rw [write_eq]
    refine (reads_readFreshName ht).bind ((hcolon _).bind (Reads.bind (reads_readKind l.colon ?_) ?_))
    · rw [List.append_assoc]
      exact wordEnds_choicesText hmodifiers
    have hrest : Yields (readModifiers >>= fun m => checkModifiers a.name a.kind a.choices m >>= fun _ =>
        pure (draft a.name a.kind a.choices m)) ((l.modifiers a).flatMap Modifier.text ++ l.behind.text) rest
        (· = drafted a) := by
      apply Yields.bind_end (yields_readModifiers hplain l.behind hr)
      intro m hm
      have hvalues := hm.trans (foldl_modifiers l a)
      apply (reads_checkModifiers hw hp hvalues).bind_end
      rw [draft_of_values hw hp hvalues]
      exact reads_pure
    by_cases hk : a.kind = .choice
    · rw [if_pos hk]
      exact (reads_readChoices hw hk hmodifiers).bind hrest
    · have hchoices : a.choices = "" := by
        by_contra hne
        exact hk (hw.choices_iff.1 hne)
      have hnone : ∀ rest, Reads (pure "" : Reader String) [] rest a.choices := by
        rw [hchoices]
        exact fun rest => reads_pure
      rw [if_neg hk, choicesText, if_pos hk]
      exact (hnone _).bind hrest
  exact hdraft.lift.bind_end (reads_build (make_of_wellFormed hw hp))

end Arguments

end Prompter.Scheme
