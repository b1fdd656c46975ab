import Prompter.Proofs.Prompt.Spacing
import Prompter.Proofs.Scheme.Argument
import Prompter.Proofs.Scheme.Bounds

namespace Prompter.Scheme

open Text Reader

inductive Sign where
  | initial
  | origin
deriving DecidableEq

def Sign.char : Sign → Char
  | initial => '='
  | origin => '~'

def Modifiers.literal (m : Modifiers) : Sign → Option Literal
  | .initial => m.initial.map (·.1)
  | .origin => m.origin.map (·.1)

def Modifiers.ofLast (last : Sign → Option Literal) : Modifiers := ⟨(last .initial).map (·, 0), (last .origin).map (·, 0)⟩

def lastOf (sign : Sign) (ms : List (Sign × Literal)) : Option Literal :=
  (ms.filterMap fun m => if m.1 = sign then some m.2 else none).getLast?

/-- Signs with literals in a row, with white space around them. -/
inductive ModifiersWritten : List (Sign × Literal) → List Char → Prop
  | nil : ModifiersWritten [] []
  | cons {sign : Sign} {l : Literal} {ms : List (Sign × Literal)} {text rest : List Char} (before behind : Gap)
      (h : l.Written text) (hrest : ModifiersWritten ms rest) :
      ModifiersWritten ((sign, l) :: ms) (before.text ++ sign.char :: (behind.text ++ (text ++ rest)))

/-- The rest of a scheme goes on with no literal and no modifier. -/
structure EndsModifiers (rest : List Char) : Prop where
  delimited : Delimited rest
  ends : ∀ x ∈ (rest.dropWhile isBlank).head?, ∀ sign : Sign, x ≠ sign.char

def readHead : Reader (String × Kind × String) := do
  skipBlanks
  let name ← readName false
  expect ":"
  let kind ← readKind
  let choices ← if kind = .choice then readChoices else pure ""
  return (name, kind, choices)

def HeadWritten (name : String) (kind : Kind) (choices : String) (text : List Char) : Prop :=
  Reads readHead text [] (name, kind, choices)

/-- A literal behind a tilde that is no origin for the kind. -/
def Unsuitable (kind : Kind) (origin : Literal) : Prop := kind.numeric = false ∨ ∃ b, origin = .boolean b

variable {c d : Cursor} {name choices : String} {kind : Kind} {text rest : List Char} {taken : List String}
  {ms : List (Sign × Literal)} {sign : Sign} {l : Literal} {m : Modifiers}

section Heads

theorem steady_readKind (hr : WordEnds rest) : Steady rest readKind := by
  intro c
  refine (steady_peek c).bind fun x d _ => ?_
  split
  · exact steady_pure d
  · refine (steady_offset d).bind fun start e _ => (steady_takeWhile hr e).bind fun word e' _ => ?_
    split
    · exact steady_fail e'
    · split
      · exact steady_pure e'
      · exact steady_failAt e'

theorem steady_checkMembers {start : Nat} {body : List Char} : Steady rest (checkMembers start body) := by
  intro c u d h
  obtain ⟨hblank, hpieces, rfl⟩ := checkMembers_eq_ok.1 h
  exact checkMembers_eq_ok.2 ⟨hblank, hpieces, rfl⟩

theorem steadyAt_readMembers (hc : c.ahead ≠ []) : SteadyAt rest readMembers c := by
  refine (steady_offset c).bind fun start c₀ h₀ => ?_
  cases h₀
  refine (steadyAt_skip (List.length_pos_iff.2 hc)).bind fun _ c₁ _ => ?_
  by_cases hclosed : (c₁.ahead.takeWhile (· ≠ ']')).length < c₁.ahead.length
  · refine (steadyAt_run (takeWhile_before_of_lt hclosed) (Nat.le_of_lt hclosed)).bind fun body c₂ h₂ => ?_
    have hne : c₂.ahead ≠ [] := by
      obtain ⟨rfl, rfl⟩ := run_eq_ok.1 h₂
      rw [← List.length_pos_iff, Cursor.skip, List.length_drop]
      omega
    refine steadyAt_hasNext_bind hne ((steady_checkMembers c₂).bind fun _ c₃ h₃ => ?_)
    obtain ⟨_, _, rfl⟩ := checkMembers_eq_ok.1 h₃
    exact (steadyAt_skip (List.length_pos_iff.2 hne)).bind_pure
  · refine steadyAt_of_ne_ok fun s d h => ?_
    obtain ⟨body, c₂, h₂, h⟩ := bind_eq_ok.1 h
    obtain ⟨rfl, rfl⟩ := run_eq_ok.1 h₂
    rw [hasNext_bind] at h
    have hend : (c₁.skip (c₁.ahead.takeWhile (· ≠ ']')).length).ahead = [] :=
      List.drop_eq_nil_of_le (Nat.le_of_not_lt hclosed)
    rw [hend] at h
    obtain ⟨_, _, hfail, _⟩ := bind_eq_ok.1 h
    exact fail_ne_ok hfail

theorem steady_readChoices (hr : WordEnds rest) : Steady rest readChoices := by
  intro c
  refine (steady_peek c).bind fun x d hx => ?_
  obtain ⟨_, _, _, _, hd⟩ := ahead_of_peek hx
  split
  · exact steadyAt_readMembers (by simp [hd])
  · refine (steady_expect d).bind fun _ e _ => (steady_takeWhile hr e).bind fun word e' _ => ?_
    split
    · exact steady_fail e'
    · exact steady_pure e'

theorem steady_readHead (hr : Delimited rest) : Steady rest readHead := by
  have hword := wordEnds_of_delimited hr
  refine steady_skipBlanks_bind ?_ ?_
  · refine (steady_readName hr).bind fun name => steady_expect.bind fun _ => (steady_readKind hword).bind fun kind => ?_
    dsimp only
    split
    · exact (steady_readChoices hword).bind fun _ => steady_pure
    · exact steady_pure.bind fun _ => steady_pure
  · refine (advances_readName false).bind fun name => (forward_expect ":").bind fun _ => forward_readKind.bind fun kind => ?_
    dsimp only
    split
    · exact forward_readChoices.bind fun _ => forward_pure _
    · exact (forward_pure "").bind fun _ => forward_pure _

theorem parts_of_readHead (h : readHead c = .ok (name, kind, choices) d) :
    ∃ c₁ c₂ c₃, readName false (c.skip (c.ahead.takeWhile isBlank).length) = .ok name c₁ ∧ expect ":" c₁ = .ok () c₂ ∧
      readKind c₂ = .ok kind c₃ ∧ (kind = .choice → readChoices c₃ = .ok choices d) ∧
      (kind ≠ .choice → choices = "" ∧ c₃ = d) := by
  rw [readHead, skipBlanks_bind] at h
  obtain ⟨name', c₁, hname, h⟩ := bind_eq_ok.1 h
  obtain ⟨_, c₂, hcolon, h⟩ := bind_eq_ok.1 h
  obtain ⟨kind', c₃, hkind, h⟩ := bind_eq_ok.1 h
  dsimp only at h
  split at h
  · next hk =>
      obtain ⟨choices', c₄, hchoices, h⟩ := bind_eq_ok.1 h
      obtain ⟨hparts, rfl⟩ := pure_eq_ok.1 h
      cases hparts
      exact ⟨c₁, c₂, c₃, hname, hcolon, hkind, fun _ => hchoices, fun hn => absurd hk hn⟩
  · next hk =>
      obtain ⟨choices', c₄, hchoices, h⟩ := bind_eq_ok.1 h
      obtain ⟨hparts, rfl⟩ := pure_eq_ok.1 h
      cases hparts
      obtain ⟨rfl, rfl⟩ := pure_eq_ok.1 hchoices
      exact ⟨c₁, c₂, c₃, hname, hcolon, hkind, fun hn => absurd hn hk, fun _ => ⟨rfl, rfl⟩⟩

theorem choices_of_readHead (h : readHead c = .ok (name, kind, choices) d) : choices ≠ "" ↔ kind = .choice := by
  obtain ⟨_, _, c₃, _, _, _, hchoice, hnone⟩ := parts_of_readHead h
  constructor
  · intro hne
    by_contra hk
    exact hne (hnone hk).1
  · exact fun hk => choices_ne_empty_of_readChoices (hchoice hk)

theorem readFreshName_of_readName (taken : List String)
    (h : readName false (c.skip (c.ahead.takeWhile isBlank).length) = .ok name d) :
    readFreshName taken c = (if taken.contains name then
      failAt (c.skip (c.ahead.takeWhile isBlank).length).offset (.repeatedName name) else pure name : Reader String) d := by
  rw [readFreshName, skipBlanks_bind, offset_bind, bind_of_ok h]

/-- Behind a head whose name is taken, nothing is read; behind any other, the modifiers are. -/
theorem readDraft_of_readHead (h : readHead c = .ok (name, kind, choices) d) :
    (name ∈ taken → ∃ offset d', readDraft taken c = .error ⟨.repeatedName name, offset⟩ d') ∧
    (name ∉ taken → readDraft taken c = (readModifiers >>= fun m => checkModifiers name kind choices m >>= fun _ =>
      pure (draft name kind choices m)) d) := by
  obtain ⟨c₁, c₂, c₃, hname, hcolon, hkind, hchoice, hnone⟩ := parts_of_readHead h
  have hfresh := readFreshName_of_readName taken hname
  constructor
  · intro htaken
    rw [if_pos (by simpa using htaken)] at hfresh
    exact ⟨_, c₁, bind_eq_error.2 (.inl hfresh)⟩
  · intro htaken
    rw [if_neg (by simpa using htaken)] at hfresh
    rw [readDraft, bind_of_ok hfresh, bind_of_ok hcolon, bind_of_ok hkind]
    by_cases hk : kind = .choice
    · rw [if_pos hk, bind_of_ok (hchoice hk)]
    · obtain ⟨rfl, rfl⟩ := hnone hk
      rw [if_neg hk]
      rfl

theorem headWritten_keyword (q : Quote) (name : String) (g : Gap) (hk : kind ≠ .choice) :
    HeadWritten name kind "" (q.quoted name ++ ([':'] ++ (g.text ++ kind.keyword.toList))) := by
  have hname : ∀ rest, Reads (readName false) (q.quoted name) rest name := fun rest => Quote.reads_readName ⟨[], isGap_nil⟩
  have hcolon : ∀ rest, Reads (expect ":") [':'] rest () := fun rest => reads_expect (by decide)
  refine (reads_skipBlanks isGap_nil (by simp [Quote.quoted, Quote.isBlank_char])).bind_nil ((hname _).bind ((hcolon _).bind ?_))
  refine (reads_readKind g (by simp [WordEnds])).bind_end ?_
  dsimp only
  rw [if_neg hk]
  exact reads_pure.bind_end reads_pure

theorem HeadWritten.choices_iff (h : HeadWritten name kind choices text) : choices ≠ "" ↔ kind = .choice := by
  obtain ⟨_, _, hread, rfl⟩ := h 0 none
  exact choices_of_readHead hread

theorem HeadWritten.takes (h : HeadWritten name kind choices text) (hr : Delimited rest) :
    Takes readHead text rest (name, kind, choices) := (Reads.before h fun c _ => steady_readHead hr c).takes

end Heads

section Rows

theorem Sign.delimited (sign : Sign) : Delimited (sign.char :: rest) := by
  cases sign <;> exact delimited_sign (by decide)

theorem endsModifiers_nil : EndsModifiers [] := ⟨by simp [Delimited], by simp⟩

theorem EndsModifiers.delimited_written (hr : EndsModifiers rest) (h : ModifiersWritten ms text) :
    Delimited (text ++ rest) := by
  cases h with
  | nil => exact hr.delimited
  | @cons sign _ _ _ _ before =>
      rw [List.append_assoc]
      exact delimited_gap before sign.delimited

theorem takes_behind (gap : Gap) (h : l.Written text) (hr : Delimited rest) :
    Takes readLiteral (gap.text ++ text) rest l := by
  rintro ⟨offset, ahead, mark⟩ rfl
  have hpeek : peek ⟨offset, gap.text ++ text ++ rest, mark⟩ = peek ⟨offset + gap.text.length, text ++ rest, mark⟩ := by
    rw [List.append_assoc]
    exact skipBlanks_bind_gap gap.blank offset mark
  obtain ⟨d, hd, hrest⟩ := h.takes hr ⟨offset + gap.text.length, text ++ rest, mark⟩ rfl
  have hread : readLiteral ⟨offset, gap.text ++ text ++ rest, mark⟩ = _ := bind_congr hpeek fun _ _ _ => rfl
  exact ⟨d, hread.trans hd, hrest⟩

theorem Sign.isBlank_char : isBlank sign.char = false := by cases sign <;> decide

theorem readModifier_of_written (before behind : Gap) (h : l.Written text) (hr : Delimited rest)
    (hc : c.ahead = before.text ++ sign.char :: (behind.text ++ (text ++ rest))) :
    ∃ n d, readModifier m c = .ok (some n) d ∧
      (∀ s, n.literal s = if s = sign then some l else m.literal s) ∧ d.ahead = rest := by
  have hahead : (c.skip (c.ahead.takeWhile isBlank).length).ahead = sign.char :: (behind.text ++ (text ++ rest)) :=
    Cursor.Behind.skip ⟨before, hc⟩ (by simpa using sign.isBlank_char)
  obtain ⟨d, hd, hrest⟩ := takes_behind behind h hr ((c.skip (c.ahead.takeWhile isBlank).length).skip 1)
    (by rw [Cursor.skip, hahead, List.append_assoc]; rfl)
  rw [readModifier, skipBlanks_bind, ahead_bind, hahead]
  cases sign with
  | initial =>
      refine ⟨_, d, bind_eq_ok.2 ⟨(), _, rfl, bind_of_ok hd⟩, fun s => ?_, hrest⟩
      cases s <;> rfl
  | origin =>
      refine ⟨_, d, bind_eq_ok.2 ⟨(), _, rfl, bind_of_ok hd⟩, fun s => ?_, hrest⟩
      cases s <;> rfl

theorem readModifier_of_end (hr : EndsModifiers rest) (hc : c.ahead = rest) :
    ∃ d, readModifier m c = .ok none d := by
  have hahead : (c.skip (c.ahead.takeWhile isBlank).length).ahead = rest.dropWhile isBlank := by
    rw [Cursor.skip, hc]
    exact List.append_cancel_left (takeWhile_append_drop.trans List.takeWhile_append_dropWhile.symm)
  rw [readModifier, skipBlanks_bind, ahead_bind, hahead]
  have hends := hr.ends
  generalize rest.dropWhile isBlank = tail at hends
  split
  · exact absurd rfl (hends '=' rfl .initial)
  · exact absurd rfl (hends '~' rfl .origin)
  · exact ⟨_, rfl⟩

theorem lastOf_cons (s : Sign) : lastOf s ((sign, l) :: ms) = (lastOf s ms).or (if s = sign then some l else none) := by
  by_cases hs : s = sign
  · subst hs
    simp only [lastOf, List.filterMap_cons, if_true]
    cases h : (ms.filterMap fun m => if m.1 = s then some m.2 else none).getLast? <;> simp [List.getLast?_cons, h]
  · simp [lastOf, Ne.symm hs, hs]

/-- A row is read whole, and the last literal of either sign is kept. -/
theorem iterate_of_written (h : ModifiersWritten ms text) (hr : EndsModifiers rest) (hc : c.ahead = text ++ rest) :
    ∃ n d, iterate readModifier progresses_readModifier m c = .ok n d ∧
      ∀ s, n.literal s = (lastOf s ms).or (m.literal s) := by
  induction h generalizing m c with
  | nil =>
      obtain ⟨d, hend⟩ := readModifier_of_end hr hc (m := m)
      exact ⟨m, d, by rw [iterate_eq, hend], fun s => rfl⟩
  | @cons sign l ms text tail before behind hl hrest ih =>
      have hahead : c.ahead = before.text ++ sign.char :: (behind.text ++ (text ++ (tail ++ rest))) := by simp [hc]
      obtain ⟨n, d, hstep, hn, hd⟩ := readModifier_of_written before behind hl (hr.delimited_written hrest) hahead (m := m)
      obtain ⟨n', d', hrun, hn'⟩ := ih hd
      refine ⟨n', d', by rw [iterate_eq, hstep]; exact hrun, fun s => ?_⟩
      rw [hn', hn, lastOf_cons, Option.or_assoc]
      split <;> simp

theorem lastOf_isSome {s : Sign} : (lastOf s ms).isSome = true ↔ ∃ l, (s, l) ∈ ms := by
  induction ms with
  | nil => simp [lastOf]
  | cons e ms ih =>
      obtain ⟨sign, l⟩ := e
      rw [lastOf_cons, Option.isSome_or, Bool.or_eq_true, ih]
      by_cases hs : s = sign
      · subst hs
        simp
      · simp [hs]

end Rows

section Checks

variable {n : Modifiers} {o : Literal} {start : Nat}

theorem checkOrigin_of_unsuitable (name : String) (h : Unsuitable kind o) : ∃ cause,
    cause.report.kind = .relativeOperator ∧ ∀ start c, ∃ offset, checkOrigin name kind o start c = .error ⟨cause, offset⟩ c := by
  by_cases hk : kind.numeric = true
  · obtain ⟨b, rfl⟩ := h.resolve_left (by simp [hk])
    refine ⟨.originKind name (.boolean b), rfl, fun start c => ⟨start, ?_⟩⟩
    unfold checkOrigin
    rw [if_neg (by simp [hk])]
    rfl
  · refine ⟨.relativeKind name, rfl, fun start c => ⟨(start : Int) - 1, ?_⟩⟩
    unfold checkOrigin
    rw [if_pos (by simpa using hk)]
    rfl

theorem checkOrigin_of_suitable (h : ¬Unsuitable kind o) : checkOrigin name kind o start c = .ok () c := by
  obtain ⟨hk, hb⟩ := not_or.1 h
  exact checkOrigin_eq_ok.2 ⟨⟨by simpa using hk, fun b hb' => hb ⟨b, hb'⟩⟩, rfl⟩

theorem checkDefault_of_misfit (name : String) (start : Nat) (c : Cursor) (h : fits kind choices l = false) :
    checkDefault name kind choices l start c = .error ⟨.defaultKind name l kind, start⟩ c := by
  rw [checkDefault, if_neg (by simp [h])]
  rfl

theorem checkModifiers_of_unsuitable (name choices : String) (h : Unsuitable kind o) : ∃ cause,
    cause.report.kind = .relativeOperator ∧ ∀ m c, m.literal .origin = some o →
      ∃ offset, checkModifiers name kind choices m c = .error ⟨cause, offset⟩ c := by
  obtain ⟨cause, hkind, hcheck⟩ := checkOrigin_of_unsuitable name h
  refine ⟨cause, hkind, ?_⟩
  rintro ⟨initial, origin⟩ c ho
  obtain ⟨⟨_, start⟩, rfl, rfl⟩ := Option.map_eq_some_iff.1 ho
  obtain ⟨offset, herror⟩ := hcheck start c
  exact ⟨offset, bind_eq_error.2 (.inl herror)⟩

/-- Whether the modifiers pass, and what they fail for, depends on the literals alone. -/
theorem checkModifiers_cases (name : String) (kind : Kind) (choices : String) (last : Sign → Option Literal) :
    (∀ m c, m.literal = last → checkModifiers name kind choices m c = .ok () c) ∨
      ∃ cause, ∀ m c, m.literal = last → ∃ offset, checkModifiers name kind choices m c = .error ⟨cause, offset⟩ c := by
  by_cases horigin : ∃ o, last .origin = some o ∧ Unsuitable kind o
  · obtain ⟨o, ho, hu⟩ := horigin
    obtain ⟨cause, _, hcheck⟩ := checkModifiers_of_unsuitable name choices hu
    exact .inr ⟨cause, fun m c hm => hcheck m c (hm ▸ ho)⟩
  · have hsuits : ∀ o, last .origin = some o → ¬Unsuitable kind o := fun o ho hu => horigin ⟨o, ho, hu⟩
    by_cases hinitial : ∃ l, last .initial = some l ∧ fits kind choices l = false
    · obtain ⟨l, hl, hfits⟩ := hinitial
      refine .inr ⟨.defaultKind name l kind, ?_⟩
      rintro ⟨initial, origin⟩ c rfl
      obtain ⟨⟨_, start⟩, rfl, rfl⟩ := Option.map_eq_some_iff.1 hl
      have hdefault := fun start c => checkDefault_of_misfit name start c hfits
      refine ⟨start, ?_⟩
      cases origin with
      | none => exact hdefault start c
      | some o => exact bind_eq_error.2 (.inr ⟨(), c, checkOrigin_of_suitable (hsuits _ rfl), hdefault start c⟩)
    · refine .inl ?_
      rintro m c rfl
      refine checkModifiers_eq_ok.2 ⟨fun o ho => ?_, fun i hi => ?_, rfl⟩
      · have hsuitable := hsuits o.1 (by simp [Modifiers.literal, Option.mem_def.1 ho])
        simpa [Unsuitable] using hsuitable
      · by_contra hfits
        exact hinitial ⟨i.1, by simp [Modifiers.literal, Option.mem_def.1 hi], by simpa using hfits⟩

theorem literal_ofLast {last : Sign → Option Literal} : (Modifiers.ofLast last).literal = last := by
  funext s
  cases s <;> simp [Modifiers.ofLast, Modifiers.literal, Function.comp_def]

theorem draft_congr (h : m.literal = n.literal) : draft name kind choices m = draft name kind choices n := by
  have hinitial : m.initial.map (·.1) = n.initial.map (·.1) := congrFun h .initial
  have horigin : m.origin.map (·.1) = n.origin.map (·.1) := congrFun h .origin
  have hsome := congrArg Option.isSome hinitial
  have hvalue := congrArg (Option.map Literal.toValue) hinitial
  have hbase := congrArg (Option.map Literal.toValue) horigin
  simp only [Option.isSome_map, Option.map_map, Function.comp_def] at hsome hvalue hbase
  rw [draft, draft, hsome, hvalue, hbase]

end Checks

section Arguments

variable {head text₁ text₂ rest₁ rest₂ : List Char} {ms₁ ms₂ : List (Sign × Literal)} {c₁ c₂ : Cursor}
  {last : Sign → Option Literal} {o : Literal}

/-- Ahead are the head of an argument and modifiers of which these are the last. -/
def Stands (head : List Char) (last : Sign → Option Literal) (c : Cursor) : Prop :=
  ∃ ms text rest, ModifiersWritten ms text ∧ EndsModifiers rest ∧ (∀ sign, lastOf sign ms = last sign) ∧
    c.ahead = head ++ (text ++ rest)

/-- What the checks and the construction of the argument are given is the last of the modifiers. -/
theorem readArgument_of_stands (hhead : HeadWritten name kind choices head) (hc : Stands head last c) :
    (name ∈ taken → ∃ offset d, readArgument taken c = .error (.fault ⟨.repeatedName name, offset⟩) d) ∧
    (name ∉ taken → ∃ m d, m.literal = last ∧ readArgument taken c =
      (liftM (checkModifiers name kind choices m >>= fun _ => pure (draft name kind choices m)) >>= fun draft =>
        liftM (Slot.make draft) : BuildReader Argument) d) := by
  obtain ⟨ms, text, rest, h, hr, hlast, hc⟩ := hc
  obtain ⟨d, hd, hrest⟩ := hhead.takes (hr.delimited_written h) c hc
  refine ⟨fun ht => ?_, fun ht => ?_⟩
  · obtain ⟨offset, d', herror⟩ := (readDraft_of_readHead hd).1 ht
    exact ⟨offset, d', bind_eq_error.2 (.inl (lift_of_error herror))⟩
  · obtain ⟨m, d', hread, hm⟩ := iterate_of_written h hr hrest (m := {})
    have hdraft := ((readDraft_of_readHead hd).2 ht).trans (bind_of_ok hread)
    refine ⟨m, d', funext fun s => ?_, bind_congr (lift_congr hdraft) fun _ _ _ => rfl⟩
    rw [hm, hlast]
    cases s <;> exact Option.or_none

theorem readArgument_of_unsuitable (hhead : HeadWritten name kind choices head) (hc : Stands head last c)
    (ht : name ∉ taken) (ho : last .origin = some o) (hu : Unsuitable kind o) :
    ∃ e d, readArgument taken c = .error (.fault e) d ∧ e.cause.report.kind = .relativeOperator := by
  obtain ⟨m, d, rfl, hread⟩ := (readArgument_of_stands hhead hc).2 ht
  obtain ⟨cause, hkind, hcheck⟩ := checkModifiers_of_unsuitable name choices hu
  obtain ⟨offset, herror⟩ := hcheck m d ho
  refine ⟨⟨cause, offset⟩, d, hread.trans ?_, hkind⟩
  exact bind_eq_error.2 (.inl (lift_of_error (bind_eq_error.2 (.inl herror))))

/-- The last modifiers settle what is read of an argument: an argument, a fault, or a misuse where it has no name. -/
theorem readArgument_cases (hhead : HeadWritten name kind choices head) (taken : List String)
    (last : Sign → Option Literal) :
    (∃ a, a.optional = (last .initial).isSome ∧ ∀ c, Stands head last c → ∃ d, readArgument taken c = .ok a d) ∨
    (∃ cause, ∀ c, Stands head last c → ∃ offset d, readArgument taken c = .error (.fault ⟨cause, offset⟩) d) ∨
    (name = "" ∧ ∀ c, Stands head last c → ∃ d, readArgument taken c = .error (.misuse (.nameEmpty "argument")) d) := by
  by_cases ht : name ∈ taken
  · exact .inr (.inl ⟨.repeatedName name, fun c hc => (readArgument_of_stands hhead hc).1 ht⟩)
  · rcases checkModifiers_cases name kind choices last with hpass | ⟨cause, hfail⟩
    · -- All that goes into the argument is told by its head and the last modifiers.
      have hread : ∀ c, Stands head last c →
          ∃ d, readArgument taken c =
            (liftM (Slot.make (draft name kind choices (.ofLast last))) : BuildReader Argument) d := by
        intro c hc
        obtain ⟨n, d, hn, hread⟩ := (readArgument_of_stands hhead hc).2 ht
        have hchecked : (checkModifiers name kind choices n >>= fun _ => pure (draft name kind choices n) :
            Reader Slot.Draft) d = .ok (draft name kind choices n) d := bind_of_ok (hpass n d hn)
        rw [draft_congr (literal_ofLast.trans hn.symm)]
        exact ⟨d, hread.trans (bind_of_ok (lift_eq_ok.2 hchecked))⟩
      by_cases hempty : name = ""
      · subst hempty
        refine .inr (.inr ⟨rfl, fun c hc => ?_⟩)
        obtain ⟨d, hd⟩ := hread c hc
        exact ⟨d, hd⟩
      · obtain ⟨a, ha⟩ := make_of_checked hempty hhead.choices_iff (hpass _ (.start "") literal_ofLast)
        refine .inl ⟨a, ?_, fun c hc => ?_⟩
        · obtain ⟨_, _, _, _, o, _, rfl⟩ := Slot.make_eq_ok.1 ha
          exact Option.isSome_map
        · obtain ⟨d, hd⟩ := hread c hc
          exact ⟨d, hd.trans (build_eq_ok.2 ⟨ha, rfl⟩)⟩
    · refine .inr (.inl ⟨cause, fun c hc => ?_⟩)
      obtain ⟨m, d, hm, hread⟩ := (readArgument_of_stands hhead hc).2 ht
      obtain ⟨offset, herror⟩ := hfail m d hm
      exact ⟨offset, d, hread.trans (bind_eq_error.2 (.inl (lift_of_error (bind_eq_error.2 (.inl herror)))))⟩

/-- Of the modifiers behind the same head, only the last of either sign matter: rows that agree on these give the same
argument, or the same fault, at which the origin is looked at first. The host alone is to blame where the name is empty. -/
theorem readArgument_alike (hhead : HeadWritten name kind choices head) (h₁ : ModifiersWritten ms₁ text₁)
    (h₂ : ModifiersWritten ms₂ text₂) (hr₁ : EndsModifiers rest₁) (hr₂ : EndsModifiers rest₂)
    (hlast : ∀ sign, lastOf sign ms₁ = lastOf sign ms₂) (hc₁ : c₁.ahead = head ++ (text₁ ++ rest₁))
    (hc₂ : c₂.ahead = head ++ (text₂ ++ rest₂)) :
    ((∃ a d₁ d₂, readArgument taken c₁ = .ok a d₁ ∧ readArgument taken c₂ = .ok a d₂ ∧
        (a.optional = true ↔ ∃ l, (.initial, l) ∈ ms₁)) ∨
      (∃ e₁ e₂ d₁ d₂, readArgument taken c₁ = .error (.fault e₁) d₁ ∧ readArgument taken c₂ = .error (.fault e₂) d₂ ∧
        e₁.cause = e₂.cause) ∨
      (name = "" ∧ ∃ d₁ d₂, readArgument taken c₁ = .error (.misuse (.nameEmpty "argument")) d₁ ∧
        readArgument taken c₂ = .error (.misuse (.nameEmpty "argument")) d₂)) ∧
    (name ∉ taken → ∀ o, lastOf .origin ms₁ = some o → Unsuitable kind o →
      ∃ e d, readArgument taken c₁ = .error (.fault e) d ∧ e.cause.report.kind = .relativeOperator) := by
  have hs₁ : Stands head (fun sign => lastOf sign ms₁) c₁ := ⟨ms₁, text₁, rest₁, h₁, hr₁, fun _ => rfl, hc₁⟩
  have hs₂ : Stands head (fun sign => lastOf sign ms₁) c₂ := ⟨ms₂, text₂, rest₂, h₂, hr₂, fun s => (hlast s).symm, hc₂⟩
  refine ⟨?_, fun ht o ho hu => readArgument_of_unsuitable hhead hs₁ ht ho hu⟩
  rcases readArgument_cases hhead taken fun sign => lastOf sign ms₁ with ⟨a, ha, hread⟩ | ⟨cause, hread⟩ | ⟨hempty, hread⟩
  · obtain ⟨d₁, hd₁⟩ := hread c₁ hs₁
    obtain ⟨d₂, hd₂⟩ := hread c₂ hs₂
    exact .inl ⟨a, d₁, d₂, hd₁, hd₂, by rw [ha, lastOf_isSome]⟩
  · obtain ⟨offset₁, d₁, hd₁⟩ := hread c₁ hs₁
    obtain ⟨offset₂, d₂, hd₂⟩ := hread c₂ hs₂
    exact .inr (.inl ⟨_, _, d₁, d₂, hd₁, hd₂, rfl⟩)
  · obtain ⟨d₁, hd₁⟩ := hread c₁ hs₁
    obtain ⟨d₂, hd₂⟩ := hread c₂ hs₂
    exact .inr (.inr ⟨hempty, d₁, d₂, hd₁, hd₂⟩)

theorem readArgument_alike_refused :
    ∃ e₁ e₂ d₁ d₂, readArgument [] (.start "'x':str=1~0") = .error (.fault e₁) d₁ ∧
      readArgument [] (.start "'x':str ~0 =none= 1") = .error (.fault e₂) d₂ ∧ e₁.cause = e₂.cause ∧
      e₁.cause.report.kind = .relativeOperator := by
  have hhead : HeadWritten "x" .string "" "'x':str".toList := headWritten_keyword .single "x" .nothing (by decide)
  have hnone : Literal.none.Written "none".toList := Literal.written_constant (l := .none) .none .single
  have hzero : (Literal.integer 0).Written ['0'] := Literal.written_constant (l := .integer 0) (.integer 0 (by decide)) .single
  have hone : (Literal.integer 1).Written ['1'] := Literal.written_constant (l := .integer 1) (.integer 1 (by decide)) .single
  have h₁ : ModifiersWritten [(.initial, .integer 1), (.origin, .integer 0)] "=1~0".toList :=
    .cons .nothing .nothing hone (.cons .nothing .nothing hzero .nil)
  have h₂ : ModifiersWritten [(.origin, .integer 0), (.initial, .none), (.initial, .integer 1)] " ~0 =none= 1".toList :=
    .cons .space .nothing hzero (.cons .space .nothing hnone (.cons .nothing .space hone .nil))
  have hend : EndsModifiers [] := ⟨by simp [Delimited], by simp⟩
  obtain ⟨hsame, horigin⟩ := readArgument_alike hhead h₁ h₂ hend hend (fun s => by cases s <;> rfl)
    (rfl : (Cursor.start "'x':str=1~0").ahead = _) (rfl : (Cursor.start "'x':str ~0 =none= 1").ahead = _)
  obtain ⟨e, d, he, hkind⟩ := horigin List.not_mem_nil (.integer 0) rfl (.inl rfl)
  rcases hsame with ⟨a, d₁, _, ha, _⟩ | ⟨e₁, e₂, d₁, d₂, he₁, he₂, hcause⟩ | ⟨hempty, _⟩
  · cases he.symm.trans ha
  · cases he.symm.trans he₁
    exact ⟨_, e₂, _, d₂, he₁, he₂, hcause, hkind⟩
  · exact absurd hempty (by decide)

/-- An empty name is found out behind all modifiers, and by the construction of the argument alone. -/
theorem readArgument_nameless :
    readArgument [] (.start "\"\":int=1~0") = .error (.misuse (.nameEmpty "argument")) ⟨10, [], some 0⟩ := by
  with_unfolding_all rfl

end Arguments

end Prompter.Scheme
