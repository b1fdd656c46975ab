import Prompter.Interpreter.Basic
import Prompter.Proofs.Prompt.Bounds
import Prompter.Proofs.Prompt.Meaning
import Prompter.Proofs.Shown

namespace Prompter

open Reader

variable {M : Misuse → Prop} {scope : Scope} {a : Argument} {v origin delta : Value} {given : Given} {c d : Cursor}
  {l : Literal} {m : Misuse}

namespace Value

theorem IsDynamic.kindName?_isSome (h : v.IsDynamic) : v.kindName?.isSome := by cases h <;> rfl

/-- An integer that is larger than all floating-point numbers. -/
def IsHuge (v : Value) : Prop := ∃ i, v = .integer i ∧ Decimal.ofInt? i = Option.none

theorem category_of_toInteger (h : v.toInteger = .error m) : m.category = .type := by
  cases v
  case integer i => cases h
  all_goals
    cases h
    rfl

theorem isHuge_of_toNumber (h : v.toNumber = .error m) : m.category = .type ∨ m = .numberOverflow ∧ v.IsHuge := by
  cases v
  case integer i =>
    right
    rw [toNumber] at h
    cases hi : Decimal.ofInt? i with
    | some x =>
        rw [hi] at h
        cases h
    | none =>
        rw [hi] at h
        cases h
        exact ⟨rfl, i, rfl, hi⟩
  case number x => cases h
  all_goals
    left
    cases h
    rfl

end Value

theorem Literal.not_isHuge {l : Literal} (h : l.InRange) : ¬l.toValue.IsHuge := by
  rintro ⟨i, hi, hnone⟩
  cases l with
  | integer j =>
      obtain rfl := Value.integer.inj hi
      have hsome := h.ofInt?_isSome
      rw [hnone] at hsome
      cases hsome
  | none | boolean | number | string => cases hi

theorem Literal.not_overlong {l : Literal} (h : l.InRange) : ¬l.toValue.Overlong := by
  cases l with
  | integer i =>
      rw [toValue, Value.overlong_integer]
      exact not_tooLong_of_range (h i rfl)
  | none | boolean | number | string => simp [toValue, Value.overlong_of_parts, Value.shownParts]

theorem Literal.kindName?_isSome {l : Literal} : l.toValue.kindName?.isSome := by
  rw [Literal.kindName?_toValue]
  rfl

theorem Given.kindName?_trial : given.trial.kindName?.isSome := by
  cases given with
  | plain l => exact Literal.kindName?_isSome
  | relative delta =>
      cases delta with
      | none => rfl
      | some l => exact Literal.kindName?_isSome

/-- Every variable has a value, which is a dynamic one. -/
def Scope.Total (scope : Scope) : Prop := ∀ name, ∃ v, scope.valueOf name = .ok v ∧ v.IsDynamic

namespace Slot

open Checked

structure InRange (a : Argument) : Prop where
  initial : ∃ l : Literal, l.InRange ∧ a.initial = l.toValue
  origin : ∃ l : Literal, l.InRange ∧ Origin.asValue a.origin = l.toValue

theorem InRange.not_isHuge {o : Origin} (h : a.InRange) (ho : a.origin = some o) : ¬o.toValue.IsHuge := by
  obtain ⟨l, hl, horigin⟩ := h.origin
  rw [ho] at horigin
  rw [show o.toValue = l.toValue from horigin]
  exact Literal.not_isHuge hl

theorem InRange.not_overlong (h : a.InRange) : ¬a.Overlong := by
  obtain ⟨l, hl, hinitial⟩ := h.initial
  obtain ⟨l', hl', horigin⟩ := h.origin
  rw [Overlong, hinitial, horigin]
  rintro (⟨_, hlong⟩ | hlong)
  · exact Literal.not_overlong hl hlong
  · exact Literal.not_overlong hl' hlong

def Overflows (scope : Scope) (a : Argument) : Prop :=
  a.kind = .number ∧ ∃ name v, a.origin = some (.named name) ∧ scope.valueOf name = .ok v ∧ v.IsHuge

theorem blames_members : Checked.Blames M (members scope a) := by
  unfold members
  split
  · split
    · exact blames_pure
    · exact blames_told ⟨_, rfl⟩
  · exact blames_pure

theorem blames_mismatch {α : Type} (hw : ¬a.Overlong) (hv : v.kindName?.isSome) :
    Checked.Blames M (mismatch a v : Checked α) := by
  obtain ⟨kindName, hkind⟩ := Option.isSome_iff_exists.1 hv
  rw [mismatch_of_kindName hkind]
  exact blames_told (Checked.exists_bind ((noText_usage a).exists_ok hw) fun _ => ⟨_, rfl⟩)

theorem blames_accepts (hw : ¬a.Overlong) (hv : v.kindName?.isSome) : Checked.Blames M (accepts scope a v) := by
  by_cases hk : a.kind = .choice ∧ v.isString = true
  · obtain ⟨hk, hs⟩ := hk
    obtain ⟨s, rfl⟩ : ∃ s, v = .string s := by cases v <;> simp_all [Value.isString]
    rw [accepts_string hk]
    refine blames_members.bind fun stored _ => ?_
    split
    · exact blames_pure
    · exact blames_told ⟨_, rfl⟩
  · rw [accepts_of_kind (by simpa [imp_iff_not_or] using hk)]
    split
    · exact blames_pure
    · split
      · exact blames_pure
      · exact blames_mismatch hw hv

theorem blames_insist (hw : ¬a.Overlong) (hv : v.kindName?.isSome) : Checked.Blames M (insist scope a v) := by
  refine (blames_accepts hw hv).bind fun taken _ => ?_
  cases taken with
  | true => exact blames_pure
  | false => exact blames_mismatch hw hv

theorem blames_takes (hw : ¬a.Overlong) : Checked.Blames M (takes scope a given) := by
  cases given with
  | plain l => exact blames_accepts hw Literal.kindName?_isSome
  | relative delta =>
      simp only [takes]
      split
      · exact blames_pure
      · split
        · exact blames_told ⟨_, rfl⟩
        · exact blames_accepts hw Given.kindName?_trial

theorem of_sum_eq_error {kind : Kind} (h : sum kind origin delta = .error m) :
    m.category = .type ∨ m = .numberOverflow ∧ kind = .number ∧ (origin.IsHuge ∨ delta.IsHuge) := by
  rw [sum] at h
  split at h
  · next hk =>
      rcases bind_eq_error.1 h with h | ⟨x, _, h⟩
      · exact (Value.isHuge_of_toNumber h).imp_right fun h => ⟨h.1, hk, .inl h.2⟩
      · rcases bind_eq_error.1 h with h | ⟨y, _, h⟩
        · exact (Value.isHuge_of_toNumber h).imp_right fun h => ⟨h.1, hk, .inr h.2⟩
        · cases h
  · rcases bind_eq_error.1 h with h | ⟨x, _, h⟩
    · exact .inl (Value.category_of_toInteger h)
    · rcases bind_eq_error.1 h with h | ⟨y, _, h⟩
      · exact .inl (Value.category_of_toInteger h)
      · cases h

theorem blames_addTo (hw : ¬a.Overlong) (hdelta : ¬delta.IsHuge)
    (h : a.kind = .number → origin.IsHuge → M .numberOverflow) : Checked.Blames M (addTo a delta origin) := by
  unfold addTo
  split
  · exact blames_told ⟨_, rfl⟩
  · split
    · exact blames_pure
    · cases hsum : sum a.kind origin delta with
      | ok v => exact blames_pure
      | error m =>
          dsimp only
          split
          · obtain ⟨text, htext⟩ := (noText_originHint a).exists_ok fun hlong => hw (.inr hlong)
            exact blames_told (Checked.exists_bind ⟨text, htext⟩ fun _ => ⟨_, rfl⟩)
          · next htype =>
              rcases of_sum_eq_error hsum with hm | ⟨rfl, hk, horigin | hhuge⟩
              · exact absurd hm htype
              · exact h hk horigin
              · exact absurd hhuge hdelta

/-- An origin is dynamic, and if it is huge, it is the value of a variable. -/
theorem originValue_of_total (hs : scope.Total) (ha : a.InRange) :
    ∃ v, originValue scope a = .ok v ∧ v.kindName?.isSome ∧
      (v.IsHuge → ∃ name, a.origin = some (.named name) ∧ scope.valueOf name = .ok v) := by
  rw [originValue]
  cases ho : a.origin with
  | none => exact ⟨.none, rfl, rfl, fun ⟨_, h, _⟩ => nomatch h⟩
  | some o =>
      have hrange := ha.not_isHuge ho
      cases o with
      | named name =>
          obtain ⟨v, hv, hdynamic⟩ := hs name
          exact ⟨v, hv, hdynamic.kindName?_isSome, fun _ => ⟨name, rfl, hv⟩⟩
      | integer i => exact ⟨_, rfl, rfl, fun h => absurd h hrange⟩
      | number x => exact ⟨_, rfl, rfl, fun h => absurd h hrange⟩

theorem resolve_some (h : originValue scope a = .ok origin) : resolve scope a (some delta) = addTo a delta origin := by
  rw [resolve, h]
  rfl

theorem resolve_none_cases (h : originValue scope a = .ok origin) :
    resolve scope a none = addTo a (.integer 0) origin ∨ resolve scope a none = .ok (.integer 0) ∨
      resolve scope a none = .ok origin := by
  rw [resolve, h]
  cases hk : a.kind.numeric with
  | false => exact .inl rfl
  | true =>
      right
      cases origin
      case none => exact .inl rfl
      all_goals exact .inr rfl

theorem blames_resolve {delta : Option Value} (hs : scope.Total) (ha : a.InRange)
    (hdelta : ∀ v ∈ delta, ¬v.IsHuge) (h : a.Overflows scope → M .numberOverflow) :
    Checked.Blames M (resolve scope a delta) := by
  obtain ⟨origin, horigin, _, hhuge⟩ := originValue_of_total hs ha
  have hoverflow : a.kind = .number → origin.IsHuge → M .numberOverflow := by
    intro hk ho
    obtain ⟨name, hname, hvalue⟩ := hhuge ho
    exact h ⟨hk, name, origin, hname, hvalue, ho⟩
  cases delta with
  | some delta =>
      rw [resolve_some horigin]
      exact blames_addTo ha.not_overlong (hdelta delta rfl) hoverflow
  | none =>
      have hzero : ¬(Value.integer 0).IsHuge := by
        rintro ⟨i, hi, hnone⟩
        cases hi
        cases hnone
      rcases resolve_none_cases horigin with hresolve | hresolve | hresolve
      · rw [hresolve]
        exact blames_addTo ha.not_overlong hzero hoverflow
      · rw [hresolve]
        exact blames_pure
      · rw [hresolve]
        exact blames_pure

theorem kindName?_of_sum {kind : Kind} (h : sum kind origin delta = .ok v) : v.kindName?.isSome := by
  rw [sum] at h
  split at h
  · obtain ⟨x, _, h⟩ := bind_eq_ok.1 h
    obtain ⟨y, _, h⟩ := bind_eq_ok.1 h
    obtain rfl := pure_eq_ok.1 h
    rfl
  · obtain ⟨x, _, h⟩ := bind_eq_ok.1 h
    obtain ⟨y, _, h⟩ := bind_eq_ok.1 h
    obtain rfl := pure_eq_ok.1 h
    rfl

theorem kindName?_of_addTo (hdelta : delta.kindName?.isSome) (h : addTo a delta origin = .ok v) :
    v.kindName?.isSome := by
  unfold addTo at h
  split at h
  · exact absurd h fault_ne_ok
  · split at h
    · obtain rfl := Except.ok.inj h
      exact hdelta
    · cases hsum : sum a.kind origin delta with
      | ok u =>
          rw [hsum] at h
          obtain rfl := Except.ok.inj h
          exact kindName?_of_sum hsum
      | error m =>
          rw [hsum] at h
          dsimp only at h
          split at h
          · exact absurd h fault_ne_ok
          · cases h

theorem kindName?_of_resolve {delta : Option Value} (hs : scope.Total) (ha : a.InRange)
    (hdelta : ∀ v ∈ delta, v.kindName?.isSome) (h : resolve scope a delta = .ok v) : v.kindName?.isSome := by
  obtain ⟨origin, horigin, hdynamic, _⟩ := originValue_of_total hs ha
  cases delta with
  | some delta =>
      rw [resolve_some horigin] at h
      exact kindName?_of_addTo (hdelta delta rfl) h
  | none =>
      rcases resolve_none_cases horigin with hresolve | hresolve | hresolve
      · exact kindName?_of_addTo rfl (hresolve.symm.trans h)
      · obtain rfl := Except.ok.inj (hresolve.symm.trans h)
        rfl
      · obtain rfl := Except.ok.inj (hresolve.symm.trans h)
        exact hdynamic

theorem blames_bound (hs : scope.Total) (ha : a.InRange) (h : a.Overflows scope → M .numberOverflow)
    (hg : given.InRange) : Checked.Blames M (bound scope a given) := by
  cases given with
  | plain l => exact (blames_insist ha.not_overlong Literal.kindName?_isSome).bind fun _ _ => blames_pure
  | relative delta =>
      have hresolve : Checked.Blames M (resolve scope a (delta.map Literal.toValue)) := by
        refine blames_resolve hs ha ?_ h
        intro v hv
        obtain ⟨l, hl, rfl⟩ := Option.map_eq_some_iff.1 hv
        exact Literal.not_isHuge (hg l hl)
      refine hresolve.bind fun v hv => (blames_insist ha.not_overlong ?_).bind fun _ _ => blames_pure
      refine kindName?_of_resolve hs ha ?_ hv
      intro v hv
      obtain ⟨l, hl, rfl⟩ := Option.map_eq_some_iff.1 hv
      exact Literal.kindName?_isSome

theorem blames_of_overflows (hs : scope.Total) (ha : a.InRange) (h : a.Overflows scope → M .numberOverflow) :
    a.Blames scope M :=
  ⟨fun _ _ => blames_takes ha.not_overlong, fun _ hg => blames_bound hs ha h hg⟩

theorem bound_of_isHuge (hk : a.kind = .number) (ho : originValue scope a = .ok origin) (h : origin.IsHuge) :
    bound scope a (.relative (some l)) = .error (.misuse .numberOverflow) := by
  obtain ⟨i, rfl, hi⟩ := h
  have hsum : sum a.kind (.integer i) l.toValue = .error .numberOverflow := by
    rw [sum, if_pos hk, Value.toNumber, hi]
    rfl
  have hadd : addTo a l.toValue (.integer i) = .error (.misuse .numberOverflow) := by
    rw [addTo, hsum, hk]
    · rfl
    · exact nofun
  have hresolve : resolve scope a (some l.toValue) = .error (.misuse .numberOverflow) := by
    rw [resolve_some ho, hadd]
  change (resolve scope a (some l.toValue) >>= _) = _
  rw [hresolve]
  rfl

theorem bound_of_overflows (h : a.Overflows scope) :
    bound scope a (.relative (some l)) = .error (.misuse .numberOverflow) := by
  obtain ⟨hk, name, v, hname, hvalue, hhuge⟩ := h
  exact bound_of_isHuge hk (by rw [originValue, hname, ← hvalue]) hhuge

end Slot

namespace Prompt

/-- A prompt fails as its first item does, when that is a relative value for a slot with an origin. -/
theorem parse_of_bound {commands : Table Command} {command : Command} {source : Source} {name : String}
    {delta : Option Literal} {items : List Item} {slots : List Argument} {e : Failure Cause}
    (hs : itemsOf source.text = some (name, .ordered (.relative delta) :: items))
    (hc : commands.get? name = some command) (hp : command.positional = a :: slots) (hr : a.relative = true)
    (h : Slot.bound scope a (.relative delta) = .error e) :
    ∃ offset, parse scope commands source = .error (e.told fun cause => Fault.ofCause source cause offset) := by
  have htakes : Slot.takes scope a (.relative delta) = .ok true := by
    rw [Slot.takes, hr]
    rfl
  have hfill : Binding.fill scope command (.relative delta) (a :: slots) = .error e := by
    rw [Binding.fill, htakes]
    change (Slot.bound scope a _ >>= _) = _
    rw [h]
    rfl
  have hput : Binding.put scope command (.relative delta) { vacant := command.positional } = .error e := by
    rw [Binding.put, hp, hfill]
    rfl
  have hitems : ofItems scope commands name (.ordered (.relative delta) :: items) = .error e := by
    rw [ofItems, lookup, hc]
    change ((Binding.put scope command _ _ >>= _) >>= _) = _
    rw [hput]
    rfl
  obtain ⟨offset, hparse⟩ : ∃ offset, parse scope commands source = _ := parse_eq_ofItems hs
  exact ⟨offset, by rw [hparse, hitems]; rfl⟩

theorem parse_of_overflows {commands : Table Command} {command : Command} {source : Source} {name : String}
    {items : List Item} {slots : List Argument}
    (hs : itemsOf source.text = some (name, .ordered (.relative (some l)) :: items))
    (hc : commands.get? name = some command) (hp : command.positional = a :: slots) (h : a.Overflows scope) :
    parse scope commands source = .error (.misuse .numberOverflow) := by
  have hr : a.relative = true := by
    obtain ⟨_, name, _, hname, _⟩ := h
    rw [Slot.relative, hname, Option.isSome_some]
  obtain ⟨_, hparse⟩ := parse_of_bound hs hc hp hr (Slot.bound_of_overflows h)
  exact hparse

end Prompt

namespace Scheme

section

variable {n : Modifiers} {m : Modifiers} {taken : List String}

structure Modifiers.InRange (m : Modifiers) : Prop where
  initial : ∀ l ∈ m.initial, l.1.InRange
  origin : ∀ l ∈ m.origin, l.1.InRange

theorem Modifiers.InRange.next (hm : m.InRange) (h : readModifier m c = .ok (some n) d) : n.InRange := by
  rw [readModifier, skipBlanks_bind, ahead_bind] at h
  generalize (c.skip (c.ahead.takeWhile Text.isBlank).length).ahead = ahead at h
  split at h
  · simp only [skip_bind, offset_bind] at h
    obtain ⟨l, e, hl, h⟩ := bind_eq_ok.1 h
    obtain ⟨hn, _⟩ := pure_eq_ok.1 h
    obtain rfl := Option.some.inj hn
    exact ⟨by simpa using inRange_of_readLiteral hl, hm.origin⟩
  · simp only [skip_bind, offset_bind] at h
    obtain ⟨l, e, hl, h⟩ := bind_eq_ok.1 h
    obtain ⟨hn, _⟩ := pure_eq_ok.1 h
    obtain rfl := Option.some.inj hn
    exact ⟨hm.initial, by simpa using inRange_of_readLiteral hl⟩
  · cases h

theorem inRange_of_readModifiers (h : readModifiers c = .ok m d) : m.InRange := by
  have hstart : Modifiers.InRange {} := ⟨nofun, nofun⟩
  obtain ⟨_, hm⟩ := iterate_invariant (P := fun m _ => m.InRange) (fun _ _ _ _ hm hstep => hm.next hstep) hstart h
  exact hm

theorem modifiers_of_readDraft {draft : Slot.Draft} (h : readDraft taken c = .ok draft d) :
    ∃ name kind choices m e e', readModifiers e = .ok m e' ∧ draft = Scheme.draft name kind choices m := by
  rw [readDraft] at h
  obtain ⟨name, c₁, _, h⟩ := bind_eq_ok.1 h
  obtain ⟨_, c₂, _, h⟩ := bind_eq_ok.1 h
  obtain ⟨kind, c₃, _, h⟩ := bind_eq_ok.1 h
  dsimp only at h
  split at h
  all_goals
    obtain ⟨choices, c₄, _, h⟩ := bind_eq_ok.1 h
    obtain ⟨m, c₅, hm, h⟩ := bind_eq_ok.1 h
    obtain ⟨_, c₆, _, h⟩ := bind_eq_ok.1 h
    obtain ⟨rfl, _⟩ := pure_eq_ok.1 h
    exact ⟨name, kind, choices, m, c₄, c₅, hm, rfl⟩

end

theorem exists_literal_of_getD {l? : Option (Literal × Nat)} (h : ∀ l ∈ l?, l.1.InRange) :
    ∃ l : Literal, l.InRange ∧ (l?.map (·.1.toValue)).getD .none = l.toValue := by
  cases l? with
  | none => exact ⟨.none, nofun, rfl⟩
  | some l => exact ⟨l.1, h l rfl, rfl⟩

theorem inRange_of_readArgument {taken : List String} (h : readArgument taken c = .ok a d) : a.InRange := by
  obtain ⟨draft, e, hdraft, h⟩ := bind_eq_ok.1 h
  obtain ⟨name, kind, choices, m, _, _, hm, rfl⟩ := modifiers_of_readDraft (lift_eq_ok.1 hdraft)
  obtain ⟨_, _, _, _, o, ho, rfl⟩ := Slot.make_eq_ok.1 (build_eq_ok.1 h).1
  have hrange := inRange_of_readModifiers hm
  refine ⟨exists_literal_of_getD hrange.initial, ?_⟩
  rw [← (Slot.originFor_eq_ok.1 ho).1]
  exact exists_literal_of_getD hrange.origin

theorem inRange_of_compile {source : Source} {executor : Value} {command : Command}
    (h : compile source executor = .ok command) :
    (∀ a ∈ command.positional, a.InRange) ∧ ∀ a ∈ command.keyword, a.InRange := by
  obtain ⟨d, hd⟩ := readCommand_of_compile h
  exact forall_slots_of_readCommand (fun _ _ _ _ _ ha => inRange_of_readArgument ha) hd

theorem not_overlong_of_compile {source : Source} {executor : Value} {command : Command}
    (h : compile source executor = .ok command) : ¬Signature.Overlong command := by
  obtain ⟨hpositional, hkeyword⟩ := inRange_of_compile h
  rintro ⟨a, ha, hlong⟩
  rcases List.mem_append.1 ha with ha | ha
  · exact (hpositional a ha).not_overlong hlong
  · exact (hkeyword a ha).not_overlong hlong

end Scheme

end Prompter
