import Prompter.Proofs.Reading
import Prompter.Prompt.Binding

namespace Prompter

open Checked

namespace Slot

variable {scope : Scope} {a : Argument} {v : Value} {given : Given}

/-- The value is of the kind of the slot, and a member where there are choices. -/
structure Holds (scope : Scope) (a : Argument) (v : Value) : Prop where
  takes : a.kind.takes v = true
  member : a.kind = .choice → ∃ s stored, v = .string s ∧ members scope a = .ok stored ∧ Choices.holds stored s = true

theorem mismatch_ne_ok {α : Type} {r : α} : (mismatch a v : Checked α) ≠ .ok r := by
  intro h
  obtain ⟨_, _, h⟩ := bind_eq_ok.1 h
  exact fault_ne_ok h

theorem mismatch_of_kindName {α : Type} {kindName : String} (h : v.kindName? = some kindName) :
    (mismatch a v : Checked α) = fault (.valueKind a v kindName) := by
  rw [mismatch, Value.kindName, h]
  rfl

theorem accepts_of_kind (h : a.kind ≠ .choice ∨ v.isString = false) :
    accepts scope a v = if a.kind.takes v then .ok true else if a.optional then .ok false else mismatch a v := by
  unfold accepts
  split
  · next hk => simp_all [Value.isString]
  · rfl

theorem accepts_string {s : String} (h : a.kind = .choice) :
    accepts scope a (.string s) = members scope a >>= fun stored =>
      if Choices.holds stored s then .ok true else fault (.noChoice a s (Choices.members stored)) := by
  unfold accepts
  rw [h]
  rfl

theorem accepts_eq_true : accepts scope a v = .ok true ↔ a.Holds scope v := by
  -- Only strings are looked up among choices; all else goes by its kind.
  by_cases hk : a.kind = .choice ∧ v.isString = true
  · obtain ⟨hk, hs⟩ := hk
    obtain ⟨s, rfl⟩ : ∃ s, v = .string s := by cases v <;> simp_all [Value.isString]
    rw [accepts_string hk, bind_eq_ok]
    constructor
    · rintro ⟨stored, hm, h⟩
      split at h
      · next hh => exact ⟨by rw [hk]; rfl, fun _ => ⟨s, stored, rfl, hm, hh⟩⟩
      · exact absurd h fault_ne_ok
    · rintro ⟨_, h⟩
      obtain ⟨s', stored, hs', hm, hh⟩ := h hk
      obtain rfl : s = s' := by simpa using hs'
      exact ⟨stored, hm, by rw [if_pos hh]⟩
  · have hv : a.kind ≠ .choice ∨ v.isString = false := by simpa [imp_iff_not_or] using hk
    rw [accepts_of_kind hv]
    constructor
    · intro h
      split at h
      · next ht =>
          refine ⟨ht, fun hc => ?_⟩
          rw [hc] at ht
          simp_all [Kind.takes]
      · split at h
        · cases h
        · exact absurd h mismatch_ne_ok
    · intro h
      rw [if_pos h.takes]

theorem accepts_eq_false : accepts scope a v = .ok false ↔ a.kind.takes v = false ∧ a.optional = true := by
  by_cases hk : a.kind = .choice ∧ v.isString = true
  · obtain ⟨hk, hs⟩ := hk
    obtain ⟨s, rfl⟩ : ∃ s, v = .string s := by cases v <;> simp_all [Value.isString]
    rw [accepts_string hk, bind_eq_ok]
    constructor
    · rintro ⟨stored, _, h⟩
      split at h
      · cases h
      · exact absurd h fault_ne_ok
    · rintro ⟨h, _⟩
      rw [hk] at h
      cases h
  · have hv : a.kind ≠ .choice ∨ v.isString = false := by simpa [imp_iff_not_or] using hk
    rw [accepts_of_kind hv]
    split
    · next ht => simp [ht]
    · split
      · next ht ho => simp_all
      · next ht ho => simp [ho, mismatch_ne_ok]

theorem insist_eq_ok {u : Unit} : insist scope a v = .ok u ↔ a.Holds scope v := by
  rw [insist, bind_eq_ok]
  constructor
  · rintro ⟨t, ht, h⟩
    cases t with
    | true => exact accepts_eq_true.1 ht
    | false => exact absurd h mismatch_ne_ok
  · intro h
    exact ⟨true, accepts_eq_true.2 h, rfl⟩

/-- Whether the slot is the place for what is given: a plain value must have its kind, a relative one its delta, unless
there is an origin. -/
def Suits (a : Argument) : Given → Prop
  | .plain l => a.kind.takes l.toValue = true
  | .relative delta => a.relative = true ∨ a.kind.takes (Given.relative delta).trial = true

/-- The value that is meant by what is given: a plain value itself, a relative one behind the origin of the slot. -/
def Means (scope : Scope) (a : Argument) : Given → Value → Prop
  | .plain l, v => v = l.toValue
  | .relative delta, v => resolve scope a (delta.map Literal.toValue) = .ok v

theorem suits_of_takes (h : takes scope a given = .ok true) : a.Suits given := by
  cases given with
  | plain l => exact (accepts_eq_true.1 h).takes
  | relative delta =>
      simp only [takes] at h
      split at h
      · next hr => exact .inl hr
      · split at h
        · exact absurd h fault_ne_ok
        · exact .inr (accepts_eq_true.1 h).takes

theorem not_suits_of_takes (h : takes scope a given = .ok false) : ¬a.Suits given ∧ a.optional = true := by
  cases given with
  | plain l =>
      obtain ⟨ht, ho⟩ := accepts_eq_false.1 h
      exact ⟨by simp [Suits, ht], ho⟩
  | relative delta =>
      simp only [takes] at h
      split at h
      · cases h
      · next hr =>
          split at h
          · exact absurd h fault_ne_ok
          · obtain ⟨ht, ho⟩ := accepts_eq_false.1 h
            exact ⟨by simp [Suits, hr, ht], ho⟩

theorem bound_eq_ok : bound scope a given = .ok v ↔ a.Means scope given v ∧ a.Holds scope v := by
  have hchecked : ∀ x : Checked Value, (x >>= fun v => insist scope a v >>= fun _ => pure v) = .ok v ↔
      x = .ok v ∧ a.Holds scope v := by
    intro x
    simp only [bind_eq_ok, insist_eq_ok, pure_eq_ok]
    constructor
    · rintro ⟨_, hx, _, hv, rfl⟩
      exact ⟨hx, hv⟩
    · rintro ⟨hx, hv⟩
      exact ⟨v, hx, (), hv, rfl⟩
  cases given with
  | plain l =>
      refine (hchecked (.ok l.toValue)).trans (and_congr_left fun _ => ?_)
      rw [Means, Except.ok.injEq, eq_comm]
  | relative delta => exact hchecked _

end Slot

namespace Binding

variable {scope : Scope} {command : Command} {b : Binding} {a : Argument} {slots rest : List Argument} {given : Given}
  {v : Value} {values : List Value} {byName : Bool} {p : Prompt}

theorem fill_cases (h : fill scope command given (a :: slots) = .ok (values, rest)) :
    (a.Suits given ∧ ∃ v, a.Means scope given v ∧ a.Holds scope v ∧ values = [v] ∧ rest = slots) ∨
      (¬a.Suits given ∧ a.optional = true ∧
        ∃ behind, fill scope command given slots = .ok (behind, rest) ∧ values = a.default :: behind) := by
  rw [fill] at h
  obtain ⟨taken, ht, h⟩ := bind_eq_ok.1 h
  cases taken with
  | true =>
      obtain ⟨v, hv, h⟩ := bind_eq_ok.1 h
      obtain ⟨hvalues, hrest⟩ := Prod.mk.inj (pure_eq_ok.1 h)
      obtain ⟨hmeans, hholds⟩ := Slot.bound_eq_ok.1 hv
      exact .inl ⟨Slot.suits_of_takes ht, v, hmeans, hholds, hvalues.symm, hrest.symm⟩
  | false =>
      obtain ⟨⟨behind, rest'⟩, hfill, h⟩ := bind_eq_ok.1 h
      obtain ⟨hvalues, rfl⟩ := Prod.mk.inj (pure_eq_ok.1 h)
      obtain ⟨hs, ho⟩ := Slot.not_suits_of_takes ht
      exact .inr ⟨hs, ho, behind, hfill, hvalues.symm⟩

theorem omitted_eq_ok : omitted command byName a = .ok v ↔ a.optional = true ∧ a.default = v := by
  rw [omitted]
  by_cases ho : a.optional = true
  · simp [ho]
  · simp [ho, fault_ne_ok]

theorem complete_eq_ok :
    b.complete command = .ok p ↔
      (∀ a ∈ b.vacant, a.optional = true) ∧
        (∀ a ∈ command.keyword.filter fun a => !b.named.has a.name, a.optional = true) ∧
        ⟨command, b.args ++ b.vacant.map Slot.default,
          (b.named ++ (command.keyword.filter fun a => !b.named.has a.name).map fun a => (a.name, a.default)).map
            fun (name, v) => (.string name, v)⟩ = p := by
  have hnamed : ∀ (a : Argument) (e : String × Value),
      (do return (a.name, ← omitted command true a) : Checked (String × Value)) = .ok e ↔
        a.optional = true ∧ (a.name, a.default) = e := by
    intro a e
    simp only [bind_eq_ok, pure_eq_ok, omitted_eq_ok]
    constructor
    · rintro ⟨_, ⟨ho, rfl⟩, rfl⟩
      exact ⟨ho, rfl⟩
    · rintro ⟨ho, rfl⟩
      exact ⟨_, ⟨ho, rfl⟩, rfl⟩
  rw [complete]
  simp only [bind_eq_ok, mapM_eq_ok fun a v => omitted_eq_ok, mapM_eq_ok hnamed, pure_eq_ok]
  constructor
  · rintro ⟨_, ⟨hrest, rfl⟩, _, ⟨hunnamed, rfl⟩, rfl⟩
    exact ⟨hrest, hunnamed, rfl⟩
  · rintro ⟨hrest, hunnamed, rfl⟩
    exact ⟨_, ⟨hrest, rfl⟩, _, ⟨hunnamed, rfl⟩, rfl⟩

end Binding

end Prompter
