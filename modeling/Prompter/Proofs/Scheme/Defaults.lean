import Prompter.Proofs.Prompt.Checks
import Prompter.Proofs.Scheme.Modifiers

namespace Prompter

namespace Scheme

open Text Reader

def defaultOnly (default : Option Literal) : Sign → Option Literal
  | .initial => default
  | .origin => none

variable {c c' d : Cursor} {name choices : String} {kind : Kind} {head text rest : List Char} {taken : List String}
  {last : Sign → Option Literal} {l : Literal} {m : Modifiers} {a : Argument} {scope : Scope}

section Arguments

theorem checkModifiers_eq_ok_iff :
    checkModifiers name kind choices m c = .ok () d ↔
      (∀ o, m.literal .origin = some o → ¬Unsuitable kind o) ∧
        (∀ l, m.literal .initial = some l → fits kind choices l = true) ∧ c = d := by
  have horigin : (∀ o ∈ m.origin, kind.numeric = true ∧ ∀ b, o.1 ≠ .boolean b) ↔
      ∀ o, m.literal .origin = some o → ¬Unsuitable kind o := by
    simp only [Modifiers.literal, Unsuitable]
    cases m.origin <;> simp
  have hinitial : (∀ i ∈ m.initial, fits kind choices i.1 = true) ↔
      ∀ l, m.literal .initial = some l → fits kind choices l = true := by
    simp only [Modifiers.literal]
    cases m.initial <;> simp
  rw [checkModifiers_eq_ok, horigin, hinitial]

/-- A head and the last of its modifiers are an argument when both checks pass, the name is new, and there is one. -/
theorem exists_readArgument_iff (hhead : HeadWritten name kind choices head) (hc : Stands head last c) :
    (∃ a d, readArgument taken c = .ok a d) ↔
      (name ∉ taken ∧ name ≠ "") ∧ (∀ o, last .origin = some o → ¬Unsuitable kind o) ∧
        ∀ l, last .initial = some l → fits kind choices l = true := by
  obtain ⟨htaken, hfresh⟩ : (name ∈ taken → _) ∧ (name ∉ taken → _) := readArgument_of_stands hhead hc
  constructor
  · rintro ⟨a, d, h⟩
    have hname : name ∉ taken := by
      intro hmem
      obtain ⟨_, _, herror⟩ := htaken hmem
      cases herror.symm.trans h
    obtain ⟨m, e, rfl, hread⟩ := hfresh hname
    obtain ⟨draft, e', hdraft, hmake⟩ := bind_eq_ok.1 (hread.symm.trans h)
    obtain ⟨_, _, hchecked, hdraft⟩ := bind_eq_ok.1 (lift_eq_ok.1 hdraft)
    obtain ⟨rfl, rfl⟩ := pure_eq_ok.1 hdraft
    obtain ⟨hne, _⟩ := Slot.make_eq_ok.1 (build_eq_ok.1 hmake).1
    obtain ⟨horigin, hinitial, _⟩ := checkModifiers_eq_ok_iff.1 hchecked
    exact ⟨⟨hname, hne⟩, horigin, hinitial⟩
  · rintro ⟨⟨hname, hne⟩, horigin, hinitial⟩
    obtain ⟨m, e, rfl, hread⟩ := hfresh hname
    have hchecked : checkModifiers name kind choices m e = .ok () e :=
      checkModifiers_eq_ok_iff.2 ⟨horigin, hinitial, rfl⟩
    obtain ⟨a, ha⟩ := make_of_checked hne hhead.choices_iff hchecked
    have hdraft := bind_of_ok (f := fun _ => pure (draft name kind choices m)) hchecked
    exact ⟨a, e, hread.trans (bind_eq_ok.2 ⟨_, e, lift_eq_ok.2 hdraft, build_eq_ok.2 ⟨ha, rfl⟩⟩)⟩

theorem parts_of_stands (hhead : HeadWritten name kind choices head) (hc : Stands head last c)
    (h : readArgument taken c = .ok a d) :
    a.name = name ∧ a.kind = kind ∧ a.choices = choices ∧ a.optional = (last .initial).isSome := by
  obtain ⟨hname, _⟩ := ((exists_readArgument_iff hhead hc).1 ⟨a, d, h⟩).1
  obtain ⟨m, e, rfl, hread⟩ := (readArgument_of_stands hhead hc).2 hname
  obtain ⟨draft, e', hdraft, hmake⟩ := bind_eq_ok.1 (hread.symm.trans h)
  obtain ⟨_, _, _, hdraft⟩ := bind_eq_ok.1 (lift_eq_ok.1 hdraft)
  obtain ⟨rfl, rfl⟩ := pure_eq_ok.1 hdraft
  obtain ⟨_, _, _, _, o, _, rfl⟩ := Slot.make_eq_ok.1 (build_eq_ok.1 hmake).1
  exact ⟨rfl, rfl, rfl, (Option.isSome_map).symm⟩

theorem stands_nothing (hr : EndsModifiers rest) (hc : c.ahead = head ++ rest) : Stands head (defaultOnly none) c :=
  ⟨[], [], rest, .nil, hr, fun sign => by cases sign <;> rfl, hc⟩

theorem stands_initial (before behind : Gap) (hl : l.Written text) (hr : EndsModifiers rest)
    (hc : c.ahead = head ++ (before.text ++ '=' :: (behind.text ++ (text ++ rest)))) :
    Stands head (defaultOnly (some l)) c := by
  refine ⟨[(.initial, l)], _, rest, .cons before behind hl .nil, hr, fun sign => by cases sign <;> rfl, ?_⟩
  simp [hc, Sign.char]

end Arguments

section Fits

/-- Where the members are known, the check of a default is the check of a value. -/
theorem fits_iff_holds (hw : a.WellFormed) (hn : a.named = false) (hl : l ≠ .none) :
    fits a.kind a.choices l = true ↔ a.Holds scope l.toValue := by
  have hvalue : l.toValue ≠ .none := fun h => hl (Literal.toValue_injective h)
  by_cases hk : a.kind = .choice
  · have hhead : a.choices.toList.head? = some '|' := by
      obtain ⟨ms, _, hchoices, _⟩ := hw.inline hk hn
      rw [hchoices, Choices.head_write]
    have hmembers : a.members scope = .ok a.choices := by simp [Slot.members, hn]
    constructor
    · intro h
      refine ⟨takes_of_fits h hvalue, fun _ => ?_⟩
      obtain ⟨s, rfl⟩ := string_of_takes (hk ▸ takes_of_fits h hvalue)
      exact ⟨s, a.choices, rfl, hmembers, by simpa [hk, fits, hhead] using h⟩
    · rintro ⟨_, hmember⟩
      obtain ⟨s, stored, hs, hstored, hholds⟩ := hmember hk
      obtain rfl : l = .string s := Literal.toValue_injective hs
      cases hmembers.symm.trans hstored
      simpa [hk, fits, hhead] using hholds
  · exact ⟨fun h => ⟨takes_of_fits h hvalue, fun hc => absurd hc hk⟩, fun h => fits_of_takes hk h.takes⟩

/-- A literal may stand behind an equals sign when the slot without it would take it; of an enumeration by name, any
string is let through. -/
theorem exists_default_iff (hhead : HeadWritten name kind choices head) (hc : Stands head (defaultOnly none) c)
    (hc' : Stands head (defaultOnly (some l)) c') (hm : readArgument taken c = .ok a d) (hl : l ≠ .none) :
    (∃ a d, readArgument taken c' = .ok a d) ↔
      if a.named then ∃ s, l = .string s else a.accepts scope l.toValue = .ok true := by
  obtain ⟨rfl, rfl, rfl, _⟩ := parts_of_stands hhead hc hm
  have hw := wellFormed_of_readArgument hm
  have hfits : (∃ a d, readArgument taken c' = .ok a d) ↔ fits a.kind a.choices l = true := by
    rw [exists_readArgument_iff hhead hc']
    have hname := ((exists_readArgument_iff hhead hc).1 ⟨a, d, hm⟩).1
    simp [hname, defaultOnly]
  rw [hfits]
  by_cases hn : a.named = true
  · have hne : a.choices ≠ "" := by
      intro hempty
      simp [Slot.named, hempty] at hn
    rw [if_pos hn, hw.choices_iff.1 hne, fits_reference_iff hn, or_iff_right hl]
  · rw [if_neg hn, Slot.accepts_eq_true]
    exact fits_iff_holds hw (by simpa using hn) hl

end Fits

end Scheme

end Prompter
