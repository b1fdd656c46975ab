import Mathlib.Algebra.Group.Int.Defs
import Mathlib.Algebra.Group.Nat.Defs
import Prompter.Proofs.Reading

namespace Prompter

variable {α β : Type} {P Q : Prop} {i : Int} {m : Misuse} {v : Value} {a : Argument} {c : Command}

/-- The integer has more digits than are written for one. -/
def TooLong (i : Int) : Prop := maxDecimalDigits < (Nat.toDigits 10 i.natAbs).length

theorem not_tooLong_of_range (h : -0x8000000000000000 ≤ i ∧ i < 0x8000000000000000) : ¬TooLong i := by
  have h20 : (Nat.toDigits 10 i.natAbs).length ≤ 20 :=
    (Nat.length_toDigits_le_iff (by decide) (by decide)).2 (by omega)
  exact Nat.not_lt.2 (Nat.le_trans h20 (by decide))

/-- There is no text exactly where `P` holds, and then for too many digits. -/
def NoText (x : Except Misuse α) (P : Prop) : Prop := ∀ m, x = .error m ↔ m = .tooManyDigits ∧ P

namespace NoText

open Checked

variable {x : Except Misuse α} {f : α → Except Misuse β}

theorem error (h : NoText x P) (hP : P) : x = .error .tooManyDigits := (h _).2 ⟨rfl, hP⟩

theorem exists_ok (h : NoText x P) (hP : ¬P) : ∃ text, x = .ok text := by
  cases x with
  | ok text => exact ⟨text, rfl⟩
  | error m => exact absurd ((h m).1 rfl).2 hP

theorem of_iff (h : NoText x P) (hPQ : P ↔ Q) : NoText x Q := fun m => (h m).trans (and_congr_right fun _ => hPQ)

theorem bind (hx : NoText x P) (hf : ∀ a, NoText (f a) Q) : NoText (x >>= f) (P ∨ Q) := by
  intro m
  rw [bind_eq_error, hx m]
  simp only [hf _ m]
  by_cases hP : P
  · simp [hP, hx.error hP]
  · obtain ⟨text, htext⟩ := hx.exists_ok hP
    simp [hP, htext]

end NoText

theorem noText_pure {a : α} : NoText (pure a) False := by simp [NoText, pure, Except.pure]

theorem NoText.bind_pure {x : Except Misuse α} {f : α → β} (h : NoText x P) : NoText (x >>= fun a => pure (f a)) P :=
  (h.bind fun _ => noText_pure).of_iff (or_iff_left id)

theorem noText_integerText : NoText (integerText i) (TooLong i) := by
  intro m
  rw [integerText, TooLong]
  split
  · next h => simp [Nat.not_lt.2 h]
  · next h => simp [Nat.not_le.1 h, eq_comm]

theorem text_of_integerText {text : String} (h : integerText i = .ok text) : text = toString i := by
  rw [integerText] at h
  split at h
  · exact (Except.ok.inj h).symm
  · cases h

theorem NoText.ofCause {cause : Cause} (h : NoText cause.report.hint P) (source : Source) (offset : Int) :
    NoText (Fault.ofCause source cause offset) P := h.bind_pure

theorem noText_mapM {f : α → Except Misuse β} {p : α → Prop} {as : List α} (hf : ∀ a ∈ as, NoText (f a) (p a)) :
    NoText (as.mapM f) (∃ a ∈ as, p a) := by
  induction as with
  | nil => exact noText_pure.of_iff (by simp)
  | cons a as ih =>
      obtain ⟨ha, has⟩ := List.forall_mem_cons.1 hf
      rw [List.mapM_cons]
      exact (ha.bind fun _ => (ih has).bind_pure).of_iff (by simp)

namespace Value

def shownParts : Value → List Value
  | list items | tuple items | set items | frozenSet items => items
  | map entries | view entries => entries.flatMap fun e => [e.1, e.2]
  | argument a => [a.initial, Origin.asValue a.origin]
  | command c => (c.positional ++ c.keyword).map argument
  | _ => []

/-- The value is an integer that is too long, or has one among its parts. -/
inductive Overlong : Value → Prop
  | integer {i : Int} (h : TooLong i) : Overlong (integer i)
  | part {u v : Value} (h : u ∈ v.shownParts) (hu : Overlong u) : Overlong v

theorem overlong_iff : v.Overlong ↔ (∃ i, v = integer i ∧ TooLong i) ∨ ∃ u ∈ v.shownParts, u.Overlong := by
  constructor
  · rintro (h | ⟨h, hu⟩)
    · exact .inl ⟨_, rfl, h⟩
    · exact .inr ⟨_, h, hu⟩
  · rintro (⟨i, rfl, h⟩ | ⟨u, h, hu⟩)
    · exact .integer h
    · exact .part h hu

theorem overlong_integer : (integer i).Overlong ↔ TooLong i := by
  rw [overlong_iff]
  simp [shownParts]

theorem overlong_of_parts (h : ∀ i, v ≠ integer i) : v.Overlong ↔ ∃ u ∈ v.shownParts, u.Overlong := by
  rw [overlong_iff, or_iff_right]
  rintro ⟨i, rfl, _⟩
  exact h i rfl

theorem overlong_argument : (argument a).Overlong ↔ a.initial.Overlong ∨ (Origin.asValue a.origin).Overlong := by
  simp [overlong_of_parts, shownParts]

theorem exists_mem_entries {entries : List (Value × Value)} :
    (∃ e ∈ entries, e.1.Overlong ∨ e.2.Overlong) ↔ ∃ u ∈ entries.flatMap fun e => [e.1, e.2], u.Overlong := by
  simp only [List.mem_flatMap, List.mem_cons, List.not_mem_nil, or_false]
  constructor
  · rintro ⟨e, he, hk | hv⟩
    · exact ⟨_, ⟨e, he, .inl rfl⟩, hk⟩
    · exact ⟨_, ⟨e, he, .inr rfl⟩, hv⟩
  · rintro ⟨_, ⟨e, he, rfl | rfl⟩, hu⟩
    · exact ⟨e, he, .inl hu⟩
    · exact ⟨e, he, .inr hu⟩

theorem overlong_map {entries : List (Value × Value)} :
    (map entries).Overlong ↔ ∃ e ∈ entries, e.1.Overlong ∨ e.2.Overlong := by
  rw [overlong_of_parts (by simp), shownParts, exists_mem_entries]

theorem overlong_view {entries : List (Value × Value)} :
    (view entries).Overlong ↔ ∃ e ∈ entries, e.1.Overlong ∨ e.2.Overlong := by
  rw [overlong_of_parts (by simp), shownParts, exists_mem_entries]

theorem noText_shownOrigin {o : Option Origin} : NoText (shownOrigin o) (Origin.asValue o).Overlong := by
  cases o with
  | none => exact noText_pure.of_iff (by simp [Origin.asValue, overlong_of_parts, shownParts])
  | some o =>
      cases o with
      | integer i => exact noText_integerText.of_iff overlong_integer.symm
      | number | named =>
          exact noText_pure.of_iff (by simp [Origin.asValue, Origin.toValue, overlong_of_parts, shownParts])

mutual

theorem noText_shownAs (view : Bool) : (v : Value) → NoText (shownAs view v) v.Overlong
  | integer i => noText_integerText.of_iff overlong_integer.symm
  | list items => by
      rw [shownAs]
      exact (noText_shownItems items).bind_pure.of_iff (by simp [overlong_of_parts, shownParts])
  | map entries => by
      rw [shownAs]
      exact (noText_shownEntries entries).bind_pure.of_iff overlong_map.symm
  | tuple items => by
      rw [shownAs]
      exact (noText_shownItems items).bind_pure.of_iff (by simp [overlong_of_parts, shownParts])
  | .view entries => by
      rw [shownAs]
      exact (noText_shownEntries entries).bind_pure.of_iff overlong_view.symm
  | set items => by
      rw [shownAs]
      exact (noText_shownItems items).bind_pure.of_iff (by simp [overlong_of_parts, shownParts])
  | frozenSet items => by
      rw [shownAs]
      exact (noText_shownItems items).bind_pure.of_iff (by simp [overlong_of_parts, shownParts])
  | argument a => by
      rw [shownAs]
      exact noText_shownSlot a
  | command ⟨name, positional, keyword, _⟩ => by
      rw [shownAs]
      exact ((noText_shownSlots positional).bind fun _ => (noText_shownKeyed keyword).bind_pure).of_iff
        (by simp [overlong_of_parts, shownParts, or_and_right, exists_or])
  | none | boolean _ | number _ | string _ | bytes _ | byteArray _ | unset | kind _ | routine _ | thing => by
      rw [shownAs]
      exact noText_pure.of_iff (by simp [overlong_of_parts, shownParts])

theorem noText_shownItems : (items : List Value) → NoText (shownItems items) (∃ v ∈ items, v.Overlong)
  | [] => noText_pure.of_iff (by simp)
  | v :: rest => by
      rw [shownItems]
      exact ((noText_shownAs false v).bind fun _ => (noText_shownItems rest).bind_pure).of_iff (by simp)

theorem noText_shownEntries : (entries : List (Value × Value)) →
    NoText (shownEntries entries) (∃ e ∈ entries, e.1.Overlong ∨ e.2.Overlong)
  | [] => noText_pure.of_iff (by simp)
  | (k, v) :: rest => by
      rw [shownEntries]
      refine ((noText_shownAs false k).bind fun _ => (noText_shownAs false v).bind fun _ =>
        (noText_shownEntries rest).bind_pure).of_iff ?_
      simp [or_assoc]

theorem noText_shownSlot : (a : Slot Value) → NoText (shownSlot a) (argument a).Overlong
  | ⟨name, sort, optional, initial, origin, choices⟩ => by
      rw [shownSlot]
      refine ((noText_shownAs true initial).bind fun _ => noText_shownOrigin.bind_pure).of_iff ?_
      rw [overlong_argument]

theorem noText_shownSlots : (slots : List (Slot Value)) →
    NoText (shownSlots slots) (∃ a ∈ slots, (argument a).Overlong)
  | [] => noText_pure.of_iff (by simp)
  | a :: rest => by
      rw [shownSlots]
      exact ((noText_shownSlot a).bind fun _ => (noText_shownSlots rest).bind_pure).of_iff (by simp)

theorem noText_shownKeyed : (slots : List (Slot Value)) →
    NoText (shownKeyed slots) (∃ a ∈ slots, (argument a).Overlong)
  | [] => noText_pure.of_iff (by simp)
  | a :: rest => by
      rw [shownKeyed]
      exact ((noText_shownSlot a).bind fun _ => (noText_shownKeyed rest).bind_pure).of_iff (by simp)

end

theorem noText_shown (v : Value) : NoText v.shown v.Overlong := noText_shownAs false v

theorem noText_plain (v : Value) : NoText v.plain v.Overlong := by
  cases v with
  | string | kind => exact noText_pure.of_iff (by simp [overlong_of_parts, shownParts])
  | _ => exact noText_shown _

theorem noText_written (v : Value) : NoText v.written v.Overlong := by
  cases v with
  | none | boolean | string => exact noText_pure.of_iff (by simp [overlong_of_parts, shownParts])
  | _ => exact noText_shown _

end Value

namespace Slot

/-- The default that the argument is written with, or its origin, holds an integer that is too long. -/
def Overlong (a : Argument) : Prop := (a.optional = true ∧ a.initial.Overlong) ∨ (Origin.asValue a.origin).Overlong

theorem noText_defaultText : NoText (defaultText a) (a.optional = true ∧ a.initial.Overlong) := by
  rw [defaultText]
  split
  · next h => exact (Value.noText_written _).bind_pure.of_iff (by simp [h])
  · next h => exact noText_pure.of_iff (by simp [h])

theorem noText_originText : NoText (originText a) (Origin.asValue a.origin).Overlong := by
  rw [originText]
  split
  · next h => exact noText_pure.of_iff (by simp [h, Origin.asValue, Value.overlong_of_parts, Value.shownParts])
  · next o h =>
      rw [h]
      exact (Value.noText_written o.toValue).bind_pure

theorem noText_originHint (a : Argument) : NoText (Cause.originText a.origin) (Origin.asValue a.origin).Overlong := by
  rw [Cause.originText.eq_def]
  split
  · next h => exact noText_pure.of_iff (by simp [h, Origin.asValue, Value.overlong_of_parts, Value.shownParts])
  · next name h =>
      exact noText_pure.of_iff (by simp [h, Origin.asValue, Origin.toValue, Value.overlong_of_parts, Value.shownParts])
  · next o _ h =>
      rw [h]
      exact Value.noText_plain o.toValue

theorem noText_usage (a : Argument) : NoText a.usage a.Overlong :=
  noText_defaultText.bind fun _ => noText_originText.bind_pure

end Slot

def Signature.Overlong (c : Command) : Prop := ∃ a ∈ c.positional ++ c.keyword, Slot.Overlong a

theorem Signature.noText_usage (c : Command) : NoText c.usage c.Overlong := by
  refine ((noText_mapM fun a _ => Slot.noText_usage a).bind fun _ =>
    (noText_mapM fun a _ => Slot.noText_usage a).bind_pure).of_iff ?_
  simp [Overlong, or_and_right, exists_or]

end Prompter
