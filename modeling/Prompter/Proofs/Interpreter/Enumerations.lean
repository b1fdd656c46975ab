import Mathlib.Data.List.Basic
import Mathlib.Logic.Function.Basic
import Prompter.Proofs.Choices
import Prompter.Proofs.Reading

namespace Prompter

open Checked

namespace Enumeration

variable {name m : String} {members v : Value} {items : List Value} {ms : List String}

theorem memberFrom_eq_ok : memberFrom name v = .ok m ↔ v = .string m ∧ isMember m = true := by
  cases v with
  | string s =>
      rw [memberFrom]
      by_cases hs : isMember s = true
      · rw [if_pos hs]
        constructor
        · intro h
          cases h
          exact ⟨rfl, hs⟩
        · rintro ⟨h, _⟩
          cases h
          rfl
      · rw [if_neg hs]
        constructor
        · intro h
          cases h
        · rintro ⟨h, hm⟩
          cases h
          exact absurd hm hs
  | _ => simp [memberFrom]

theorem mapM_memberFrom_eq_ok :
    items.mapM (memberFrom name) = .ok ms ↔ items = ms.map .string ∧ ∀ m ∈ ms, isMember m = true := by
  induction items generalizing ms with
  | nil => cases ms <;> simp [pure_eq_ok]
  | cons v items ih =>
      simp only [List.mapM_cons, bind_eq_ok, pure_eq_ok, memberFrom_eq_ok, ih]
      constructor
      · rintro ⟨m, ⟨rfl, hm⟩, ms, ⟨rfl, hms⟩, rfl⟩
        exact ⟨rfl, List.forall_mem_cons.2 ⟨hm, hms⟩⟩
      · rintro ⟨hv, hms⟩
        cases ms with
        | nil => cases hv
        | cons m ms =>
            obtain ⟨rfl, rfl⟩ := List.cons.inj hv
            obtain ⟨hm, hms⟩ := List.forall_mem_cons.1 hms
            exact ⟨m, ⟨rfl, hm⟩, ms, ⟨rfl, hms⟩, rfl⟩

theorem items?_of_itemsFrom (h : itemsFrom name members = .ok items) : members.items? = some items := by
  unfold itemsFrom at h
  split at h
  · cases h
  · cases h
  · next hi =>
      cases h
      exact hi

theorem written_of_make {n stored : String} (h : make (.string name) members = .ok (n, stored)) :
    n = name ∧ ∃ ms, members.items? = some (ms.map .string) ∧ stored = Choices.write ms ∧ ms ≠ [] ∧
      ∀ m ∈ ms, isMember m = true := by
  obtain ⟨n', hn, h⟩ := bind_eq_ok.1 h
  obtain ⟨items, hi, h⟩ := bind_eq_ok.1 h
  have hname : n' = name := by
    rw [nameFrom] at hn
    split at hn
    · cases hn
    · exact (Except.ok.inj hn).symm
  by_cases hne : items.isEmpty = true
  · rw [if_pos hne] at h
    obtain ⟨_, hthrow, _⟩ := bind_eq_ok.1 h
    cases hthrow
  · rw [if_neg hne] at h
    obtain ⟨ms, hms, h⟩ := bind_eq_ok.1 h
    obtain ⟨rfl, rfl⟩ := Prod.mk.inj (pure_eq_ok.1 h)
    obtain ⟨rfl, hmem⟩ := mapM_memberFrom_eq_ok.1 hms
    exact ⟨hname, ms, items?_of_itemsFrom hi, rfl, by simpa using hne, hmem⟩

theorem no_bar_of_isMember (h : isMember m = true) : '|' ∉ m.toList := by
  intro hbar
  rw [isMember, Bool.and_eq_true] at h
  have := List.all_eq_true.1 h.2 _ hbar
  simp at this

end Enumeration

namespace Interpreter

variable {i i' : Interpreter} {name stored : String} {ms : List String}

/-- The sets that an interpreter has been told of. A set that is registered again takes the place of the former one. -/
inductive Registers : Interpreter → (String → Option (List String)) → Prop
  | fresh (i : Interpreter) (h : i.enumerations = []) : Registers i fun _ => none
  | enumerate (i i' : Interpreter) (sets) (name : String) (members : Value) (ms : List String) (h : Registers i sets)
      (hm : members.items? = some (ms.map .string)) (hi : i.enumerate (.string name) members = .ok i') :
      Registers i' (Function.update sets name (some ms))
  | other (i i' : Interpreter) (sets) (h : Registers i sets) (he : i'.enumerations = i.enumerations) : Registers i' sets

theorem enumerations_of_enumerate {members : Value} (hm : members.items? = some (ms.map .string))
    (h : i.enumerate (.string name) members = .ok i') :
    i'.enumerations = i.enumerations.put name (Choices.write ms) ∧ ms ≠ [] ∧
      ∀ m ∈ ms, Enumeration.isMember m = true := by
  obtain ⟨⟨n, stored⟩, hmake, h⟩ := bind_eq_ok.1 h
  obtain rfl := pure_eq_ok.1 h
  obtain ⟨rfl, ms', hm', rfl, hne, hmem⟩ := Enumeration.written_of_make hmake
  obtain rfl : ms' = ms := by
    have hmap := Option.some.inj (hm'.symm.trans hm)
    exact List.map_injective_iff.2 (fun s t hst => Value.string.inj hst) hmap
  exact ⟨rfl, hne, hmem⟩

theorem Registers.get?_eq {sets : String → Option (List String)} (h : i.Registers sets) :
    i.enumerations.get? name = (sets name).map Choices.write := by
  induction h with
  | fresh i h =>
      rw [h]
      rfl
  | other i i' sets _ he ih => rw [he, ih]
  | enumerate i i' sets name' members ms _ hm hi ih =>
      rw [(enumerations_of_enumerate hm hi).1, Table.get?_put]
      by_cases hn : name = name'
      · rw [if_pos hn, hn, Function.update_self, Option.map_some]
      · rw [if_neg hn, Function.update_of_ne hn, ih]

theorem Registers.no_bar {sets : String → Option (List String)} (h : i.Registers sets) (hs : sets name = some ms) :
    ms ≠ [] ∧ ∀ m ∈ ms, '|' ∉ m.toList := by
  induction h with
  | fresh => cases hs
  | other _ _ _ _ _ ih => exact ih hs
  | enumerate i i' sets name' members ms' _ hm hi ih =>
      by_cases hn : name = name'
      · rw [hn, Function.update_self] at hs
        obtain rfl := Option.some.inj hs
        obtain ⟨_, hne, hmem⟩ := enumerations_of_enumerate hm hi
        exact ⟨hne, fun m hm => Enumeration.no_bar_of_isMember (hmem m hm)⟩
      · rw [Function.update_of_ne hn] at hs
        exact ih hs

theorem Registers.nodup_names {sets : String → Option (List String)} (h : i.Registers sets) :
    i.enumerations.names.Nodup := by
  induction h with
  | fresh i h =>
      rw [h]
      exact List.nodup_nil
  | other i i' sets _ he ih => rwa [he]
  | enumerate i i' sets name' members ms _ hm hi ih =>
      rw [(enumerations_of_enumerate hm hi).1]
      exact Table.nodup_names_put ih

theorem Registers.get?_enumerations {sets : String → Option (List String)} (h : i.Registers sets)
    (hs : i.enumerations.get? name = some stored) :
    ∃ ms, sets name = some ms ∧ stored = Choices.write ms ∧ ms ≠ [] ∧ ∀ m ∈ ms, '|' ∉ m.toList := by
  rw [h.get?_eq] at hs
  obtain ⟨ms, hms, hwrite⟩ := Option.map_eq_some_iff.1 hs
  exact ⟨ms, hms, hwrite.symm, h.no_bar hms⟩

end Interpreter

end Prompter
