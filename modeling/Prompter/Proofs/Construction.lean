import Prompter.Command
import Prompter.Proofs.Reading

namespace Prompter

open Checked

variable {owner name : String} {kind : Kind} {optional : Bool} {initial given executor : Value} {choices : String}
  {a : Argument} {c : Command}

theorem nameOf_eq_ok {n : String} : nameOf owner (.string name) = .ok n ↔ name ≠ "" ∧ name = n := by
  simp only [nameOf]
  split
  · next h => simp_all
  · next h => simp_all

namespace Slot

theorem choicesFor_eq_ok {s : String} :
    choicesFor name kind (.string choices) = .ok s ↔ (choices ≠ "" ↔ kind = .choice) ∧ choices = s := by
  simp only [choicesFor]
  by_cases hk : kind = .choice <;> by_cases hc : choices = "" <;> simp_all

theorem originFor_eq_ok {o : Option Origin} :
    originFor name kind given = .ok o ↔ given = Origin.asValue o ∧ (o.isSome → kind.numeric = true) := by
  cases given
  case integer | number | string =>
      cases o with
      | none => cases hk : kind.numeric <;> simp [originFor, Origin.ofValue?, Origin.asValue, hk]
      | some o => cases hk : kind.numeric <;> cases o <;>
          simp [originFor, Origin.ofValue?, Origin.asValue, Origin.toValue, hk, eq_comm]
  all_goals
      cases o with
      | none => simp [originFor, Origin.ofValue?, Origin.asValue]
      | some o => cases o <;> simp [originFor, Origin.ofValue?, Origin.asValue, Origin.toValue]

theorem kindName_eq_ok {v : Value} {u : Unit} :
    (discard v.kindName : Except Misuse Unit) = .ok u ↔ v.kindName?.isSome := by
  rw [Value.kindName]
  cases v.kindName? <;> simp [discard, Functor.mapConst, Except.map]

theorem make_eq_ok :
    make ⟨.string name, .kind kind, .boolean optional, initial, given, .string choices⟩ = .ok a ↔
      name ≠ "" ∧ (optional = false → initial = .none) ∧ initial.kindName?.isSome ∧
        (choices ≠ "" ↔ kind = .choice) ∧
        ∃ o, originFor name kind given = .ok o ∧ ⟨name, kind, optional, initial, o, choices⟩ = a := by
  rw [make]
  simp only [bind_eq_ok, nameOf_eq_ok]
  constructor
  · rintro ⟨n, ⟨hn, rfl⟩, h⟩
    have hi : optional = false → initial = .none := by
      rintro rfl
      split at h
      · contradiction
      · rfl
      · cases h
    split at h
    case h_3 => cases h
    all_goals
      simp only [bind_eq_ok, kindName_eq_ok, choicesFor_eq_ok, pure_eq_ok] at h
      obtain ⟨_, hk, o, ho, s, ⟨hc, rfl⟩, rfl⟩ := h
      exact ⟨hn, hi, hk, hc, o, ho, rfl⟩
  · rintro ⟨hn, hi, hk, hc, o, ho, rfl⟩
    refine ⟨name, ⟨hn, rfl⟩, ?_⟩
    split
    case h_3 h₁ h₂ =>
      cases optional with
      | true => exact absurd rfl h₂
      | false => exact absurd (hi rfl) h₁
    all_goals
      simp only [bind_eq_ok, kindName_eq_ok, choicesFor_eq_ok, pure_eq_ok]
      exact ⟨(), hk, o, ho, choices, ⟨hc, rfl⟩, rfl⟩

end Slot

namespace Signature

variable {notArgument : Misuse} {repeated : String → Misuse} {acc slots slots' : List Argument}

theorem nodup_names_concat (hacc : (acc.map (·.name)).Nodup) (ha : a.name ∉ acc.map (·.name)) :
    ((acc ++ [a]).map (·.name)).Nodup := by
  rw [List.map_append, List.nodup_append]
  refine ⟨hacc, by simp, ?_⟩
  rintro n hn m hm rfl
  obtain rfl : n = a.name := by simpa using hm
  exact ha hn

theorem slotsFrom_eq_ok (hacc : (acc.map (·.name)).Nodup) :
    slotsFrom notArgument repeated acc (slots.map .argument) = .ok slots' ↔
      ((acc ++ slots).map (·.name)).Nodup ∧ acc ++ slots = slots' := by
  induction slots generalizing acc with
  | nil => simp [slotsFrom, hacc]
  | cons a rest ih =>
      rw [List.map_cons, slotsFrom]
      by_cases ha : a.name ∈ acc.map (·.name)
      · have hrep : acc.any (·.name == a.name) = true := by simpa using ha
        have hdup : ¬((acc ++ a :: rest).map (·.name)).Nodup := by
          rw [List.map_append, List.map_cons, List.nodup_append]
          rintro ⟨_, _, h⟩
          exact h _ ha _ List.mem_cons_self rfl
        rw [hrep, if_pos rfl]
        exact ⟨nofun, fun h => absurd h.1 hdup⟩
      · have hnew : acc.any (·.name == a.name) = false := by simpa using ha
        rw [hnew, if_neg (by simp), ih (nodup_names_concat hacc ha), List.append_assoc, List.singleton_append]

theorem nodup_of_slotsFrom {given : List Value} (h : slotsFrom notArgument repeated acc given = .ok slots)
    (hacc : (acc.map (·.name)).Nodup) : (slots.map (·.name)).Nodup := by
  fun_induction slotsFrom notArgument repeated acc given with
  | case1 =>
      obtain rfl := Except.ok.inj h
      exact hacc
  | case2 => cases h
  | case3 acc a rest hnew ih => exact ih h (nodup_names_concat hacc (by simpa using hnew))
  | case4 => cases h

theorem make_eq_ok {positional keyword : List Argument} :
    make ⟨.string name, .tuple (positional.map .argument), .tuple (keyword.map .argument), executor⟩ = .ok c ↔
      name ≠ "" ∧ (positional.map (·.name)).Nodup ∧ (keyword.map (·.name)).Nodup ∧
        ⟨name, positional, keyword, executor.frozen⟩ = c := by
  simp only [make, bind_eq_ok, nameOf_eq_ok, positionalFrom, keywordFrom, Value.items?,
    slotsFrom_eq_ok, List.map_nil, List.nodup_nil, List.nil_append, pure_eq_ok]
  constructor
  · rintro ⟨_, ⟨hn, rfl⟩, _, ⟨hp, rfl⟩, _, ⟨hk, rfl⟩, rfl⟩
    exact ⟨hn, hp, hk, rfl⟩
  · rintro ⟨hn, hp, hk, rfl⟩
    exact ⟨name, ⟨hn, rfl⟩, positional, ⟨hp, rfl⟩, keyword, ⟨hk, rfl⟩, rfl⟩

theorem nodup_of_make {draft : Draft} (h : make draft = .ok c) : (c.keyword.map (·.name)).Nodup := by
  obtain ⟨_, _, h⟩ := bind_eq_ok.1 h
  obtain ⟨_, _, h⟩ := bind_eq_ok.1 h
  obtain ⟨keyword, hkeyword, h⟩ := bind_eq_ok.1 h
  obtain rfl := pure_eq_ok.1 h
  unfold keywordFrom at hkeyword
  dsimp only at hkeyword
  split at hkeyword
  · cases hkeyword
  · exact nodup_of_slotsFrom hkeyword List.nodup_nil

end Signature

end Prompter
