import Prompter.Misuse

namespace Prompter

inductive Failure (α : Type) where
  | fault (a : α)
  | misuse (m : Misuse)

def Failure.map {α β : Type} (f : α → β) : Failure α → Failure β
  | fault a => fault (f a)
  | misuse m => misuse m

/-- The failure with its fault told. What cannot be told is the host's. -/
def Failure.told {α β : Type} (tell : α → Except Misuse β) : Failure α → Failure β
  | fault a =>
      match tell a with
      | .ok b => fault b
      | .error m => misuse m
  | misuse m => misuse m

section

variable {α β : Type} {tell : α → Except Misuse β} {x : Failure α} {b : β} {m : Misuse}

theorem Failure.told_of_ok {a : α} (h : tell a = .ok b) : (fault a).told tell = fault b := by rw [told, h]

theorem Failure.told_of_error {a : α} (h : tell a = .error m) : (fault a).told tell = misuse m := by rw [told, h]

theorem Failure.told_eq_fault : x.told tell = fault b ↔ ∃ a, x = fault a ∧ tell a = .ok b := by
  cases x with
  | misuse => simp [told]
  | fault a =>
      cases h : tell a with
      | ok b' => simp [told_of_ok h, h]
      | error m => simp [told_of_error h, h]

end

instance {α : Type} : MonadLift (Except Misuse) (Except (Failure α)) := ⟨Except.mapError .misuse⟩

end Prompter
