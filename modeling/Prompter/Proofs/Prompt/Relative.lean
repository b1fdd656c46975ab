import Prompter.Proofs.Prompt.About
import Prompter.Proofs.Prompt.Overflow
import Prompter.Proofs.Prompt.Spacing

namespace Prompter

open Checked

variable {scope : Scope} {command : Command} {a : Argument} {v o : Value} {given : Given} {delta : Option Literal}
  {item : Item} {before after : List Item} {b b' : Binding}

/-- The value that a slot for integers or for numbers receives at a delta from an origin. Integers are added exactly,
numbers as floating-point numbers; without an origin or without a delta the other one stands as it is. -/
inductive Kind.Adds (kind : Kind) : Value → Option Literal → Value → Prop
  | zero : Adds kind .none none (.integer 0)
  | delta {d : Literal} (hd : kind.takes d.toValue = true) : Adds kind .none (some d) d.toValue
  | origin {o : Value} (ho : kind.takes o = true) : Adds kind o none o
  | integers {i j : Int} (hk : kind = .integer) : Adds kind (.integer i) (some (.integer j)) (.integer (i + j))
  | numbers {o : Value} {d : Literal} {x y : Float} (hk : kind = .number) (ho : o.toNumber = .ok x)
      (hd : d.toValue.toNumber = .ok y) : Adds kind o (some d) (.number (x + y))

inductive Slot.HasOrigin (scope : Scope) (a : Argument) : Value → Prop
  | integer {i : Int} (h : a.origin = some (.integer i)) : HasOrigin scope a (.integer i)
  | number {x : Float} (h : a.origin = some (.number x)) : HasOrigin scope a (.number x)
  | named {name : String} {v : Value} (h : a.origin = some (.named name)) (hv : scope.valueOf name = .ok v) :
      HasOrigin scope a v

namespace Kind

variable {k : Kind}

theorem Adds.takes (h : k.Adds o delta v) (hk : k = .integer ∨ k = .number) : k.takes v = true := by
  cases h with
  | zero => rcases hk with rfl | rfl <;> rfl
  | delta hd => exact hd
  | origin ho => exact ho
  | integers hk | numbers hk =>
      rw [hk]
      rfl

end Kind

namespace Slot

theorem HasOrigin.relative (h : a.HasOrigin scope o) : a.relative = true := by
  cases h with
  | integer h | number h | named h => rw [Slot.relative, h, Option.isSome_some]

theorem HasOrigin.kindName?_isSome (h : a.HasOrigin scope o) (hv : scope.Total) : o.kindName?.isSome := by
  cases h with
  | integer | number => rfl
  | @named name _ _ h =>
      obtain ⟨v, hname, hdynamic⟩ := hv name
      obtain rfl := Except.ok.inj (h.symm.trans hname)
      exact hdynamic.kindName?_isSome

end Slot

namespace Binding

variable {put : Value → Binding} {passed rest : List Argument}

end Binding

namespace Prompt

variable {commands : Table Command} {source : Source} {name : String} {items : List Item} {put : Value → Binding}

end Prompt

namespace Interpreter

variable {i : Interpreter} {r : Repository} {c : Command} {name text label : String} {put : Value → Binding}

end Interpreter

end Prompter
