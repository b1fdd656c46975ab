import Prompter.Prompt.Check
import Prompter.Value.Number

namespace Prompter.Slot

variable (scope : Scope) (a : Argument)

def originValue : Except Misuse Value :=
  match a.origin with
  | none => .ok .none
  | some (.named name) => scope.valueOf name
  | some o => .ok o.toValue

def sum (kind : Kind) (origin delta : Value) : Except Misuse Value := do
  if kind = .number then return .number ((← origin.toNumber) + (← delta.toNumber))
  else return .integer ((← origin.toInteger) + (← delta.toInteger))

/-- The delta added to an origin. A value of the wrong type is the fault of the prompt, an overflow is not. -/
def addTo (delta origin : Value) : Checked Value :=
  if !a.kind.numeric then .fault (.relativeValue a)
  else match origin with
    | .none => .ok delta
    | _ =>
        match sum a.kind origin delta with
        | .ok v => .ok v
        | .error m =>
            if m.category = .type then .fault (.relativeArithmetic a origin delta m)
            else .error (.misuse m)

/-- The value that is `delta` from the origin. Without a delta it is the origin itself, or zero. -/
def resolve (delta : Option Value) : Checked Value := do
  let origin ← liftM (originValue scope a)
  match delta with
  | some delta => addTo a delta origin
  | none =>
      if !a.kind.numeric then addTo a (.integer 0) origin
      else match origin with
        | .none => return .integer 0
        | origin => return origin

end Prompter.Slot
