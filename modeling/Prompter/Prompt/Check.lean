import Prompter.Argument
import Prompter.Prompt.Scope

namespace Prompter

/-- Whether values of this kind are of the type that the kind stands for. Membership in an enumeration is left out. -/
def Kind.takes (kind : Kind) (v : Value) : Bool :=
  match kind with
  | .number => v.isNumeric
  | .integer | .selector => v.isInteger
  | .string | .choice => v.isString

namespace Slot

variable {α : Type} (scope : Scope) (a : Argument) (v : Value)

def members : Checked String :=
  if named a then
    match scope.enumerations a.choices with
    | some stored => .ok stored
    | none => .fault (.unknownEnumeration a)
  else .ok a.choices

def mismatch : Checked α := do
  let kindName ← liftM v.kindName
  .fault (.valueKind a v kindName)

def accepts : Checked Bool :=
  match a.kind, v with
  | .choice, .string s => do
      let stored ← members scope a
      if Choices.holds stored s then return true
      else .fault (.noChoice a s (Choices.members stored))
  | kind, v =>
      if kind.takes v then .ok true
      else if a.optional then .ok false
      else mismatch a v

def insist : Checked Unit := do
  if !(← accepts scope a v) then mismatch a v

end Slot

end Prompter
