import Prompter.Prompt.Basic
import Prompter.Prompt.Relative
import Prompter.Table
import Prompter.Text.Closeness

namespace Prompter

inductive Given where
  | plain (l : Literal)
  | relative (delta : Option Literal)

/-- What a slot without an origin is tried with. -/
def Given.trial : Given → Value
  | .plain l => l.toValue
  | .relative delta => (delta.map Literal.toValue).getD (.integer 0)

namespace Slot

variable (scope : Scope) (a : Argument) (given : Given)

/-- Whether the slot takes what is given. A slot with an origin takes every relative value. -/
def takes : Checked Bool :=
  match given with
  | .plain l => accepts scope a l.toValue
  | .relative _ =>
      if relative a then .ok true
      else if !a.kind.numeric && !a.optional then .fault (.relativeValue a)
      else accepts scope a given.trial

def bound : Checked Value := do
  let v ← match given with
    | .plain l => .ok l.toValue
    | .relative delta => resolve scope a (delta.map Literal.toValue)
  insist scope a v
  return v

end Slot

/-- The values bound so far, the slots that are still open, and the values bound by name. -/
structure Binding where
  args : List Value := []
  vacant : List Argument
  named : Table Value := []

namespace Binding

variable (scope : Scope) (command : Command) (given : Given)

def fill : List Argument → Checked (List Value × List Argument)
  | [] => .fault (.extraValue command)
  | a :: rest => do
      if ← Slot.takes scope a given then return ([← Slot.bound scope a given], rest)
      else
        let (values, rest) ← fill rest
        return (a.default :: values, rest)

def put (b : Binding) : Checked Binding := do
  let (values, vacant) ← fill scope command given b.vacant
  return { b with args := b.args ++ values, vacant }

def keyed (key : Literal) : Checked Argument :=
  match key with
  | .string name =>
      match command.keyword? name with
      | some a => .ok a
      | none =>
          .fault (.unknownKeyword command name (Text.closeNames name (command.keyword.map (·.name))))
  | key => .fault (.keywordName key)

def putNamed (a : Argument) (b : Binding) : Checked Binding := do
  return { b with named := b.named.put a.name (← Slot.bound scope a given) }

def omitted (byName : Bool) (a : Argument) : Checked Value :=
  if a.optional then .ok a.default else .fault (.missing command a byName)

def complete (b : Binding) : Checked Prompt := do
  let rest ← b.vacant.mapM (omitted command false)
  let unnamed ← (command.keyword.filter fun a => !b.named.has a.name).mapM fun a =>
    return (a.name, ← omitted command true a)
  return ⟨command, b.args ++ rest, (b.named ++ unnamed).map fun (name, v) => (.string name, v)⟩

end Binding

end Prompter
