import Prompter.Interpreter.Enumeration
import Prompter.Interpreter.Variables
import Prompter.Prompt.Reader
import Prompter.Repository

namespace Prompter

structure Interpreter where
  repository : Nat
  vars : Variables := .none
  enumerations : Table String := []
  presentation : Presentation := {}

namespace Interpreter

variable (i : Interpreter) (r : Repository)

def scope : Scope where
  valueOf name := i.vars.get (.string name)
  enumerations := i.enumerations.get?

def enumerate (name members : Value) : Except Misuse Interpreter := do
  let (name, stored) ← Enumeration.make name members
  return { i with enumerations := i.enumerations.put name stored }

def enumerationView : Value :=
  .view (i.enumerations.map fun (name, stored) =>
    (.string name, .tuple ((Choices.members stored).map .string)))

def parse (text label : Value) : Except (Failure Fault) Prompt := do
  Prompt.parse i.scope r.commands (← Source.make text label)

theorem parse_string {text label : String} :
    i.parse r (.string text) (.string label) = Prompt.parse i.scope r.commands ⟨text, label⟩ := rfl

theorem parse_of_misuse {text label : Value} {m : Misuse} (h : Source.make text label = .error m) :
    i.parse r text label = .error (.misuse m) := by
  rw [parse, h]
  rfl

end Interpreter

def Slot.choicesValue (a : Argument) : Value :=
  if a.kind ≠ .choice then .none
  else if a.named then .string ("$" ++ a.choices)
  else .list ((Choices.members a.choices).map .string)

def Slot.description (a : Argument) : Value :=
  .map [
    (.string "name", .string a.name), (.string "type", .string a.kind.keyword),
    (.string "optional", .boolean a.optional), (.string "default", a.default),
    (.string "origin", Origin.asValue a.origin), (.string "enumeration", a.choicesValue)]

structure Description where
  name : String
  usage : String
  positional : List Value
  keyword : Table Value

def Signature.description (c : Command) : Except Misuse Description := do
  return {
    name := c.name
    usage := ← c.usage
    positional := c.positional.map Slot.description
    keyword := c.keyword.map fun a => (a.name, a.description) }

end Prompter
