import Prompter.Value.Basic

namespace Prompter

structure Source where
  text : String
  label : String

namespace Source

def defaultLabel : String := "<string>"

def make (text label : Value) : Except Misuse Source :=
  match text, label with
  | .string text, .string label => .ok ⟨text, label⟩
  | .string _, _ => .error .labelNotText
  | _, _ => .error .sourceNotText

end Source

end Prompter
