import Prompter.Failure
import Prompter.Fault.Cause

namespace Prompter

structure Scope where
  /-- The values of variables by name. -/
  valueOf : String → Except Misuse Value
  /-- Members of enumerations by name, as one text `|a|b|`. -/
  enumerations : String → Option String

def Scope.empty : Scope where
  valueOf _ := .ok .none
  enumerations _ := none

abbrev Checked := Except (Failure Cause)

namespace Checked

variable {α : Type}

def fault (cause : Cause) : Checked α := .error (.fault cause)

end Checked

end Prompter
