import Prompter.Fault.Code
import Prompter.Rendering

namespace Prompter

structure Host where
  program : String := "herald"
  styles : Palette := []
  labels : List (FaultCode × String) := []
  docs : List (FaultCode × String) := []

namespace Host

variable (host : Host)

def label (code : FaultCode) : String := (host.labels.lookup code).getD (toString code.number)

def doc? (code : FaultCode) : Option String := host.docs.lookup code

end Host

end Prompter
