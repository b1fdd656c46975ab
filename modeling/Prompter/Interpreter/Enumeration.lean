import Prompter.Choices
import Prompter.Text.Blank
import Prompter.Value.Shown

namespace Prompter.Enumeration

open Text

def nameFrom : Value → Except Misuse String
  | .string name => if name.isEmpty then .error .enumerationName else .ok name
  | _ => .error .enumerationName

def isMember (s : String) : Bool := !s.isEmpty && s.toList.all fun c => c != '|' && !isBlank c

def memberFrom (name : String) : Value → Except Misuse String
  | .string s => if isMember s then .ok s else .error (.enumerationMember name s)
  | _ => .error (.enumerationNotText name)

/-- What a host gives as members. A string is not taken for its characters. -/
def itemsFrom (name : String) (members : Value) : Except Misuse (List Value) :=
  match members, members.items? with
  | .string _, _ | _, none => .error (.enumerationNotIterable name)
  | _, some items => .ok items

def make (name members : Value) : Except Misuse (String × String) := do
  let name ← nameFrom name
  let items ← itemsFrom name members
  if items.isEmpty then throw (.enumerationEmpty name)
  return (name, Choices.write (← items.mapM (memberFrom name)))

end Prompter.Enumeration
