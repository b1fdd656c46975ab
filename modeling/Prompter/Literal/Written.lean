import Prompter.Identifier
import Prompter.Literal.Basic
import Prompter.Value.Shown

namespace Prompter

open Text

def isBarePart (c : Char) : Bool := isAlphanumeric c || ['_', '.', '$', '@', ':'].contains c

def isBareWord (text : List Char) : Bool :=
  match text with
  | [] => false
  | c :: rest => (isAlphanumeric c || c == '_') && !isDecimal c && rest.all isBarePart

def quotedText (text : List Char) : List Char :=
  '"' :: text.flatMap (fun c => if c = '\\' ∨ c = '"' then ['\\', c] else [c]) ++ ['"']

def writtenString (s : String) : String :=
  if isBareWord s.toList ∧ (Literal.reserved.lookup s).isNone then s else .ofList (quotedText s.toList)

/-- The literal for a value; values that have none are shown. -/
def Value.written : Value → Except Misuse String
  | .none => .ok "none"
  | .boolean b => .ok (if b then "true" else "false")
  | .string s => .ok (writtenString s)
  | v => v.shown

end Prompter
