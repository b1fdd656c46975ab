import Prompter.Text.Visible

namespace Prompter.Text

def quoteName (name : String) : String :=
  .ofList ('\'' :: name.toList.flatMap (fun c => if c = '\'' then ['\\', c] else [c]) ++ ['\''])

def hexDigits : Nat → Nat → List Char
  | 0, _ => []
  | width + 1, n => hexDigits width (n / 16) ++ [Nat.digitChar (n % 16)]

theorem length_hexDigits (width n : Nat) : (hexDigits width n).length = width := by
  induction width generalizing n with
  | zero => rfl
  | succ width ih => simp [hexDigits, ih]

/-- Double quotes are used for a text that holds single quotes only. -/
def quoteFor (text : List Char) : Char := if '\'' ∈ text ∧ '"' ∉ text then '"' else '\''

def escapedCode (n : Nat) : List Char :=
  if n < 0x100 then '\\' :: 'x' :: hexDigits 2 n
  else if n < 0x10000 then '\\' :: 'u' :: hexDigits 4 n
  else '\\' :: 'U' :: hexDigits 8 n

def shownChar (quote c : Char) : List Char :=
  if c = quote ∨ c = '\\' then ['\\', c]
  else if c = '\n' then ['\\', 'n']
  else if c = '\r' then ['\\', 'r']
  else if c = '\t' then ['\\', 't']
  else if isVisible c then [c]
  else escapedCode c.toNat

def shown (text : String) : String :=
  let quote := quoteFor text.toList
  .ofList (quote :: text.toList.flatMap (shownChar quote) ++ [quote])

def shownByte (quote : Char) (b : UInt8) : List Char :=
  if b < 0x7f then shownChar quote (Char.ofNat b.toNat) else escapedCode b.toNat

def shownBytes (bytes : List UInt8) : String :=
  let quote := quoteFor (bytes.map fun b => Char.ofNat b.toNat)
  .ofList (['b', quote] ++ bytes.flatMap (shownByte quote) ++ [quote])

end Prompter.Text
