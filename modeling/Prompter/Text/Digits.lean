import Prompter.Text.Numeral

namespace Prompter.Text

variable {base : Nat} {c : Char}

def digitValue? (c : Char) : Option Nat :=
  if isDigit c then some (c.toNat - 48)
  else if 'a' ≤ c ∧ c ≤ 'z' then some (c.toNat - 87)
  else if 'A' ≤ c ∧ c ≤ 'Z' then some (c.toNat - 55)
  else none

def isDigitOf (base : Nat) (c : Char) : Bool := (digitValue? c).any (· < base)

def valueIn (base : Nat) (digits : List Char) : Nat :=
  digits.foldl (fun n c => base * n + (digitValue? c).getD 0) 0

theorem valueIn_concat (digits : List Char) :
    valueIn base (digits ++ [c]) = base * valueIn base digits + (digitValue? c).getD 0 := by
  simp [valueIn]

def numeral? (base : Nat) (text : List Char) : Option Nat :=
  if !text.isEmpty && text.all (isDigitOf base) then some (valueIn base text) else none

def plainDigit (c : Char) : Char := ((decimalValue? c).map Nat.digitChar).getD c

end Prompter.Text

/-- More decimal digits than these are neither read as an integer nor written for one. -/
def Prompter.maxDecimalDigits : Nat := 4300
