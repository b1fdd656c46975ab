import Prompter.Decimal.Nearest
import Prompter.Literal.Basic
import Prompter.Reader
import Prompter.Text.Digits

namespace Prompter

open Text Reader

def bases : List (Char × Nat) := [('x', 16), ('o', 8), ('b', 2)]

/-- The digits may begin with the zero and the base letter once more. -/
def dropBase (base : Nat) (digits : List Char) : List Char :=
  match digits with
  | '0' :: letter :: rest => if bases.lookup letter.toLower = some base then rest else digits
  | _ => digits

def basedValue? (base : Nat) (digits : List Char) : Option Nat :=
  numeral? base (dropBase base (digits.map plainDigit))

inductive Numeral where
  | integer (n : Nat)
  /-- The number `mantissa * 10 ^ exponent`, which is floating-point. -/
  | scaled (mantissa : Nat) (exponent : Int)

def boundedInteger (start : Nat) (i : Int) : Reader Literal :=
  if -0x8000000000000000 ≤ i ∧ i < 0x8000000000000000 then pure (.integer i) else failAt start (.number .integerRange)

def boundedNumber (start : Nat) (sign : Int) (mantissa : Nat) (exponent : Int) : Reader Literal :=
  match Decimal.ofInt? sign, Decimal.ofScaled? mantissa exponent with
  | some s, some x =>
      if Decimal.isFinite (s * x) then pure (.number (s * x)) else failAt start (.number .numberRange)
  | _, _ => failAt start (.number .numberRange)

def Numeral.signed (start : Nat) (sign : Int) : Numeral → Reader Literal
  | integer n => boundedInteger start (sign * n)
  | scaled mantissa exponent => boundedNumber start sign mantissa exponent

def readNumberEnd (start : Nat) : Reader Unit := do
  if (← ahead).head?.any fun c => isAlphanumeric c || c == '_' || c == '.' then
    failAt start (.number .gluedText)

/-- The digits of a fraction; a point without a digit behind it begins none. -/
def readFraction : Reader (Option (List Char)) := do
  match ← ahead with
  | '.' :: c :: _ =>
      if isDigit c then
        skip 1
        return some (← takeWhile isDigit)
      else return none
  | _ => return none

def readExponentSign : Reader Int := do
  match ← ahead with
  | '+' :: _ => do
      skip 1
      return 1
  | '-' :: _ => do
      skip 1
      return -1
  | _ => return 1

def readExponent (start : Nat) : Reader (Option Int) := do
  match ← ahead with
  | c :: _ =>
      if c = 'e' ∨ c = 'E' then
        skip 1
        let sign ← readExponentSign
        let digits ← takeWhile isDigit
        if digits.isEmpty then failAt start (.number .exponentDigits)
        return some (sign * valueIn 10 digits)
      else return none
  | [] => return none

def readBased (start base : Nat) : Reader Numeral := do
  skip 2
  match basedValue? base (← takeWhile isAlphanumeric) with
  | none => failAt start (.number (.baseDigits base))
  | some n =>
      readNumberEnd start
      return .integer n

def readDecimal (start : Nat) : Reader Numeral := do
  let whole ← takeWhile isDigit
  let fraction ← readFraction
  let exponent ← readExponent start
  readNumberEnd start
  match fraction, exponent with
  | none, none =>
      if whole.length ≤ maxDecimalDigits then return .integer (valueIn 10 whole)
      else failAt start (.number .integerRange)
  | fraction, exponent =>
      let places := fraction.getD []
      return .scaled (valueIn 10 (whole ++ places)) (exponent.getD 0 - places.length)

def baseAt? : List Char → Option Nat
  | '0' :: letter :: _ => bases.lookup letter.toLower
  | _ => none

def readNumeral : Reader Numeral := do
  let start ← offset
  let text ← ahead
  if !text.head?.any isDigit then failAt start (.number .digitExpected)
  else match baseAt? text with
    | some base => readBased start base
    | none => readDecimal start

def readNumber (sign : Int) : Reader Literal := do
  let start ← offset
  (← readNumeral).signed start sign

/-- The number at the cursor times a factor of the host. A floating-point number takes only factors that have a
floating-point number near. -/
def readMultiple (factor : Int) : BuildReader Literal := do
  let start ← offset
  let n ← liftM readNumeral
  match n, Decimal.ofInt? factor with
  | .scaled .., none => throw (.misuse .numberOverflow)
  | n, _ => liftM (n.signed start factor)

variable {start base : Nat} {sign : Int} {c d : Cursor} {n : Numeral}

theorem forward_boundedInteger (start : Nat) (i : Int) : Forward (boundedInteger start i) := by
  unfold boundedInteger
  split
  · exact forward_pure _
  · exact (advances_failAt _ _).forward

theorem forward_boundedNumber (start : Nat) (sign : Int) (mantissa : Nat) (exponent : Int) :
    Forward (boundedNumber start sign mantissa exponent) := by
  unfold boundedNumber
  split
  · split
    · exact forward_pure _
    · exact (advances_failAt _ _).forward
  · exact (advances_failAt _ _).forward

theorem forward_signed (start : Nat) (sign : Int) (n : Numeral) : Forward (n.signed start sign) := by
  cases n with
  | integer => exact forward_boundedInteger _ _
  | scaled => exact forward_boundedNumber _ _ _ _

theorem forward_readNumberEnd (start : Nat) : Forward (readNumberEnd start) := by
  refine forward_ahead.bind fun text => ?_
  split
  · exact (advances_failAt _ _).forward
  · exact forward_pure _

theorem forward_readFraction : Forward readFraction := by
  refine forward_ahead.bind fun text => ?_
  split
  · split
    · exact (forward_skip _).bind fun _ => (forward_takeWhile _).bind fun _ => forward_pure _
    · exact forward_pure _
  · exact forward_pure _

theorem forward_readExponentSign : Forward readExponentSign := by
  refine forward_ahead.bind fun text => ?_
  split
  · exact (forward_skip _).bind fun _ => forward_pure _
  · exact (forward_skip _).bind fun _ => forward_pure _
  · exact forward_pure _

theorem forward_readExponent (start : Nat) : Forward (readExponent start) := by
  refine forward_ahead.bind fun text => ?_
  split
  · split
    · refine (forward_skip _).bind fun _ => forward_readExponentSign.bind fun _ =>
        (forward_takeWhile _).bind fun digits => ?_
      simp only
      split
      · exact ((advances_failAt _ _).bind fun _ => forward_pure _).forward
      · exact forward_pure _
    · exact forward_pure _
  · exact forward_pure _

theorem passes_of_readBased (hc : c.ahead ≠ []) (h : readBased start base c = .ok n d) : c.Passes d := by
  obtain ⟨_, e, hs, hr⟩ := bind_eq_ok.1 h
  rw [skip_eq_ok] at hs
  subst hs
  refine (Cursor.passes_skip hc Nat.two_pos).trans_reaches ?_
  refine (forward_takeWhile isAlphanumeric).bind (fun digits => ?_) _ _ _ hr
  split
  · exact (advances_failAt _ _).forward
  · exact (forward_readNumberEnd _).bind fun _ => forward_pure _

theorem passes_of_readDecimal (hc : c.ahead.head?.any isDigit = true) (h : readDecimal start c = .ok n d) :
    c.Passes d := by
  obtain ⟨whole, e, hw, hr⟩ := bind_eq_ok.1 h
  have he : e = c.skip (c.ahead.takeWhile isDigit).length := by
    cases hw
    rfl
  have hfirst : c.Passes e := by
    subst he
    cases ha : c.ahead with
    | nil => simp [ha] at hc
    | cons x rest =>
        have hx : isDigit x = true := by simpa [ha] using hc
        exact Cursor.passes_skip (by simp [ha]) (by simp [hx])
  refine hfirst.trans_reaches (forward_readFraction.bind (fun fraction => (forward_readExponent _).bind fun exponent =>
    (forward_readNumberEnd _).bind fun _ => ?_) _ _ _ hr)
  split
  · split
    · exact forward_pure _
    · exact (advances_failAt _ _).forward
  · exact forward_pure _

theorem advances_readNumeral : Advances readNumeral := by
  intro c n d h
  obtain ⟨_, _, h₁, h⟩ := bind_eq_ok.1 h
  cases h₁
  obtain ⟨_, _, h₁, h⟩ := bind_eq_ok.1 h
  cases h₁
  split at h
  · cases h
  · next hc =>
      have hc : c.ahead.head?.any isDigit = true := by simpa using hc
      cases hb : baseAt? c.ahead with
      | some base =>
          rw [hb] at h
          exact passes_of_readBased (by rintro ha; simp [ha] at hc) h
      | none =>
          rw [hb] at h
          exact passes_of_readDecimal hc h

theorem advances_readNumber (sign : Int) : Advances (readNumber sign) :=
  forward_offset.bind_advances fun _ => advances_readNumeral.bind fun _ => forward_signed _ _ _

end Prompter
