namespace Prompter.Decimal

def roundHalfEven (num den : Nat) : Nat :=
  let q := num / den
  let r := num % den
  if den < 2 * r ∨ (2 * r = den ∧ q % 2 = 1) then q + 1 else q

def scaledByTwo (num den : Nat) (e : Int) : Nat × Nat :=
  (num * Nat.pow 2 (-e).toNat, den * Nat.pow 2 e.toNat)

/-- The exponent of the last place of the number nearest to a positive value: 53 bits, or the least exponent. -/
def lastPlace (num den : Nat) : Int :=
  let e : Int := (num.log2 : Int) - den.log2 - 53
  let (n, d) := scaledByTwo num den e
  max (if n / d < Nat.pow 2 53 then e else e + 1) (-1074)

/-- The bit pattern of the positive number nearest to `num / den`, if it is finite. -/
def nearestBits? (num den : Nat) : Option Nat :=
  if num = 0 then some 0
  else
    let e := lastPlace num den
    let (n, d) := scaledByTwo num den e
    let bits := (e + 1074).toNat * Nat.pow 2 52 + roundHalfEven n d
    if bits < 0x7ff * Nat.pow 2 52 then some bits else none

def nearest? (num den : Nat) : Option Float :=
  (nearestBits? num den).map fun bits => Float.ofBits (UInt64.ofNat bits)

def ofInt? (i : Int) : Option Float :=
  (nearest? i.natAbs 1).map fun x => if i < 0 then -x else x

/-- The number nearest to `m * 10 ^ e`, if it is finite. Exponents far outside the range are settled by the size
of the value alone. -/
def ofScaled? (m : Nat) (e : Int) : Option Float :=
  let size : Int := (Nat.toDigits 10 m).length + e
  if m = 0 ∨ size < -330 then some (Float.ofBits 0)
  else if 400 < size then none
  else nearest? (m * Nat.pow 10 e.toNat) (Nat.pow 10 (-e).toNat)

inductive Parts where
  | nan
  | infinite (negative : Bool)
  | finite (negative : Bool) (mantissa : Nat) (exponent : Int)

def parts (x : Float) : Parts :=
  let bits : Nat := x.toBits.toNat
  let negative := Nat.pow 2 63 ≤ bits
  let biased : Nat := bits / Nat.pow 2 52 % 2048
  let fraction : Nat := bits % Nat.pow 2 52
  if biased = 2047 then if fraction = 0 then .infinite negative else .nan
  else if biased = 0 then .finite negative fraction (-1074)
  else .finite negative (fraction + Nat.pow 2 52) ((biased : Int) - 1075)

def isFinite (x : Float) : Bool :=
  match parts x with
  | .finite .. => true
  | _ => false

def wholePart (m : Nat) (e : Int) : Nat := m * Nat.pow 2 e.toNat / Nat.pow 2 (-e).toNat

def equalsInt (x : Float) (i : Int) : Bool :=
  match parts x with
  | .finite negative m e =>
      let signed : Int := if negative then -m else m
      signed * Nat.pow 2 e.toNat == i * Nat.pow 2 (-e).toNat
  | _ => false

end Prompter.Decimal
