import Prompter.Decimal.Nearest

namespace Prompter.Decimal

/-- The values that round to `mantissa * 2 ^ exponent`, in quarters of the last place. -/
structure Basin where
  value : Nat
  low : Nat
  high : Nat
  exponent : Int
  closed : Bool

def basin (mantissa : Nat) (exponent : Int) : Basin where
  value := 4 * mantissa
  low := if mantissa = Nat.pow 2 52 ∧ -1074 < exponent then 4 * mantissa - 1 else 4 * mantissa - 2
  high := 4 * mantissa + 2
  exponent := exponent - 2
  closed := mantissa % 2 == 0

def Basin.point? (b : Basin) (e : Int) : Option Nat :=
  let grid := Nat.pow 10 e.toNat * Nat.pow 2 (-b.exponent).toNat
  let unit := Nat.pow 2 b.exponent.toNat * Nat.pow 10 (-e).toNat
  let inside (n : Nat) : Bool :=
    let x := n * grid
    if b.closed then b.low * unit ≤ x && x ≤ b.high * unit else b.low * unit < x && x < b.high * unit
  let below := b.value * unit / grid
  match inside below, inside (below + 1) with
  | false, false => none
  | true, false => some below
  | false, true => some (below + 1)
  | true, true =>
      let down := b.value * unit - below * grid
      let up := (below + 1) * grid - b.value * unit
      some (if down < up ∨ (down = up ∧ below % 2 = 0) then below else below + 1)

def Basin.search (b : Basin) : Nat → Int → Nat × Int
  | 0, e => (0, e)
  | steps + 1, e =>
      match b.point? e with
      | some n => if n = 0 then b.search steps (e - 1) else (n, e)
      | none => b.search steps (e - 1)

/-- The decimal digits of a positive finite number and the place of its point, counted from the first digit. -/
def shortest (mantissa : Nat) (exponent : Int) : List Char × Int :=
  let whole := mantissa * Nat.pow 2 exponent.toNat / Nat.pow 2 (-exponent).toNat
  let top := (Nat.toDigits 10 whole).length
  let (n, e) := (basin mantissa exponent).search (top + 345) top
  let digits := Nat.toDigits 10 n
  ((digits.reverse.dropWhile (· = '0')).reverse, digits.length + e)

/-- How numbers are laid out: positional while the first digit stands at most `leading` places right and `trailing`
places left of the point, else with an exponent of at least `exponentWidth` digits. -/
structure Layout where
  leading : Int
  trailing : Int
  exponentWidth : Nat

def layout : Layout := ⟨3, 16, 2⟩

def zeros (n : Int) : List Char := List.replicate n.toNat '0'

def Layout.write (l : Layout) (digits : List Char) (point : Int) : List Char :=
  if -l.leading ≤ point ∧ point ≤ l.trailing then
    if point ≤ 0 then '0' :: '.' :: zeros (-point) ++ digits
    else if digits.length ≤ point then digits ++ zeros (point - digits.length) ++ ['.', '0']
    else digits.take point.toNat ++ '.' :: digits.drop point.toNat
  else
    let exponent := Nat.toDigits 10 (point - 1).natAbs
    let fraction := match digits.drop 1 with
      | [] => []
      | rest => '.' :: rest
    digits.take 1 ++ fraction ++ ['e', if point < 1 then '-' else '+'] ++
      zeros (l.exponentWidth - exponent.length) ++ exponent

def text (x : Float) : String :=
  match parts x with
  | .nan => "nan"
  | .infinite negative => if negative then "-inf" else "inf"
  | .finite negative m e =>
      let body := if m = 0 then ['0', '.', '0'] else
        let (digits, point) := shortest m e
        layout.write digits point
      .ofList (if negative then '-' :: body else body)

end Prompter.Decimal
