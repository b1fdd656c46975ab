import Prompter.Decimal.Nearest
import Prompter.Value.Basic

namespace Prompter.Value

def toNumber : Value → Except Misuse Float
  | integer i =>
      match Decimal.ofInt? i with
      | some x => .ok x
      | Option.none => .error .numberOverflow
  | number x => .ok x
  | v => .error (.numberExpected v.kindOrType)

def toInteger : Value → Except Misuse Int
  | integer i => .ok i
  | v => .error (.integerExpected v.kindOrType)

def toCount : Value → Except Misuse Int
  | boolean b => .ok (if b then 1 else 0)
  | integer i => .ok i
  | number x =>
      match Decimal.parts x with
      | .finite negative m e => .ok (if negative then -(Decimal.wholePart m e : Int) else Decimal.wholePart m e)
      | .infinite _ => .error .countInfinite
      | .nan => .error .countNotANumber
  | v => .error (.countExpected v.typeName)

end Prompter.Value
