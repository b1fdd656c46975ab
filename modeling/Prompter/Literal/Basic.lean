import Prompter.Value.Basic

namespace Prompter

inductive Literal where
  | none
  | boolean (b : Bool)
  | integer (i : Int)
  | number (x : Float)
  | string (s : String)

namespace Literal

def toValue : Literal → Value
  | none => .none
  | boolean b => .boolean b
  | integer i => .integer i
  | number x => .number x
  | string s => .string s

theorem toValue_injective {a b : Literal} (h : a.toValue = b.toValue) : a = b := by
  cases a <;> cases b <;> simp_all [toValue]

def reserved : List (String × Literal) :=
  [("true", boolean true), ("false", boolean false), ("none", none), ("nil", none), ("null", none)]

def ofWord (word : String) : Literal := (reserved.lookup word).getD (string word)

def kindName : Literal → String
  | none => "none"
  | boolean _ => "boolean"
  | integer _ => "integer"
  | number _ => "number"
  | string _ => "string"

theorem kindName?_toValue (l : Literal) : l.toValue.kindName? = some l.kindName := by cases l <;> rfl

def isNumeric : Literal → Bool
  | integer _ | number _ => true
  | _ => false

def isInteger : Literal → Bool
  | integer _ => true
  | _ => false

end Literal

end Prompter
