import Prompter.Decimal.Shortest
import Prompter.Text.Digits
import Prompter.Text.Pieces
import Prompter.Value.Basic

namespace Prompter

open Text

/-- The decimal digits of an integer behind its sign, when there are not too many. -/
def integerText (i : Int) : Except Misuse String :=
  if (Nat.toDigits 10 i.natAbs).length ≤ maxDecimalDigits then .ok (toString i) else .error .tooManyDigits

def Kind.shown (k : Kind) : String := "<ArgType." ++ k.symbol ++ ": " ++ Text.shown k.keyword ++ ">"

namespace Value

def shownBool (b : Bool) : String := if b then "True" else "False"

def shownTuple : List String → String
  | [item] => "(" ++ item ++ ",)"
  | items => "(" ++ commas ", " items ++ ")"

def shownBraces (items : List String) : String := "\x7b" ++ commas ", " items ++ "\x7d"

def shownList (items : List String) : String := "[" ++ commas ", " items ++ "]"

def shownView (entries : List String) : String := "mappingproxy(" ++ shownBraces entries ++ ")"

def shownSet : List String → String
  | [] => "set()"
  | items => shownBraces items

def shownFrozenSet : List String → String
  | [] => "frozenset()"
  | items => "frozenset(" ++ shownBraces items ++ ")"

def shownOrigin : Option Origin → Except Misuse String
  | Option.none => return "None"
  | some (.integer i) => integerText i
  | some (.number x) => return Decimal.text x
  | some (.named name) => return Text.shown name

mutual

def shownAs (view : Bool) : Value → Except Misuse String
  | none => return "None"
  | boolean b => return shownBool b
  | integer i => integerText i
  | number x => return Decimal.text x
  | string s => return Text.shown s
  | list items => return (if view then shownTuple else shownList) (← shownItems items)
  | map entries => return (if view then shownView else shownBraces) (← shownEntries entries)
  | tuple items => return shownTuple (← shownItems items)
  | .view entries => return shownView (← shownEntries entries)
  | set items => return (if view then shownFrozenSet else shownSet) (← shownItems items)
  | frozenSet items => return shownFrozenSet (← shownItems items)
  | bytes content => return shownBytes content
  | byteArray content => return "bytearray(" ++ shownBytes content ++ ")"
  | unset => return "Unset"
  | kind k => return k.shown
  | argument a => shownSlot a
  | command ⟨name, positional, keyword, _⟩ =>
      return "command(name=" ++ Text.shown name ++ ", positional=" ++ shownTuple (← shownSlots positional) ++
        ", keyword=" ++ shownView (← shownKeyed keyword) ++ ")"
  | routine _ => return "<function>"
  | thing => return "<Thing object>"

def shownItems : List Value → Except Misuse (List String)
  | [] => return []
  | v :: rest => return (← shownAs false v) :: (← shownItems rest)

def shownEntries : List (Value × Value) → Except Misuse (List String)
  | [] => return []
  | (k, v) :: rest => return ((← shownAs false k) ++ ": " ++ (← shownAs false v)) :: (← shownEntries rest)

def shownSlot : Slot Value → Except Misuse String
  | ⟨name, sort, optional, initial, origin, choices⟩ =>
      return "argument(name=" ++ Text.shown name ++ ", type=" ++ sort.shown ++ ", optional=" ++ shownBool optional ++
        ", default=" ++ (← shownAs true initial) ++ ", origin=" ++ (← shownOrigin origin) ++ ", enumeration=" ++
        Text.shown choices ++ ")"

def shownSlots : List (Slot Value) → Except Misuse (List String)
  | [] => return []
  | a :: rest => return (← shownSlot a) :: (← shownSlots rest)

def shownKeyed : List (Slot Value) → Except Misuse (List String)
  | [] => return []
  | a :: rest => return (Text.shown a.name ++ ": " ++ (← shownSlot a)) :: (← shownKeyed rest)

end

def shown (v : Value) : Except Misuse String := shownAs false v

def plain : Value → Except Misuse String
  | string s => return s
  | kind k => return "ArgType." ++ k.symbol
  | v => v.shown

def quoted (v : Value) : Except Misuse String := return quoteName (← v.plain)

/-- The text of a value where it has one, else its type. A key that is not found is reported in any case. -/
def reported (v : Value) : String :=
  match v.shown with
  | .ok text => text
  | .error _ => v.typeName

end Value

end Prompter
