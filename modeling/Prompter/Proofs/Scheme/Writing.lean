import Prompter.Argument
import Prompter.Proofs.Yielding

namespace Prompter

inductive Quote where
  | single
  | double

/-- White space between the parts of a text, perhaps none. -/
structure Gap where
  text : List Char
  blank : Reader.IsGap text

namespace Quote

variable (q : Quote)

def char : Quote → Char
  | single => '\''
  | double => '"'

def escaped (c : Char) : List Char :=
  if c = '\n' then ['\\', 'n']
  else if c = '\\' ∨ c = q.char then ['\\', c]
  else [c]

def quoted (s : String) : List Char := q.char :: s.toList.flatMap q.escaped ++ [q.char]

end Quote

def decimalText (i : Int) : List Char := (if i < 0 then ['-'] else []) ++ Nat.toDigits 10 i.natAbs

namespace Value

/-- The constants that are written: nothing, integers of 64 bits, and strings. -/
inductive Plain : Value → Prop
  | none : Plain none
  | integer (i : Int) (h : -0x8000000000000000 ≤ i ∧ i < 0x8000000000000000) : Plain (integer i)
  | string (s : String) : Plain (string s)

def constantText (q : Quote) : Value → List Char
  | none => "none".toList
  | integer i => decimalText i
  | string s => q.quoted s
  | _ => []

end Value

structure Modifier.Layout where
  before : Gap
  behind : Gap
  quote : Quote

inductive Modifier where
  | initial (layout : Modifier.Layout) (v : Value)
  | origin (layout : Modifier.Layout) (v : Value)

def Modifier.text : Modifier → List Char
  | initial l v => l.before.text ++ '=' :: (l.behind.text ++ v.constantText l.quote)
  | origin l v => l.before.text ++ '~' :: (l.behind.text ++ v.constantText l.quote)

structure Slot.Layout where
  name : Quote
  colon : Gap
  initial : Modifier.Layout
  origin : Modifier.Layout
  originFirst : Bool
  behind : Gap

namespace Slot

/-- The constants of an argument can be written. -/
structure Plain (a : Argument) : Prop where
  initial : a.initial.Plain
  origin : ∀ o, a.origin = some o → o.toValue.Plain

namespace Layout

variable (l : Layout) (a : Argument)

def modifiers : List Modifier :=
  let initial := if a.optional then [.initial l.initial a.initial] else []
  let origin := a.origin.toList.map fun o => .origin l.origin o.toValue
  if l.originFirst then origin ++ initial else initial ++ origin

def write : List Char :=
  l.name.quoted a.name ++ ':' :: (l.colon.text ++ (kindText a).toList ++ (l.modifiers a).flatMap Modifier.text ++
    l.behind.text)

end Layout

def writeAll (layouts : Nat → Layout) : List Argument → List Char
  | [] => []
  | a :: slots => (layouts 0).write a ++ writeAll (fun i => layouts (i + 1)) slots

end Slot

/-- How a command is laid out. Without arguments by name there may be an empty block, or none. -/
structure Signature.Layout where
  before : Gap
  name : Quote
  colon : Gap
  positional : Nat → Slot.Layout
  keyword : Nat → Slot.Layout
  place : Nat
  emptyBlock : Bool
  opening : Gap
  closing : Gap

namespace Signature

/-- The constants of all arguments can be written. -/
structure Plain (c : Command) : Prop where
  positional : ∀ a ∈ c.positional, a.Plain
  keyword : ∀ a ∈ c.keyword, a.Plain

namespace Layout

variable (l : Layout) (c : Command)

def block : List Char :=
  if c.keyword.isEmpty && !l.emptyBlock then []
  else '\x7b' :: (l.opening.text ++ Slot.writeAll l.keyword c.keyword ++ '\x7d' :: l.closing.text)

/-- The scheme of a command. The block stands behind the first `place` arguments in order. -/
def write : List Char :=
  l.before.text ++ (l.name.quoted c.name ++ ':' :: (l.colon.text ++
    (Slot.writeAll l.positional (c.positional.take l.place) ++ (l.block c ++
      Slot.writeAll (fun i => l.positional (l.place + i)) (c.positional.drop l.place)))))

end Layout

end Signature

end Prompter
