import Prompter.Argument
import Prompter.Value.Keys

namespace Prompter.Signature

variable (c : Command)

def keyword? (name : String) : Option Argument := c.keyword.find? (·.name == name)

section

variable {c : Command} {a : Argument} {name : String}

theorem name_of_keyword? (h : c.keyword? name = some a) : a.name = name := by simpa using List.find?_some h

theorem mem_of_keyword? (h : c.keyword? name = some a) : a ∈ c.keyword := List.mem_of_find?_eq_some h

end

def usage : Except Misuse String := do
  let block (texts : List String) := if texts.isEmpty then [] else ["\x7b" ++ Text.commas " " texts ++ "\x7d"]
  return Text.commas " " (c.name :: (← c.positional.mapM Slot.usage) ++ block (← c.keyword.mapM Slot.usage))

def slot (key : Value) : Except Misuse (Option Argument) :=
  match key with
  | .integer i => .ok (if 0 ≤ i then c.positional[i.toNat]? else none)
  | .string name => .ok (keyword? c name)
  | _ => .error .slotKey

def slotsFrom (notArgument : Misuse) (repeated : String → Misuse) :
    List Argument → List Value → Except Misuse (List Argument)
  | slots, [] => .ok slots
  | slots, .argument a :: rest =>
      if slots.any (·.name == a.name) then .error (repeated a.name)
      else slotsFrom notArgument repeated (slots ++ [a]) rest
  | _, _ :: _ => .error notArgument

def positionalFrom (name : String) (given : Value) : Except Misuse (List Argument) :=
  match given.items? with
  | none => .error .positionalNotIterable
  | some items => slotsFrom .positionalNotArguments (.positionalRepeated name) [] items

def keywordFrom (name : String) (given : Value) : Except Misuse (List Argument) :=
  let items? := match given with
    | .map entries | .view entries => some (entries.map (·.2))
    | v => v.items?
  match items? with
  | none => .error .keywordNotIterable
  | some items => slotsFrom .keywordNotArguments (.keywordRepeated name) [] items

def shownFields : List String := ["name", "positional", "keyword"]

structure Draft where
  name : Value
  positional : Value := .tuple []
  keyword : Value := .tuple []
  executor : Value := .none

def make (draft : Draft) : Except Misuse Command := do
  let name ← nameOf "command" draft.name
  let positional ← positionalFrom name draft.positional
  let keyword ← keywordFrom name draft.keyword
  return ⟨name, positional, keyword, draft.executor.frozen⟩

end Prompter.Signature
