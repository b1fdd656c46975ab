import Prompter.Kind
import Prompter.Misuse

namespace Prompter

/-- The base of relative values: a constant, or a variable that is looked up when a prompt is read. -/
inductive Origin where
  | integer (i : Int)
  | number (x : Float)
  | named (name : String)

/-- One slot of a command, with defaults of type `α`. `choices` is `|a|b|` or the name of an enumeration, and empty for
other kinds. -/
structure Slot (α : Type) where
  name : String
  kind : Kind
  optional : Bool
  initial : α
  origin : Option Origin
  choices : String

structure Signature (α : Type) where
  name : String
  positional : List (Slot α)
  keyword : List (Slot α)
  executor : α

inductive Routine where
  /-- Hands the bound values back. -/
  | echo
  /-- Writes the bound values to variables. -/
  | store
  /-- Executes each positional value as a prompt. -/
  | batch
  | fail
deriving DecidableEq

inductive Value where
  | none
  | boolean (b : Bool)
  | integer (i : Int)
  | number (x : Float)
  | string (s : String)
  | list (items : List Value)
  | map (entries : List (Value × Value))
  | tuple (items : List Value)
  | view (entries : List (Value × Value))
  | set (items : List Value)
  | frozenSet (items : List Value)
  | bytes (content : List UInt8)
  | byteArray (content : List UInt8)
  | unset
  | kind (k : Kind)
  | argument (slot : Slot Value)
  | command (signature : Signature Value)
  | routine (r : Routine)
  | thing

abbrev Argument := Slot Value

abbrev Command := Signature Value

namespace Value

instance : Inhabited Value := ⟨.none⟩

def ofBool : Bool → Value := boolean

def typeName : Value → String
  | none => "NoneType"
  | boolean _ => "bool"
  | integer _ => "int"
  | number _ => "float"
  | string _ => "str"
  | list _ => "list"
  | map _ => "dict"
  | tuple _ => "tuple"
  | view _ => "mappingproxy"
  | set _ => "set"
  | frozenSet _ => "frozenset"
  | bytes _ => "bytes"
  | byteArray _ => "bytearray"
  | unset => "UnsetType"
  | kind _ => "ArgType"
  | argument _ => "Argument"
  | command _ => "Command"
  | routine _ => "function"
  | thing => "Thing"

def kindName? : Value → Option String
  | none => some "none"
  | boolean _ => some "boolean"
  | integer _ => some "integer"
  | number _ => some "number"
  | string _ => some "string"
  | list _ => some "list"
  | map _ => some "map"
  | _ => Option.none

def kindName (v : Value) : Except Misuse String :=
  match v.kindName? with
  | some name => .ok name
  | Option.none => .error (.notDynamic v.typeName)

def kindOrType (v : Value) : String := v.kindName?.getD v.typeName

def isInteger : Value → Bool
  | integer _ => true
  | _ => false

def isNumeric : Value → Bool
  | integer _ | number _ => true
  | _ => false

def isString : Value → Bool
  | string _ => true
  | _ => false

def truth : Value → Bool
  | none | unset => false
  | boolean b => b
  | integer i => i != 0
  | number x => x != 0
  | string s => !s.isEmpty
  | list items | tuple items | set items | frozenSet items => !items.isEmpty
  | map entries | view entries => !entries.isEmpty
  | bytes content | byteArray content => !content.isEmpty
  | kind _ | argument _ | command _ | routine _ | thing => true

def frozen : Value → Value
  | list items => tuple items
  | map entries => view entries
  | set items => frozenSet items
  | bytes content | byteArray content => tuple (content.map fun b => integer b.toNat)
  | v => v

theorem frozen_frozen (v : Value) : v.frozen.frozen = v.frozen := by cases v <;> rfl

def orElse : Value → Value → Value
  | unset, fallback => fallback
  | v, _ => v

def items? : Value → Option (List Value)
  | list items | tuple items | set items | frozenSet items => some items
  | map entries | view entries => some (entries.map (·.1))
  | string s => some (s.toList.map fun c => string (.singleton c))
  | bytes content | byteArray content => some (content.map fun b => integer b.toNat)
  | _ => Option.none

def items (v : Value) : Except Misuse (List Value) :=
  match v.items? with
  | some items => .ok items
  | Option.none => .error (.notIterable v.typeName)

end Value

def Origin.toValue : Origin → Value
  | integer i => .integer i
  | number x => .number x
  | named name => .string name

def Slot.default (a : Argument) : Value := a.initial.frozen

end Prompter
