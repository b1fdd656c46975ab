import Prompter.Text.Casing
import Prompter.Value.Keys
import Prompter.Value.Normal
import Prompter.Value.Shown

namespace Prompter

inductive Variables where
  | writable (entries : Value.Entries)
  | readOnly (entries : Value.Entries)
  | function (f : Value → Except Misuse Value)

namespace Variables

def none : Variables := .writable []

def ofValue : Value → Except Misuse Variables
  | .map entries => .ok (.writable entries)
  | .view entries => .ok (.readOnly entries)
  | .unset => .ok none
  | _ => .error .variablesExpected

def get (vars : Variables) (name : Value) : Except Misuse Value :=
  match vars with
  | .writable entries | .readOnly entries => do return (entries.get? (← name.asKey)).getD .none
  | .function f => f name

def entries : Variables → Except Misuse Value.Entries
  | .writable entries => .ok entries
  | _ => .error .variablesReadOnly

def set (vars : Variables) (name v : Value) : Except Misuse Variables := do
  let entries ← vars.entries
  let .string _ := name | throw .variableName
  return .writable (entries.put name (← v.normalize))

def erase (vars : Variables) (name : Value) : Except Misuse Variables := do
  let entries ← vars.entries
  let key ← name.asKey
  if (entries.get? key).isNone then throw (.missingKey key.reported)
  return .writable (entries.erase key)

def upper : Variables := .function fun
  | .string name => .ok (.string (Text.uppered name))
  | v => .error (.notUpperable v.typeName)

def length : Variables := .function fun
  | .string name => .ok (.integer name.length)
  | v =>
      match v.items? with
      | some items => .ok (.integer items.length)
      | Option.none => .error (.noLength v.typeName)

def constant (v : Value) : Variables := .function fun _ => .ok v

def failing : Variables := .function fun
  | .string name => .error (.noVariable name)
  | v => .error (.notJoinable v.typeName)

end Variables

end Prompter
