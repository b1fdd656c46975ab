import Prompter.Value.Basic

namespace Prompter

inductive Nameable where
  | value (v : Value)
  | callable
  | fixed

inductive Renamed where
  | callable (name : String)
  | renamer (name : String)

namespace Nameable

def isCallable : Nameable → Bool
  | value _ => false
  | callable | fixed => true

def named (name : String) : Nameable → Except Misuse String
  | fixed => .error .renameFixed
  | _ => .ok name

def rename : List Nameable → Except Misuse Renamed
  | [value (.string name)] => .ok (.renamer name)
  | [_] => .error .renamerNotText
  | [target, name] => do
      if !target.isCallable then throw .renameNotCallable
      let .value (.string name) := name | throw .renameNotText
      return .callable (← target.named name)
  | parameters => .error (.renameCount parameters.length)

def renamedBy (name : String) (target : Nameable) : Except Misuse String :=
  if target.isCallable then target.named name else .error .renamerNotCallable

end Nameable

def renamerName : String := "rename"

namespace Value

def coalesce : List Value → Except Misuse Value
  | [] => .error .nothingToCoalesce
  | [v] => .ok (v.orElse .none)
  | [v, fallback] => .ok (v.orElse fallback)
  | values => .error (.coalesceCount values.length)

def viewAs (name v : Value) : Except Misuse (String × Value) :=
  match name with
  | string s => .ok (s, v.frozen)
  | _ => .error .viewName

def isStringOrUnset : Value → Bool
  | string _ | unset => true
  | _ => false

def isIntegerOrUnset : Value → Bool
  | integer _ | boolean _ | unset => true
  | _ => false

end Value

end Prompter
