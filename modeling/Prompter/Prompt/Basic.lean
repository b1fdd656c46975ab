import Prompter.Command
import Prompter.Value.Shown

namespace Prompter

structure Prompt where
  command : Command
  args : List Value
  kwargs : Value.Entries

namespace Prompt

open Text

def entriesFrom (items : List Value) : Except Misuse Value.Entries :=
  (items.zipIdx.foldlM fun es (item, i) => do
    let some pair := item.items? | throw (.pairExpected i)
    let [k, v] := pair | throw (.pairLength i pair.length)
    return Value.Entries.put es (← k.asKey) v) []

def kwargsFrom (given : Value) : Except Misuse Value.Entries :=
  if !given.truth then .ok []
  else match given with
    | .map entries | .view entries => .ok entries
    | v => do entriesFrom (← v.items)

def lackOf : Value → String
  | .argument _ | .kind _ => "positional"
  | _ => "name"

def make (command args kwargs : Value) : Except Misuse Prompt := do
  let args ← args.items
  let kwargs ← kwargsFrom kwargs
  match command with
  | .command c => return ⟨c, args, kwargs⟩
  | v => throw (.noProperty v.typeName (lackOf v))

def given (command : Value) : List Value → Except Misuse Prompt
  | [] => make command (.tuple []) .none
  | [args] => make command args .none
  | args :: kwargs :: _ => make command args kwargs

variable (p : Prompt)

def fields : List (String × Value) :=
  [("command", .string p.command.name), ("args", .list p.args), ("kwargs", .map p.kwargs)]

/-- All values by name; those given by name win over those in order. -/
def bind : Value.Entries :=
  let ordered := (p.command.positional.zip p.args).map fun (a, v) => (Value.string a.name, v)
  p.kwargs.foldl (fun es e => es.put e.1 e.2) ordered

def shown : Except Misuse String :=
  return "prompt(command=" ++ Text.shown p.command.name ++ ", args=" ++ (← (Value.list p.args).shown) ++
    ", kwargs=" ++ (← (Value.map p.kwargs).shown) ++ ")"

def equal (p q : Prompt) : Bool :=
  Value.equal (.command p.command) (.command q.command) && Value.equal (.list p.args) (.list q.args) &&
    Value.equal (.map p.kwargs) (.map q.kwargs)

end Prompt

end Prompter
