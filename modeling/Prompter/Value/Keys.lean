import Prompter.Value.Equality

namespace Prompter.Value

mutual

def unhashable? : Value → Option String
  | list _ => some "list"
  | map _ => some "dict"
  | view _ => some "mappingproxy"
  | set _ => some "set"
  | byteArray _ => some "bytearray"
  | argument _ => some "Argument"
  | command _ => some "Command"
  | tuple items => unhashableAmong? items
  | _ => Option.none

def unhashableAmong? : List Value → Option String
  | [] => Option.none
  | v :: rest => (unhashable? v).orElse fun _ => unhashableAmong? rest

end

def asKey (v : Value) : Except Misuse Value :=
  match v.unhashable? with
  | some typeName => .error (.unhashable typeName)
  | Option.none => .ok v

abbrev Entries := List (Value × Value)

namespace Entries

def get? (entries : Entries) (key : Value) : Option Value :=
  (entries.find? fun e => equal e.1 key).map (·.2)

def put (entries : Entries) (key value : Value) : Entries :=
  match entries with
  | [] => [(key, value)]
  | (k, v) :: rest => if equal k key then (k, value) :: rest else (k, v) :: put rest key value

def erase (entries : Entries) (key : Value) : Entries := entries.filter fun e => !equal e.1 key

def ofList (pairs : List (Value × Value)) : Entries := pairs.foldl (fun es p => put es p.1 p.2) []

end Entries

def distinct (values : List Value) : List Value :=
  values.foldl (fun seen v => if seen.any (equal · v) then seen else seen ++ [v]) []

end Prompter.Value
