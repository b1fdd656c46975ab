import Prompter.Value.Basic

namespace Prompter.Value

def keyText : Value → Except Misuse String
  | string s => .ok s
  | v => .error (.mapKey v.typeName)

mutual

def normalize : Value → Except Misuse Value
  | list items | tuple items => (normalizeItems items).map list
  | map entries | view entries => (normalizeEntries entries).map map
  | none => .ok none
  | boolean b => .ok (boolean b)
  | integer i => .ok (integer i)
  | number x => .ok (number x)
  | string s => .ok (string s)
  | v => .error (.notConvertible v.typeName)

def normalizeItems : List Value → Except Misuse (List Value)
  | [] => .ok []
  | v :: rest => do return (← normalize v) :: (← normalizeItems rest)

def normalizeEntries : List (Value × Value) → Except Misuse (List (Value × Value))
  | [] => .ok []
  | (k, v) :: rest => do
      let key ← keyText k
      return (string key, ← normalize v) :: (← normalizeEntries rest)

end

mutual

/-- A value is dynamic when no host value occurs in it at any depth, and its maps have string keys. -/
inductive IsDynamic : Value → Prop
  | none : IsDynamic none
  | boolean (b) : IsDynamic (boolean b)
  | integer (i) : IsDynamic (integer i)
  | number (x) : IsDynamic (number x)
  | string (s) : IsDynamic (string s)
  | list {items} (h : AllDynamic items) : IsDynamic (list items)
  | map {entries} (h : EntriesDynamic entries) : IsDynamic (map entries)

inductive AllDynamic : List Value → Prop
  | nil : AllDynamic []
  | cons {v rest} (hv : IsDynamic v) (hr : AllDynamic rest) : AllDynamic (v :: rest)

inductive EntriesDynamic : List (Value × Value) → Prop
  | nil : EntriesDynamic []
  | cons {key v rest} (hv : IsDynamic v) (hr : EntriesDynamic rest) :
      EntriesDynamic ((Value.string key, v) :: rest)

end

end Prompter.Value
