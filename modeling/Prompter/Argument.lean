import Prompter.Choices
import Prompter.Literal.Written

namespace Prompter

def Origin.ofValue? : Value → Option Origin
  | .integer i => some (.integer i)
  | .number x => some (.number x)
  | .string s => some (.named s)
  | _ => none

theorem Origin.ofValue?_toValue (o : Origin) : ofValue? o.toValue = some o := by cases o <;> rfl

def Origin.asValue : Option Origin → Value
  | none => .none
  | some o => o.toValue

def nameOf (owner : String) : Value → Except Misuse String
  | .string name => if name.isEmpty then .error (.nameEmpty owner) else .ok name
  | _ => .error (.nameNotText owner)

namespace Slot

variable (a : Argument)

def relative : Bool := a.origin.isSome

def named : Bool := a.choices.toList.head?.any (· ≠ '|')

def kindText : String :=
  if a.kind ≠ .choice then a.kind.keyword
  else if named a then "enum$" ++ a.choices
  else "enum[" ++ .ofList (Choices.body a.choices) ++ "]"

def defaultText : Except Misuse String := do
  if a.optional then return "=" ++ (← a.initial.written) else return ""

def originText : Except Misuse String :=
  match a.origin with
  | none => return ""
  | some o => return " ~" ++ (← o.toValue.written)

def usage : Except Misuse String := do
  let text := a.name ++ ":" ++ kindText a ++ (← defaultText a) ++ (← originText a)
  return if a.optional then "[" ++ text ++ "]" else "<" ++ text ++ ">"

def originFor (name : String) (kind : Kind) (given : Value) : Except Misuse (Option Origin) :=
  match given with
  | .none => .ok none
  | v =>
      match Origin.ofValue? v with
      | none => .error (.originUnusable name)
      | some o => if kind.numeric then .ok (some o) else .error (.originOnNonNumeric name)

def choicesFor (name : String) (kind : Kind) (given : Value) : Except Misuse String :=
  match given with
  | .string s =>
      if kind = .choice then if s.isEmpty then .error (.choicesMissing name) else .ok s
      else if s.isEmpty then .ok s else .error (.choicesUnexpected name)
  | _ => .error .choicesNotText

structure Draft where
  name : Value
  kind : Value
  optional : Value := .boolean false
  initial : Value := .none
  origin : Value := .none
  choices : Value := .string ""

def make (draft : Draft) : Except Misuse Argument := do
  let name ← nameOf "argument" draft.name
  let .kind kind := draft.kind | throw .kindExpected
  let optional := draft.optional.truth
  match optional, draft.initial with
  | true, _ | _, .none => pure ()
  | _, _ => throw (.defaultOnMandatory name)
  discard draft.initial.kindName
  let origin ← originFor name kind draft.origin
  let choices ← choicesFor name kind draft.choices
  return ⟨name, kind, optional, draft.initial, origin, choices⟩

end Slot

end Prompter
