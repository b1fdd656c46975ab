import Prompter.Argument
import Prompter.Scheme.Kind

namespace Prompter.Scheme

open Text Reader

/-- The modifiers of an argument, each with the offset behind its sign. -/
structure Modifiers where
  initial : Option (Literal × Nat) := none
  origin : Option (Literal × Nat) := none

def readModifier (m : Modifiers) : Reader (Option Modifiers) := do
  skipBlanks
  match ← ahead with
  | '=' :: _ => do
      skip 1
      let start ← offset
      return some { m with initial := some (← readLiteral, start) }
  | '~' :: _ => do
      skip 1
      let start ← offset
      return some { m with origin := some (← readLiteral, start) }
  | _ => return none

theorem progresses_readModifier : Progresses readModifier := by
  intro m c n d h
  obtain ⟨_, b, hs, h⟩ := bind_eq_ok.1 h
  refine ((forward_skipBlanks _ _ _ hs).trans_passes ?_).length_lt
  rw [ahead_bind] at h
  generalize ha : b.ahead = text at h
  split at h
  · exact passes_of_skip_bind (forward_offset.bind fun _ => advances_readLiteral.forward.bind fun _ => forward_pure _)
      (by rw [ha]; rfl) h
  · exact passes_of_skip_bind (forward_offset.bind fun _ => advances_readLiteral.forward.bind fun _ => forward_pure _)
      (by rw [ha]; rfl) h
  · cases h

def readModifiers : Reader Modifiers := iterate readModifier progresses_readModifier {}

def checkOrigin (name : String) (kind : Kind) (origin : Literal) (start : Nat) : Reader Unit :=
  if !kind.numeric then failAt ((start : Int) - 1) (.relativeKind name)
  else match origin with
    | .boolean _ => failAt start (.originKind name origin)
    | _ => pure ()

/-- Whether a literal may be the default of an argument. Members of an enumeration that is named are not known yet. -/
def fits (kind : Kind) (choices : String) (l : Literal) : Bool :=
  match kind, l with
  | _, .none => true
  | .number, .integer _ | .number, .number _ => true
  | .integer, .integer _ | .selector, .integer _ => true
  | .string, .string _ => true
  | .choice, .string s => choices.toList.head? ≠ some '|' || Choices.holds choices s
  | _, _ => false

def checkDefault (name : String) (kind : Kind) (choices : String) (l : Literal) (start : Nat) : Reader Unit :=
  if fits kind choices l then pure () else failAt start (.defaultKind name l kind)

def checkModifiers (name : String) (kind : Kind) (choices : String) (m : Modifiers) : Reader Unit := do
  if let some (origin, start) := m.origin then checkOrigin name kind origin start
  if let some (l, start) := m.initial then checkDefault name kind choices l start

def draft (name : String) (kind : Kind) (choices : String) (m : Modifiers) : Slot.Draft where
  name := .string name
  kind := .kind kind
  optional := .boolean m.initial.isSome
  initial := (m.initial.map (·.1.toValue)).getD .none
  origin := (m.origin.map (·.1.toValue)).getD .none
  choices := .string choices

def readFreshName (taken : List String) : Reader String := do
  skipBlanks
  let start ← offset
  let name ← readName false
  if taken.contains name then failAt start (.repeatedName name) else return name

def readDraft (taken : List String) : Reader Slot.Draft := do
  let name ← readFreshName taken
  expect ":"
  let kind ← readKind
  let choices ← if kind = .choice then readChoices else pure ""
  let modifiers ← readModifiers
  checkModifiers name kind choices modifiers
  return draft name kind choices modifiers

def readArgument (taken : List String) : BuildReader Argument := do
  let draft ← liftM (readDraft taken)
  liftM (Slot.make draft)

variable {α : Type}

theorem advances_readFreshName (taken : List String) : Advances (readFreshName taken) := by
  refine forward_skipBlanks.bind_advances fun _ => forward_offset.bind_advances fun _ =>
    (advances_readName _).bind fun name => ?_
  split
  · exact (advances_failAt _ _).forward
  · exact forward_pure _

theorem forward_readModifier (m : Modifiers) : Forward (readModifier m) := by
  refine forward_skipBlanks.bind fun _ => forward_ahead.bind fun text => ?_
  split
  · exact (forward_skip _).bind fun _ => forward_offset.bind fun _ =>
      advances_readLiteral.forward.bind fun _ => forward_pure _
  · exact (forward_skip _).bind fun _ => forward_offset.bind fun _ =>
      advances_readLiteral.forward.bind fun _ => forward_pure _
  · exact forward_pure _

theorem forward_checkOrigin (name : String) (kind : Kind) (origin : Literal) (start : Nat) :
    Forward (checkOrigin name kind origin start) := by
  unfold checkOrigin
  split
  · exact (advances_failAt _ _).forward
  · split
    · exact (advances_failAt _ _).forward
    · exact forward_pure _

theorem forward_checkDefault (name : String) (kind : Kind) (choices : String) (l : Literal) (start : Nat) :
    Forward (checkDefault name kind choices l start) := by
  unfold checkDefault
  split
  · exact forward_pure _
  · exact (advances_failAt _ _).forward

theorem forward_checkModifiers (name : String) (kind : Kind) (choices : String) (m : Modifiers) :
    Forward (checkModifiers name kind choices m) := by
  have h : Forward (if let some (l, start) := m.initial then checkDefault name kind choices l start else pure ()) := by
    split
    · exact forward_checkDefault _ _ _ _ _
    · exact forward_pure _
  unfold checkModifiers
  dsimp only
  split
  · exact (forward_checkOrigin _ _ _ _).bind fun _ => h
  · exact h

theorem advances_readDraft (taken : List String) : Advances (readDraft taken) := by
  refine (advances_readFreshName taken).bind fun name => (forward_expect _).bind fun _ =>
    forward_readKind.bind fun kind => ?_
  have h : ∀ choices, Forward (do
      let modifiers ← readModifiers
      checkModifiers name kind choices modifiers
      return draft name kind choices modifiers) := fun choices =>
    (forward_iterate forward_readModifier _).bind fun _ => (forward_checkModifiers _ _ _ _).bind fun _ => forward_pure _
  split
  · exact forward_readChoices.bind h
  · exact (forward_pure _).bind h

theorem advances_readArgument (taken : List String) : Advances (readArgument taken) :=
  (advances_readDraft taken).lift.bind fun _ => forward_build _

end Prompter.Scheme
