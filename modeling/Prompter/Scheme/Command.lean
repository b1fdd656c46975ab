import Prompter.Command
import Prompter.Scheme.Argument

namespace Prompter.Scheme

open Reader

/-- The arguments read so far; those by name are there once their block has been read. -/
structure Slots where
  positional : List Argument := []
  keyword : Option (List Argument) := none

def readNamed (slots : List Argument) : BuildReader (Option (List Argument)) := do
  skipBlanks
  match ← ahead with
  | [] => liftM (fail .openBlock : Reader _)
  | '\x7d' :: _ => do
      skip 1
      return none
  | _ => return some (slots ++ [← readArgument (slots.map (·.name))])

theorem progresses_readNamed : Progresses readNamed := by
  intro s c t d h
  obtain ⟨_, b, hs, h⟩ := bind_eq_ok.1 h
  refine ((forward_skipBlanks _ _ _ hs).trans_passes ?_).length_lt
  rw [ahead_bind] at h
  generalize ha : b.ahead = text at h
  split at h
  · exact ((advances_fail _).lift) _ _ _ h
  · cases h
  · exact ((advances_readArgument _).bind fun _ => forward_pure _) _ _ _ h

theorem forward_readNamed (slots : List Argument) : Forward (readNamed slots) := by
  refine forward_skipBlanks.bind fun _ => forward_ahead.bind fun text => ?_
  split
  · exact (advances_fail _).lift.forward
  · exact (forward_skip _).bind fun _ => forward_pure _
  · exact (advances_readArgument _).forward.bind fun _ => forward_pure _

def readBlock : BuildReader (List Argument) := do
  skip 1
  iterate readNamed progresses_readNamed []

def readSlots (slots : Slots) : BuildReader (Option Slots) := do
  skipBlanks
  match ← ahead with
  | [] => return none
  | '\x7b' :: _ =>
      if slots.keyword.isSome then liftM (fail .secondBlock : Reader _)
      else return some { slots with keyword := some (← readBlock) }
  | _ =>
      let argument ← readArgument (slots.positional.map (·.name))
      return some { slots with positional := slots.positional ++ [argument] }

theorem progresses_readSlots : Progresses readSlots := by
  intro s c t d h
  obtain ⟨_, b, hs, h⟩ := bind_eq_ok.1 h
  refine ((forward_skipBlanks _ _ _ hs).trans_passes ?_).length_lt
  rw [ahead_bind] at h
  generalize ha : b.ahead = text at h
  split at h
  · cases h
  · split at h
    · exact (advances_fail _).lift _ _ _ h
    · obtain ⟨block, e, hb, h⟩ := bind_eq_ok.1 h
      cases h
      exact passes_of_skip_bind (forward_iterate forward_readNamed _) (by rw [ha]; rfl) hb
  · exact ((advances_readArgument _).bind fun _ => forward_pure _) _ _ _ h

theorem forward_readSlots (slots : Slots) : Forward (readSlots slots) := by
  refine forward_skipBlanks.bind fun _ => forward_ahead.bind fun text => ?_
  split
  · exact forward_pure _
  · split
    · exact (advances_fail _).lift.forward
    · exact ((forward_skip _).bind fun _ => forward_iterate forward_readNamed _).bind fun _ => forward_pure _
  · exact (advances_readArgument _).forward.bind fun _ => forward_pure _

def readTitle : Reader String := do
  skipBlanks
  let name ← readName true
  if ← standsAt ":" then skip 1
  return name

theorem forward_readTitle : Forward readTitle := by
  refine forward_skipBlanks.bind fun _ => (advances_readName _).forward.bind fun name =>
    (forward_ahead.bind fun _ => forward_pure _).bind fun found => ?_
  dsimp only
  split
  · exact (forward_skip _).bind fun _ => forward_pure _
  · exact forward_pure _

def readCommand (executor : Value) : BuildReader Command := do
  let name ← liftM readTitle
  let slots ← iterate readSlots progresses_readSlots {}
  liftM (Signature.make {
    name := .string name
    positional := .tuple (slots.positional.map .argument)
    keyword := .tuple ((slots.keyword.getD []).map .argument)
    executor })

def compile (source : Source) (executor : Value) : Except (Failure Fault) Command :=
  match readCommand executor (.start source.text) with
  | .ok command _ => .ok command
  | .error e _ => .error (e.told (Complaint.fault source))

def defaultLabel : String := "<scheme>"

end Prompter.Scheme
