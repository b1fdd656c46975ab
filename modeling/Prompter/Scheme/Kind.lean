import Prompter.Choices
import Prompter.Literal.Reader

namespace Prompter.Scheme

open Text Reader

/-- The kind at the cursor. Choices may begin at once; they are left to be read. -/
def readKind : Reader Kind := do
  let c ← peek
  if c = '[' ∨ c = '$' then return .choice
  let start ← offset
  let word ← run wordRun
  if word.isEmpty then fail (.kindExpected c)
  else match Kind.ofKeyword? (.ofList word) with
    | some kind => return kind
    | none => failAt start (.unknownKind (.ofList word))

def checkMembers (start : Nat) (body : List Char) : Reader Unit :=
  match body.findIdx? isBlank with
  | some i => failAt (start + 1 + i : Nat) .blankInChoices
  | none =>
      if body.isEmpty then failAt start .noChoices
      else if (pieces '|' body).any List.isEmpty then failAt start .emptyChoice
      else pure ()

def readMembers : Reader String := do
  let start ← offset
  skip 1
  let body ← takeWhile (· ≠ ']')
  if !(← hasNext) then fail .openChoices
  checkMembers start body
  skip 1
  return .ofList ('|' :: body ++ ['|'])

def readChoices : Reader String := do
  if (← peek) = '[' then readMembers
  else
    expect "$"
    let name ← run wordRun
    if name.isEmpty then fail .enumerationNameExpected else return .ofList name

theorem forward_readKind : Forward readKind := by
  refine forward_peek.bind fun c => ?_
  split
  · exact forward_pure _
  · refine forward_offset.bind fun _ => (forward_run _).bind fun word => ?_
    split
    · exact (advances_fail _).forward
    · split
      · exact forward_pure _
      · exact (advances_failAt _ _).forward

theorem forward_checkMembers (start : Nat) (body : List Char) : Forward (checkMembers start body) := by
  unfold checkMembers
  split
  · exact (advances_failAt _ _).forward
  · split
    · exact (advances_failAt _ _).forward
    · split
      · exact (advances_failAt _ _).forward
      · exact forward_pure _

theorem forward_readMembers : Forward readMembers := by
  refine forward_offset.bind fun start => (forward_skip _).bind fun _ => (forward_takeWhile _).bind fun body =>
    forward_hasNext.bind fun _ => ?_
  have h : Forward (do checkMembers start body; skip 1; return String.ofList ('|' :: body ++ ['|'])) :=
    (forward_checkMembers _ _).bind fun _ => (forward_skip _).bind fun _ => forward_pure _
  dsimp only
  split
  · exact (advances_fail _).forward.bind fun _ => h
  · exact h

theorem forward_readChoices : Forward readChoices := by
  refine forward_peek.bind fun c => ?_
  split
  · exact forward_readMembers
  · refine (forward_expect _).bind fun _ => (forward_run _).bind fun name => ?_
    split
    · exact (advances_fail _).forward
    · exact forward_pure _

end Prompter.Scheme
