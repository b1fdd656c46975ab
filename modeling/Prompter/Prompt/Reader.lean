import Prompter.Literal.Reader
import Prompter.Prompt.Binding

namespace Prompter

open Text Reader

namespace Given

/-- What follows a tilde. A blank or the end of the text leaves the tilde by itself. -/
def readDelta : Reader Given := do
  if (← ahead).head?.all isBlank then return .relative none
  else
    setMark
    return .relative (some (← readLiteral))

def read : Reader Given := do
  if ← standsAt "~" then
    skip 1
    readDelta
  else return .plain (← readLiteral)

theorem forward_readDelta : Forward readDelta := by
  refine forward_ahead.bind fun text => ?_
  split
  · exact forward_pure _
  · exact forward_setMark.bind fun _ => advances_readLiteral.forward.bind fun _ => forward_pure _

theorem advances_read : Advances read := by
  intro c g d h
  obtain ⟨found, e, hf, h⟩ := bind_eq_ok.1 h
  cases hf
  split at h
  · next hs =>
      cases hx : c.ahead.head? with
      | none => simp [hx] at hs
      | some x => exact passes_of_skip_bind forward_readDelta hx h
  · exact (advances_readLiteral.bind fun _ => forward_pure _) _ _ _ h

end Given

namespace Prompt

variable {α : Type} (scope : Scope) (command : Command)

def here (x : Checked α) : BuildReader α := fun c =>
  match x with
  | .ok a => .ok a c
  | .error e => .error (e.map (⟨·, c.valueOffset⟩)) c

def readRelative (a : Argument) : BuildReader Value := do
  let given ← liftM (do expect "~"; Given.readDelta : Reader Given)
  match given with
  | .plain l => return l.toValue
  | .relative delta => here (Slot.resolve scope a (delta.map Literal.toValue))

def readNamed (key : Literal) (b : Binding) : BuildReader Binding := do
  let a ← here (Binding.keyed command key)
  skip 1
  skipBlanks
  setMark
  let given ← liftM Given.read
  here (Binding.putNamed scope given a b)

/-- The binding with the next item, unless the prompt ends. A literal before an equals sign is a key. -/
def readItem (b : Binding) : BuildReader (Option Binding) := do
  skipBlanks
  if !(← hasNext) then return none
  setMark
  match ← liftM Given.read with
  | .plain l =>
      skipBlanks
      if ← standsAt "=" then return some (← readNamed scope command l b)
      else return some (← here (b.put scope command (.plain l)))
  | given => return some (← here (b.put scope command given))

theorem forward_here (x : Checked α) : Forward (here x) := by
  intro c a d h
  cases x with
  | error e => cases h
  | ok b =>
      cases h
      exact .refl _

theorem forward_standsAt (mark : String) : Forward (standsAt mark : BuildReader Bool) :=
  forward_ahead.bind fun _ => forward_pure _

theorem forward_readNamed (key : Literal) (b : Binding) : Forward (readNamed scope command key b) :=
  (forward_here _).bind fun _ => (forward_skip _).bind fun _ => forward_skipBlanks.bind fun _ =>
    forward_setMark.bind fun _ => Given.advances_read.lift.forward.bind fun _ => forward_here _

theorem progresses_readItem : Progresses (readItem scope command) := by
  intro b c t d h
  obtain ⟨_, c₁, h₁, h⟩ := bind_eq_ok.1 h
  obtain ⟨more, c₂, h₂, h⟩ := bind_eq_ok.1 h
  have hc := (forward_skipBlanks _ _ _ h₁).trans (forward_hasNext _ _ _ h₂)
  split at h
  · cases h
  · refine (hc.trans_passes ?_).length_lt
    refine (forward_setMark.bind_advances fun _ => Given.advances_read.lift.bind fun given => ?_) _ _ _ h
    split
    · refine forward_skipBlanks.bind fun _ => (forward_standsAt _).bind fun keyed => ?_
      split
      · exact (forward_readNamed scope command _ _).bind fun _ => forward_pure _
      · exact (forward_here _).bind fun _ => forward_pure _
    · exact (forward_here _).bind fun _ => forward_pure _

def readName (commands : Table Command) : BuildReader Command := do
  skipBlanks
  setMark
  let name ← liftM (Prompter.readName true)
  here <| match commands.get? name with
    | some command => .ok command
    | none => .fault (.unknownCommand name (closeNames name commands.names))

def read (commands : Table Command) : BuildReader Prompt := do
  let command ← readName commands
  let b ← iterate (readItem scope command) (progresses_readItem scope command) { vacant := command.positional }
  setMark
  here (b.complete command)

def parse (commands : Table Command) (source : Source) : Except (Failure Fault) Prompt :=
  match read scope commands (.start source.text) with
  | .ok prompt _ => .ok prompt
  | .error e _ => .error (e.told (Complaint.fault source))

def defaultLabel : String := "<prompt>"

end Prompt

end Prompter
