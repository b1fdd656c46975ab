import Prompter.Identifier
import Prompter.Literal.Number
import Prompter.Literal.Quoted

namespace Prompter

open Text Reader

def isQuote (c : Char) : Bool := c = '"' ∨ c = '\''

def readName (colon : Bool) : Reader String := do
  let c ← peek
  if isQuote c then
    skip 1
    readQuoted (.singleton c)
  else if isNameStart c then return .ofList (← run (nameRun colon))
  else fail (.nameExpected c)

def readLiteral : Reader Literal := do
  let c ← peek
  if isNameStart c then return .ofWord (.ofList (← run (nameRun true)))
  else if isQuote c then
    skip 1
    return .string (← readQuoted (.singleton c))
  else if c = '-' then
    skip 1
    readNumber (-1)
  else if c = '+' then
    skip 1
    readNumber 1
  else if isDigit c then readNumber 1
  else fail (.literalExpected c)

variable {α : Type} {colon : Bool} {c d : Cursor} {x : Char}

theorem passes_of_nameRun {g : List Char → α} {a : α} (hc : c.ahead.head? = some x) (hx : isNameStart x = true)
    (h : (run (nameRun colon) >>= fun text => pure (g text) : Reader α) c = .ok a d) : c.Passes d := by
  obtain ⟨text, e, hr, h⟩ := bind_eq_ok.1 h
  cases h
  cases hr
  cases ha : c.ahead with
  | nil => simp [ha] at hc
  | cons y rest =>
      obtain rfl : y = x := by simpa [ha] using hc
      exact Cursor.passes_skip (by simp [ha]) (List.length_pos_iff.2 (nameRun_ne_nil hx))

theorem advances_readName (colon : Bool) : Advances (readName colon) := by
  refine advances_peek fun x c a d hc h => ?_
  split at h
  · exact passes_of_skip_bind (forward_readQuoted _) hc h
  · split at h
    · next hx => exact passes_of_nameRun hc hx h
    · exact advances_fail _ _ _ _ h

theorem advances_readLiteral : Advances readLiteral := by
  refine advances_peek fun x c a d hc h => ?_
  split at h
  · next hx => exact passes_of_nameRun hc hx h
  split at h
  · exact passes_of_skip_bind ((forward_readQuoted _).bind fun _ => forward_pure _) hc h
  split at h
  · exact passes_of_skip_bind (advances_readNumber _).forward hc h
  split at h
  · exact passes_of_skip_bind (advances_readNumber _).forward hc h
  split at h
  · exact advances_readNumber _ _ _ _ h
  · exact advances_fail _ _ _ _ h

end Prompter
