import Prompter.Reader
import Prompter.Text.Digits

namespace Prompter

open Text Reader

def escapes : List (Char × Char) := [
  ('n', '\n'), ('t', '\t'), ('r', '\r'), ('b', '\x08'), ('f', '\x0c'), ('v', '\x0b'), ('0', '\x00'),
  ('\\', '\\'), ('"', '"'), ('\'', '\'')]

def hexWidth? (letter : Char) : Option Nat :=
  if letter = 'x' then some 2 else if letter = 'u' then some 4 else none

def readHex (letter : Char) (width : Nat) : Reader Char := do
  let digits := (← ahead).take width
  if digits.length = width ∧ digits.all (isDigitOf 16) then
    skip width
    return .ofNat (valueIn 16 digits)
  else fail (.hexExpected letter width)

def readEscape : Reader (List Char) := do
  let c ← peekRaw
  match escapes.lookup c, hexWidth? c with
  | some d, _ => do
      skip 1
      return [d]
  | none, some width => do
      skip 1
      return [← readHex c width]
  | none, none =>
      if c = '\n' then do
        skip 1
        return []
      else fail (.unknownEscape c)

theorem forward_readHex (letter : Char) (width : Nat) : Forward (readHex letter width) := by
  refine forward_ahead.bind fun text => ?_
  simp only
  split
  · exact (forward_skip _).bind fun _ => forward_pure _
  · exact (advances_fail _).forward

theorem forward_readEscape : Forward readEscape := by
  refine forward_peekRaw.bind fun c => ?_
  split
  · exact (forward_skip _).bind fun _ => forward_pure _
  · exact (forward_skip _).bind fun _ => (forward_readHex _ _).bind fun _ => forward_pure _
  · split
    · exact (forward_skip _).bind fun _ => forward_pure _
    · exact (advances_fail _).forward

/-- The rest of a string behind its quote, which stood at `opening`. -/
def readQuotedFrom (opening : Int) (quote : String) (c : Cursor) : EStateM.Result Complaint Cursor (List Char) :=
  match h : c.ahead with
  | [] => .error ⟨.textEnds quote, opening⟩ c
  | x :: rest =>
      if x = '\n' then .error ⟨.lineEnds quote, opening⟩ c
      else if .singleton x = quote then .ok [] (c.skip 1)
      else if x = '\\' then
        match he : readEscape (c.skip 1) with
        | .error e d => .error e d
        | .ok chars d =>
            have : d.ahead.length ≤ rest.length := by
              simpa [Cursor.skip, h] using (forward_readEscape _ _ _ he).length_le
            mapped (chars ++ ·) (readQuotedFrom opening quote d)
      else mapped (x :: ·) (readQuotedFrom opening quote (c.skip 1))
termination_by c.ahead.length
decreasing_by
  · simp only [h, List.length_cons]; omega
  · simp [Cursor.skip, h]

def readQuoted (quote : String) : Reader String := fun c =>
  mapped String.ofList (readQuotedFrom ((c.offset : Int) - 1) quote c)

theorem forward_readQuotedFrom {opening : Int} {quote : String} {c d : Cursor} {s : List Char}
    (h : readQuotedFrom opening quote c = .ok s d) : c.Reaches d := by
  fun_induction readQuotedFrom opening quote c generalizing s with
  | case1 => simp at h
  | case2 => simp at h
  | case3 =>
      cases h
      exact Cursor.reaches_skip _ 1
  | case4 => simp at h
  | case5 c rest chars e he _ _ _ _ ih =>
      obtain ⟨_, h, _⟩ := mapped_eq_ok.1 h
      exact ((c.reaches_skip 1).trans (forward_readEscape _ _ _ he)).trans (ih h)
  | case6 c x rest _ _ _ _ ih =>
      obtain ⟨_, h, _⟩ := mapped_eq_ok.1 h
      exact (c.reaches_skip 1).trans (ih h)

theorem forward_readQuoted (quote : String) : Forward (readQuoted quote) := by
  intro c s d h
  obtain ⟨_, h, _⟩ := mapped_eq_ok.1 h
  exact forward_readQuotedFrom h

end Prompter
