namespace Prompter.Text

variable {text : List Char} {offset : Nat}

def lastLine (text : List Char) : List Char := (text.reverse.takeWhile (· ≠ '\n')).reverse

/-- Line and column of an offset, both counted from 1. Past the end the column goes on counting. -/
def place (text : List Char) (offset : Nat) : Nat × Nat :=
  let before := text.take offset
  (before.count '\n' + 1, offset - (before.length - (lastLine before).length) + 1)

theorem place_zero : place text 0 = (1, 1) := by simp [place, lastLine]

/-- The place of an offset that may lie before the text. Such an offset is placed by the text without as many
characters at its end, with a column that is not positive. -/
def placeOf (text : List Char) (offset : Int) : Nat × Int :=
  if 0 ≤ offset then
    let (line, column) := place text offset.toNat
    (line, column)
  else
    let before := text.take (text.length + offset).toNat
    (before.count '\n' + 1, offset - (before.length - (lastLine before).length : Nat) + 1)

theorem placeOf_natCast : placeOf text offset = ((place text offset).1, ((place text offset).2 : Int)) := by
  simp [placeOf]

def isLineBreak (c : Char) : Bool :=
  c ∈ ['\n', '\r', '\x0b', '\x0c', '\x1c', '\x1d', '\x1e', '\u0085', '\u2028', '\u2029']

/-- The lines between breaks; a carriage return and a newline are one break. -/
def linesBetween (isBreak : Char → Bool) : List Char → List (List Char)
  | [] => []
  | '\r' :: '\n' :: rest => [] :: linesBetween isBreak rest
  | c :: rest =>
      if isBreak c then [] :: linesBetween isBreak rest
      else match linesBetween isBreak rest with
        | [] => [[c]]
        | line :: others => (c :: line) :: others

def lines (text : List Char) : List (List Char) := linesBetween isLineBreak text

/-- The lines of bytes, which end at carriage returns and newlines only. -/
def byteLines (content : List UInt8) : List (List UInt8) :=
  (linesBetween (fun c => c = '\n' ∨ c = '\r') (content.map fun b => .ofNat b.toNat)).map fun line =>
    line.map fun c => UInt8.ofNat c.toNat

end Prompter.Text
