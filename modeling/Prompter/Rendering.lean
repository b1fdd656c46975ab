namespace Prompter

structure StyledText where
  plain : List Char
  style : String := ""
  spans : List (Nat × Nat × String) := []

structure Grid where
  columns : List String
  rows : List (List StyledText)
  title : Option StyledText
  style : String
  headerStyle : String

inductive Rendering where
  | text (text : StyledText)
  | group (items : List Rendering)
  | panel (body : Rendering) (title : StyledText)
  | table (grid : Grid)

namespace StyledText

/-- Control characters that a console acts on are left out of texts: bell, backspace, vertical tab, form feed and
carriage return. -/
def isDropped (c : Char) : Bool := c ∈ ['\x07', '\x08', '\x0b', '\x0c', '\x0d']

def of (text style : String) : StyledText := ⟨text.toList.filter (!isDropped ·), style, []⟩

def empty : StyledText := ⟨[], "", []⟩

def fragment (text style : String) : StyledText := if text.isEmpty then empty else of text style

def append (a b : StyledText) : StyledText where
  plain := a.plain ++ b.plain
  style := a.style
  spans := a.spans ++
    (if b.plain.isEmpty ∨ b.style.isEmpty then []
      else [(a.plain.length, a.plain.length + b.plain.length, b.style)]) ++
    b.spans.map fun (first, last, style) => (a.plain.length + first, a.plain.length + last, style)

def assemble (parts : List StyledText) : StyledText := parts.foldl append empty

end StyledText

abbrev Palette := List (String × String)

def Palette.with (palette entries : Palette) : Palette := entries ++ palette

structure Brush where
  palette : Palette
  colorful : Bool

def Brush.style (b : Brush) (name : String) : String :=
  if b.colorful then (b.palette.lookup name).getD "" else ""

end Prompter
