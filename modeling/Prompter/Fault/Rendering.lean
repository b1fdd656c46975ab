import Prompter.Failure
import Prompter.Fault.Basic
import Prompter.Fault.Host
import Prompter.Text.Casing

namespace Prompter

open Text

def errorPalette : Palette := [
  ("prog-name", "bold #E6E6F0"),
  ("code", "bold #00E5FF"),
  ("title", "bold #FF4DA6"),
  ("message", "#C8C8D0"),
  ("source", "#E6E6F0"),
  ("caret", "bold #FF4DA6"),
  ("hint-arrow", "#9CE19C dim"),
  ("hint", "italic #9CE19C")]

def warningPalette : Palette := [
  ("prog-name", "bold #E6E6F0"),
  ("code", "bold #FFB400"),
  ("title", "bold #FFC2E0"),
  ("message", "#D6D6DE"),
  ("hint-arrow", "#B8EFAF dim"),
  ("hint", "italic #B8EFAF")]

namespace Fault

variable (host : Host) (f : Fault)

def brush : Brush where
  palette := (if f.kind.isWarning then warningPalette else errorPalette).with host.styles
  colorful := f.presentation.colorful

def titleText : Except Misuse String :=
  match f.title with
  | none => return f.kind.name
  | some title => title.plain

def header : Except Misuse StyledText := do
  let brush := f.brush host
  return .assemble [
    .of "[ " "",
    .fragment host.program (brush.style "prog-name"),
    .of " - " "",
    .fragment ((f.code.map host.label).getD "?") (brush.style "code"),
    .of " | " "",
    .fragment (titled (← f.titleText)) (brush.style "title"),
    .of " ]" ""]

def linesOf : Value → Except Misuse (List String)
  | .string s => .ok ((lines s.toList).map .ofList)
  | .bytes content => (byteLines content).mapM fun line => if line.isEmpty then .ok "" else (Value.bytes line).plain
  | .byteArray content =>
      (byteLines content).mapM fun line => if line.isEmpty then .ok "" else (Value.byteArray line).plain
  | v => .error (.noProperty v.typeName "splitlines")

def countLimit : Nat := 0x8000000000000000

/-- The place of a line among `count` lines by its number; numbers below one count back from the last line. No place is
past the last line. -/
def linePlace (count : Nat) : Value → Except Misuse (Option Nat)
  | .boolean b => .ok (if b ∧ 1 ≤ count then some 0 else none)
  | .integer i =>
      if count < i then .ok none
      else if 1 ≤ i then .ok (some (i - 1).toNat)
      else if i - 1 < -countLimit then .error .lineTooFar
      else if i - 1 + count < 0 then .error .lineOutside
      else .ok (some (i - 1 + count).toNat)
  | .number x => if x ≤ Float.ofNat count then .error .lineNotWhole else .ok none
  | .view _ => .error (.notOrdered "dict")
  | v => .error (.notOrdered v.typeName)

/-- How many characters a host can hold in one line: it has addresses for so many bytes, and a character takes one at
least. -/
def lineLimit : Nat := 0x800000000000

def caretAt : Value → Except Misuse String
  | .number _ => .error .columnNotWhole
  | .boolean _ => .ok "^"
  | .integer i =>
      if i - 1 < -countLimit ∨ countLimit ≤ i - 1 then .error .columnTooFar
      else if lineLimit ≤ i then .error .columnTooWide
      else .ok (.ofList (List.replicate (i - 1).toNat ' ' ++ ['^']))
  | v => .error (.notReducible v.typeName)

def pointer (text line column : Value) : Except Misuse (List (String × String)) := do
  let found ← linesOf text
  let shown := if found.isEmpty then [""] else found
  match (← linePlace shown.length line).bind (shown[·]?) with
  | none => return []
  | some s => return [(s, "source"), (← caretAt column, "caret")]

def pointerLines : Except Misuse (List StyledText) := do
  match f.text, f.line.truth && f.column.truth with
  | .none, _ | _, false => return []
  | text, true =>
      return (← pointer text f.line f.column).map fun (s, style) => .fragment s ((f.brush host).style style)

def hintLine : Except Misuse (List StyledText) := do
  let brush := f.brush host
  if f.hint.truth then
    return [.assemble [.of " → " (brush.style "hint-arrow"), .fragment (← f.hint.plain) (brush.style "hint")]]
  else return []

def rendering : Except Misuse Rendering := do
  let header ← f.header host
  let message := StyledText.of (← f.describe) ((f.brush host).style "message")
  let body := (message :: (← f.pointerLines host) ++ (← f.hintLine host)).map Rendering.text
  return if f.presentation.fancy then .panel (.group body) header else .group (.text header :: body)

end Fault

inductive Notice where
  | warned (fault : Fault)
  | printed (rendering : Rendering)

/-- Surfaces a fault: in shell mode it is printed, else errors fail and warnings warn. -/
def Fault.surface (host : Host) (f : Fault) : Except (Failure Fault) Notice := do
  if f.presentation.shell then
    return .printed (← f.rendering host)
  else if f.kind.isWarning then return .warned f
  else throw (.fault f)

end Prompter
