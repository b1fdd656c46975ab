import Prompter.Interpreter.Basic

namespace Prompter

def helpPalette : Palette := [
  ("table-title", "bold #FFFFFF"),
  ("table-border", "#4B5563"),
  ("command-name", "bold #36C5F0"),
  ("usage", "#9CA3AF"),
  ("argument-name", "bold #00E6FF"),
  ("argument-type", "bold #FFD600"),
  ("default", "#22C55E"),
  ("origin", "#FF4D94"),
  ("panel-title", "bold #FF4D94")]

namespace Help

variable (brush : Brush)

def text (s style : String) : StyledText := .of s (brush.style style)

def grid (columns : List String) (title : Option StyledText) (rows : List (List StyledText)) : Rendering :=
  .table ⟨columns, rows, title, brush.style "table-border", brush.style "table-title"⟩

def overview (r : Repository) : Except Misuse Rendering :=
  return grid brush ["command", "usage"] (some (text brush "commands" "table-title")) <|
    ← r.commands.values.mapM fun c =>
      return [text brush c.name "command-name", text brush (← Signature.usage c) "usage"]

def row (label : String) (a : Argument) : Except Misuse (List StyledText) := do
  let initial ← if a.optional then a.default.shown else pure "-"
  let origin ← a.origin.elim (pure "-") fun o => o.toValue.plain
  return [
    text brush label "argument-name",
    text brush (Slot.kindText a) "argument-type",
    text brush initial "default",
    text brush origin "origin"]

def detail (c : Command) : Except Misuse Rendering := do
  let positional ← c.positional.mapM fun a => row brush a.name a
  let keyword ← c.keyword.mapM fun a => row brush (a.name ++ "=") a
  return .group [
    .text (text brush (← Signature.usage c) "usage"),
    grid brush ["argument", "type", "default", "origin"] none (positional ++ keyword)]

end Help

namespace Interpreter

variable (host : Host) (i : Interpreter) (r : Repository)

def help (name : Value) : Except Misuse Rendering := do
  let brush : Brush := ⟨helpPalette.with host.styles, i.presentation.colorful⟩
  let framed (body : Rendering) (title : String) : Rendering :=
    if i.presentation.fancy then .panel body (Help.text brush title "panel-title") else body
  match name with
  | .unset => return framed (← Help.overview brush r) "commands"
  | name =>
      match ← r.get name with
      | some c => return framed (← Help.detail brush c) c.name
      | none => throw (.missingKey (Text.shown ("unknown command " ++ (← name.quoted))))

end Interpreter

end Prompter
