import Prompter.Fault.Cause
import Prompter.Source
import Prompter.Text.Lines
import Prompter.Value.Number

namespace Prompter

open Text

structure Presentation where
  shell : Bool := false
  fancy : Bool := false
  colorful : Bool := false
deriving DecidableEq

/-- A fault without a message is described by the name of its kind. A title that was not given is the name of the kind,
too. The place and the text are integers and a string in faults of readers; a host may give other values. -/
structure Fault where
  kind : FaultKind
  message : Option String := none
  source : Value := .string Source.defaultLabel
  line : Value := .none
  column : Value := .none
  text : Value := .none
  code : Option FaultCode := none
  title : Option Value := none
  hint : Value := .none
  presentation : Presentation := {}
  context : List (String × Value) := []

namespace Fault

def messageOf : Value → Except Misuse (Option String)
  | .string s => .ok (some s)
  | .unset => .ok none
  | _ => .error .messageNotText

inductive Detail where
  | source (label : Value)
  | line (line : Value)
  | column (column : Value)
  | text (text : Value)
  | code (code : Option FaultCode)
  | title (title : Value)
  | hint (hint : Value)
  | shell (on : Bool)
  | fancy (on : Bool)
  | colorful (on : Bool)
  | other (name : String) (value : Value)

def putContext (name : String) (value : Value) : List (String × Value) → List (String × Value)
  | [] => [(name, value)]
  | (n, v) :: rest => if n = name then (name, value) :: rest else (n, v) :: putContext name value rest

def set (f : Fault) : Detail → Fault
  | .source label => { f with source := label }
  | .line line => { f with line }
  | .column column => { f with column }
  | .text text => { f with text }
  | .code code => { f with code }
  | .title title => { f with title := some title }
  | .hint hint => { f with hint }
  | .shell on => { f with presentation := { f.presentation with shell := on } }
  | .fancy on => { f with presentation := { f.presentation with fancy := on } }
  | .colorful on => { f with presentation := { f.presentation with colorful := on } }
  | .other name value => { f with context := putContext name value f.context }

def setAll (f : Fault) (details : List Detail) : Fault := details.foldl set f

def summary (f : Fault) : String := f.message.getD f.kind.name

def replace (f : Fault) (details : List Detail) : Except Misuse Fault :=
  if details.any fun
    | .other name _ => name == "self"
    | _ => false
  then .error (.selfRepeated (if f.kind.isWarning then FaultKind.warning else .fault).name)
  else .ok (f.setAll details)

def describe (f : Fault) : Except Misuse String :=
  match f.kind.isWarning, f.line with
  | true, _ | _, .none => .ok f.summary
  | false, line => do
      let source ← f.source.plain
      let line ← integerText (← line.toCount)
      let column ← integerText (← f.column.toCount)
      return source ++ ":" ++ line ++ ":" ++ column ++ ": " ++ f.summary

def label (f : Fault) : Except Misuse Value :=
  if f.kind.isWarning then .error (.noProperty f.kind.name "source") else .ok f.source

def placed (source : Source) (offset : Int) (f : Fault) : Fault :=
  let place := placeOf source.text.toList offset
  { f with
    source := .string source.label, line := .integer place.1, column := .integer place.2
    text := .string source.text }

def hinted (source : Source) (cause : Cause) (offset : Int) (hint : String) : Fault :=
  let report := cause.report
  placed source offset {
    kind := report.kind, message := some report.message, code := some report.code
    title := some (.string report.title), hint := .string hint, context := report.context }

def ofCause (source : Source) (cause : Cause) (offset : Int) : Except Misuse Fault :=
  return hinted source cause offset (← cause.report.hint)

end Fault

end Prompter
