import Prompter.Command
import Prompter.Fault.Code
import Prompter.Fault.Kind

namespace Prompter

open Text

inductive NumberSlip where
  | digitExpected
  | baseDigits (base : Nat)
  | exponentDigits
  | gluedText
  | integerRange
  | numberRange
deriving DecidableEq

inductive Cause where
  | unexpectedEnd
  | markExpected (mark : String)
  | textEnds (quote : String)
  | lineEnds (quote : String)
  | hexExpected (letter : Char) (width : Nat)
  | unknownEscape (c : Char)
  | number (slip : NumberSlip)
  | nameExpected (found : Char)
  | literalExpected (found : Char)
  | kindExpected (found : Char)
  | unknownKind (word : String)
  | openChoices
  | blankInChoices
  | noChoices
  | emptyChoice
  | enumerationNameExpected
  | repeatedName (name : String)
  | relativeKind (name : String)
  | originKind (name : String) (given : Literal)
  | defaultKind (name : String) (given : Literal) (kind : Kind)
  | secondBlock
  | openBlock
  | unknownCommand (name : String) (close : List String)
  | keywordName (given : Literal)
  | unknownKeyword (command : Command) (name : String) (close : List String)
  | extraValue (command : Command)
  | missing (command : Command) (argument : Argument) (byName : Bool)
  | unknownEnumeration (argument : Argument)
  | noChoice (argument : Argument) (given : String) (choices : List String)
  | valueKind (argument : Argument) (given : Value) (kindName : String)
  | relativeValue (argument : Argument)
  | relativeArithmetic (argument : Argument) (origin delta : Value) (misuse : Misuse)

structure Report where
  kind : FaultKind
  code : FaultCode
  message : String
  title : String
  hint : Except Misuse String
  context : List (String × Value) := []

namespace NumberSlip

def message : NumberSlip → String
  | digitExpected => "number expected"
  | baseDigits base => s!"malformed base-{base} integer"
  | exponentDigits => "exponent digits expected"
  | gluedText => "malformed number"
  | integerRange => "integer out of range"
  | numberRange => "number out of range"

end NumberSlip

namespace Cause

def about (argument : Argument) (message : String) : String :=
  "argument " ++ quoteName argument.name ++ ": " ++ message

def suggestion (close : List String) (advice : Except Misuse String) : Except Misuse String :=
  match close with
  | [] => advice
  | name :: _ => .ok ("did you mean " ++ quoteName name ++ "?")

def usageHint (command : Command) : Except Misuse String := return "usage: " ++ (← command.usage)

def closeNames (close : List String) : Value := .tuple (close.map Value.string)

def originText : Option Origin → Except Misuse String
  | none => .ok "None"
  | some (.named name) => .ok (quoteName name)
  | some o => o.toValue.plain

def report : Cause → Report
  | unexpectedEnd =>
      { kind := .unexpectedEnd, code := .unexpectedEnd
        message := "unexpected end", title := "unexpected end of input"
        hint := .ok "the input stops before the current construct is complete" }
  | markExpected mark =>
      { kind := .expectedToken, code := .expectedToken
        message := "'" ++ mark ++ "' expected", title := "expected token"
        hint := .ok ("insert '" ++ mark ++ "' here"), context := [("expected", .string mark)] }
  | textEnds quote =>
      { kind := .unterminatedString, code := .unterminatedString
        message := "unterminated string", title := "unterminated string"
        hint := .ok ("close the string with " ++ quote) }
  | lineEnds quote =>
      { kind := .unterminatedString, code := .unterminatedString
        message := "unterminated string", title := "unterminated string"
        hint := .ok ("strings cannot span lines; close it with " ++ quote) }
  | hexExpected letter width =>
      { kind := .invalidCharacter, code := .invalidCharacter
        message := "invalid '\\" ++ .singleton letter ++ "' escape", title := "invalid escape"
        hint := .ok ("'\\" ++ .singleton letter ++ "' takes exactly " ++ toString width ++ " hexadecimal digits") }
  | unknownEscape c =>
      { kind := .invalidCharacter, code := .invalidCharacter
        message := "'\\" ++ .singleton c ++ "' is an illegal escape", title := "invalid escape"
        hint := .ok "escape a literal backslash as '\\\\'" }
  | number slip =>
      { kind := .malformedNumber, code := .malformedNumber
        message := slip.message, title := "malformed number"
        hint := .ok "write numbers like 12, -3, 0.5, 1e3 or 0xff" }
  | nameExpected found =>
      { kind := .expectedToken, code := .expectedToken
        message := "identifier expected", title := "identifier expected"
        hint := .ok "names start with a letter, '_', '$', '@' or '.', or are quoted"
        context := [("found", .string (.singleton found))] }
  | literalExpected found =>
      { kind := .invalidCharacter, code := .invalidCharacter
        message := "invalid character " ++ quoteName (.singleton found), title := "invalid character"
        hint := .ok "values are words, quoted strings or numbers"
        context := [("found", .string (.singleton found))] }
  | kindExpected found =>
      { kind := .expectedToken, code := .expectedToken
        message := "type expected", title := "type expected"
        hint := .ok "declare the type after ':' (num, int, str, @ or enum)"
        context := [("found", .string (.singleton found))] }
  | unknownKind word =>
      { kind := .unknownType, code := .unknownType
        message := "unknown type " ++ quoteName word, title := "unknown type"
        hint := .ok "use one of num, int, str, @ or enum", context := [("type", .string word)] }
  | openChoices =>
      { kind := .expectedToken, code := .expectedToken
        message := "']' expected", title := "unterminated enumeration"
        hint := .ok "close the enumeration with ']'", context := [("expected", .string "]")] }
  | blankInChoices =>
      { kind := .enumerationSeparator, code := .enumerationSeparator
        message := "whitespace inside an enumeration", title := "invalid enumeration separator"
        hint := .ok "separate members with '|', e.g. [a|b|c]" }
  | noChoices =>
      { kind := .emptyEnumeration, code := .emptyEnumeration
        message := "empty enumeration", title := "empty enumeration"
        hint := .ok "list at least one member, e.g. [a|b]" }
  | emptyChoice =>
      { kind := .emptyEnumeration, code := .emptyEnumeration
        message := "empty enumeration member", title := "empty enumeration"
        hint := .ok "list at least one member, e.g. [a|b]" }
  | enumerationNameExpected =>
      { kind := .expectedToken, code := .expectedToken
        message := "enumeration name expected", title := "enumeration name expected"
        hint := .ok "name a registered enumeration, e.g. $items" }
  | repeatedName name =>
      { kind := .duplicateArgument, code := .duplicateArgument
        message := "argument " ++ quoteName name ++ ": duplicated name", title := "duplicated argument"
        hint := .ok "rename one of the arguments", context := [("argument", .string name)] }
  | relativeKind name =>
      { kind := .relativeOperator, code := .relativeOperator
        message := "argument " ++ quoteName name ++ ": the relative operator needs a numeric argument"
        title := "invalid relative operator", hint := .ok "only num and int arguments accept '~'"
        context := [("argument", .string name)] }
  | originKind name given =>
      { kind := .relativeOperator, code := .relativeOperator
        message := "argument " ++ quoteName name ++ ": origin must be a number or a variable name, got " ++
          given.kindName
        title := "invalid relative origin"
        hint := .ok "write ~0 for a constant origin or ~name for a variable"
        context := [("argument", .string name)] }
  | defaultKind name given kind =>
      { kind := .defaultValue, code := .defaultValue
        message := "argument " ++ quoteName name ++ ": default " ++ given.kindName ++ " does not fit type " ++
          kind.keyword
        title := "invalid default value", hint := .ok ("the default must be a valid " ++ kind.label)
        context := [("argument", .string name), ("value", given.toValue)] }
  | secondBlock =>
      { kind := .expectedToken, code := .expectedToken
        message := "only one keyword block is allowed", title := "duplicated keyword block"
        hint := .ok "declare every keyword argument inside a single \x7b...\x7d" }
  | openBlock =>
      { kind := .expectedToken, code := .expectedToken
        message := "'\x7d' expected", title := "unterminated keyword block"
        hint := .ok "close the keyword block with '\x7d'", context := [("expected", .string "\x7d")] }
  | unknownCommand name close =>
      { kind := .unknownCommand, code := .unknownCommand
        message := "unknown command " ++ quoteName name, title := "unknown command"
        hint := suggestion close (.ok "no command is registered under this name")
        context := [("input", .string name), ("suggestions", closeNames close)] }
  | keywordName given =>
      { kind := .keywordName, code := .keywordName
        message := "keyword name expected, got " ++ given.toValue.typeName, title := "invalid keyword name"
        hint := .ok "keyword arguments are written name=value", context := [("key", given.toValue)] }
  | unknownKeyword command name close =>
      { kind := .unknownKeyword, code := .unknownKeyword
        message := "unknown keyword argument " ++ quoteName name, title := "unknown keyword argument"
        hint := suggestion close (usageHint command)
        context := [("command", .command command), ("key", .string name), ("suggestions", closeNames close)] }
  | extraValue command =>
      let count := command.positional.length
      { kind := .extraPositional, code := .extraPositional
        message := "extra positional argument", title := "too many arguments"
        hint := return quoteName command.name ++ " takes " ++ toString count ++ " positional argument" ++
          (if count = 1 then "" else "s") ++ ": " ++ (← command.usage)
        context := [("command", .command command)] }
  | missing command argument byName =>
      { kind := .missingArgument, code := .missingArgument
        message := "missing " ++ (if byName then "keyword argument" else "argument") ++ " " ++
          quoteName argument.name
        title := "missing argument", hint := usageHint command
        context := [("argument", .argument argument), ("command", .command command)] }
  | unknownEnumeration argument =>
      { kind := .unknownEnumeration, code := .unknownEnumeration
        message := about argument ("unknown enumeration " ++ quoteName argument.choices)
        title := "unknown enumeration", hint := .ok "register the enumeration before parsing prompts"
        context := [("argument", .argument argument)] }
  | noChoice argument given choices =>
      { kind := .invalidEnumValue, code := .invalidEnumValue
        message := about argument ("invalid enumeration value " ++ quoteName given)
        title := "invalid enumeration value", hint := .ok ("expected one of: " ++ commas ", " choices)
        context := [("argument", .argument argument), ("value", .string given)] }
  | valueKind argument given kindName =>
      { kind := .argumentType, code := .argumentType
        message := about argument (argument.kind.label ++ " expected, got " ++ kindName)
        title := "argument type mismatch", hint := return "usage: " ++ (← argument.usage)
        context := [("argument", .argument argument), ("value", given)] }
  | relativeValue argument =>
      { kind := .relativeOperator, code := .relativeOperator
        message := about argument "the relative operator needs a numeric argument"
        title := "invalid relative operator", hint := .ok "'~' only applies to num and int arguments"
        context := [("argument", .argument argument)] }
  | relativeArithmetic argument origin delta misuse =>
      { kind := .relativeArithmetic, code := .relativeArithmetic
        message := about argument ("relative " ++ misuse.message)
        title := "invalid relative arithmetic"
        hint := return "origin " ++ (← originText argument.origin) ++ " and delta must both be " ++
          argument.kind.label ++ "s"
        context := [("argument", .argument argument), ("delta", delta), ("origin", origin)] }

end Cause

end Prompter
