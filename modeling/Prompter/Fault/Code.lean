namespace Prompter

inductive FaultCode where
  | unexpectedEnd
  | invalidCharacter
  | unterminatedString
  | malformedNumber
  | expectedToken
  | unknownType
  | emptyEnumeration
  | enumerationSeparator
  | duplicateArgument
  | defaultValue
  | unknownCommand
  | unknownKeyword
  | keywordName
  | extraPositional
  | missingArgument
  | argumentType
  | invalidEnumValue
  | unknownEnumeration
  | relativeOperator
  | relativeArithmetic
  | redefinedCommand
deriving DecidableEq

namespace FaultCode

def all : List FaultCode :=
  [unexpectedEnd, invalidCharacter, unterminatedString, malformedNumber, expectedToken, unknownType,
    emptyEnumeration, enumerationSeparator, duplicateArgument, defaultValue, unknownCommand, unknownKeyword,
    keywordName, extraPositional, missingArgument, argumentType, invalidEnumValue, unknownEnumeration,
    relativeOperator, relativeArithmetic, redefinedCommand]

def number : FaultCode → Nat
  | unexpectedEnd => 21101
  | invalidCharacter => 21102
  | unterminatedString => 21103
  | malformedNumber => 21104
  | expectedToken => 22101
  | unknownType => 22102
  | emptyEnumeration => 22103
  | enumerationSeparator => 22104
  | duplicateArgument => 22105
  | defaultValue => 22106
  | unknownCommand => 23101
  | unknownKeyword => 23102
  | keywordName => 23103
  | extraPositional => 23104
  | missingArgument => 23105
  | argumentType => 24101
  | invalidEnumValue => 24102
  | unknownEnumeration => 24103
  | relativeOperator => 24104
  | relativeArithmetic => 24105
  | redefinedCommand => 25101

theorem number_injective {a b : FaultCode} (h : a.number = b.number) : a = b := by
  revert h
  cases a <;> cases b <;> decide

def symbol : FaultCode → String
  | unexpectedEnd => "UNEXPECTED_END"
  | invalidCharacter => "INVALID_CHARACTER"
  | unterminatedString => "UNTERMINATED_STRING"
  | malformedNumber => "MALFORMED_NUMBER"
  | expectedToken => "EXPECTED_TOKEN"
  | unknownType => "UNKNOWN_TYPE"
  | emptyEnumeration => "EMPTY_ENUMERATION"
  | enumerationSeparator => "ENUMERATION_SEPARATOR"
  | duplicateArgument => "DUPLICATE_ARGUMENT"
  | defaultValue => "DEFAULT_VALUE"
  | unknownCommand => "UNKNOWN_COMMAND"
  | unknownKeyword => "UNKNOWN_KEYWORD"
  | keywordName => "KEYWORD_NAME"
  | extraPositional => "EXTRA_POSITIONAL"
  | missingArgument => "MISSING_ARGUMENT"
  | argumentType => "ARGUMENT_TYPE"
  | invalidEnumValue => "INVALID_ENUM_VALUE"
  | unknownEnumeration => "UNKNOWN_ENUMERATION"
  | relativeOperator => "RELATIVE_OPERATOR"
  | relativeArithmetic => "RELATIVE_ARITHMETIC"
  | redefinedCommand => "REDEFINED_COMMAND"

def ofSymbol? (symbol : String) : Option FaultCode := all.find? (·.symbol == symbol)

end FaultCode

end Prompter
