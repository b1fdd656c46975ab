namespace Prompter

inductive FaultKind where
  | fault
  | unexpectedEnd
  | invalidCharacter
  | unterminatedString
  | malformedNumber
  | expectedToken
  | unknownType
  | emptyEnumeration
  | enumerationSeparator
  | duplicateArgument
  | defaultValue
  | unknownCommand
  | unknownKeyword
  | keywordName
  | extraPositional
  | missingArgument
  | argumentType
  | invalidEnumValue
  | unknownEnumeration
  | relativeOperator
  | relativeArithmetic
  | warning
  | redefinedCommand
deriving DecidableEq

namespace FaultKind

def all : List FaultKind :=
  [fault, unexpectedEnd, invalidCharacter, unterminatedString, malformedNumber, expectedToken, unknownType,
    emptyEnumeration, enumerationSeparator, duplicateArgument, defaultValue, unknownCommand, unknownKeyword,
    keywordName, extraPositional, missingArgument, argumentType, invalidEnumValue, unknownEnumeration,
    relativeOperator, relativeArithmetic, warning, redefinedCommand]

def isWarning (k : FaultKind) : Bool := k = warning ∨ k = redefinedCommand

def name : FaultKind → String
  | fault => "ParseError"
  | unexpectedEnd => "UnexpectedEndError"
  | invalidCharacter => "InvalidCharacterError"
  | unterminatedString => "UnterminatedStringError"
  | malformedNumber => "MalformedNumberError"
  | expectedToken => "ExpectedTokenError"
  | unknownType => "UnknownTypeError"
  | emptyEnumeration => "EmptyEnumerationError"
  | enumerationSeparator => "EnumerationSeparatorError"
  | duplicateArgument => "DuplicateArgumentError"
  | defaultValue => "DefaultValueError"
  | unknownCommand => "UnknownCommandError"
  | unknownKeyword => "UnknownKeywordError"
  | keywordName => "KeywordNameError"
  | extraPositional => "ExtraPositionalError"
  | missingArgument => "MissingArgumentError"
  | argumentType => "ArgumentTypeError"
  | invalidEnumValue => "InvalidEnumValueError"
  | unknownEnumeration => "UnknownEnumerationError"
  | relativeOperator => "RelativeOperatorError"
  | relativeArithmetic => "RelativeArithmeticError"
  | warning => "CommandWarning"
  | redefinedCommand => "RedefinedCommandWarning"

def ofName? (name : String) : Option FaultKind := all.find? (·.name == name)

end FaultKind

end Prompter
