import Prompter.Text.Quoted

namespace Prompter

open Text

inductive Misuse where
  | notDynamic (typeName : String)
  | notConvertible (typeName : String)
  | mapKey (typeName : String)
  | numberExpected (kind : String)
  | integerExpected (kind : String)
  | numberOverflow
  | tooManyDigits
  | unhashable (typeName : String)
  | notIterable (typeName : String)
  | noProperty (typeName property : String)
  | noLength (typeName : String)
  | notUpperable (typeName : String)
  | notJoinable (typeName : String)
  | pairExpected (index : Nat)
  | pairLength (index length : Nat)
  | sourceNotText
  | labelNotText
  | backTooFar (count : Int) (offset : Nat)
  | nameNotText (owner : String)
  | nameEmpty (owner : String)
  | kindExpected
  | defaultOnMandatory (argument : String)
  | originUnusable (argument : String)
  | originOnNonNumeric (argument : String)
  | choicesNotText
  | choicesMissing (argument : String)
  | choicesUnexpected (argument : String)
  | positionalNotIterable
  | positionalNotArguments
  | positionalRepeated (command argument : String)
  | keywordNotIterable
  | keywordNotArguments
  | keywordRepeated (command argument : String)
  | slotKey
  | executorWithCommand
  | notAddable
  | missingKey (key : String)
  | repositoryExpected
  | noInterpreter
  | variablesExpected
  | variablesReadOnly
  | variableName
  | noVariable (name : String)
  | enumerationName
  | enumerationNotIterable (name : String)
  | enumerationEmpty (name : String)
  | enumerationNotText (name : String)
  | enumerationMember (name member : String)
  | notExecutable (command : String)
  | executorFailed (count : Nat)
  | nestedTooDeep
  | messageNotText
  | countExpected (typeName : String)
  | countInfinite
  | countNotANumber
  | notOrdered (typeName : String)
  | notReducible (typeName : String)
  | lineNotWhole
  | lineOutside
  | lineTooFar
  | columnNotWhole
  | columnTooFar
  | columnTooWide
  | selfRepeated (owner : String)
  | faultExpected
  | codeExpected
  | nothingToCoalesce
  | coalesceCount (count : Nat)
  | viewName
  | renameCount (count : Nat)
  | renameNotCallable
  | renameNotText
  | renameFixed
  | renamerNotText
  | renamerNotCallable
  | sealedType
  | unionOperand
deriving DecidableEq

namespace Misuse

inductive Category where
  | type
  | value
  | key
  | lookup
  | overflow
  | assertion
  | property
  | index
  | memory
  | recursion
deriving DecidableEq

def category : Misuse → Category
  | numberOverflow | countInfinite | columnTooFar => .overflow
  | noProperty .. => .property
  | missingKey .. => .key
  | noVariable .. => .lookup
  | lineOutside | lineTooFar | noInterpreter => .index
  | columnTooWide => .memory
  | messageNotText => .assertion
  | nestedTooDeep => .recursion
  | tooManyDigits | pairLength .. | backTooFar .. | nameEmpty .. | defaultOnMandatory .. | originOnNonNumeric .. | choicesMissing ..
  | choicesUnexpected .. | positionalRepeated .. | keywordRepeated .. | enumerationEmpty .. | enumerationMember ..
  | executorFailed .. | countNotANumber => .value
  | _ => .type

def message : Misuse → String
  | notDynamic t => shown t ++ " is not a dynamic value"
  | notConvertible t => shown t ++ " cannot be converted to a dynamic value"
  | mapKey t => "map keys must be strings, got " ++ shown t
  | numberExpected k => "number expected, got " ++ k
  | integerExpected k => "integer expected, got " ++ k
  | numberOverflow => "int too large to convert to float"
  | tooManyDigits =>
      "Exceeds the limit (4300 digits) for integer string conversion; use sys.set_int_max_str_digits() to increase the limit"
  | unhashable t => "unhashable type: " ++ shown t
  | notIterable t => shown t ++ " object is not iterable"
  | noProperty t a => shown t ++ " object has no attribute " ++ shown a
  | noLength t => "object of type " ++ shown t ++ " has no len()"
  | notUpperable t => "descriptor 'upper' for 'str' objects doesn't apply to a " ++ shown t ++ " object"
  | notJoinable t => "can only concatenate str (not \"" ++ t ++ "\") to str"
  | pairExpected i => s!"cannot convert dictionary update sequence element #{i} to a sequence"
  | pairLength i n => s!"dictionary update sequence element #{i} has length {n}; 2 is required"
  | sourceNotText => "scanner source must be a string"
  | labelNotText => "scanner filename must be a string"
  | backTooFar count offset => s!"cannot move back {count} characters from offset {offset}"
  | nameNotText owner => owner ++ " 'name' must be a string"
  | nameEmpty owner => owner ++ " 'name' cannot be empty"
  | kindExpected => "argument 'type' must be an ArgType"
  | defaultOnMandatory a => "argument " ++ quoteName a ++ ": only optional arguments carry a default"
  | originUnusable a => "argument " ++ quoteName a ++ ": 'origin' must be a number or a variable name"
  | originOnNonNumeric a => "argument " ++ quoteName a ++ ": only numeric arguments support an origin"
  | choicesNotText => "argument 'enumeration' must be a string"
  | choicesMissing a => "argument " ++ quoteName a ++ ": enumeration arguments need an enumeration"
  | choicesUnexpected a =>
      "argument " ++ quoteName a ++ ": only enumeration arguments carry an enumeration"
  | positionalNotIterable => "command 'positional' must be an iterable of arguments"
  | positionalNotArguments => "command 'positional' must contain arguments only"
  | positionalRepeated c a =>
      "command " ++ quoteName c ++ ": duplicated positional argument " ++ quoteName a
  | keywordNotIterable => "command 'keyword' must be a mapping or an iterable of arguments"
  | keywordNotArguments => "command 'keyword' must contain arguments only"
  | keywordRepeated c a => "command " ++ quoteName c ++ ": duplicated keyword argument " ++ quoteName a
  | slotKey => "argument() key must be an index or a keyword name"
  | executorWithCommand => "an executor can only be given with a scheme string"
  | notAddable => "add() argument must be a scheme string or a command"
  | missingKey k => k
  | repositoryExpected => "interpreter 'repository' must be a repository"
  | variablesExpected => "interpreter 'variables' must be a mapping or a callable"
  | variablesReadOnly => "interpreter variables are read-only"
  | variableName => "variable names must be strings"
  | noVariable name => "no variable " ++ name
  | enumerationName => "enumeration name must be a non-empty string"
  | enumerationNotIterable name => "enumeration " ++ quoteName name ++ " must be an iterable of strings"
  | enumerationEmpty name => "enumeration " ++ quoteName name ++ " cannot be empty"
  | enumerationNotText name => "enumeration " ++ quoteName name ++ " must contain strings only"
  | enumerationMember name member =>
      "enumeration " ++ quoteName name ++ ": invalid member " ++ shown member
  | notExecutable c => "command " ++ quoteName c ++ " has no callable executor"
  | executorFailed n => s!"executor failed on {n} arguments"
  | nestedTooDeep => "maximum recursion depth exceeded"
  | messageNotText | columnTooWide => ""
  | countExpected t => "%d format: a real number is required, not " ++ t
  | countInfinite => "cannot convert float infinity to integer"
  | countNotANumber => "cannot convert float NaN to integer"
  | notOrdered t => "'<=' not supported between instances of " ++ shown t ++ " and 'int'"
  | notReducible t => "unsupported operand type(s) for -: " ++ shown t ++ " and 'int'"
  | lineNotWhole => "list indices must be integers or slices, not float"
  | lineOutside | noInterpreter => "list index out of range"
  | lineTooFar | columnTooFar => "cannot fit 'int' into an index-sized integer"
  | columnNotWhole => "can't multiply sequence by non-int of type 'float'"
  | selfRepeated owner => owner ++ ".__replace__() got multiple values for argument 'self'"
  | faultExpected => "trigger() argument must have a __trigger__ and __replace__ methods"
  | codeExpected => "getdoc() argument must be a fault-code"
  | nothingToCoalesce => "coalesce() missing 1 required positional argument: 'object'"
  | coalesceCount n => s!"coalesce() takes from 1 to 2 positional arguments but {n} were given"
  | viewName => "mirror() argument must be a string"
  | renameCount n => s!"rename takes 1 to 2 arguments but {n} were given"
  | renameNotCallable => "rename() first argument must be callable"
  | renameNotText => "rename() second argument must be a string"
  | renameFixed => "rename() first argument must be a updatable callable"
  | renamerNotText => "@rename() argument must be a string"
  | renamerNotCallable => "@rename() must be applied to a callable"
  | sealedType => "type 'UnsetType' is not an acceptable base type"
  | unionOperand => "unsupported operand type(s) for |: 'UnsetType' and 'int'"

end Misuse

end Prompter
