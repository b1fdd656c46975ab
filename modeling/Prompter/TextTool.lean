import Prompter.Misuse

namespace Prompter

inductive TextTool where
  | scanner
  | literals
  | schemes
deriving DecidableEq

namespace TextTool

def typeName : TextTool → String
  | scanner => "Scanner"
  | literals => "LiteralParser"
  | schemes => "SchemeParser"

def literalOperations : List String := ["parse_identifier", "parse_value"]

def schemeOperations : List String := ["parse_type", "parse_enum", "parse_argument"]

def missing : TextTool → List String
  | scanner => literalOperations ++ schemeOperations
  | literals => schemeOperations
  | schemes => []

def require (tool : TextTool) (operation : String) : Except Misuse Unit :=
  if tool.missing.contains operation then .error (.noProperty tool.typeName operation) else .ok ()

end TextTool

end Prompter
