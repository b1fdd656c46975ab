import Prompter.Text.Pieces

namespace Prompter.Choices

open Text

def write (members : List String) : String :=
  .ofList ('|' :: joined '|' (members.map String.toList) ++ ['|'])

def body (stored : String) : List Char := (stored.toList.drop 1).dropLast

def members (stored : String) : List String := (pieces '|' (body stored)).map String.ofList

def holds (stored value : String) : Bool :=
  !value.toList.contains '|' && occursIn ('|' :: value.toList ++ ['|']) stored.toList

end Prompter.Choices
