import Prompter.Proofs.Prompt.FirstFault
import Prompter.Proofs.Shown

namespace Prompter

open Reader

variable {scope : Scope} {command : Command} {a : Argument} {l : Literal} {text rest : List Char} {gap : Gap}
  {b : Binding} {c : Cursor} {passed vacant : List Argument} {ls : List Literal} {items more : List Item}

namespace Binding

end Binding

namespace Prompt

variable {commands : Table Command} {source : Source} {name : String}

end Prompt

namespace Interpreter

variable {i : Interpreter} {r : Repository} {command : Command} {name text : String}

end Interpreter

end Prompter
