import Prompter.Workspace.Basic

namespace Prompter.Session

variable (host : Host) (n : Nat)

def surface (presentation : Presentation) (f : Fault) : Session Unit := do
  notify [← { f with presentation }.surface host]

def store (p : Prompt) : Session Unit := do
  p.args.zipIdx.forM fun (v, k) => setVariable n (.string s!"arg{k}") v
  p.kwargs.forM fun (name, v) => setVariable n name v

def perform (execute : Value → Session Value) (p : Prompt) : Routine → Session Value
  | .echo => return .map [
      (.string "args", .list p.args), (.string "kwargs", .map p.kwargs), (.string "on", .integer n)]
  | .store => do
      store n p
      return .none
  | .batch => return .list (← p.args.mapM execute)
  | .fail => throw (.misuse (.executorFailed p.args.length))

/-- Executes a text, with `depth` levels left for texts that routines execute. -/
def executeWithin : Nat → Value → Session Value
  | 0, _ => throw (.misuse .nestedTooDeep)
  | depth + 1, text => do
      let i ← interpreter n
      match i.parse (← repositoryOf i) text (.string Prompt.defaultLabel) with
      | .error (.fault f) => do
          surface host i.presentation f
          return .none
      | .error (.misuse m) => throw (.misuse m)
      | .ok p =>
          match p.command.executor with
          | .routine r => perform n (executeWithin depth) p r
          | _ => throw (.misuse (.notExecutable p.command.name))

def maxDepth : Nat := 300

def execute (text : Value) : Session Value := executeWithin host n maxDepth text

end Prompter.Session
