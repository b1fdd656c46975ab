import Prompter.Interpreter.Help

namespace Prompter

structure Workspace where
  repositories : List Repository := []
  interpreters : List Interpreter := []
  /-- What the host has been told, the earliest first. -/
  notices : List Notice := []

abbrev Session := EStateM (Failure Fault) Workspace

namespace Session

variable {α : Type}

def liftHost (x : Except Misuse α) : Session α :=
  match x with
  | .ok a => pure a
  | .error m => throw (.misuse m)

def lift (x : Except (Failure Fault) α) : Session α :=
  match x with
  | .ok a => pure a
  | .error e => throw e

instance : MonadLift (Except Misuse) Session := ⟨liftHost⟩

instance : MonadLift (Except (Failure Fault)) Session := ⟨lift⟩

def notify (notices : List Notice) : Session Unit :=
  modify fun w => { w with notices := w.notices ++ notices }

def interpreter (n : Nat) : Session Interpreter := do
  match (← get).interpreters[n]? with
  | some i => return i
  | none => throw (.misuse .noInterpreter)

def repositoryOf (i : Interpreter) : Session Repository := return ((← get).repositories[i.repository]?).getD {}

def setInterpreter (n : Nat) (i : Interpreter) : Session Unit :=
  modify fun w => { w with interpreters := w.interpreters.set n i }

def setRepository (n : Nat) (r : Repository) : Session Unit :=
  modify fun w => { w with repositories := w.repositories.set n r }

end Session

/-- The repository that a host gives a new interpreter: that of another one, or a value. Where the value is absent the
interpreter has a repository of its own; other values are no repositories. -/
inductive Sharing where
  | with (interpreter : Nat)
  | value (v : Value)

structure Interpreter.Draft where
  sharing : Sharing := .value .unset
  vars : Except Misuse Variables := .ok .none
  enumerations : List (Value × Value) := []
  presentation : Presentation := {}

namespace Session

variable (host : Host) (n : Nat)

def place : Sharing → Session (Nat × List Repository)
  | .value .unset => return ((← get).repositories.length, [{}])
  | .with other => return ((← interpreter other).repository, [])
  | .value _ => throw (.misuse .repositoryExpected)

def create (draft : Interpreter.Draft) : Session Nat := do
  let (repository, fresh) ← place draft.sharing
  let vars ← draft.vars
  let empty : Interpreter := { repository, vars, presentation := draft.presentation }
  let i ← draft.enumerations.foldlM (fun i (name, members) => i.enumerate name members) empty
  let w ← get
  set { w with repositories := w.repositories ++ fresh, interpreters := w.interpreters ++ [i] }
  return w.interpreters.length

def register (scheme executor : Value) : Session String := do
  let i ← interpreter n
  let (r, outcome) := (← repositoryOf i).add host i.presentation scheme executor
  setRepository i.repository r
  let (command, notices) ← outcome
  notify notices
  return command.name

def lookup (name : Value) : Session (Option Command) := do (← repositoryOf (← interpreter n)).get name

def names : Session (List String) := return (← repositoryOf (← interpreter n)).names

def remove (name : Value) : Session Command := do
  let i ← interpreter n
  let (command, r) ← (← repositoryOf i).remove name
  setRepository i.repository r
  return command

def parse (text : Value) : Session Prompt := do
  let i ← interpreter n
  i.parse (← repositoryOf i) text (.string Prompt.defaultLabel)

def describe (name : Value) : Session (Option Description) := do
  match ← lookup n name with
  | none => return none
  | some command => return some (← command.description)

def help (name : Value) : Session Unit := do
  let i ← interpreter n
  notify [.printed (← i.help host (← repositoryOf i) name)]

def enumerate (name members : Value) : Session Unit := do
  setInterpreter n (← (← interpreter n).enumerate name members)

def enumerations : Session Value := return (← interpreter n).enumerationView

def getVariable (name : Value) : Session Value := do (← interpreter n).vars.get name

def setVariable (name v : Value) : Session Unit := do
  let i ← interpreter n
  setInterpreter n { i with vars := ← i.vars.set name v }

def eraseVariable (name : Value) : Session Unit := do
  let i ← interpreter n
  setInterpreter n { i with vars := ← i.vars.erase name }

def presentation : Session Presentation := return (← interpreter n).presentation

end Session

end Prompter
