import Prompter.Fault.Rendering
import Prompter.Scheme.Command
import Prompter.Table

namespace Prompter

structure Repository where
  commands : Table Command := []

namespace Repository

variable (host : Host) (presentation : Presentation) (r : Repository)

def names : List String := r.commands.names

def get (key : Value) : Except Misuse (Option Command) := do
  match ← key.asKey with
  | .string name => return r.commands.get? name
  | _ => return none

def commandFrom (scheme executor : Value) : Except (Failure Fault) Command :=
  match scheme, executor with
  | .string text, _ => Scheme.compile ⟨text, Scheme.defaultLabel⟩ executor
  | .command c, .none => .ok c
  | .command _, _ => .error (.misuse .executorWithCommand)
  | _, _ => .error (.misuse .notAddable)

def redefined (command previous : Command) : Except Misuse Fault := do
  return {
    kind := .redefinedCommand
    message := some ("command " ++ Text.quoteName command.name ++ " redefined")
    code := some .redefinedCommand
    title := some (.string "command redefined")
    hint := .string ("the previous definition (" ++ (← previous.usage) ++ ") was replaced")
    presentation := presentation
    context := [("command", .command command)] }

def noticesFor (command : Command) : Except (Failure Fault) (List Notice) :=
  match r.commands.get? command.name with
  | none => .ok []
  | some previous => do return [← (← redefined presentation command previous).surface host]

def insert (command : Command) : Repository := ⟨r.commands.put command.name command⟩

/-- The repository with the command in its place, and the command with what the host is told. The place is taken before
the host is told, and it stays taken when there are no words to tell. -/
def add (scheme executor : Value) : Repository × Except (Failure Fault) (Command × List Notice) :=
  match commandFrom scheme executor with
  | .error e => (r, .error e)
  | .ok command => (r.insert command, do return (command, ← r.noticesFor host presentation command))

/-- The command under a key, and the repository without it. An empty repository has no command under any key. -/
def remove (key : Value) : Except Misuse (Command × Repository) := do
  if r.commands.isEmpty then throw (.missingKey key.reported)
  match ← r.get key with
  | some command => return (command, ⟨r.commands.erase command.name⟩)
  | none => throw (.missingKey key.reported)

def has (key : Value) : Except Misuse Bool := return (← r.get key).isSome

def addAll (r : Repository) : List Value → List Notice × Except (Failure Fault) Repository
  | [] => ([], .ok r)
  | scheme :: rest =>
      match r.add host {} scheme .none with
      | (_, .error e) => ([], .error e)
      | (r, .ok (_, notices)) =>
          let (more, outcome) := addAll r rest
          (notices ++ more, outcome)

def ofValue (commands : Value) : List Notice × Except (Failure Fault) Repository :=
  match commands.items with
  | .ok items => addAll host {} items
  | .error m => ([], .error (.misuse m))

end Repository

end Prompter
