import Prompter.Proofs.Interpreter.Failures
import Prompter.Proofs.Operations
import Prompter.Proofs.Repository.History

namespace Prompter

variable {host : Host} {n : Nat} {w w' : Workspace} {i : Interpreter} {r : Repository} {text label : Value} {f : Fault}

namespace Session

variable {α β : Type} {x : Session α} {g : α → Session β} {e : Failure Fault}

/-- Success or failure, the workspace stays as it was. -/
def Reads (x : Session α) : Prop := ∀ w, (∃ a, x w = .ok a w) ∨ ∃ e, x w = .error e w

def Careful (x : Session α) : Prop := ∀ w, (∃ a w', x w = .ok a w') ∨ ∃ e, x w = .error e w

def Succeeds (x : Session α) : Prop := ∀ w, ∃ a w', x w = .ok a w'

theorem Succeeds.bind (hx : Succeeds x) (hg : ∀ a, Succeeds (g a)) : Succeeds (x >>= g) := by
  intro w
  obtain ⟨a, w', ha⟩ := hx w
  rw [bind_of_ok ha]
  exact hg a w'

theorem Reads.bind (hx : Reads x) (hg : ∀ a, Reads (g a)) : Reads (x >>= g) := by
  intro w
  rcases hx w with ⟨a, ha⟩ | ⟨e, he⟩
  · rw [bind_of_ok ha]
    exact hg a w
  · exact .inr ⟨e, bind_of_error he⟩

/-- First read and check, and only then write. -/
theorem Careful.bind (hx : Reads x) (hg : ∀ a, Careful (g a)) : Careful (x >>= g) := by
  intro w
  rcases hx w with ⟨a, ha⟩ | ⟨e, he⟩
  · rw [bind_of_ok ha]
    exact hg a w
  · exact .inr ⟨e, bind_of_error he⟩

theorem reads_pure (a : α) : Reads (pure a : Session α) := fun _ => .inl ⟨a, rfl⟩

end Session

namespace Fault

end Fault

namespace Session

variable {e : Failure Fault} {scheme executor : Value} {command : Command}

end Session

inductive Request where
  | register (scheme executor : Value)
  | remove (name : Value)
  | enumerate (name members : Value)
  | assign (name v : Value)
  | delete (name : Value)
  | parse (text : Value)
  | execute (text : Value)

namespace Request

/-- The request, where texts are executed by `execute`. -/
def runWith (host : Host) (n : Nat) (execute : Value → Session Value) : Request → Session Unit
  | .register scheme executor => do
      let _ ← Session.register host n scheme executor
      return
  | .remove name => do
      let _ ← Session.remove n name
      return
  | .enumerate name members => Session.enumerate n name members
  | .assign name v => Session.setVariable n name v
  | .delete name => Session.eraseVariable n name
  | .parse text => do
      let _ ← Session.parse n text
      return
  | .execute text => do
      let _ ← execute text
      return

def run (host : Host) (n : Nat) : Request → Session Unit := runWith host n (Session.execute host n)

def Silences (n : Nat) (w : Workspace) : Request → Prop
  | .register scheme executor => ∃ i r command, w.Holds n i r ∧
      Repository.commandFrom scheme executor = .ok command ∧ r.Silences command
  | _ => False

variable {q : Request} {e : Failure Fault}

end Request

end Prompter
