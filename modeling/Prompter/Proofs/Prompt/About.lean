import Prompter.Proofs.Bounds
import Prompter.Prompt.Binding

namespace Prompter

open Checked

variable {scope : Scope} {a : Argument} {v o : Value} {given : Given}

structure Cause.IsAbout (a : Argument) (cause : Cause) : Prop where
  argument : ("argument", .argument a) ∈ cause.report.context
  message : ∃ s, cause.report.message = about a s

structure Fault.IsAbout (a : Argument) (f : Fault) : Prop where
  argument : ("argument", .argument a) ∈ f.context
  message : ∃ s, f.message = some (Cause.about a s)

theorem Cause.IsAbout.fault {cause : Cause} {source : Source} {offset : Int} {f : Fault} (h : cause.IsAbout a)
    (hf : Fault.ofCause source cause offset = .ok f) : f.IsAbout a := by
  obtain ⟨hint, _, rfl⟩ := Fault.ofCause_eq_ok.1 hf
  obtain ⟨s, hs⟩ := h.message
  exact ⟨h.argument, s, congrArg some hs⟩

namespace Checked

variable {α β : Type} {C : Cause → Prop} {x : Checked α} {f : α → Checked β}

def Finds (C : Cause → Prop) (x : Checked α) : Prop := ∀ cause, x = .error (.fault cause) → C cause

theorem Finds.bind (hx : Finds C x) (hf : ∀ a, Finds C (f a)) : Finds C (x >>= f) := by
  intro cause h
  rcases bind_eq_error.1 h with h | ⟨a, _, h⟩
  · exact hx cause h
  · exact hf a cause h

end Checked

namespace Slot

end Slot

end Prompter
