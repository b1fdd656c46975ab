import Prompter.Proofs.Interpreter.Enumerations
import Prompter.Workspace.Basic

namespace Prompter

namespace Value

def text : Value → String
  | string s => s
  | _ => ""

def texts (v : Value) : List String := (v.items?.getD []).map text

theorem texts_of_items? {v : Value} {ms : List String} (h : v.items? = some (ms.map .string)) : v.texts = ms := by
  have hid : text ∘ string = id := rfl
  rw [texts, h, Option.getD_some, List.map_map, hid, List.map_id]

end Value

def registered (sets : String → Option (List String)) (call : Value × Value) : String → Option (List String) :=
  Function.update sets call.1.text (some call.2.texts)

/-- A workspace, and the sets that one of its interpreters has accepted. -/
structure Registry where
  workspace : Workspace
  sets : String → Option (List String)

namespace Registry

def ofDraft (draft : Interpreter.Draft) (w : Workspace) : Registry :=
  ⟨w, draft.enumerations.foldl registered fun _ => none⟩

/-- A call with a name and members. The set counts as accepted exactly if the call succeeds. -/
def call (n : Nat) (g : Registry) (given : Value × Value) : Registry :=
  match Session.enumerate n given.1 given.2 g.workspace with
  | .ok _ w => ⟨w, registered g.sets given⟩
  | .error _ w => { g with workspace := w }

def run (n : Nat) (g : Registry) (calls : List (Value × Value)) : Registry := calls.foldl (call n) g

end Registry

namespace Session

variable {α β : Type} {x : Session α} {f : α → Session β} {w w' : Workspace} {a : α} {b : β} {n : Nat}

theorem bind_eq_ok : (x >>= f) w = .ok b w' ↔ ∃ a w₁, x w = .ok a w₁ ∧ f a w₁ = .ok b w' := by
  change EStateM.bind x f w = .ok b w' ↔ _
  rw [EStateM.bind]
  cases x w <;> simp

theorem bind_of_ok (h : x w = .ok a w') : (x >>= f) w = f a w' := by
  change EStateM.bind x f w = f a w'
  rw [EStateM.bind, h]

theorem bind_of_error {e : Failure Fault} (h : x w = .error e w') : (x >>= f) w = .error e w' := by
  change EStateM.bind x f w = .error e w'
  rw [EStateM.bind, h]

theorem lift_eq_ok {y : Except Misuse α} : (liftM y : Session α) w = .ok a w' ↔ y = .ok a ∧ w = w' := by
  cases y with
  | ok a' =>
      change EStateM.Result.ok a' w = .ok a w' ↔ _
      simp
  | error m =>
      change EStateM.Result.error (Failure.misuse m) w = .ok a w' ↔ _
      simp

theorem foldlM_lift_eq_ok {f : β → α → Except Misuse β} {b b' : β} {as : List α} :
    (as.foldlM (fun b a => liftM (f b a)) b : Session β) w = .ok b' w' ↔ as.foldlM f b = .ok b' ∧ w = w' := by
  induction as generalizing b with
  | nil =>
      change EStateM.Result.ok b w = .ok b' w' ↔ Except.ok b = .ok b' ∧ w = w'
      simp
  | cons a as ih =>
      rw [List.foldlM_cons, List.foldlM_cons, bind_eq_ok, Checked.bind_eq_ok]
      simp only [lift_eq_ok]
      constructor
      · rintro ⟨b₁, _, ⟨hb, rfl⟩, h⟩
        exact ⟨⟨b₁, hb, (ih.1 h).1⟩, (ih.1 h).2⟩
      · rintro ⟨⟨b₁, hb, h⟩, rfl⟩
        exact ⟨b₁, w, ⟨hb, rfl⟩, ih.2 ⟨h, rfl⟩⟩

theorem interpreter_bind {α : Type} {i : Interpreter} {g : Interpreter → Session α}
    (hi : w.interpreters[n]? = some i) : (interpreter n >>= g) w = g i w := by
  have hget : interpreter n w = .ok i w := by
    unfold interpreter
    refine bind_eq_ok.2 ⟨w, w, rfl, ?_⟩
    rw [hi]
    rfl
  exact bind_of_ok hget

theorem enumerate_eq {i : Interpreter} {name members : Value} (hi : w.interpreters[n]? = some i) :
    enumerate n name members w =
      match i.enumerate name members with
      | .ok i' => .ok () { w with interpreters := w.interpreters.set n i' }
      | .error m => .error (.misuse m) w := by
  rw [enumerate, interpreter_bind hi]
  change EStateM.bind _ _ w = _
  cases i.enumerate name members <;> rfl

theorem enumerations_of_create {draft : Interpreter.Draft} (h : create draft w = .ok n w') :
    ∃ empty i : Interpreter, empty.enumerations = [] ∧ w'.interpreters[n]? = some i ∧
      draft.enumerations.foldlM (fun i e => i.enumerate e.1 e.2) empty = .ok i := by
  obtain ⟨⟨repository, fresh⟩, w₁, _, h⟩ := bind_eq_ok.1 h
  obtain ⟨vars, w₂, _, h⟩ := bind_eq_ok.1 h
  obtain ⟨i, w₃, hfold, h⟩ := bind_eq_ok.1 h
  change EStateM.Result.ok w₃.interpreters.length
    { w₃ with repositories := w₃.repositories ++ fresh, interpreters := w₃.interpreters ++ [i] } = .ok n w' at h
  cases h
  exact ⟨_, i, rfl, List.getElem?_concat_length, (foldlM_lift_eq_ok.1 hfold).1⟩

end Session

namespace Interpreter

variable {i i' : Interpreter} {sets : String → Option (List String)}

theorem Registers.registered {given : Value × Value} (h : i.Registers sets)
    (hi : i.enumerate given.1 given.2 = .ok i') : i'.Registers (registered sets given) := by
  obtain ⟨name, members⟩ := given
  cases name with
  | string name =>
      obtain ⟨⟨_, _⟩, hmake, _⟩ := Checked.bind_eq_ok.1 hi
      obtain ⟨_, ms, hitems, _⟩ := Enumeration.written_of_make hmake
      have htold := Registers.enumerate i i' sets name members ms h hitems hi
      rwa [Prompter.registered, Value.texts_of_items? hitems]
  | _ => cases hi

theorem Registers.foldlM {given : List (Value × Value)} (h : i.Registers sets)
    (hi : given.foldlM (fun i e => i.enumerate e.1 e.2) i = .ok i') :
    i'.Registers (given.foldl Prompter.registered sets) := by
  induction given generalizing i sets with
  | nil =>
      cases hi
      exact h
  | cons e given ih =>
      rw [List.foldlM_cons] at hi
      obtain ⟨i₁, he, hi⟩ := Checked.bind_eq_ok.1 hi
      exact ih (h.registered he) hi

end Interpreter

namespace Registry

variable {n : Nat} {g : Registry}

def Sound (n : Nat) (g : Registry) : Prop := ∃ i, g.workspace.interpreters[n]? = some i ∧ i.Registers g.sets

theorem sound_ofDraft {draft : Interpreter.Draft} {w w' : Workspace} (h : Session.create draft w = .ok n w') :
    (ofDraft draft w').Sound n := by
  obtain ⟨empty, i, hempty, hi, hfold⟩ := Session.enumerations_of_create h
  exact ⟨i, hi, (Interpreter.Registers.fresh empty hempty).foldlM hfold⟩

theorem Sound.call (h : g.Sound n) (given : Value × Value) : (g.call n given).Sound n := by
  obtain ⟨i, hi, hsets⟩ := h
  rw [Registry.call, Session.enumerate_eq hi]
  cases hcall : i.enumerate given.1 given.2 with
  | ok i' =>
      have hn : n < g.workspace.interpreters.length := (List.getElem?_eq_some_iff.1 hi).1
      exact ⟨i', List.getElem?_set_self hn, hsets.registered hcall⟩
  | error m => exact ⟨i, hi, hsets⟩

theorem Sound.run (h : g.Sound n) (calls : List (Value × Value)) : (g.run n calls).Sound n := by
  induction calls generalizing g with
  | nil => exact h
  | cons given calls ih => exact ih (h.call given)

end Registry

end Prompter
