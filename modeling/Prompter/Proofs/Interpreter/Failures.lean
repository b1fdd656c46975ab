import Mathlib.Algebra.Group.Int.Defs
import Prompter.Proofs.Interpreter.Registration
import Prompter.Proofs.Prompt.Overflow
import Prompter.Workspace.Execution

namespace Prompter

open Text

namespace Fault

variable {f : Fault} {source : Source} {host : Host} {presentation : Presentation} {text : List Char} {p count : Nat}
  {line column : Int}

theorem place_pos (text : List Char) (p : Nat) : 1 ≤ (place text p).1 ∧ 1 ≤ (place text p).2 := by
  simp only [place]
  omega

theorem column_le (hp : p ≤ text.length) : (place text p).2 ≤ text.length + 1 := by
  simp only [place]
  omega

theorem line_le (hp : p ≤ text.length) : (place text p).1 ≤ text.length + 1 := by
  have hcount := List.count_le_length (a := '\n') (l := text.take p)
  simp only [place, List.length_take] at hcount ⊢
  omega

theorem linePlace_of_pos (hline : 1 ≤ line) : ∃ found, linePlace count (.integer line) = .ok found := by
  rw [linePlace]
  split
  · exact ⟨_, rfl⟩
  · exact ⟨_, rfl⟩

theorem caretAt_of_pos (hcolumn : 1 ≤ column) (hlimit : column < lineLimit) :
    caretAt (.integer column) = .ok (.ofList (List.replicate (column - 1).toNat ' ' ++ ['^'])) := by
  have hnear : ¬(column - 1 < -countLimit ∨ countLimit ≤ column - 1) := by
    simp only [countLimit]
    simp only [lineLimit] at hlimit
    omega
  rw [caretAt, if_neg hnear, if_neg (by omega)]

theorem pointer_of_pos {text : String} (hline : 1 ≤ line) (hcolumn : 1 ≤ column) (hlimit : column < lineLimit) :
    ∃ shown, pointer (.string text) (.integer line) (.integer column) = .ok shown := by
  refine Checked.exists_bind ⟨_, rfl⟩ fun found => Checked.exists_bind (linePlace_of_pos hline) fun place => ?_
  split
  · exact ⟨_, rfl⟩
  · exact Checked.exists_bind ⟨_, caretAt_of_pos hcolumn hlimit⟩ fun caret => ⟨_, rfl⟩

theorem PointsInto.with_presentation (h : f.PointsInto source) (presentation : Presentation) :
    { f with presentation }.PointsInto source :=
  ⟨h.isError, h.label, h.text, h.title, h.hint, h.place⟩

theorem exists_describe {label : String} (hlabel : f.source = .string label) (hline : f.line = .integer line)
    (hcolumn : f.column = .integer column) (hlineText : ¬TooLong line) (hcolumnText : ¬TooLong column) :
    ∃ s, f.describe = .ok s := by
  rw [describe, hlabel, hline, hcolumn]
  cases f.kind.isWarning with
  | true => exact ⟨_, rfl⟩
  | false =>
      change ∃ s, (integerText line >>= fun l => integerText column >>= fun c => pure _) = .ok s
      exact Checked.exists_bind (noText_integerText.exists_ok hlineText) fun l =>
        Checked.exists_bind (noText_integerText.exists_ok hcolumnText) fun c => ⟨_, rfl⟩

theorem describe_of_pointsInto (h : f.PointsInto source) (hlimit : source.text.toList.length + 1 < lineLimit) :
    ∃ s, f.describe = .ok s := by
  obtain ⟨p, hp, hline, hcolumn⟩ := h.place
  have hlast := line_le hp
  have hright := column_le hp
  simp only [lineLimit] at hlimit
  exact exists_describe h.label hline hcolumn (not_tooLong_of_range (by omega)) (not_tooLong_of_range (by omega))

structure HasWords (f : Fault) : Prop where
  title : ∃ title, f.titleText = .ok title
  hint : ∃ hint, f.hint.plain = .ok hint

theorem PointsInto.hasWords (h : f.PointsInto source) : f.HasWords where
  title := by
    obtain ⟨title, htitle⟩ := h.title
    rw [titleText, htitle]
    exact ⟨title, rfl⟩
  hint := by
    obtain ⟨hint, hhint⟩ := h.hint
    rw [hhint]
    exact ⟨hint, rfl⟩

theorem HasWords.header (h : f.HasWords) (host : Host) : ∃ header, f.header host = .ok header :=
  Checked.exists_bind h.title fun _ => ⟨_, rfl⟩

theorem HasWords.hintLine (h : f.HasWords) (host : Host) : ∃ lines, f.hintLine host = .ok lines := by
  rw [Fault.hintLine]
  split
  · exact Checked.exists_bind h.hint fun _ => ⟨_, rfl⟩
  · exact ⟨_, rfl⟩

theorem pointerLines_of_pointsInto (h : f.PointsInto source) (hlimit : source.text.toList.length + 1 < lineLimit) :
    ∃ lines, f.pointerLines host = .ok lines := by
  obtain ⟨p, hp, hline, hcolumn⟩ := h.place
  obtain ⟨hfirst, hleft⟩ := place_pos source.text.toList p
  have hright := column_le hp
  rw [pointerLines, h.text, hline, hcolumn]
  split
  · exact ⟨_, rfl⟩
  · exact ⟨_, rfl⟩
  · exact Checked.exists_bind (pointer_of_pos (by omega) (by omega) (by omega)) fun shown => ⟨_, rfl⟩

/-- A fault that points into a text is shown, unless the text is longer than a line may be. -/
theorem rendering_of_pointsInto (host : Host) (h : f.PointsInto source)
    (hlimit : source.text.toList.length + 1 < lineLimit) : ∃ rendering, f.rendering host = .ok rendering :=
  Checked.exists_bind (h.hasWords.header host) fun _ => Checked.exists_bind (describe_of_pointsInto h hlimit) fun _ =>
    Checked.exists_bind (pointerLines_of_pointsInto h hlimit) fun _ =>
      Checked.exists_bind (h.hasWords.hintLine host) fun _ => ⟨_, rfl⟩

end Fault

def Repository.Compiled (r : Repository) : Prop :=
  ∀ name command, r.commands.get? name = some command → ∃ scheme executor, Scheme.compile scheme executor = .ok command

/-- The text names a command with a slot for numbers that is relative to a variable, which is a huge integer. -/
def Repository.Overflows (scope : Scope) (r : Repository) (text : String) : Prop :=
  ∃ command d, Prompt.readName r.commands (.start text) = .ok command d ∧
    ∃ a ∈ command.positional ++ command.keyword, Slot.Overflows scope a

def Workspace.Holds (w : Workspace) (n : Nat) (i : Interpreter) (r : Repository) : Prop :=
  w.interpreters[n]? = some i ∧ (w.repositories[i.repository]?).getD {} = r

variable {i : Interpreter} {r : Repository} {w : Workspace} {host : Host} {n : Nat} {text label : String}

namespace Interpreter

theorem parse_cases (hr : r.Compiled) (hv : i.scope.Total) (text label : String) :
    (∃ p, i.parse r (.string text) (.string label) = .ok p) ∨
      (∃ f, i.parse r (.string text) (.string label) = .error (.fault f) ∧ f.PointsInto ⟨text, label⟩) ∨
      (i.parse r (.string text) (.string label) = .error (.misuse .numberOverflow) ∧ r.Overflows i.scope text) := by
  have hblames : ∀ command d, Prompt.readName r.commands (.start text) = .ok command d →
      command.Blames i.scope fun m => m = .numberOverflow ∧ r.Overflows i.scope text := by
    intro command d hname
    obtain ⟨name, hget⟩ := Prompt.get?_of_readName hname
    obtain ⟨scheme, executor, hc⟩ := hr name command hget
    obtain ⟨hpositional, hkeyword⟩ := Scheme.inRange_of_compile hc
    obtain ⟨usage, husage⟩ := (Signature.noText_usage command).exists_ok (Scheme.not_overlong_of_compile hc)
    constructor
    · intro m hm
      cases husage.symm.trans hm
    · intro a ha
      refine Slot.blames_of_overflows hv (hpositional a ha) fun h => ⟨rfl, command, d, hname, a, ?_, h⟩
      exact List.mem_append_left _ ha
    · intro a ha
      refine Slot.blames_of_overflows hv (hkeyword a ha) fun h => ⟨rfl, command, d, hname, a, ?_, h⟩
      exact List.mem_append_right _ ha
  have hparse : i.parse r (.string text) (.string label) = Prompt.parse i.scope r.commands ⟨text, label⟩ := rfl
  rw [hparse]
  rcases Prompt.parse_cases ⟨text, label⟩ hblames with hp | hf | ⟨m, hm, rfl, hover⟩
  · exact .inl hp
  · exact .inr (.inl hf)
  · exact .inr (.inr ⟨hm, hover⟩)

end Interpreter

namespace Session

variable {α : Type} {f : Fault} {m : Misuse} {rendering : Rendering}

theorem repositoryOf_bind {g : Repository → Session α} (hw : w.Holds n i r) : (repositoryOf i >>= g) w = g r w := by
  rw [← hw.2]
  rfl

/-- What an interpreter does with a text that parses or fails to, where `call` does what routines do. -/
def answer (host : Host) (presentation : Presentation) (call : Prompt → Routine → Session Value) :
    Except (Failure Fault) Prompt → Session Value
  | .error (.fault f) => do
      surface host presentation f
      return .none
  | .error (.misuse m) => throw (.misuse m)
  | .ok p =>
      match p.command.executor with
      | .routine routine => call p routine
      | _ => throw (.misuse (.notExecutable p.command.name))

def executeBy (host : Host) (n : Nat) (call : Prompt → Routine → Session Value) (text : Value) : Session Value := do
  let i ← interpreter n
  answer host i.presentation call (i.parse (← repositoryOf i) text (.string Prompt.defaultLabel))

theorem execute_eq_executeBy (host : Host) (n : Nat) (text : Value) :
    execute host n text = executeBy host n (perform n (executeWithin host n 299)) text := rfl

theorem executeBy_eq_answer {call : Prompt → Routine → Session Value} {text : Value} (hw : w.Holds n i r) :
    executeBy host n call text w =
      answer host i.presentation call (i.parse r text (.string Prompt.defaultLabel)) w := by
  rw [executeBy, interpreter_bind hw.1, repositoryOf_bind hw]

theorem execute_of_misuse (hw : w.Holds n i r)
    (h : i.parse r (.string text) (.string Prompt.defaultLabel) = .error (.misuse m)) :
    execute host n (.string text) w = .error (.misuse m) w := by
  rw [execute_eq_executeBy, executeBy_eq_answer hw, h]
  rfl

theorem execute_of_fault (hw : w.Holds n i r) (hshell : i.presentation.shell = true)
    (h : i.parse r (.string text) (.string Prompt.defaultLabel) = .error (.fault f))
    (hrendering : { f with presentation := i.presentation }.rendering host = .ok rendering) :
    execute host n (.string text) w = .ok .none { w with notices := w.notices ++ [.printed rendering] } := by
  have hsurface : { f with presentation := i.presentation }.surface host = .ok (.printed rendering) := by
    rw [Fault.surface]
    dsimp only
    rw [hshell, if_pos rfl, hrendering]
    rfl
  rw [execute_eq_executeBy, executeBy_eq_answer hw, h, answer, surface, hsurface]
  rfl

end Session

/-- A text that is no prompt is at fault at one of its places, unless it is relative to a huge integer. In shell mode
the fault is printed and nothing else changes, as long as the text is no longer than a line may be. -/
theorem Interpreter.fault_or_overflow (hr : r.Compiled) (hv : i.scope.Total) (text : String) :
    (∀ label, (∃ p, i.parse r (.string text) (.string label) = .ok p) ∨
      (∃ f, i.parse r (.string text) (.string label) = .error (.fault f) ∧ f.PointsInto ⟨text, label⟩) ∨
      (i.parse r (.string text) (.string label) = .error (.misuse .numberOverflow) ∧ r.Overflows i.scope text)) ∧
    ∀ host n w, w.Holds n i r → i.presentation.shell = true → text.toList.length + 1 < Fault.lineLimit →
      (∀ p, i.parse r (.string text) (.string Prompt.defaultLabel) ≠ .ok p) →
      (∃ rendering, Session.execute host n (.string text) w =
        .ok .none { w with notices := w.notices ++ [.printed rendering] }) ∨
      (Session.execute host n (.string text) w = .error (.misuse .numberOverflow) w ∧ r.Overflows i.scope text) := by
  refine ⟨parse_cases hr hv text, fun host n w hw hshell hlimit hno => ?_⟩
  rcases parse_cases hr hv text Prompt.defaultLabel with ⟨p, hp⟩ | ⟨f, hf, hpoints⟩ | ⟨hm, hover⟩
  · exact absurd hp (hno p)
  · obtain ⟨rendering, hrendering⟩ :=
      Fault.rendering_of_pointsInto host (hpoints.with_presentation i.presentation) hlimit
    exact .inl ⟨rendering, Session.execute_of_fault hw hshell hf hrendering⟩
  · exact .inr ⟨Session.execute_of_misuse hw hm, hover⟩

def nudge : Command where
  name := "t"
  positional := [⟨"x", .number, false, .none, some (.named "v"), ""⟩]
  keyword := []
  executor := .none

theorem compile_nudge : Scheme.compile ⟨"t: x:num~v", "<scheme>"⟩ .none = .ok nudge := by with_unfolding_all rfl

def nudger (v : Value) : Interpreter where
  repository := 0
  vars := .constant v
  presentation := { shell := true }

theorem total_nudger {v : Value} (h : v.IsDynamic) : (nudger v).scope.Total := fun _ => ⟨v, rfl, h⟩

theorem compiled_nudge : Repository.Compiled { commands := [("t", nudge)] } := by
  intro name command hget
  rw [Table.get?_cons] at hget
  split at hget
  · obtain rfl := Option.some.inj hget
    exact ⟨_, _, compile_nudge⟩
  · cases hget

/-- A delta to a string is a fault, which is printed. -/
theorem Interpreter.fault_or_overflow_nudge :
    ∃ (r : Repository) (w : Workspace) (rendering : Rendering),
      r.Compiled ∧ (nudger (.string "east")).scope.Total ∧ w.Holds 0 (nudger (.string "east")) r ∧
      Session.execute {} 0 (.string "t ~1") w =
        .ok .none { w with notices := w.notices ++ [.printed rendering] } := by
  have hno : ∀ p, (nudger (.string "east")).parse { commands := [("t", nudge)] } (.string "t ~1")
      (.string Prompt.defaultLabel) ≠ .ok p := by
    intro p h
    have hfails : ((nudger (.string "east")).parse { commands := [("t", nudge)] } (.string "t ~1")
        (.string Prompt.defaultLabel)).toOption = none := by with_unfolding_all rfl
    rw [h] at hfails
    cases hfails
  have hover : ¬Repository.Overflows (nudger (.string "east")).scope { commands := [("t", nudge)] } "t ~1" := by
    rintro ⟨_, _, _, _, _, _, _, _, _, hv, _, rfl, _⟩
    cases hv
  have hw : Workspace.Holds ⟨[{ commands := [("t", nudge)] }], [nudger (.string "east")], []⟩ 0
      (nudger (.string "east")) { commands := [("t", nudge)] } := ⟨rfl, rfl⟩
  have hv := total_nudger (.string "east")
  obtain ⟨_, hshell⟩ := Interpreter.fault_or_overflow compiled_nudge hv "t ~1"
  obtain ⟨rendering, h⟩ := (hshell {} 0 _ hw rfl (by decide) hno).resolve_right fun h => hover h.2
  exact ⟨_, _, rendering, compiled_nudge, hv, hw, h⟩

theorem Decimal.ofInt?_eq_none_of_large : ofInt? (10 ^ 400) = none := by
  have h : nearestBits? ((10 ^ 400 : Int).natAbs) 1 = none := by decide +kernel
  rw [ofInt?, nearest?, h]
  rfl

/-- A delta to a huge integer is not a fault. -/
theorem Interpreter.parse_nudge_overflow :
    Repository.Compiled { commands := [("t", nudge)] } ∧ (nudger (.integer (10 ^ 400))).scope.Total ∧
      (nudger (.integer (10 ^ 400))).parse { commands := [("t", nudge)] } (.string "t ~1")
        (.string Prompt.defaultLabel) = .error (.misuse .numberOverflow) := by
  have hitems : Prompt.itemsOf (Source.text ⟨"t ~1", Prompt.defaultLabel⟩) =
      some ("t", [.ordered (.relative (some (.integer 1)))]) := by
    with_unfolding_all rfl
  refine ⟨compiled_nudge, total_nudger (.integer _), ?_⟩
  exact Prompt.parse_of_overflows hitems rfl rfl
    ⟨rfl, "v", _, rfl, rfl, _, rfl, Decimal.ofInt?_eq_none_of_large⟩

end Prompter
