import Mathlib.Order.Bounds.Basic
import Mathlib.Order.Fin.Tuple
import Prompter.Proofs.Prompt.Items

namespace Prompter

variable {scope : Scope} {command : Command} {a : Argument} {slots rest : List Argument} {given : Given}
  {givens : List Given} {v : Value} {args values : List Value}

/-- Item `i` lies in slot `f i`; the slots that `f` leaves out were passed over. -/
structure FirstFit (scope : Scope) (slots : List Argument) (givens : List Given) (args : List Value)
    (f : Fin givens.length → Fin slots.length) : Prop where
  length : args.length = slots.length
  strictMono : StrictMono f
  bound : ∀ i, ∃ v, args[f i]? = some v ∧ slots[f i].Means scope givens[i] v
  passed : ∀ j ∉ Set.range f, slots[j].optional = true ∧ args[j]? = some slots[j].default
  least : ∀ i, IsLeast {j | (∀ i' < i, f i' < j) ∧ slots[j].Suits givens[i]} (f i)

namespace FirstFit

theorem nil : FirstFit scope [] [] [] Fin.elim0 where
  length := rfl
  strictMono := fun i => i.elim0
  bound := fun i => i.elim0
  passed := fun j => j.elim0
  least := fun i => i.elim0

theorem pass {f : Fin givens.length → Fin slots.length} (h : FirstFit scope slots givens args f)
    (ho : a.optional = true) (hs : ∀ given ∈ givens.head?, ¬a.Suits given) :
    FirstFit scope (a :: slots) givens (a.default :: args) fun i => (f i).succ where
  length := by simp [h.length]
  strictMono := (Fin.strictMono_succ).comp h.strictMono
  bound := fun i => by simpa using h.bound i
  passed := by
    intro j hj
    cases j using Fin.cases with
    | zero => exact ⟨ho, rfl⟩
    | succ j =>
        have hj : j ∉ Set.range f := by
          rintro ⟨i, rfl⟩
          exact hj ⟨i, rfl⟩
        simpa using h.passed j hj
  least := by
    intro i
    obtain ⟨⟨hbehind, hsuits⟩, hleast⟩ := h.least i
    refine ⟨⟨fun i' hi' => Fin.succ_lt_succ_iff.2 (hbehind i' hi'), by simpa using hsuits⟩, ?_⟩
    rintro j ⟨hj, hjs⟩
    cases j using Fin.cases with
    | zero =>
        -- The slot in front does not suit the first item, and lies behind no other.
        cases givens with
        | nil => exact i.elim0
        | cons given givens =>
            cases i using Fin.cases with
            | zero => exact absurd hjs (hs given rfl)
            | succ i => exact absurd (hj 0 (Fin.succ_pos i)) (Fin.not_lt_zero _)
    | succ j =>
        exact Fin.succ_le_succ_iff.2 (hleast ⟨fun i' hi' => Fin.succ_lt_succ_iff.1 (hj i' hi'), by simpa using hjs⟩)

theorem take {f : Fin givens.length → Fin slots.length} (h : FirstFit scope slots givens args f)
    (hs : a.Suits given) (hv : a.Means scope given v) :
    FirstFit scope (a :: slots) (given :: givens) (v :: args)
      (Fin.cons ⟨0, Nat.zero_lt_succ _⟩ fun i => (f i).succ) where
  length := by simp [h.length]
  strictMono := Fin.strictMono_cons.2 ⟨fun i => Fin.succ_pos (f i), Fin.strictMono_succ.comp h.strictMono⟩
  bound := by
    intro i
    cases i using Fin.cases with
    | zero => exact ⟨v, rfl, hv⟩
    | succ i => simpa using h.bound i
  passed := by
    intro j hj
    cases j using Fin.cases with
    | zero => exact absurd ⟨0, rfl⟩ hj
    | succ j =>
        have hj : j ∉ Set.range f := by
          rintro ⟨i, rfl⟩
          exact hj ⟨i.succ, rfl⟩
        simpa using h.passed j hj
  least := by
    intro i
    cases i using Fin.cases with
    | zero => exact ⟨⟨fun i' hi' => absurd hi' (Fin.not_lt_zero i'), hs⟩, fun j _ => Fin.zero_le j⟩
    | succ i =>
        obtain ⟨⟨hbehind, hsuits⟩, hleast⟩ := h.least i
        refine ⟨⟨fun i' hi' => ?_, hsuits⟩, ?_⟩
        · cases i' using Fin.cases with
          | zero => exact Fin.succ_pos (f i)
          | succ i' => exact Fin.succ_lt_succ_iff.2 (hbehind i' (Fin.succ_lt_succ_iff.1 hi'))
        · rintro j ⟨hj, hjs⟩
          cases j using Fin.cases with
          | zero => exact absurd (hj 0 (Fin.succ_pos i)) (Fin.not_lt_zero _)
          | succ j =>
              have hbehind : ∀ i' < i, f i' < j := fun i' hi' =>
                Fin.succ_lt_succ_iff.1 (hj i'.succ (Fin.succ_lt_succ_iff.2 hi'))
              exact Fin.succ_le_succ_iff.2 (hleast ⟨hbehind, hjs⟩)

end FirstFit

def Fitted (scope : Scope) (slots : List Argument) (givens : List Given) (args : List Value) : Prop :=
  ∃ f, FirstFit scope slots givens args f

namespace Binding

variable {b b' : Binding} {items : List Item} {p : Prompt}

theorem fitted_of_optional (h : ∀ a ∈ slots, a.optional = true) : Fitted scope slots [] (slots.map Slot.default) := by
  induction slots with
  | nil => exact ⟨_, FirstFit.nil⟩
  | cons a slots ih =>
      obtain ⟨ho, h⟩ := List.forall_mem_cons.1 h
      obtain ⟨f, hf⟩ := ih h
      exact ⟨_, hf.pass ho (by simp)⟩

theorem fitted_of_fill (h : fill scope command given slots = .ok (values, rest))
    (hrest : Fitted scope rest givens args) :
    Fitted scope slots (given :: givens) (values ++ args) := by
  induction slots generalizing values with
  | nil => exact absurd h Checked.fault_ne_ok
  | cons a slots ih =>
      rcases fill_cases h with ⟨hs, v, hmeans, _, rfl, rfl⟩ | ⟨hs, ho, behind, hfill, rfl⟩
      · obtain ⟨f, hf⟩ := hrest
        exact ⟨_, hf.take hs hmeans⟩
      · obtain ⟨f, hf⟩ := ih hfill
        exact ⟨_, hf.pass ho (by simpa using hs)⟩

/-- Items fill the open slots, and what is bound already stays in front. -/
theorem fitted_of_takeAll (h : b.takeAll scope command items = .ok b') (hp : b'.complete command = .ok p) :
    ∃ args, p.args = b.args ++ args ∧ Fitted scope b.vacant (items.filterMap Item.ordered?) args := by
  induction items generalizing b with
  | nil =>
      obtain rfl := Checked.pure_eq_ok.1 h
      obtain ⟨hvacant, _, rfl⟩ := complete_eq_ok.1 hp
      exact ⟨_, rfl, fitted_of_optional hvacant⟩
  | cons item items ih =>
      rw [takeAll, List.foldlM_cons] at h
      obtain ⟨b₁, htake, h⟩ := Checked.bind_eq_ok.1 h
      obtain ⟨args, hargs, hfit⟩ := ih h
      rcases take_cases htake with ⟨given, values, rest, rfl, hfill, rfl⟩ | ⟨key, given, a, v, rfl, _, _, rfl⟩
      · refine ⟨values ++ args, ?_, fitted_of_fill hfill hfit⟩
        rw [hargs, List.append_assoc]
      · exact ⟨args, hargs, hfit⟩

end Binding

/-- Binding in order loses and duplicates nothing, and is first fit. -/
theorem Prompt.parse_firstFit {commands : Table Command} {source : Source} {p : Prompt}
    (h : parse scope commands source = .ok p) :
    ∃ name items f, itemsOf source.text = some (name, items) ∧ commands.get? name = some p.command ∧
      FirstFit scope p.command.positional (items.filterMap Item.ordered?) p.args f := by
  obtain ⟨name, items, b, hitems, hname, hall, hp⟩ := takeAll_of_parse h
  obtain ⟨args, hargs, f, hf⟩ := Binding.fitted_of_takeAll hall hp
  rw [List.nil_append] at hargs
  exact ⟨name, items, f, hitems, hname, hargs ▸ hf⟩

/-- A string passes over a number, and a relative value goes to the first slot that is left and has an origin. -/
theorem Prompt.parse_firstFit_shift :
    ∃ (scope : Scope) (commands : Table Command) (source : Source) (p : Prompt),
      source.text = "'shift' 'm' ~2" ∧ parse scope commands source = .ok p ∧
      p.args = [.integer 1, .string "m", .integer 42, .integer 0] ∧
      ∃ name items f, itemsOf source.text = some (name, items) ∧ commands.get? name = some p.command ∧
        FirstFit scope p.command.positional (items.filterMap Item.ordered?) p.args f := by
  have h : parse ⟨fun _ => .ok (.integer 40), fun _ => none⟩
      [("shift", ⟨"shift", [⟨"by", .number, true, .integer 1, none, ""⟩, ⟨"unit", .string, true, .none, none, ""⟩,
        ⟨"x", .integer, true, .integer 0, some (.named "px"), ""⟩, ⟨"y", .integer, true, .integer 0, none, ""⟩],
        [], .none⟩)]
      ⟨"'shift' 'm' ~2", "<prompt>"⟩ =
        .ok ⟨⟨"shift", [⟨"by", .number, true, .integer 1, none, ""⟩, ⟨"unit", .string, true, .none, none, ""⟩,
          ⟨"x", .integer, true, .integer 0, some (.named "px"), ""⟩, ⟨"y", .integer, true, .integer 0, none, ""⟩],
          [], .none⟩, [.integer 1, .string "m", .integer 42, .integer 0], []⟩ := by
    with_unfolding_all rfl
  exact ⟨_, _, _, _, rfl, h, rfl, parse_firstFit h⟩

end Prompter
