import Mathlib.Data.List.Forall2
import Mathlib.Data.List.Nodup
import Prompter.Proofs.Interpreter.Enumerations
import Prompter.Proofs.Prompt.Items
import Prompter.Proofs.Scheme.WellFormed

namespace Prompter

open Checked

variable {scope : Scope} {command : Command} {a : Argument} {v : Value} {b b' : Binding} {p : Prompt}

namespace Slot

/-- What a prompt may give a slot: its default, where it may be omitted, or a value that it holds. -/
def Fills (scope : Scope) (a : Argument) (v : Value) : Prop :=
  (a.optional = true ∧ v = a.default) ∨ a.Holds scope v

def choicesIn (sets : String → Option (List String)) (a : Argument) : List String :=
  if a.named then (sets a.choices).getD [] else Choices.members a.choices

def Admits (sets : String → Option (List String)) (a : Argument) (v : Value) : Prop :=
  match a.kind with
  | .integer | .selector => ∃ i, v = .integer i
  | .number => (∃ i, v = .integer i) ∨ ∃ x, v = .number x
  | .string => ∃ s, v = .string s
  | .choice => ∃ s ∈ a.choicesIn sets, v = .string s

structure Receives (sets : String → Option (List String)) (a : Argument) (v : Value) : Prop where
  kind : (a.optional = true ∧ v = a.default) ∨ a.Admits sets v
  none : v = .none → a.optional = true ∧ a.default = .none
  inline : a.kind = .choice → a.named = false → v ≠ .none → ∃ s ∈ Choices.members a.choices, v = .string s

end Slot

namespace Binding

variable {given : Given} {slots rest : List Argument} {values : List Value} {item : Item} {items : List Item}

structure Sound (scope : Scope) (command : Command) (b : Binding) : Prop where
  ordered : ∃ filled, command.positional = filled ++ b.vacant ∧ List.Forall₂ (Slot.Fills scope) filled b.args
  named : ∀ e ∈ b.named, ∃ a, command.keyword? e.1 = some a ∧ a.Holds scope e.2
  nodup : b.named.names.Nodup

theorem fills_of_fill (h : fill scope command given slots = .ok (values, rest)) :
    ∃ filled, slots = filled ++ rest ∧ List.Forall₂ (Slot.Fills scope) filled values := by
  induction slots generalizing values with
  | nil => exact absurd h fault_ne_ok
  | cons a slots ih =>
      rcases fill_cases h with ⟨_, v, _, hholds, rfl, rfl⟩ | ⟨_, ho, behind, hfill, rfl⟩
      · exact ⟨[a], rfl, .cons (.inr hholds) .nil⟩
      · obtain ⟨filled, rfl, hfilled⟩ := ih hfill
        exact ⟨a :: filled, rfl, .cons (.inl ⟨ho, rfl⟩) hfilled⟩

theorem keyword?_of_keyed {key : Literal} (h : keyed command key = .ok a) : command.keyword? a.name = some a := by
  unfold keyed at h
  split at h
  · next name =>
      split at h
      · next a' ha' =>
          obtain rfl := Except.ok.inj h
          rw [Signature.name_of_keyword? ha', ha']
      · exact absurd h fault_ne_ok
  · exact absurd h fault_ne_ok

theorem Sound.take (hb : b.Sound scope command) (h : b.take scope command item = .ok b') : b'.Sound scope command := by
  rcases take_cases h with ⟨given, values, rest, rfl, hfill, rfl⟩ | ⟨key, given, a, v, rfl, hkey, hholds, rfl⟩
  · obtain ⟨filled, hslots, hfilled⟩ := hb.ordered
    obtain ⟨more, hmore, hvalues⟩ := fills_of_fill hfill
    refine ⟨⟨filled ++ more, ?_, List.rel_append hfilled hvalues⟩, hb.named, hb.nodup⟩
    rw [hslots, hmore, List.append_assoc]
  · refine ⟨hb.ordered, fun e he => ?_, Table.nodup_names_put hb.nodup⟩
    rcases Table.mem_of_mem_put he with rfl | he
    · exact ⟨a, keyword?_of_keyed hkey, hholds⟩
    · exact hb.named e he

theorem Sound.takeAll (hb : b.Sound scope command) (h : b.takeAll scope command items = .ok b') :
    b'.Sound scope command := by
  induction items generalizing b with
  | nil =>
      obtain rfl := pure_eq_ok.1 h
      exact hb
  | cons item items ih =>
      rw [Binding.takeAll, List.foldlM_cons] at h
      obtain ⟨b₁, htake, h⟩ := bind_eq_ok.1 h
      exact ih (hb.take htake) h

theorem sound_empty : Sound scope command { vacant := command.positional } where
  ordered := ⟨[], rfl, .nil⟩
  named := by simp
  nodup := by simp [Table.names]

theorem mem_names_of_has {table : Table Value} {name : String} : table.has name = true ↔ name ∈ table.names := by
  simp [Table.has, Table.names]

theorem Sound.names_perm (hb : b.Sound scope command) (hk : (command.keyword.map (·.name)).Nodup) :
    (b.named.names ++ (command.keyword.filter fun a => !b.named.has a.name).map (·.name)).Perm
      (command.keyword.map (·.name)) := by
  have hnodup : (b.named.names ++ (command.keyword.filter fun a => !b.named.has a.name).map (·.name)).Nodup := by
    rw [List.nodup_append]
    refine ⟨hb.nodup, hk.sublist (List.filter_sublist.map _), ?_⟩
    rintro n hn m hm rfl
    obtain ⟨a, ha, rfl⟩ := List.mem_map.1 hm
    have hnot := (List.mem_filter.1 ha).2
    rw [mem_names_of_has.2 hn] at hnot
    cases hnot
  -- No name comes twice on either side, so it is enough that the same names occur.
  rw [List.perm_ext_iff_of_nodup hnodup hk]
  intro n
  rw [List.mem_append]
  constructor
  · rintro (hn | hn)
    · obtain ⟨e, he, rfl⟩ := List.mem_map.1 hn
      obtain ⟨a, ha, _⟩ := hb.named e he
      exact List.mem_map.2 ⟨a, Signature.mem_of_keyword? ha, Signature.name_of_keyword? ha⟩
    · exact (List.filter_sublist.map _).subset hn
  · intro hn
    obtain ⟨a, ha, rfl⟩ := List.mem_map.1 hn
    by_cases hh : b.named.has a.name = true
    · exact .inl (mem_names_of_has.1 hh)
    · exact .inr (List.mem_map.2 ⟨a, List.mem_filter.2 ⟨ha, by simpa using hh⟩, rfl⟩)

theorem Sound.complete_ordered (hb : b.Sound scope command) (h : b.complete command = .ok p) :
    List.Forall₂ (Slot.Fills scope) command.positional p.args := by
  obtain ⟨hvacant, _, rfl⟩ := complete_eq_ok.1 h
  obtain ⟨filled, hslots, hfilled⟩ := hb.ordered
  have hrest : List.Forall₂ (Slot.Fills scope) b.vacant (b.vacant.map Slot.default) := by
    rw [List.forall₂_map_right_iff, List.forall₂_same]
    exact fun a ha => .inl ⟨hvacant a ha, rfl⟩
  rw [hslots]
  exact List.rel_append hfilled hrest

theorem Sound.complete_keys (hb : b.Sound scope command) (hk : (command.keyword.map (·.name)).Nodup)
    (h : b.complete command = .ok p) : (p.kwargs.map (·.1)).Perm (command.keyword.map fun a => .string a.name) := by
  obtain ⟨_, _, rfl⟩ := complete_eq_ok.1 h
  have hperm := (hb.names_perm hk).map Value.string
  simpa [Table.names, Function.comp_def] using hperm

theorem Sound.complete_named (hb : b.Sound scope command) (hk : (command.keyword.map (·.name)).Nodup)
    (h : b.complete command = .ok p) (ha : a ∈ command.keyword) (hv : (.string a.name, v) ∈ p.kwargs) :
    a.Fills scope v := by
  obtain ⟨_, hunnamed, rfl⟩ := complete_eq_ok.1 h
  obtain ⟨⟨n, w⟩, he, hentry⟩ := List.mem_map.1 hv
  obtain ⟨hn, rfl⟩ : n = a.name ∧ w = v := by simpa using hentry
  subst hn
  -- Names are distinct, so the slot that is found under the name is `a` itself.
  rcases List.mem_append.1 he with he | he
  · obtain ⟨a', ha', hholds⟩ := hb.named _ he
    have hname : a'.name = a.name := Signature.name_of_keyword? ha'
    have heq : a' = a := List.inj_on_of_nodup_map hk (Signature.mem_of_keyword? ha') ha hname
    subst heq
    exact .inr hholds
  · obtain ⟨a', ha', he⟩ := List.mem_map.1 he
    obtain ⟨hname, rfl⟩ := Prod.mk.inj he
    have heq : a' = a := List.inj_on_of_nodup_map hk (List.mem_filter.1 ha').1 ha hname
    subst heq
    exact .inl ⟨hunnamed _ ha', rfl⟩

end Binding

namespace Slot

open Interpreter

variable {i : Interpreter} {sets : String → Option (List String)}

theorem members_of_wellFormed (ha : a.WellFormed) (hk : a.kind = .choice) (hn : a.named = false) {s : String} :
    Choices.holds a.choices s = true ↔ s ∈ Choices.members a.choices := by
  obtain ⟨ms, hms, hchoices, _⟩ := ha.inline hk hn
  rw [hchoices, Choices.holds_write_iff hms.ne_nil hms.no_bar, Choices.members_write hms.ne_nil hms.no_bar]

theorem mem_choicesIn_of_holds (ha : a.WellFormed) (hi : i.Registers sets) (hk : a.kind = .choice)
    (h : a.Holds i.scope v) : ∃ s ∈ a.choicesIn sets, v = .string s := by
  obtain ⟨s, stored, rfl, hm, hs⟩ := h.member hk
  refine ⟨s, ?_, rfl⟩
  unfold members at hm
  unfold choicesIn
  by_cases hn : a.named = true
  · rw [if_pos hn] at hm ⊢
    split at hm
    · next found hfound =>
        obtain rfl := Except.ok.inj hm
        obtain ⟨ms, hsets, rfl, hne, hbar⟩ := hi.get?_enumerations hfound
        rw [hsets, Option.getD_some]
        exact (Choices.holds_write_iff hne hbar).1 hs
    · exact absurd hm fault_ne_ok
  · rw [if_neg hn] at hm ⊢
    obtain rfl := Except.ok.inj hm
    exact (members_of_wellFormed ha hk (by simpa using hn)).1 hs

theorem admits_of_holds (ha : a.WellFormed) (hi : i.Registers sets) (h : a.Holds i.scope v) : a.Admits sets v := by
  have ht := h.takes
  unfold Admits
  cases hk : a.kind with
  | choice => exact mem_choicesIn_of_holds ha hi hk h
  | number | integer | string | selector =>
      rw [hk] at ht
      cases v <;> simp_all [Kind.takes, Value.isNumeric, Value.isInteger, Value.isString]

theorem ne_none_of_holds (h : a.Holds scope v) : v ≠ .none := by
  rintro rfl
  have ht := h.takes
  cases hk : a.kind <;> simp [hk, Kind.takes, Value.isNumeric, Value.isInteger, Value.isString] at ht

/-- On every way into a slot of a well-formed command, the value is one that the slot may have. -/
theorem receives_of_fills (ha : a.WellFormed) (hi : i.Registers sets) (h : a.Fills i.scope v) : a.Receives sets v := by
  rcases h with ⟨ho, rfl⟩ | hholds
  · refine ⟨.inl ⟨ho, rfl⟩, fun hnone => ⟨ho, hnone⟩, fun hk hn hne => ?_⟩
    obtain ⟨ms, hms, hchoices, hdefault⟩ := ha.inline hk hn
    rw [hchoices, Choices.members_write hms.ne_nil hms.no_bar]
    exact hdefault hne
  · refine ⟨.inr (admits_of_holds ha hi hholds), fun hnone => absurd hnone (ne_none_of_holds hholds), fun hk hn _ => ?_⟩
    have hmem := mem_choicesIn_of_holds ha hi hk hholds
    rwa [choicesIn, hn, if_neg (by simp)] at hmem

end Slot

/-- What is known of a prompt: it has a value for each slot in order, a value under each name, and no others. -/
structure Prompt.Sound (sets : String → Option (List String)) (p : Prompt) : Prop where
  length : p.args.length = p.command.positional.length
  keys : (p.kwargs.map (·.1)).Perm (p.command.keyword.map fun a => .string a.name)
  ordered : List.Forall₂ (Slot.Receives sets) p.command.positional p.args
  named : ∀ a ∈ p.command.keyword, ∀ v, (.string a.name, v) ∈ p.kwargs → a.Receives sets v

/-- Every prompt that an interpreter reads of a compiled command is sound. -/
theorem Interpreter.parse_sound {i : Interpreter} {r : Repository} {sets : String → Option (List String)}
    {scheme : Source} {executor text label : Value} (hc : Scheme.compile scheme executor = .ok p.command)
    (hi : i.Registers sets) (hp : i.parse r text label = .ok p) : p.Sound sets := by
  obtain ⟨d, hd⟩ := Scheme.readCommand_of_compile hc
  have hwell := Scheme.wellFormed_of_readCommand hd
  obtain ⟨source, _, hparse⟩ := bind_eq_ok.1 hp
  obtain ⟨name, items, b, _, _, hall, hcomplete⟩ := Prompt.takeAll_of_parse hparse
  have hb : b.Sound i.scope p.command := Binding.sound_empty.takeAll hall
  have hordered := hb.complete_ordered hcomplete
  have hreceives : List.Forall₂ (Slot.Receives sets) p.command.positional p.args := by
    have hboth := (List.forall₂_and_left _ _).2 ⟨hwell.positional, hordered⟩
    exact hboth.imp fun a v h => Slot.receives_of_fills h.1 hi h.2
  refine ⟨hordered.length_eq.symm, hb.complete_keys hwell.keyword_nodup hcomplete, hreceives, fun a ha v hv => ?_⟩
  have hfills := hb.complete_named hwell.keyword_nodup hcomplete ha hv
  exact Slot.receives_of_fills (hwell.keyword a ha) hi hfills

/-- A command with all ways into a slot: a registered set, an origin, and a block of optional arguments by name. -/
def paint : Command where
  name := "paint"
  positional := [
    ⟨"what", .choice, false, .none, none, "shape"⟩,
    ⟨"by", .integer, true, .integer 2, some (.named "n"), ""⟩]
  keyword := [
    ⟨"how", .choice, true, .none, none, "|thin|thick|"⟩,
    ⟨"at", .number, true, .integer 0, none, ""⟩]
  executor := .none

def painter : Interpreter where
  repository := 0
  vars := .constant (.integer 40)
  enumerations := [("shape", "|box|disc|")]

/-- A member of a registered set, a value relative to a variable, a value by name, and one that is omitted. -/
theorem Interpreter.parse_sound_paint :
    ∃ (scheme : Source) (r : Repository) (sets : String → Option (List String)) (text : Value) (p : Prompt),
      scheme.text = "'paint' 'what':$shape 'by':int=2~'n' \x7b'how':[thin|thick]=none 'at':num=0\x7d" ∧
      text = .string "'paint' 'box' ~3 'at'=~1" ∧ Scheme.compile scheme .none = .ok p.command ∧
      painter.Registers sets ∧ painter.parse r text (.string "<prompt>") = .ok p ∧
      p.args = [.string "box", .integer 43] ∧ p.Sound sets := by
  have hc : Scheme.compile
      ⟨"'paint' 'what':$shape 'by':int=2~'n' \x7b'how':[thin|thick]=none 'at':num=0\x7d", "<scheme>"⟩ .none =
        .ok paint := by
    with_unfolding_all rfl
  have hi : painter.Registers (Function.update (fun _ => none) "shape" (some ["box", "disc"])) :=
    .enumerate { painter with enumerations := [] } _ _ "shape" (.list [.string "box", .string "disc"]) _
      (.fresh _ rfl) rfl rfl
  have hp : painter.parse { commands := [("paint", paint)] } (.string "'paint' 'box' ~3 'at'=~1") (.string "<prompt>") =
      .ok ⟨paint, [.string "box", .integer 43], [(.string "at", .integer 1), (.string "how", .none)]⟩ := by
    with_unfolding_all rfl
  exact ⟨_, _, _, _, _, rfl, rfl, hc, hi, hp, rfl, parse_sound hc hi hp⟩

end Prompter
