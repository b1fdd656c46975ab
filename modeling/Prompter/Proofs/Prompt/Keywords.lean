import Mathlib.Data.List.Nodup
import Prompter.Proofs.Construction
import Prompter.Proofs.Prompt.Reordering
import Prompter.Proofs.Prompt.Soundness

namespace Prompter

open Checked

variable {scope : Scope} {command : Command} {a : Argument} {items : List Item} {name : String}

def Item.name? : Item → Option String
  | named (.string name) _ => some name
  | _ => none

theorem Item.under?_eq_some {item : Item} {given : Given} :
    item.under? name = some given ↔ item = .named (.string name) given := by
  cases item with
  | ordered => simp [under?]
  | named key => cases key <;> simp [under?]

structure Prompt.NamedBy (scope : Scope) (items : List Item) (p : Prompt) : Prop where
  /-- The names that are written come in the order in which they are written first, the others as they are declared. -/
  order : p.kwargs.map (·.1) = ((items.filterMap Item.name?).eraseDups ++
    (p.command.keyword.map (·.name)).filter (· ∉ items.filterMap Item.name?)).map .string
  perm : (p.kwargs.map (·.1)).Perm (p.command.keyword.map fun a => .string a.name)
  nodup : (p.kwargs.map (·.1)).Nodup
  last : ∀ a ∈ p.command.keyword, ∀ given, (items.filterMap (Item.under? a.name)).getLast? = some given →
    ∃ v, a.Means scope given v ∧ (.string a.name, v) ∈ p.kwargs
  omitted : ∀ a ∈ p.command.keyword, items.filterMap (Item.under? a.name) = [] →
    a.optional = true ∧ (.string a.name, a.default) ∈ p.kwargs
  checked : ∀ key given, .named key given ∈ items →
    ∃ a ∈ p.command.keyword, key = .string a.name ∧ ∃ v, a.Means scope given v ∧ a.Holds scope v

namespace Binding

variable {b b' : Binding} {es : List (String × Value)} {given : Given}

theorem names_of_entries (h : entries scope command items = .ok es) : es.map (·.1) = items.filterMap Item.name? := by
  induction items generalizing es with
  | nil =>
      cases h
      rfl
  | cons item items ih =>
      cases item with
      | ordered given => exact ih h
      | named key given =>
          obtain ⟨e, es, he, hes, rfl⟩ := entries_named_eq_ok.1 h
          obtain rfl := name_of_entry he
          simp [Item.name?, ih hes]

theorem holds_of_entry {key : Literal} {e : String × Value} (h : entry scope command (key, given) = .ok e) :
    ∃ a ∈ command.keyword, key = .string a.name ∧ e.1 = a.name ∧ a.Means scope given e.2 ∧ a.Holds scope e.2 := by
  have hname := name_of_entry h
  obtain ⟨a, hkey, h⟩ := bind_eq_ok.1 h
  obtain ⟨v, hv, h⟩ := bind_eq_ok.1 h
  obtain rfl := pure_eq_ok.1 h
  obtain ⟨hmeans, hholds⟩ := Slot.bound_eq_ok.1 hv
  exact ⟨a, Signature.mem_of_keyword? (keyword?_of_keyed hkey), hname, rfl, hmeans, hholds⟩

theorem entry_of_mem {key : Literal} (h : entries scope command items = .ok es) (hmem : .named key given ∈ items) :
    ∃ e, entry scope command (key, given) = .ok e :=
  exists_of_mapM_eq_ok h (List.mem_filterMap.2 ⟨_, hmem, rfl⟩)

theorem get?_putAll_of_last (h : entries scope command items = .ok es)
    (hlast : (items.filterMap (Item.under? name)).getLast? = some given) :
    ∃ e, entry scope command (.string name, given) = .ok e ∧ (Table.putAll [] es).get? name = some e.2 := by
  obtain ⟨before, hgivens⟩ := List.getLast?_eq_some_iff.1 hlast
  have hmem : .named (.string name) given ∈ items := by
    have hunder : given ∈ items.filterMap (Item.under? name) := by simp [hgivens]
    obtain ⟨item, hitem, hunder⟩ := List.mem_filterMap.1 hunder
    exact Item.under?_eq_some.1 hunder ▸ hitem
  obtain ⟨e, he⟩ := entry_of_mem h hmem
  refine ⟨e, he, ?_⟩
  rw [Table.get?_putAll, filterMap_entries h, hgivens, List.filterMap_append]
  simp [he, Except.toOption]

theorem not_has_putAll (h : entries scope command items = .ok es) :
    (!(Table.putAll [] es).has name) = decide (name ∉ items.filterMap Item.name?) := by
  have hhas : (Table.putAll [] es).has name = true ↔ name ∈ items.filterMap Item.name? := by
    rw [mem_names_of_has, Table.names_putAll, List.mem_eraseDups, names_of_entries h]
  rw [Bool.eq_iff_iff, decide_eq_true_iff, ← hhas, Bool.not_eq_true, Bool.not_eq_true']

theorem not_mem_names_iff : name ∉ items.filterMap Item.name? ↔ items.filterMap (Item.under? name) = [] := by
  have hitem : ∀ item : Item, item.name? = some name ↔ item.under? name ≠ none := by
    intro item
    cases item with
    | ordered given => simp [Item.name?, Item.under?]
    | named key given => cases key <;> simp [Item.name?, Item.under?]
  simp only [List.mem_filterMap, List.filterMap_eq_nil_iff, hitem, not_exists, not_and, not_not]

theorem namedBy_of_complete {p : Prompt} (hk : (command.keyword.map (·.name)).Nodup)
    (hall : takeAll scope command { vacant := command.positional } items = .ok b)
    (hcomplete : b.complete command = .ok p) : p.NamedBy scope items := by
  have hperm := (sound_empty.takeAll hall).complete_keys hk hcomplete
  obtain ⟨values, rest, es, _, hes, rfl⟩ := takeAll_eq_ok.1 hall
  obtain ⟨_, hunnamed, rfl⟩ := complete_eq_ok.1 hcomplete
  have hvacant : (command.keyword.filter fun a => !(Table.putAll [] es).has a.name) =
      command.keyword.filter fun a => a.name ∉ items.filterMap Item.name? :=
    List.filter_congr fun a _ => not_has_putAll hes
  refine ⟨?_, hperm, ?_, fun a ha given hlast => ?_, fun a ha hnone => ?_, fun key given hmem => ?_⟩
  · have hnames : (Table.putAll [] es).map (·.1) = (items.filterMap Item.name?).eraseDups := by
      rw [← names_of_entries hes]
      exact Table.names_putAll es
    simp only [hvacant, List.map_append, List.map_map, List.filter_map, ← hnames]
    rfl
  · refine hperm.nodup_iff.2 ?_
    rw [← Function.comp_def, ← List.map_map]
    exact hk.map fun _ _ => Value.string.inj
  · obtain ⟨e, he, hget⟩ := get?_putAll_of_last hes hlast
    obtain ⟨a', ha', hkey, hname, hmeans, _⟩ := holds_of_entry he
    obtain rfl : a = a' := List.inj_on_of_nodup_map hk ha ha' (Literal.string.inj hkey)
    refine ⟨e.2, hmeans, List.mem_map.2 ⟨(a.name, e.2), List.mem_append_left _ (Table.mem_of_get? hget), rfl⟩⟩
  · have hmem : a ∈ command.keyword.filter fun a => !(Table.putAll [] es).has a.name := by
      rw [hvacant, List.mem_filter]
      exact ⟨ha, decide_eq_true (not_mem_names_iff.2 hnone)⟩
    refine ⟨hunnamed a hmem, List.mem_map.2 ⟨(a.name, a.default), ?_, rfl⟩⟩
    exact List.mem_append_right _ (List.mem_map.2 ⟨a, hmem, rfl⟩)
  · obtain ⟨e, he⟩ := entry_of_mem hes hmem
    obtain ⟨a, ha, hkey, _, hmeans, hholds⟩ := holds_of_entry he
    exact ⟨a, ha, hkey, e.2, hmeans, hholds⟩

end Binding

/-- Whatever stands in between, the values by name of every prompt that is read come from its items by name. -/
theorem Interpreter.parse_named {i : Interpreter} {r : Repository} {draft : Signature.Draft} {text : String}
    {label : Value} {p : Prompt} (hc : Signature.make draft = .ok p.command)
    (hp : i.parse r (.string text) label = .ok p) :
    ∃ name items, Prompt.itemsOf text = some (name, items) ∧ r.commands.get? name = some p.command ∧
      p.NamedBy i.scope items := by
  cases label with
  | string label =>
      rw [parse_string] at hp
      obtain ⟨name, items, b, hitems, hname, hall, hcomplete⟩ := Prompt.takeAll_of_parse hp
      exact ⟨name, items, hitems, hname, Binding.namedBy_of_complete (Signature.nodup_of_make hc) hall hcomplete⟩
  | _ => cases hp

/-- One name twice, on both sides of a value in order, and one that is not written. -/
theorem Interpreter.parse_named_paint :
    ∃ (draft : Signature.Draft) (r : Repository) (text : String) (p : Prompt),
      text = "'paint' 'at'=1 'box' 'at'=2" ∧ Signature.make draft = .ok p.command ∧
      painter.parse r (.string text) (.string "<prompt>") = .ok p ∧
      p.kwargs = [(.string "at", .integer 2), (.string "how", .none)] ∧
      ∃ name items, Prompt.itemsOf text = some (name, items) ∧ r.commands.get? name = some p.command ∧
        p.NamedBy painter.scope items := by
  have hc : Signature.make
      ⟨.string "paint", .list (paint.positional.map .argument), .list (paint.keyword.map .argument), .none⟩ =
        .ok paint := by
    with_unfolding_all rfl
  have hp : painter.parse { commands := [("paint", paint)] } (.string "'paint' 'at'=1 'box' 'at'=2")
      (.string "<prompt>") =
        .ok ⟨paint, [.string "box", .integer 2], [(.string "at", .integer 2), (.string "how", .none)]⟩ := by
    with_unfolding_all rfl
  exact ⟨_, _, _, _, rfl, hc, hp, rfl, parse_named hc hp⟩

end Prompter
