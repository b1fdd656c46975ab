import Mathlib.Data.List.Basic
import Mathlib.Data.List.Induction
import Prompter.Table
import Prompter.Value.Keys

namespace Prompter

namespace Table

variable {α : Type} {table : Table α} {name : String}

def putAll (table : Table α) (entries : List (String × α)) : Table α := entries.foldl (fun t e => t.put e.1 e.2) table

theorem get?_putAll {entries : List (String × α)} :
    (table.putAll entries).get? name =
      (entries.filterMap fun e => if e.1 = name then some e.2 else none).foldl (fun _ a => some a)
        (table.get? name) := by
  induction entries generalizing table with
  | nil => rfl
  | cons e entries ih =>
      have hput : table.putAll (e :: entries) = (table.put e.1 e.2).putAll entries := rfl
      rw [hput, ih, get?_put]
      by_cases he : e.1 = name
      · simp [he]
      · simp [he, Ne.symm he]

theorem get?_append {table' : Table α} : get? (table ++ table') name = (table.get? name).or (table'.get? name) :=
  List.lookup_append

theorem get?_map {β : Type} {f : α → β} :
    get? (table.map fun e => (e.1, f e.2)) name = (table.get? name).map f := by
  induction table with
  | nil => rfl
  | cons e table ih =>
      rw [List.map_cons, get?_cons, get?_cons, ih]
      by_cases he : name = e.1 <;> simp [he]

theorem has_eq : table.has name = (table.get? name).isSome := by
  induction table with
  | nil => rfl
  | cons e table ih =>
      rw [get?_cons]
      by_cases he : name = e.1
      · simp [has, he]
      · rw [if_neg he, ← ih]
        simp [has, Ne.symm he]

theorem mem_names_iff : name ∈ table.names ↔ (table.get? name).isSome = true := by
  induction table with
  | nil => simp [names, get?]
  | cons e table ih =>
      rw [get?_cons]
      by_cases he : name = e.1
      · simp [names, he]
      · rw [if_neg he, ← ih]
        simp [names, he]

theorem mem_of_get? {a : α} (h : table.get? name = some a) : (name, a) ∈ table := by
  induction table with
  | nil => cases h
  | cons e table ih =>
      rw [get?_cons] at h
      split at h
      · next he =>
          obtain rfl := Option.some.inj h
          exact he ▸ List.mem_cons_self
      · exact List.mem_cons_of_mem _ (ih h)

theorem get?_erase {other : String} :
    (table.erase name).get? other = if other = name then none else table.get? other := by
  induction table with
  | nil => simp [erase, get?]
  | cons e table ih =>
      by_cases he : e.1 = name
      · have hcons : erase (e :: table) name = erase table name := by simp [erase, he]
        rw [hcons, ih, get?_cons, he]
        by_cases ho : other = name <;> simp [ho]
      · have hcons : erase (e :: table) name = e :: erase table name := by simp [erase, he]
        rw [hcons, get?_cons, get?_cons, ih]
        by_cases ho : other = e.1
        · simp [ho, he]
        · simp [ho]

theorem names_put {a : α} :
    (table.put name a).names = if name ∈ table.names then table.names else table.names ++ [name] := by
  induction table with
  | nil => simp [put, names]
  | cons e table ih =>
      rw [put]
      by_cases he : e.1 = name
      · simp [names, he]
      · rw [if_neg he]
        have hmem : name ∈ names (e :: table) ↔ name ∈ names table := by simp [names, Ne.symm he]
        have hcons : names ((e.1, e.2) :: put name a table) = e.1 :: names (put name a table) := rfl
        simp only [hmem]
        rw [hcons, ih]
        split <;> simp [names]

theorem names_erase : (table.erase name).names = table.names.filter (· != name) := by
  rw [names, names, erase, List.filter_map]
  rfl

theorem names_putAll (entries : List (String × α)) :
    (putAll [] entries).names = (entries.map (·.1)).eraseDups := by
  induction entries using List.reverseRecOn with
  | nil => rfl
  | append_singleton entries e ih =>
      have hput : putAll [] (entries ++ [e]) = (putAll [] entries).put e.1 e.2 := by
        rw [putAll, List.foldl_concat, putAll]
      rw [hput, names_put, ih, List.map_append, List.eraseDups_append]
      by_cases hmem : e.1 ∈ entries.map (·.1)
      · simp only [List.mem_eraseDups, hmem, if_true]
        simp [List.removeAll, hmem]
      · simp only [List.mem_eraseDups, hmem, if_false]
        simp [List.removeAll, hmem, List.eraseDups_cons]

theorem map_some_values (h : table.names.Nodup) : table.values.map some = table.names.map table.get? := by
  induction table with
  | nil => rfl
  | cons e table ih =>
      obtain ⟨hfresh, hnodup⟩ := List.nodup_cons.1 h
      have hrest : (names table).map (get? (e :: table)) = (names table).map (get? table) := by
        refine List.map_congr_left fun name hname => ?_
        have hne : name ≠ e.1 := by
          rintro rfl
          exact hfresh hname
        rw [get?_cons, if_neg hne]
      have hfirst : get? (e :: table) e.1 = some e.2 := by simp [get?_cons]
      have hnames : names (e :: table) = e.1 :: names table := rfl
      have hvalues : values (e :: table) = e.2 :: values table := rfl
      rw [hnames, hvalues, List.map_cons, List.map_cons, hfirst, hrest, ih hnodup]

end Table

namespace Value

theorem equal_string_left {s : String} {v : Value} : equal (.string s) v = equalScalars (.string s) v := by
  cases v <;> simp only [equal]

theorem equal_string {s : String} {v : Value} : equal (.string s) v = true ↔ v = .string s := by
  rw [equal_string_left]
  cases v with
  | string t =>
      have hscalars : equalScalars (.string s) (.string t) = (s == t) := rfl
      rw [hscalars, beq_iff_eq, string.injEq, eq_comm]
  | _ => simp [equalScalars, asNumber, numbersEqual]

theorem Entries.get?_map {table : Table Value} {key : Value} :
    Entries.get? (table.map fun e => (.string e.1, e.2)) key =
      match key with
      | .string name => table.get? name
      | _ => Option.none := by
  induction table with
  | nil => cases key <;> rfl
  | cons e table ih =>
      have hcons : Entries.get? (((e :: table).map fun e => (.string e.1, e.2)) : Entries) key =
          if equal (.string e.1) key then some e.2 else Entries.get? (table.map fun e => (.string e.1, e.2)) key := by
        simp only [Entries.get?, List.map_cons, List.find?_cons]
        split <;> simp_all
      rw [hcons, ih]
      by_cases he : key = .string e.1
      · subst he
        rw [if_pos (equal_string.2 rfl)]
        simp [Table.get?_cons]
      · rw [if_neg (mt equal_string.1 he)]
        cases key with
        | string name =>
            have hname : name ≠ e.1 := by simpa using he
            simp [Table.get?_cons, hname]
        | _ => rfl

end Value

end Prompter
