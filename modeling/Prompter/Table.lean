namespace Prompter

abbrev Table (α : Type) := List (String × α)

namespace Table

variable {α : Type} {table : Table α} {name other : String} {a : α}

def get? (table : Table α) (name : String) : Option α := table.lookup name

def has (table : Table α) (name : String) : Bool := table.any (·.1 == name)

def put (name : String) (a : α) : Table α → Table α
  | [] => [(name, a)]
  | (n, b) :: rest => if n = name then (name, a) :: rest else (n, b) :: put name a rest

def erase (table : Table α) (name : String) : Table α := table.filter (·.1 != name)

def names (table : Table α) : List String := table.map (·.1)

def values (table : Table α) : List α := table.map (·.2)

theorem get?_cons {entry : String × α} :
    get? (entry :: table) other = if other = entry.1 then some entry.2 else table.get? other := by
  obtain ⟨n, b⟩ := entry
  by_cases h : other = n
  · simp [get?, h]
  · have : (other == n) = false := beq_eq_false_iff_ne.2 h
    simp [get?, List.lookup_cons, h, this]

theorem get?_put : (table.put name a).get? other = if other = name then some a else table.get? other := by
  induction table with
  | nil => simp [put, get?_cons]
  | cons entry rest ih =>
      simp only [put]
      split
      · next hn =>
          by_cases h : other = name <;> simp [get?_cons, hn, h]
      · by_cases h : other = name <;> simp_all [get?_cons, eq_comm]

theorem mem_of_mem_put {entry : String × α} (h : entry ∈ table.put name a) : entry = (name, a) ∨ entry ∈ table := by
  induction table with
  | nil => simpa [put] using h
  | cons first rest ih =>
      simp only [put] at h
      split at h
      · rcases List.mem_cons.1 h with h | h
        · exact .inl h
        · exact .inr (List.mem_cons_of_mem _ h)
      · rcases List.mem_cons.1 h with h | h
        · exact .inr (h ▸ List.mem_cons_self)
        · exact (ih h).imp_right (List.mem_cons_of_mem _)

theorem mem_names_put : other ∈ (table.put name a).names ↔ other = name ∨ other ∈ table.names := by
  induction table with
  | nil => simp [put, names]
  | cons entry rest ih =>
      obtain ⟨n, b⟩ := entry
      simp only [put]
      split
      · next hn => simp [names, hn]
      · simp only [names, List.map_cons, List.mem_cons] at ih ⊢
        rw [ih]
        exact or_left_comm

theorem nodup_names_put (h : table.names.Nodup) : (table.put name a).names.Nodup := by
  induction table with
  | nil => simp [put, names]
  | cons entry rest ih =>
      obtain ⟨n, b⟩ := entry
      simp only [names, List.map_cons, List.nodup_cons] at h
      simp only [put]
      split
      · next hn =>
          subst hn
          simpa [names] using h
      · next hn =>
          simp only [names, List.map_cons, List.nodup_cons]
          refine ⟨fun hm => ?_, ih h.2⟩
          rcases mem_names_put.1 hm with rfl | hm
          · exact hn rfl
          · exact h.1 hm

theorem nodup_names_erase (h : table.names.Nodup) : (table.erase name).names.Nodup :=
  h.sublist (List.filter_sublist.map _)

end Table

end Prompter
