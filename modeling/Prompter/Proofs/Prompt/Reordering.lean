import Prompter.Proofs.Prompt.Spacing
import Prompter.Proofs.Table

namespace Prompter

open Checked

namespace Item

def named? : Item → Option (Literal × Given)
  | named key given => some (key, given)
  | ordered _ => none

def under? (name : String) : Item → Option Given
  | named (.string key) given => if key = name then some given else none
  | _ => none

end Item

/-- The items in another order, which is the same for those in order and for those under the same name. -/
structure Rearranged (items items' : List Item) : Prop where
  perm : items.Perm items'
  ordered : items.filterMap Item.ordered? = items'.filterMap Item.ordered?
  named : ∀ name, items.filterMap (Item.under? name) = items'.filterMap (Item.under? name)

theorem Rearranged.symm {items items' : List Item} (h : Rearranged items items') : Rearranged items' items where
  perm := h.perm.symm
  ordered := h.ordered.symm
  named := fun name => (h.named name).symm

namespace Checked

theorem mapM_perm {ε α β : Type} {f : α → Except ε β} {as as' : List α} {bs : List β} (h : as.Perm as')
    (hm : as.mapM f = .ok bs) : ∃ bs', as'.mapM f = .ok bs' := by
  induction h generalizing bs with
  | nil => exact ⟨[], rfl⟩
  | cons a _ ih =>
      rw [List.mapM_cons] at hm
      obtain ⟨b, hb, hm⟩ := bind_eq_ok.1 hm
      obtain ⟨rest, hrest, _⟩ := bind_eq_ok.1 hm
      obtain ⟨rest', hrest'⟩ := ih hrest
      exact ⟨b :: rest', by rw [List.mapM_cons, hb, hrest']; rfl⟩
  | swap a a' as =>
      simp only [List.mapM_cons, bind_eq_ok] at hm
      obtain ⟨b', hb', _, ⟨b, hb, rest, hrest, _⟩, _⟩ := hm
      refine ⟨b :: b' :: rest, ?_⟩
      simp only [List.mapM_cons, hb, hb', hrest]
      rfl
  | trans _ _ ih ih' =>
      obtain ⟨_, hm'⟩ := ih hm
      exact ih' hm'

end Checked

namespace Binding

variable (scope : Scope) (command : Command)

def fillAll : List Given → List Argument → Checked (List Value × List Argument)
  | [], slots => .ok ([], slots)
  | given :: givens, slots => do
      let (values, rest) ← fill scope command given slots
      let (more, rest) ← fillAll givens rest
      return (values ++ more, rest)

def entry (item : Literal × Given) : Checked (String × Value) := do
  let a ← keyed command item.1
  return (a.name, ← Slot.bound scope a item.2)

def entries (items : List Item) : Checked (List (String × Value)) :=
  (items.filterMap Item.named?).mapM (entry scope command)

variable {scope command} {b b' : Binding} {items items' : List Item} {name : String}

theorem take_named {key : Literal} {given : Given} :
    b.take scope command (.named key given) =
      entry scope command (key, given) >>= fun e => .ok { b with named := b.named.put e.1 e.2 } := by
  simp only [take, entry, putNamed, bind_assoc, pure_bind]
  rfl

theorem put_eq_ok {given : Given} :
    b.put scope command given = .ok b' ↔
      ∃ values rest, fill scope command given b.vacant = .ok (values, rest) ∧
        { b with args := b.args ++ values, vacant := rest } = b' := by
  rw [put, bind_eq_ok]
  exact Prod.exists.trans (by simp only [pure_eq_ok])

theorem fillAll_cons_eq_ok {given : Given} {givens : List Given} {slots rest : List Argument} {values : List Value} :
    fillAll scope command (given :: givens) slots = .ok (values, rest) ↔
      ∃ first slots' more, fill scope command given slots = .ok (first, slots') ∧
        fillAll scope command givens slots' = .ok (more, rest) ∧ first ++ more = values := by
  simp only [fillAll, bind_eq_ok, pure_eq_ok, Prod.exists, Prod.mk.injEq]
  constructor
  · rintro ⟨first, slots', hfill, more, _, hmore, hvalues, rfl⟩
    exact ⟨first, slots', more, hfill, hmore, hvalues⟩
  · rintro ⟨first, slots', more, hfill, hmore, hvalues⟩
    exact ⟨first, slots', hfill, more, rest, hmore, hvalues, rfl⟩

theorem entries_named_eq_ok {key : Literal} {given : Given} {es : List (String × Value)} :
    entries scope command (.named key given :: items) = .ok es ↔
      ∃ e rest, entry scope command (key, given) = .ok e ∧ entries scope command items = .ok rest ∧ e :: rest = es := by
  have hcons : entries scope command (.named key given :: items) =
      entry scope command (key, given) >>= fun e => entries scope command items >>= fun es => pure (e :: es) :=
    List.mapM_cons
  simp only [hcons, bind_eq_ok, pure_eq_ok, exists_and_left]

theorem name_of_entry {key : Literal} {given : Given} {e : String × Value}
    (h : entry scope command (key, given) = .ok e) : key = .string e.1 := by
  obtain ⟨a, hkey, h⟩ := bind_eq_ok.1 h
  obtain ⟨v, _, h⟩ := bind_eq_ok.1 h
  obtain rfl := pure_eq_ok.1 h
  unfold keyed at hkey
  split at hkey
  · next name hname =>
      split at hkey
      · next ha =>
          cases hkey
          rw [Signature.name_of_keyword? ha]
          exact hname
      · exact absurd hkey fault_ne_ok
  · exact absurd hkey fault_ne_ok

/-- Items in order and items by name go their ways separately. -/
theorem takeAll_eq_ok :
    b.takeAll scope command items = .ok b' ↔
      ∃ values rest es, fillAll scope command (items.filterMap Item.ordered?) b.vacant = .ok (values, rest) ∧
        entries scope command items = .ok es ∧ ⟨b.args ++ values, rest, b.named.putAll es⟩ = b' := by
  -- An item in order changes the values and the vacant slots, an item by name the entries; each leaves the other alone.
  induction items generalizing b with
  | nil =>
      constructor
      · intro h
        obtain rfl := pure_eq_ok.1 h
        exact ⟨[], b.vacant, [], rfl, rfl, by simp [Table.putAll]⟩
      · rintro ⟨values, rest, es, hfill, hes, rfl⟩
        cases hfill
        cases hes
        simp [takeAll, Table.putAll, pure_eq_ok]
  | cons item items ih =>
      rw [takeAll, List.foldlM_cons, bind_eq_ok]
      cases item with
      | ordered given =>
          constructor
          · rintro ⟨b₁, hput, hall⟩
            obtain ⟨first, slots, hfill, rfl⟩ := put_eq_ok.1 hput
            obtain ⟨more, rest, es, hmore, hes, rfl⟩ := ih.1 hall
            refine ⟨first ++ more, rest, es, fillAll_cons_eq_ok.2 ⟨first, slots, more, hfill, hmore, rfl⟩, hes, ?_⟩
            simp only [List.append_assoc]
          · rintro ⟨_, rest, es, hall, hes, rfl⟩
            obtain ⟨first, slots, more, hfill, hmore, rfl⟩ := fillAll_cons_eq_ok.1 hall
            refine ⟨_, put_eq_ok.2 ⟨first, slots, hfill, rfl⟩, ih.2 ⟨more, rest, es, hmore, hes, ?_⟩⟩
            simp only [List.append_assoc]
      | named key given =>
          rw [take_named]
          constructor
          · rintro ⟨b₁, htake, hall⟩
            obtain ⟨e, he, hb₁⟩ := bind_eq_ok.1 htake
            obtain rfl := Except.ok.inj hb₁
            obtain ⟨values, rest, es, hfill, hes, rfl⟩ := ih.1 hall
            exact ⟨values, rest, e :: es, hfill, entries_named_eq_ok.2 ⟨e, es, he, hes, rfl⟩, rfl⟩
          · rintro ⟨values, rest, _, hfill, hall, rfl⟩
            obtain ⟨e, es, he, hes, rfl⟩ := entries_named_eq_ok.1 hall
            exact ⟨_, bind_eq_ok.2 ⟨e, he, rfl⟩, ih.2 ⟨values, rest, es, hfill, hes, rfl⟩⟩

theorem filterMap_entries {es : List (String × Value)} (h : entries scope command items = .ok es) :
    (es.filterMap fun e => if e.1 = name then some e.2 else none) =
      (items.filterMap (Item.under? name)).filterMap fun given =>
        (entry scope command (.string name, given)).toOption.map (·.2) := by
  induction items generalizing es with
  | nil =>
      cases h
      rfl
  | cons item items ih =>
      cases item with
      | ordered given => exact ih h
      | named key given =>
          obtain ⟨e, es, he, hes, rfl⟩ := entries_named_eq_ok.1 h
          obtain rfl := name_of_entry he
          by_cases hname : e.1 = name
          · subst hname
            simp [Item.under?, he, ih hes, Except.toOption]
          · simp [Item.under?, hname, ih hes]

/-- Rearranged items lead to the same values in order and, under each name, to the same value. -/
theorem takeAll_rearranged (h : Rearranged items items') (hb : b.takeAll scope command items = .ok b') :
    ∃ b'', b.takeAll scope command items' = .ok b'' ∧ b''.args = b'.args ∧ b''.vacant = b'.vacant ∧
      ∀ name, b''.named.get? name = b'.named.get? name := by
  obtain ⟨values, rest, es, hfill, hes, rfl⟩ := takeAll_eq_ok.1 hb
  obtain ⟨es', hes'⟩ := mapM_perm (h.perm.filterMap Item.named?) hes
  rw [h.ordered] at hfill
  refine ⟨_, takeAll_eq_ok.2 ⟨values, rest, es', hfill, hes', rfl⟩, rfl, rfl, fun name => ?_⟩
  simp only [Table.get?_putAll, filterMap_entries hes, filterMap_entries hes', h.named]

end Binding

namespace Prompt

structure Alike (p p' : Prompt) : Prop where
  command : p'.command = p.command
  args : p'.args = p.args
  kwargs : ∀ key, Value.Entries.get? p'.kwargs key = Value.Entries.get? p.kwargs key

variable {scope : Scope} {command : Command} {commands : Table Command} {b b' : Binding} {items items' : List Item}
  {name : String} {p : Prompt}

theorem complete_alike (hargs : b'.args = b.args) (hvacant : b'.vacant = b.vacant)
    (hnamed : ∀ name, b'.named.get? name = b.named.get? name) (h : b.complete command = .ok p) :
    ∃ p', b'.complete command = .ok p' ∧ p.Alike p' := by
  have hhas : ∀ name, b'.named.has name = b.named.has name := fun name => by
    rw [Table.has_eq, Table.has_eq, hnamed]
  obtain ⟨hrest, hunnamed, rfl⟩ := Binding.complete_eq_ok.1 h
  refine ⟨_, Binding.complete_eq_ok.2 ⟨by rwa [hvacant], by simpa only [hhas] using hunnamed, rfl⟩, rfl, ?_, ?_⟩
  · rw [hargs, hvacant]
  · intro key
    refine Value.Entries.get?_map.trans (Eq.trans ?_ Value.Entries.get?_map.symm)
    cases key with
    | string name => simp only [Table.get?_append, hnamed, hhas]
    | _ => rfl

theorem ofItems_rearranged (h : Rearranged items items') (hp : ofItems scope commands name items = .ok p) :
    ∃ p', ofItems scope commands name items' = .ok p' ∧ p.Alike p' := by
  obtain ⟨command, hcommand, hp⟩ := bind_eq_ok.1 hp
  obtain ⟨b, hb, hp⟩ := bind_eq_ok.1 hp
  obtain ⟨b', hb', hargs, hvacant, hnamed⟩ := Binding.takeAll_rearranged h hb
  obtain ⟨p', hp', halike⟩ := complete_alike hargs hvacant hnamed hp
  exact ⟨p', bind_eq_ok.2 ⟨command, hcommand, bind_eq_ok.2 ⟨b', hb', hp'⟩⟩, halike⟩

theorem parse_alike {source source' : Source} (h : Rearranged items items')
    (hs : itemsOf source.text = some (name, items)) (hs' : itemsOf source'.text = some (name, items')) :
    (∃ p p', parse scope commands source = .ok p ∧ parse scope commands source' = .ok p' ∧ p.Alike p') ∨
      ∃ e e', parse scope commands source = .error e ∧ parse scope commands source' = .error e' := by
  refine parse_related hs hs' (fun p => ofItems_rearranged h) fun p' hp' => ?_
  obtain ⟨p, hp, _⟩ := ofItems_rearranged h.symm hp'
  exact ⟨p, hp⟩

end Prompt

namespace Interpreter

variable {i : Interpreter} {r : Repository} {items items' : List Item} {name text text' : String} {label : Value}

/-- Two texts of the same name and of rearranged items mean alike prompts, or fail both. -/
theorem parse_rearranged (h : Rearranged items items') (ht : Prompt.Written name items text.toList)
    (ht' : Prompt.Written name items' text'.toList) :
    (∃ p p', i.parse r (.string text) label = .ok p ∧ i.parse r (.string text') label = .ok p' ∧ p.Alike p') ∨
      ∃ e e', i.parse r (.string text) label = .error e ∧ i.parse r (.string text') label = .error e' := by
  cases label with
  | string label =>
      rw [parse_string, parse_string]
      exact Prompt.parse_alike h (Prompt.itemsOf_of_written ht) (Prompt.itemsOf_of_written ht')
  | _ => exact .inr ⟨_, _, rfl, rfl⟩

/-- Items by name before, behind and in between. -/
theorem parse_rearranged_paint :
    ∃ (i : Interpreter) (r : Repository) (items items' : List Item) (text text' : String) (p p' : Prompt),
      Rearranged items items' ∧ text = "'paint' 'at'=~ 'box' 'by'=5" ∧ text' = "'paint' 'by'=5 'at'=~ 'box'" ∧
      Prompt.Written "paint" items text.toList ∧ Prompt.Written "paint" items' text'.toList ∧
      i.parse r (.string text) (.string "<prompt>") = .ok p ∧
      i.parse r (.string text') (.string "<prompt>") = .ok p' ∧
      (p.args, p.kwargs) = ([.string "box"], [(.string "at", .integer 40), (.string "by", .integer 5)]) ∧
      p.Alike p' := by
  let at' := Item.named (.string "at") (.relative none)
  let box := Item.ordered (.plain (.string "box"))
  let by' := Item.named (.string "by") (.plain (.integer 5))
  let i : Interpreter := { repository := 0 }
  let paint : Command := ⟨"paint", [⟨"what", .string, false, .none, none, ""⟩],
    [⟨"at", .integer, true, .none, some (.integer 40), ""⟩, ⟨"by", .integer, true, .none, none, ""⟩], .none⟩
  let r : Repository := ⟨[("paint", paint)]⟩
  have hrearranged : Rearranged [at', box, by'] [by', at', box] := by
    have hperm : ([at', box] ++ [by']).Perm ([by'] ++ [at', box]) := List.perm_append_comm
    refine ⟨hperm, rfl, fun name => ?_⟩
    by_cases hat : "at" = name
    · subst hat
      rfl
    · by_cases hby : "by" = name
      · subst hby
        rfl
      · simp [at', box, by', Item.under?, List.filterMap_cons, hat, hby]
  have hname := NameWritten.quoted .single "paint"
  have hbox := Literal.written_constant (l := .string "box") (.string _) .single
  have hat := Literal.written_constant (l := .string "at") (.string _) .single
  have hby := Literal.written_constant (l := .string "by") (.string _) .single
  have hfive := Literal.written_constant (l := .integer 5) (.integer 5 (by decide)) .single
  have hwritten : Prompt.Written "paint" [at', box, by'] "'paint' 'at'=~ 'box' 'by'=5".toList :=
    .intro .nothing hname .space nofun (.cons (.named hat .nothing .nothing .bare) .space nofun
      (.cons (.ordered (.plain hbox)) .space nofun
        (.cons (.named hby .nothing .nothing (.plain hfive)) .nothing (fun _ => rfl) .nil)))
  have hwritten' : Prompt.Written "paint" [by', at', box] "'paint' 'by'=5 'at'=~ 'box'".toList :=
    .intro .nothing hname .space nofun (.cons (.named hby .nothing .nothing (.plain hfive)) .space nofun
      (.cons (.named hat .nothing .nothing .bare) .space nofun
        (.cons (.ordered (.plain hbox)) .nothing (fun _ => rfl) .nil)))
  have hp : i.parse r (.string "'paint' 'at'=~ 'box' 'by'=5") (.string "<prompt>") =
      .ok ⟨paint, [.string "box"], [(.string "at", .integer 40), (.string "by", .integer 5)]⟩ := by
    with_unfolding_all rfl
  rcases parse_rearranged hrearranged hwritten hwritten' with ⟨p, p', h, h', halike⟩ | ⟨e, _, h, _⟩
  · obtain rfl := Except.ok.inj (hp.symm.trans h)
    exact ⟨i, r, _, _, _, _, _, p', hrearranged, rfl, rfl, hwritten, hwritten', hp, h', rfl, halike⟩
  · cases hp.symm.trans h

end Interpreter

end Prompter
