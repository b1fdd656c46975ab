import Prompter.Proofs.Prompt.Spacing

namespace Prompter

open Checked

variable {scope : Scope} {command : Command} {a : Argument} {given : Given} {v : Value}

namespace Slot

theorem numeric_of_resolve {delta : Option Value} (ho : a.origin = none) (h : resolve scope a delta = .ok v) :
    a.kind.numeric = true ∧ v = delta.getD (.integer 0) := by
  have horigin : (liftM (originValue scope a) : Checked Value) = .ok .none := by rw [originValue, ho]; rfl
  rw [resolve, horigin] at h
  cases hn : a.kind.numeric with
  | true =>
      refine ⟨rfl, ?_⟩
      cases delta with
      | none => simpa [bind, Except.bind, hn, addTo, pure, Except.pure, eq_comm] using h
      | some delta => simpa [bind, Except.bind, hn, addTo, eq_comm] using h
  | false =>
      cases delta with
      | none => simp [bind, Except.bind, hn, addTo, fault] at h
      | some delta => simp [bind, Except.bind, hn, addTo, fault] at h

theorem takes_of_bound (h : bound scope a given = .ok v) : takes scope a given = .ok true := by
  obtain ⟨hmeans, hholds⟩ := bound_eq_ok.1 h
  cases given with
  | plain l =>
      obtain rfl := hmeans
      exact accepts_eq_true.2 hholds
  | relative delta =>
      rw [takes]
      by_cases hr : a.relative = true
      · rw [if_pos hr]
      · have ho : a.origin = none := by simpa [relative] using hr
        obtain ⟨hn, rfl⟩ := numeric_of_resolve ho hmeans
        rw [if_neg hr, if_neg (by simp [hn])]
        exact accepts_eq_true.2 hholds

end Slot

namespace Binding

theorem fill_singleton {values : List Value} {rest : List Argument} :
    fill scope command given [a] = .ok (values, rest) ↔
      ∃ v, Slot.bound scope a given = .ok v ∧ values = [v] ∧ rest = [] := by
  constructor
  · intro h
    rcases fill_cases h with ⟨_, v, hmeans, hholds, rfl, rfl⟩ | ⟨_, _, _, h, _⟩
    · exact ⟨v, Slot.bound_eq_ok.2 ⟨hmeans, hholds⟩, rfl, rfl⟩
    · exact absurd h fault_ne_ok
  · rintro ⟨v, hv, rfl, rfl⟩
    exact bind_eq_ok.2 ⟨true, Slot.takes_of_bound hv, bind_eq_ok.2 ⟨v, hv, rfl⟩⟩

end Binding

namespace Prompt

variable {commands : Table Command} {name : String} {c d : Command} {p : Prompt}

theorem ofItems_singleton {item : Item} (hc : commands.get? name = some c) :
    ofItems scope commands name [item] =
      ({ vacant := c.positional } : Binding).take scope c item >>= fun b => b.complete c := by
  have hlookup : lookup commands name = .ok c := by rw [lookup, hc]
  have htake : Binding.takeAll scope c { vacant := c.positional } [item] =
      ({ vacant := c.positional } : Binding).take scope c item := by
    rw [Binding.takeAll, List.foldlM_cons]
    exact bind_pure _
  rw [ofItems, hlookup, ← htake]
  rfl

theorem ofItems_ordered (hc : commands.get? name = some c) (hp : c.positional = [a]) (hk : c.keyword = []) :
    ofItems scope commands name [.ordered given] = .ok p ↔
      ∃ v, Slot.bound scope a given = .ok v ∧ ⟨c, [v], []⟩ = p := by
  have hcomplete : ∀ v, Binding.complete c ⟨[v], [], []⟩ = .ok ⟨c, [v], []⟩ := fun v => by
    simp [Binding.complete_eq_ok, hk]
  rw [ofItems_singleton hc, hp, bind_eq_ok]
  constructor
  · rintro ⟨b, hb, h⟩
    obtain ⟨⟨values, rest⟩, hfill, hb⟩ := bind_eq_ok.1 hb
    obtain rfl := pure_eq_ok.1 hb
    obtain ⟨v, hv, rfl, rfl⟩ := Binding.fill_singleton.1 hfill
    exact ⟨v, hv, Except.ok.inj ((hcomplete v).symm.trans h)⟩
  · rintro ⟨v, hv, rfl⟩
    have hfill : Binding.fill scope c given [a] = .ok ([v], []) := Binding.fill_singleton.2 ⟨v, hv, rfl, rfl⟩
    exact ⟨_, bind_eq_ok.2 ⟨_, hfill, rfl⟩, hcomplete v⟩

theorem ofItems_named (hd : commands.get? name = some d) (hp : d.positional = []) (hk : d.keyword = [a]) :
    ofItems scope commands name [.named (.string a.name) given] = .ok p ↔
      ∃ v, Slot.bound scope a given = .ok v ∧ ⟨d, [], [(.string a.name, v)]⟩ = p := by
  have hkey : Binding.keyed d (.string a.name) = .ok a := by simp [Binding.keyed, Signature.keyword?, hk]
  have hcomplete : ∀ v, Binding.complete d ⟨[], [], [(a.name, v)]⟩ = .ok ⟨d, [], [(.string a.name, v)]⟩ := fun v => by
    simp [Binding.complete_eq_ok, hk, Table.has]
  rw [ofItems_singleton hd, hp, bind_eq_ok]
  constructor
  · rintro ⟨b, hb, h⟩
    obtain ⟨_, hkey', hb⟩ := bind_eq_ok.1 hb
    obtain rfl := Except.ok.inj (hkey.symm.trans hkey')
    obtain ⟨v, hv, hb⟩ := bind_eq_ok.1 hb
    obtain rfl := pure_eq_ok.1 hb
    exact ⟨v, hv, Except.ok.inj ((hcomplete v).symm.trans h)⟩
  · rintro ⟨v, hv, rfl⟩
    exact ⟨_, bind_eq_ok.2 ⟨a, hkey, bind_eq_ok.2 ⟨v, hv, rfl⟩⟩, hcomplete v⟩

theorem parse_one {source source' : Source} {name' : String} (hc : commands.get? name = some c)
    (hcp : c.positional = [a]) (hck : c.keyword = []) (hd : commands.get? name' = some d) (hdp : d.positional = [])
    (hdk : d.keyword = [a]) (hs : itemsOf source.text = some (name, [.ordered given]))
    (hs' : itemsOf source'.text = some (name', [.named (.string a.name) given])) :
    (∃ v, parse scope commands source = .ok ⟨c, [v], []⟩ ∧
        parse scope commands source' = .ok ⟨d, [], [(.string a.name, v)]⟩) ∨
      ∃ e e', parse scope commands source = .error e ∧ parse scope commands source' = .error e' := by
  let Same (p p' : Prompt) : Prop := ∃ v, ⟨c, [v], []⟩ = p ∧ ⟨d, [], [(.string a.name, v)]⟩ = p'
  have hboth : (∃ p p', parse scope commands source = .ok p ∧ parse scope commands source' = .ok p' ∧ Same p p') ∨
      ∃ e e', parse scope commands source = .error e ∧ parse scope commands source' = .error e' := by
    refine parse_related hs hs' (fun p hp => ?_) fun p' hp' => ?_
    · obtain ⟨v, hv, rfl⟩ := (ofItems_ordered hc hcp hck).1 hp
      exact ⟨_, (ofItems_named hd hdp hdk).2 ⟨v, hv, rfl⟩, v, rfl, rfl⟩
    · obtain ⟨v, hv, _⟩ := (ofItems_named hd hdp hdk).1 hp'
      exact ⟨_, (ofItems_ordered hc hcp hck).2 ⟨v, hv, rfl⟩⟩
  rcases hboth with ⟨_, _, hp, hp', v, rfl, rfl⟩ | hboth
  · exact .inl ⟨v, hp, hp'⟩
  · exact .inr hboth

end Prompt

namespace Interpreter

variable {i : Interpreter} {r : Repository} {c d : Command} {name name' : String} {text text' value : List Char}

/-- A value for the only slot of a command, in order, and behind the name of the slot where it is the only one by name:
both times the same is bound, or both times the prompt fails. -/
theorem parse_byName (q : Quote) (label : Value) (hname : NameWritten name text) (hname' : NameWritten name' text')
    (hc : r.commands.get? name = some c) (hcp : c.positional = [a]) (hck : c.keyword = [])
    (hd : r.commands.get? name' = some d) (hdp : d.positional = []) (hdk : d.keyword = [a])
    (hvalue : given.Written value) :
    (∃ v, i.parse r (.string (.ofList (text ++ ' ' :: value))) label = .ok ⟨c, [v], []⟩ ∧
        i.parse r (.string (.ofList (text' ++ ' ' :: (q.quoted a.name ++ '=' :: value)))) label =
          .ok ⟨d, [], [(.string a.name, v)]⟩) ∨
      ∃ e e', i.parse r (.string (.ofList (text ++ ' ' :: value))) label = .error e ∧
        i.parse r (.string (.ofList (text' ++ ' ' :: (q.quoted a.name ++ '=' :: value)))) label = .error e' := by
  have hkey := Literal.written_constant (l := .string a.name) (.string _) q
  have hordered : Prompt.Written name [.ordered given] (String.ofList (text ++ ' ' :: value)).toList := by
    have h : Prompt.Written name [.ordered given] _ := .intro .nothing hname .space nofun
      (.cons (.ordered hvalue) .nothing (fun _ => rfl) .nil)
    simpa [Gap.nothing, Gap.space] using h
  have hnamed : Prompt.Written name' [.named (.string a.name) given]
      (String.ofList (text' ++ ' ' :: (q.quoted a.name ++ '=' :: value))).toList := by
    have h : Prompt.Written name' [.named (.string a.name) given] _ := .intro .nothing hname' .space nofun
      (.cons (.named hkey .nothing .nothing hvalue) .nothing (fun _ => rfl) .nil)
    simpa [Gap.nothing, Gap.space, Value.constantText, Literal.toValue] using h
  cases label with
  | string label =>
      rw [parse_string, parse_string]
      exact Prompt.parse_one hc hcp hck hd hdp hdk (Prompt.itemsOf_of_written hordered)
        (Prompt.itemsOf_of_written hnamed)
  | _ => exact .inr ⟨_, _, rfl, rfl⟩

/-- A value relative to a variable. -/
theorem parse_byName_relative :
    ∃ (i : Interpreter) (r : Repository) (a : Argument) (c d : Command), r.commands.get? "seek" = some c ∧
      c.positional = [a] ∧ c.keyword = [] ∧ r.commands.get? "place" = some d ∧ d.positional = [] ∧ d.keyword = [a] ∧
      i.parse r (.string "'seek' ~3") (.string "<prompt>") = .ok ⟨c, [.integer 43], []⟩ ∧
      i.parse r (.string "'place' 'at'=~3") (.string "<prompt>") = .ok ⟨d, [], [(.string "at", .integer 43)]⟩ := by
  let i : Interpreter := { repository := 0, vars := .constant (.integer 40) }
  let at' : Argument := ⟨"at", .integer, true, .none, some (.named "n"), ""⟩
  let seek : Command := ⟨"seek", [at'], [], .none⟩
  let place : Command := ⟨"place", [], [at'], .none⟩
  let r : Repository := ⟨[("seek", seek), ("place", place)]⟩
  have hthree : (Literal.integer 3).Written ['3'] :=
    Literal.written_constant (l := .integer 3) (.integer 3 (by decide)) .single
  have hp : i.parse r (.string "'seek' ~3") (.string "<prompt>") = .ok ⟨seek, [.integer 43], []⟩ := by
    with_unfolding_all rfl
  have hseek : "'seek' ~3" = .ofList (Quote.single.quoted "seek" ++ ' ' :: '~' :: ['3']) := by decide
  have hplace : "'place' 'at'=~3" =
      .ofList (Quote.single.quoted "place" ++ ' ' :: (Quote.single.quoted at'.name ++ '=' :: '~' :: ['3'])) := by decide
  have hget : r.commands.get? "seek" = some seek := rfl
  have hget' : r.commands.get? "place" = some place := rfl
  have hboth := parse_byName (i := i) .single (.string "<prompt>") (.quoted .single "seek")
    (.quoted .single "place") hget rfl rfl hget' rfl rfl (.relative hthree)
  rw [← hseek, ← hplace] at hboth
  rcases hboth with ⟨v, h, h'⟩ | ⟨_, _, h, _⟩
  · have hsame := hp.symm.trans h
    obtain rfl : Value.integer 43 = v := by simpa using hsame
    exact ⟨i, r, at', seek, place, rfl, rfl, rfl, rfl, rfl, rfl, hp, h'⟩
  · cases hp.symm.trans h

end Interpreter

end Prompter
