import Prompter.Proofs.Prompt.Items

namespace Prompter

open Reader

namespace Prompt

variable {α β : Type} {scope : Scope} {command : Command} {commands : Table Command} {b : Binding} {c d e : Cursor}
  {item : Item} {items : List Item}

def lookup (commands : Table Command) (name : String) : Checked Command :=
  match commands.get? name with
  | some command => .ok command
  | none => .fault (.unknownCommand name (Text.closeNames name commands.names))

def ofItems (scope : Scope) (commands : Table Command) (name : String) (items : List Item) : Checked Prompt := do
  let command ← lookup commands name
  let b ← Binding.takeAll scope command { vacant := command.positional } items
  b.complete command

/-- A reader comes to what a check comes to: it stops at `d`, or reports the failure somewhere. -/
def Settles (outcome : EStateM.Result (Failure Complaint) Cursor α) (d : Cursor) : Checked α → Prop
  | .ok a => outcome = .ok a d
  | .error e => ∃ offset d', outcome = .error (e.map (⟨·, offset⟩)) d'

theorem settles_here (x : Checked α) : Settles (here x c) c x := by
  cases x with
  | ok a => rfl
  | error e => exact ⟨_, _, rfl⟩

theorem Settles.bind {r : BuildReader α} {f : α → BuildReader β} {x : Checked α} {g : α → Checked β}
    (hr : Settles (r c) d x) (hf : ∀ a, x = .ok a → Settles (f a d) e (g a)) : Settles ((r >>= f) c) e (x >>= g) := by
  cases x with
  | error err =>
      obtain ⟨offset, d', h⟩ := hr
      exact ⟨offset, d', bind_eq_error.2 (.inl h)⟩
  | ok a =>
      have h : r c = .ok a d := hr
      rw [bind_of_ok h]
      exact hf a rfl

theorem Settles.lift_bind {r : Reader α} {f : α → BuildReader β} {x : Checked β} {a : α} (h : r c = .ok a d)
    (hf : Settles (f a d) e x) : Settles ((liftM r >>= f) c) e x := by
  have hr : Settles ((liftM r : BuildReader α) c) d (.ok a) := lift_eq_ok.2 h
  refine hr.bind (g := fun _ => x) fun a' ha => ?_
  cases ha
  exact hf

theorem Settles.bind_some {r : BuildReader α} {x : Checked α} (h : Settles (r c) d x) :
    Settles ((do return some (← r) : BuildReader (Option α)) c) d (do return some (← x)) :=
  h.bind fun _ _ => rfl

theorem settles_readNamed {key : Literal} (h : Item.nextKeyed key c = .ok (some item) d) :
    Settles (readNamed scope command key b c) d (b.take scope command item) := by
  obtain ⟨given, hg, hitem⟩ := Item.nextKeyed_eq_ok.1 h
  cases hitem
  refine (settles_here _).bind fun a _ => ?_
  simp only [skip_bind, skipBlanks_bind, setMark_bind]
  exact Settles.lift_bind hg (settles_here _)

theorem settles_takeGiven {given : Given} (h : Item.nextGiven given c = .ok (some item) d) :
    Settles (takeGiven scope command b given c) d (do return some (← b.take scope command item)) := by
  cases given with
  | relative delta =>
      obtain ⟨hitem, rfl⟩ := pure_eq_ok.1 h
      cases hitem
      exact (settles_here _).bind_some
  | plain l =>
      rw [Item.nextGiven_plain] at h
      rw [takeGiven_plain]
      split at h
      · next hkeyed =>
          rw [if_pos hkeyed]
          exact (settles_readNamed h).bind_some
      · next hplain =>
          cases h
          rw [if_neg hplain]
          exact (settles_here _).bind_some

theorem settles_readItem (h : Item.next c = .ok (some item) d) :
    Settles (readItem scope command b c) d (do return some (← b.take scope command item)) := by
  obtain ⟨hne, given, c₁, hg, hitem⟩ := Item.next_eq_some.1 h
  rw [readItem_eq, if_neg hne]
  exact Settles.lift_bind hg (settles_takeGiven hitem)

theorem readItem_of_next (h : Item.next c = .ok none d) : readItem scope command b c = .ok none d := by
  obtain ⟨hend, rfl⟩ := Item.next_eq_none.1 h
  rw [readItem_eq, if_pos hend]

theorem settles_iterate (scope : Scope) (command : Command) {more : List Item}
    (h : iterate Item.nextBehind Item.progresses_nextBehind items c = .ok more d) :
    ∃ behind, more = items ++ behind ∧
      ∀ b, Settles (iterate (readItem scope command) (progresses_readItem scope command) b c) d
        (b.takeAll scope command behind) := by
  -- By the text that is left: both loops take their next step at the same cursor, or both end there.
  induction hn : c.ahead.length using Nat.strongRecOn generalizing items c with
  | ind n ih =>
      subst hn
      rw [iterate_eq] at h
      split at h
      · cases h
      · next e hstep =>
          cases h
          refine ⟨[], (List.append_nil _).symm, fun b => ?_⟩
          rw [iterate_eq, readItem_of_next (Item.nextBehind_eq_none.1 hstep)]
          rfl
      · next more' e hstep =>
          obtain ⟨item, hnext, rfl⟩ := Item.nextBehind_eq_some.1 hstep
          obtain ⟨behind, rfl, hbehind⟩ := ih _ (Item.progresses_nextBehind _ _ _ _ hstep) h rfl
          refine ⟨item :: behind, by simp, fun b => ?_⟩
          have hitem : Settles (readItem scope command b c) e (do return some (← b.take scope command item)) :=
            settles_readItem hnext
          rw [iterate_eq, Binding.takeAll, List.foldlM_cons]
          cases htake : b.take scope command item with
          | ok b' =>
              rw [htake] at hitem
              have hitem : readItem scope command b c = .ok (some b') e := hitem
              rw [hitem]
              exact hbehind b'
          | error err =>
              rw [htake] at hitem
              obtain ⟨offset, d', hitem⟩ := hitem
              rw [hitem]
              exact ⟨offset, d', rfl⟩

theorem settles_readName {name : String}
    (h : (do skipBlanks; setMark; Prompter.readName true : Reader String) c = .ok name d) :
    Settles (readName commands c) d (lookup commands name) := by
  rw [readName]
  simp only [skipBlanks_bind, setMark_bind] at h ⊢
  exact Settles.lift_bind h (settles_here _)

theorem settles_read {name : String} (h : readItems c = .ok (name, items) d) :
    Settles (read scope commands c) { d with mark := some d.offset } (ofItems scope commands name items) := by
  rw [readItems] at h
  simp only [skipBlanks_bind, setMark_bind] at h
  obtain ⟨name', c₁, hname, h⟩ := bind_eq_ok.1 h
  obtain ⟨items', c₂, hread, h⟩ := bind_eq_ok.1 h
  obtain ⟨hwritten, rfl⟩ := pure_eq_ok.1 h
  cases hwritten
  rw [read]
  refine (settles_readName (d := c₁) ?_).bind fun command _ => ?_
  · simp only [skipBlanks_bind, setMark_bind]
    exact hname
  · obtain ⟨behind, rfl, hbehind⟩ := settles_iterate scope command hread
    refine (hbehind _).bind fun b _ => ?_
    simp only [setMark_bind]
    exact settles_here _

/-- A text whose items can be read means what its name and its items come to; a failure has some place in the text. -/
theorem parse_eq_ofItems {source : Source} {name : String} (h : itemsOf source.text = some (name, items)) :
    ∃ offset, parse scope commands source =
      (ofItems scope commands name items).mapError (Failure.told fun cause => Fault.ofCause source cause offset) := by
  obtain ⟨d, hread⟩ := itemsOf_eq_some.1 h
  have hsettles : Settles (read scope commands (.start source.text)) { d with mark := some d.offset }
      (ofItems scope commands name items) := settles_read hread
  rw [parse]
  cases hitems : ofItems scope commands name items with
  | ok p =>
      rw [hitems] at hsettles
      have hread : read scope commands (.start source.text) = .ok p { d with mark := some d.offset } := hsettles
      rw [hread]
      exact ⟨0, rfl⟩
  | error err =>
      rw [hitems] at hsettles
      obtain ⟨offset, d', hsettles⟩ := hsettles
      rw [hsettles]
      refine ⟨offset, ?_⟩
      cases err <;> rfl

/-- Where the items of two texts come to related prompts, or both to none, the texts mean related prompts, or both
fail. -/
theorem parse_related {source source' : Source} {name name' : String} {items' : List Item} {R : Prompt → Prompt → Prop}
    (hs : itemsOf source.text = some (name, items)) (hs' : itemsOf source'.text = some (name', items'))
    (h : ∀ p, ofItems scope commands name items = .ok p → ∃ p', ofItems scope commands name' items' = .ok p' ∧ R p p')
    (h' : ∀ p', ofItems scope commands name' items' = .ok p' → ∃ p, ofItems scope commands name items = .ok p) :
    (∃ p p', parse scope commands source = .ok p ∧ parse scope commands source' = .ok p' ∧ R p p') ∨
      ∃ e e', parse scope commands source = .error e ∧ parse scope commands source' = .error e' := by
  obtain ⟨offset, hparse⟩ : ∃ offset, parse scope commands source = _ := parse_eq_ofItems hs
  obtain ⟨offset', hparse'⟩ : ∃ offset', parse scope commands source' = _ := parse_eq_ofItems hs'
  rw [hparse, hparse']
  cases hp : ofItems scope commands name items with
  | ok p =>
      obtain ⟨p', hp', hR⟩ := h p hp
      rw [hp']
      exact .inl ⟨p, p', rfl, rfl, hR⟩
  | error e =>
      cases hp' : ofItems scope commands name' items' with
      | ok p' =>
          obtain ⟨p, hok⟩ := h' p' hp'
          cases hp.symm.trans hok
      | error e' => exact .inr ⟨_, _, rfl, rfl⟩

end Prompt

end Prompter
