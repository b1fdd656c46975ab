import Prompter.Proofs.Prompt.Checks
import Prompter.Prompt.Reader

namespace Prompter

open Reader

/-- What stands in a prompt behind the name: a value for a slot in order, or a value for the slot that a key names. -/
inductive Item where
  | ordered (given : Given)
  | named (key : Literal) (given : Given)

def Cursor.atValue (c : Cursor) : Cursor :=
  let start := c.skip (c.ahead.takeWhile Text.isBlank).length
  { start with mark := some start.offset }

namespace Item

def ordered? : Item → Option Given
  | ordered given => some given
  | named .. => none

def next : Reader (Option Item) := do
  skipBlanks
  if !(← hasNext) then return none
  setMark
  match ← Given.read with
  | .plain l =>
      skipBlanks
      if ← standsAt "=" then
        skip 1
        skipBlanks
        setMark
        return some (named l (← Given.read))
      else return some (ordered (.plain l))
  | given => return some (ordered given)

def nextKeyed (key : Literal) : Reader (Option Item) := do
  skip 1
  skipBlanks
  setMark
  return some (named key (← Given.read))

def nextGiven : Given → Reader (Option Item)
  | .plain l => do
      skipBlanks
      if ← standsAt "=" then nextKeyed l else return some (ordered (.plain l))
  | given => return some (ordered given)

def nextBehind (items : List Item) : Reader (Option (List Item)) := do
  match ← next with
  | some item => return some (items ++ [item])
  | none => return none

variable {c d : Cursor} {item? : Option Item} {key : Literal} {given : Given}

theorem nextKeyed_eq_ok : nextKeyed key c = .ok item? d ↔
    ∃ given, Given.read (c.skip 1).atValue = .ok given d ∧ item? = some (named key given) := by
  rw [nextKeyed, skip_bind, skipBlanks_bind, setMark_bind, bind_eq_ok]
  constructor
  · rintro ⟨given, e, hg, h⟩
    obtain ⟨rfl, rfl⟩ := pure_eq_ok.1 h
    exact ⟨given, hg, rfl⟩
  · rintro ⟨given, hg, rfl⟩
    exact ⟨given, d, hg, rfl⟩

theorem nextGiven_plain {l : Literal} : nextGiven (.plain l) c =
    if (c.skip (c.ahead.takeWhile Text.isBlank).length).ahead.head? = some '=' then
      nextKeyed l (c.skip (c.ahead.takeWhile Text.isBlank).length)
    else .ok (some (ordered (.plain l))) (c.skip (c.ahead.takeWhile Text.isBlank).length) := by
  have hsign : String.singleton '=' = "=" := by decide
  rw [nextGiven, skipBlanks_bind, standsAt_bind, ← if_congr (standsAt_iff hsign) rfl rfl]
  split <;> rfl

theorem nextGiven_ne_none : nextGiven given c ≠ .ok none d := by
  intro h
  cases given with
  | relative delta => cases (pure_eq_ok.1 h).1
  | plain l =>
      rw [nextGiven_plain] at h
      split at h
      · obtain ⟨_, _, hnone⟩ := nextKeyed_eq_ok.1 h
        cases hnone
      · cases h

theorem next_eq : next c = if c.atValue.ahead = [] then .ok none (c.skip (c.ahead.takeWhile Text.isBlank).length)
    else (Given.read >>= nextGiven) c.atValue := by
  have hahead : c.atValue.ahead = (c.skip (c.ahead.takeWhile Text.isBlank).length).ahead := rfl
  rw [next, skipBlanks_bind, hasNext_bind, ← hahead]
  by_cases hend : c.atValue.ahead = []
  · rw [if_pos hend, if_pos (by simpa using hend)]
    rfl
  · rw [if_neg hend, if_neg (by simpa using hend), setMark_bind]
    refine bind_congr rfl fun given d _ => ?_
    cases given <;> rfl

theorem next_eq_none : next c = .ok none d ↔ c.atValue.ahead = [] ∧ c.skip (c.ahead.takeWhile Text.isBlank).length = d := by
  rw [next_eq]
  split
  · next hend => simp [hend]
  · next hne =>
      simp only [hne, false_and, iff_false, bind_eq_ok, not_exists, not_and]
      exact fun given e _ => nextGiven_ne_none

theorem next_eq_some {item : Item} : next c = .ok (some item) d ↔
    c.atValue.ahead ≠ [] ∧ ∃ given e, Given.read c.atValue = .ok given e ∧ nextGiven given e = .ok (some item) d := by
  rw [next_eq]
  split
  · next hend => simp [hend]
  · next hne => simp [hne, bind_eq_ok]

variable {items items' : List Item}

theorem nextBehind_eq_none : nextBehind items c = .ok none d ↔ next c = .ok none d := by
  rw [nextBehind, bind_eq_ok]
  constructor
  · rintro ⟨item?, e, hnext, h⟩
    cases item? with
    | none =>
        obtain ⟨_, rfl⟩ := pure_eq_ok.1 h
        exact hnext
    | some item => cases (pure_eq_ok.1 h).1
  · exact fun hnext => ⟨none, d, hnext, rfl⟩

theorem nextBehind_eq_some :
    nextBehind items c = .ok (some items') d ↔ ∃ item, next c = .ok (some item) d ∧ items ++ [item] = items' := by
  rw [nextBehind, bind_eq_ok]
  constructor
  · rintro ⟨item?, e, hnext, h⟩
    cases item? with
    | none => cases (pure_eq_ok.1 h).1
    | some item =>
        obtain ⟨hitems, rfl⟩ := pure_eq_ok.1 h
        exact ⟨item, hnext, Option.some.inj hitems⟩
  · rintro ⟨item, hnext, rfl⟩
    exact ⟨some item, d, hnext, rfl⟩

theorem forward_nextGiven : ∀ given : Given, Forward (nextGiven given)
  | .relative _ => forward_pure _
  | .plain l => by
      refine forward_skipBlanks.bind fun _ => (forward_ahead.bind fun _ => forward_pure _).bind fun keyed => ?_
      split
      · exact (forward_skip _).bind fun _ => forward_skipBlanks.bind fun _ => forward_setMark.bind fun _ =>
          Given.advances_read.forward.bind fun _ => forward_pure _
      · exact forward_pure _

theorem progresses_nextBehind : Progresses nextBehind := by
  intro items c items' d h
  obtain ⟨item, hnext, _⟩ := nextBehind_eq_some.1 h
  obtain ⟨_, given, e, hg, hitem⟩ := next_eq_some.1 hnext
  have hstart : c.Reaches c.atValue := c.reaches_skip _
  have hpasses := (Given.advances_read _ _ _ hg).trans_reaches (forward_nextGiven given _ _ _ hitem)
  exact (hstart.trans_passes hpasses).length_lt

end Item

namespace Binding

variable (scope : Scope) (command : Command)

def take (b : Binding) : Item → Checked Binding
  | .ordered given => b.put scope command given
  | .named key given => do b.putNamed scope given (← keyed command key)

def takeAll (b : Binding) (items : List Item) : Checked Binding := items.foldlM (take scope command) b

variable {scope command} {b b' : Binding} {item : Item}

theorem take_cases (h : b.take scope command item = .ok b') :
    (∃ given values rest, item = .ordered given ∧ fill scope command given b.vacant = .ok (values, rest) ∧
        b' = { b with args := b.args ++ values, vacant := rest }) ∨
      ∃ key given a v, item = .named key given ∧ keyed command key = .ok a ∧ a.Holds scope v ∧
        b' = { b with named := b.named.put a.name v } := by
  cases item with
  | ordered given =>
      obtain ⟨⟨values, rest⟩, hfill, h⟩ := Checked.bind_eq_ok.1 h
      exact .inl ⟨given, values, rest, rfl, hfill, (Checked.pure_eq_ok.1 h).symm⟩
  | named key given =>
      obtain ⟨a, hkey, h⟩ := Checked.bind_eq_ok.1 h
      obtain ⟨v, hv, h⟩ := Checked.bind_eq_ok.1 h
      have hholds := (Slot.bound_eq_ok.1 hv).2
      exact .inr ⟨key, given, a, v, rfl, hkey, hholds, (Checked.pure_eq_ok.1 h).symm⟩

end Binding

namespace Prompt

def readItems : Reader (String × List Item) := do
  skipBlanks
  setMark
  let name ← Prompter.readName true
  return (name, ← iterate Item.nextBehind Item.progresses_nextBehind [])

/-- The name and the items that are written in a text. -/
def itemsOf (text : String) : Option (String × List Item) :=
  match readItems (.start text) with
  | .ok written _ => some written
  | .error .. => none

theorem itemsOf_eq_some {text : String} {written : String × List Item} :
    itemsOf text = some written ↔ ∃ d, readItems (.start text) = .ok written d := by
  rw [itemsOf]
  cases readItems (.start text) <;> simp

variable {α : Type} {scope : Scope} {command : Command} {b b' : Binding} {c d : Cursor}

theorem here_eq_ok {x : Checked α} {a : α} : here x c = .ok a d ↔ x = .ok a ∧ c = d := by
  unfold here
  cases x with
  | error e => simp
  | ok a' => simp

theorem here_eq_error {x : Checked α} {e : Failure Complaint} (h : here x c = .error e d) :
    ∃ e', x = .error e' ∧ e = e'.map (⟨·, c.valueOffset⟩) := by
  unfold here at h
  split at h
  · cases h
  · next e' =>
      cases h
      exact ⟨e', rfl, rfl⟩

theorem take_of_readNamed {key : Literal} (h : readNamed scope command key b c = .ok b' d) :
    ∃ given, Item.nextKeyed key c = .ok (some (.named key given)) d ∧
      b.take scope command (.named key given) = .ok b' := by
  rw [readNamed] at h
  obtain ⟨a, c₁, ha, h⟩ := bind_eq_ok.1 h
  obtain ⟨hkey, rfl⟩ := here_eq_ok.1 ha
  simp only [skip_bind, skipBlanks_bind, setMark_bind] at h
  obtain ⟨given, c₂, hg, h⟩ := bind_eq_ok.1 h
  obtain ⟨hput, rfl⟩ := here_eq_ok.1 h
  exact ⟨given, Item.nextKeyed_eq_ok.2 ⟨given, lift_eq_ok.1 hg, rfl⟩, Checked.bind_eq_ok.2 ⟨a, hkey, hput⟩⟩

def takeGiven (scope : Scope) (command : Command) (b : Binding) : Given → BuildReader (Option Binding)
  | .plain l => do
      skipBlanks
      if ← standsAt "=" then return some (← readNamed scope command l b)
      else return some (← here (b.put scope command (.plain l)))
  | given => do return some (← here (b.put scope command given))

theorem takeGiven_plain {l : Literal} : takeGiven scope command b (.plain l) c =
    if (c.skip (c.ahead.takeWhile Text.isBlank).length).ahead.head? = some '=' then
      (do return some (← readNamed scope command l b) : BuildReader (Option Binding))
        (c.skip (c.ahead.takeWhile Text.isBlank).length)
    else (do return some (← here (b.put scope command (.plain l))) : BuildReader (Option Binding))
      (c.skip (c.ahead.takeWhile Text.isBlank).length) := by
  have hsign : String.singleton '=' = "=" := by decide
  rw [takeGiven, skipBlanks_bind, standsAt_bind, ← if_congr (standsAt_iff hsign) rfl rfl]
  split <;> rfl

theorem readItem_eq : readItem scope command b c =
    if c.atValue.ahead = [] then .ok none (c.skip (c.ahead.takeWhile Text.isBlank).length)
    else (liftM Given.read >>= takeGiven scope command b) c.atValue := by
  have hahead : c.atValue.ahead = (c.skip (c.ahead.takeWhile Text.isBlank).length).ahead := rfl
  rw [readItem, skipBlanks_bind, hasNext_bind, ← hahead]
  by_cases hend : c.atValue.ahead = []
  · rw [if_pos hend, if_pos (by simpa using hend)]
    rfl
  · rw [if_neg hend, if_neg (by simpa using hend), setMark_bind]
    refine bind_congr rfl fun given d _ => ?_
    cases given <;> rfl

theorem nextGiven_of_takeGiven {given : Given} {next? : Option Binding}
    (h : takeGiven scope command b given c = .ok next? d) :
    ∃ item b', next? = some b' ∧ Item.nextGiven given c = .ok (some item) d ∧ b.take scope command item = .ok b' := by
  cases given with
  | relative delta =>
      obtain ⟨b', c₁, hb, h⟩ := bind_eq_ok.1 h
      obtain ⟨rfl, rfl⟩ := pure_eq_ok.1 h
      obtain ⟨hput, rfl⟩ := here_eq_ok.1 hb
      exact ⟨.ordered (.relative delta), b', rfl, rfl, hput⟩
  | plain l =>
      rw [takeGiven_plain] at h
      rw [Item.nextGiven_plain]
      split at h
      · next hkeyed =>
          obtain ⟨b', c₁, hb, h⟩ := bind_eq_ok.1 h
          obtain ⟨rfl, rfl⟩ := pure_eq_ok.1 h
          obtain ⟨given, hread, htake⟩ := take_of_readNamed hb
          rw [if_pos hkeyed]
          exact ⟨.named l given, b', rfl, hread, htake⟩
      · next hplain =>
          obtain ⟨b', c₁, hb, h⟩ := bind_eq_ok.1 h
          obtain ⟨rfl, rfl⟩ := pure_eq_ok.1 h
          obtain ⟨hput, rfl⟩ := here_eq_ok.1 hb
          rw [if_neg hplain]
          exact ⟨.ordered (.plain l), b', rfl, rfl, hput⟩

/-- A step of a prompt reads one item and takes it, or finds the end. -/
theorem next_of_readItem {next? : Option Binding} (h : readItem scope command b c = .ok next? d) :
    (next? = none ∧ Item.next c = .ok none d) ∨
      ∃ item b', next? = some b' ∧ Item.next c = .ok (some item) d ∧ b.take scope command item = .ok b' := by
  rw [readItem_eq] at h
  split at h
  · next hend =>
      cases h
      exact .inl ⟨rfl, Item.next_eq_none.2 ⟨hend, rfl⟩⟩
  · next hne =>
      obtain ⟨given, c₁, hg, h⟩ := bind_eq_ok.1 h
      obtain ⟨item, b', hsome, hitem, htake⟩ := nextGiven_of_takeGiven h
      exact .inr ⟨item, b', hsome, Item.next_eq_some.2 ⟨hne, given, c₁, lift_eq_ok.1 hg, hitem⟩, htake⟩

theorem takeAll_of_iterate {items : List Item} (h : b.takeAll scope command items = .ok b')
    {b'' : Binding} (hread : iterate (readItem scope command) (progresses_readItem scope command) b' c = .ok b'' d) :
    ∃ items', iterate Item.nextBehind Item.progresses_nextBehind items c = .ok items' d ∧
      b.takeAll scope command items' = .ok b'' := by
  -- Related are a binding and the items that it comes to.
  refine iterate_simulation (R := fun b' items => b.takeAll scope command items = .ok b') ?_ ?_ h hread
  · intro b₁ items c b₂ d hb hstep
    rcases next_of_readItem hstep with ⟨h, _⟩ | ⟨item, _, h, hnext, htake⟩
    · cases h
    · cases h
      refine ⟨items ++ [item], Item.nextBehind_eq_some.2 ⟨item, hnext, rfl⟩, ?_⟩
      rw [Binding.takeAll, List.foldlM_append]
      exact Checked.bind_eq_ok.2 ⟨b₁, hb, by simpa using htake⟩
  · intro b₁ items c d hb hstep
    rcases next_of_readItem hstep with ⟨_, hnext⟩ | ⟨item, b₂, h, _⟩
    · exact Item.nextBehind_eq_none.2 hnext
    · cases h

/-- A prompt is what its items, bound one after another to the slots of its command, come to. -/
theorem takeAll_of_parse {commands : Table Command} {source : Source} {p : Prompt}
    (h : parse scope commands source = .ok p) :
    ∃ name items b, itemsOf source.text = some (name, items) ∧ commands.get? name = some p.command ∧
      Binding.takeAll scope p.command { vacant := p.command.positional } items = .ok b ∧
      b.complete p.command = .ok p := by
  rw [parse] at h
  split at h
  · next p' d hread =>
      cases h
      obtain ⟨command, c₁, hname, h⟩ := bind_eq_ok.1 hread
      obtain ⟨b, c₂, hitems, h⟩ := bind_eq_ok.1 h
      obtain ⟨hp, _⟩ := here_eq_ok.1 h
      rw [readName] at hname
      simp only [skipBlanks_bind, setMark_bind] at hname
      obtain ⟨name, c₃, hn, hname⟩ := bind_eq_ok.1 hname
      obtain ⟨hget, rfl⟩ := here_eq_ok.1 hname
      have hnone : Binding.takeAll scope command { vacant := command.positional } [] =
          .ok { vacant := command.positional } := rfl
      obtain ⟨items, hread, hall⟩ := takeAll_of_iterate hnone hitems
      have hcommand : p.command = command := by
        obtain ⟨_, _, rfl⟩ := Binding.complete_eq_ok.1 hp
        rfl
      subst hcommand
      refine ⟨name, items, b, ?_, ?_, hall, hp⟩
      · refine itemsOf_eq_some.2 ⟨c₂, ?_⟩
        rw [readItems]
        simp only [skipBlanks_bind, setMark_bind]
        exact bind_eq_ok.2 ⟨name, c₃, lift_eq_ok.1 hn, bind_eq_ok.2 ⟨items, c₂, hread, pure_eq_ok.2 ⟨rfl, rfl⟩⟩⟩
      · split at hget
        · next hc =>
            cases hget
            exact hc
        · exact absurd hget Checked.fault_ne_ok
  · cases h

end Prompt

end Prompter
