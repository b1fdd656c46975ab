import Mathlib.Data.List.Forall2
import Prompter.Proofs.Table
import Prompter.Proofs.Shown
import Prompter.Repository

namespace Prompter

namespace Repository

def warning (presentation : Presentation) (command : Command) (previous : Option Command) : Option Fault :=
  previous.bind fun previous => (redefined presentation command previous).toOption

def told {α : Type} : Except (Failure Fault) (α × List Notice) → List Notice
  | .ok (_, notices) => notices
  | .error _ => []

end Repository

inductive Event where
  | added (presentation : Presentation) (command : Command)
  | removed (name : String)

namespace Event

def name : Event → String
  | added _ command => command.name
  | removed name => name

/-- A command is added as soon as there is one, whether or not the host can be told. -/
def additions (presentation : Presentation) (scheme executor : Value) : List Event :=
  match Repository.commandFrom scheme executor with
  | .ok command => [added presentation command]
  | .error _ => []

def command? : Event → Option Command
  | added _ command => some command
  | removed _ => none

def removes : Event → String → Bool
  | added .., _ => false
  | removed name, other => other == name

/-- The command that the last event under a name has left there. -/
def standing (past : List Event) (name : String) : Option Command :=
  (past.reverse.find? (·.name == name)).bind command?

/-- The name that comes to stay with an event: nothing stands there before, and the name is not removed any more. -/
def arrival (past : List Event) (k : Nat) : Option String :=
  match past[k]? with
  | some (added _ command) =>
      if (standing (past.take k) command.name).isNone && !(past.drop k).any (·.removes command.name) then
        some command.name
      else none
  | _ => none

def removals (past : List Event) : Value → List Event
  | .string name => if (standing past name).isSome then [removed name] else []
  | _ => []

def replacement (past : List Event) (k : Nat) : Option Fault :=
  match past[k]? with
  | some (added presentation command) =>
      Repository.warning presentation command (standing (past.take k) command.name)
  | _ => none

def arrivals (past : List Event) : List String := (List.range past.length).filterMap (arrival past)

def replacements (past : List Event) : List Fault := (List.range past.length).filterMap (replacement past)

variable {past : List Event} {e : Event} {name : String} {k : Nat}

theorem standing_append : standing (past ++ [e]) name = if e.name = name then e.command? else standing past name := by
  rw [standing, List.reverse_append, List.reverse_singleton, List.singleton_append, List.find?_cons]
  by_cases h : e.name = name
  · simp [h]
  · have hne : (e.name == name) = false := beq_eq_false_iff_ne.2 h
    rw [hne, if_neg h]
    rfl

theorem arrival_append (hk : k < past.length) :
    arrival (past ++ [e]) k = (arrival past k).filter fun name => !e.removes name := by
  rw [arrival, arrival, List.getElem?_append_left hk, List.take_append_of_le_length hk.le,
    List.drop_append_of_le_length hk.le]
  split
  · next command _ =>
      rw [List.any_append]
      by_cases h : (standing (past.take k) command.name).isNone && !(past.drop k).any (·.removes command.name)
      · rw [if_pos h]
        simp only [Bool.and_eq_true, Bool.not_eq_true'] at h
        cases hr : e.removes command.name <;> simp [h, hr, Option.filter]
      · rw [if_neg h, if_neg]
        · rfl
        · simp only [Bool.and_eq_true, Bool.not_eq_true', Bool.or_eq_false_iff] at h ⊢
          exact fun h' => h ⟨h'.1, h'.2.1⟩
  · rfl

theorem replacement_append (hk : k < past.length) : replacement (past ++ [e]) k = replacement past k := by
  rw [replacement, replacement, List.getElem?_append_left hk, List.take_append_of_le_length hk.le]

theorem arrivals_append : arrivals (past ++ [e]) =
    (arrivals past).filter (fun name => !e.removes name) ++ (arrival (past ++ [e]) past.length).toList := by
  rw [arrivals, List.length_append, List.length_singleton, List.range_succ, List.filterMap_append]
  congr 1
  · rw [arrivals, List.filter_filterMap]
    exact List.filterMap_congr fun k hk => arrival_append (List.mem_range.1 hk)

theorem replacements_append :
    replacements (past ++ [e]) = replacements past ++ (replacement (past ++ [e]) past.length).toList := by
  rw [replacements, List.length_append, List.length_singleton, List.range_succ, List.filterMap_append]
  congr 1
  exact List.filterMap_congr fun k hk => replacement_append (List.mem_range.1 hk)

theorem arrivals_added {presentation : Presentation} {command : Command} :
    arrivals (past ++ [added presentation command]) =
      if (standing past command.name).isSome then arrivals past else arrivals past ++ [command.name] := by
  -- An addition drives no name away.
  have hall : (arrivals past).filter (fun name => !(added presentation command).removes name) = arrivals past :=
    List.filter_eq_self.2 fun _ _ => rfl
  rw [arrivals_append, hall, arrival, List.getElem?_concat_length, List.take_left, List.drop_left]
  cases hstanding : standing past command.name <;> simp [removes, hstanding]

theorem arrivals_removed : arrivals (past ++ [removed name]) = (arrivals past).filter (· != name) := by
  rw [arrivals_append, arrival, List.getElem?_concat_length]
  simp [removes, bne]

theorem replacements_added {presentation : Presentation} {command : Command} :
    replacements (past ++ [added presentation command]) = replacements past ++
      (Repository.warning presentation command (standing past command.name)).toList := by
  rw [replacements_append, replacement, List.getElem?_concat_length, List.take_left]

theorem replacements_removed : replacements (past ++ [removed name]) = replacements past := by
  rw [replacements_append, replacement, List.getElem?_concat_length]
  exact List.append_nil _

end Event

namespace Repository

variable {r r' : Repository} {past : List Event} {host : Host} {presentation : Presentation} {command : Command}
  {scheme executor key : Value} {notices : List Notice} {name : String}

theorem get_string : r.get (.string name) = .ok (r.commands.get? name) := rfl

/-- What stands under each name was added last, and not removed. The names are in the order in which they came to stay;
going over the commands and counting them agrees with the names. -/
structure Shows (r : Repository) (past : List Event) : Prop where
  nodup : r.names.Nodup
  get : ∀ name, r.get (.string name) = .ok (Event.standing past name)
  keyed : ∀ entry ∈ r.commands, entry.2.name = entry.1
  names : r.names = Event.arrivals past
  values : r.commands.values.map some = r.names.map (Event.standing past)
  length : r.commands.length = r.names.length

theorem shows_of_table (hn : r.names.Nodup) (hget : ∀ name, r.commands.get? name = Event.standing past name)
    (hkeyed : ∀ entry ∈ r.commands, entry.2.name = entry.1) (hnames : r.names = Event.arrivals past) :
    r.Shows past where
  nodup := hn
  get := fun name => get_string.trans (congrArg _ (hget name))
  keyed := hkeyed
  names := hnames
  values := (Table.map_some_values hn).trans (List.map_congr_left fun name _ => hget name)
  length := (List.length_map _).symm

theorem Shows.get? (h : r.Shows past) (name : String) : r.commands.get? name = Event.standing past name :=
  Except.ok.inj (get_string.symm.trans (h.get name))

theorem Shows.name_of_get? (h : r.Shows past) (hget : r.commands.get? name = some command) : command.name = name :=
  h.keyed _ (Table.mem_of_get? hget)

theorem Shows.insert (h : r.Shows past) (presentation : Presentation) (command : Command) :
    (r.insert command).Shows (past ++ [.added presentation command]) := by
  refine shows_of_table (Table.nodup_names_put h.nodup) (fun name => ?_) (fun entry hentry => ?_) ?_
  · rw [Repository.insert, Table.get?_put, Event.standing_append, h.get?]
    simp only [Event.name, eq_comm]
    rfl
  · rcases Table.mem_of_mem_put hentry with rfl | hentry
    · rfl
    · exact h.keyed entry hentry
  · have hmem : command.name ∈ r.commands.names ↔ (Event.standing past command.name).isSome = true := by
      rw [Table.mem_names_iff, h.get?]
    have hnames : r.commands.names = Event.arrivals past := h.names
    rw [Repository.names, Repository.insert, Table.names_put, Event.arrivals_added, ← hnames]
    simp only [hmem]

theorem Shows.erase (h : r.Shows past) (name : String) :
    Shows ⟨r.commands.erase name⟩ (past ++ [.removed name]) := by
  refine shows_of_table (Table.nodup_names_erase h.nodup) (fun other => ?_) (fun entry hentry => ?_) ?_
  · rw [Table.get?_erase, Event.standing_append, h.get?]
    simp only [Event.name, eq_comm]
    rfl
  · exact h.keyed entry (List.mem_of_mem_filter hentry)
  · have hnames : r.commands.names = Event.arrivals past := h.names
    rw [Repository.names, Table.names_erase, Event.arrivals_removed, hnames]

theorem noText_redefined (presentation : Presentation) (command previous : Command) :
    NoText (redefined presentation command previous) previous.Overlong :=
  (Signature.noText_usage previous).bind_pure

theorem surface_redefined {f : Fault} {previous : Command} (h : redefined presentation command previous = .ok f)
    (host : Host) : ∃ notice, f.surface host = .ok notice := by
  obtain ⟨usage, _, h⟩ := Checked.bind_eq_ok.1 h
  cases h
  rw [Fault.surface]
  split
  · exact ⟨_, rfl⟩
  · exact ⟨_, rfl⟩

/-- The command replaces one whose usage is too long. -/
def Silences (r : Repository) (command : Command) : Prop :=
  ∃ previous, r.commands.get? command.name = some previous ∧ previous.Overlong

/-- The host is told of what is replaced, if it can be told at all. -/
theorem noticesFor_cases (host : Host) (presentation : Presentation) (r : Repository) (command : Command) :
    (r.Silences command ∧ warning presentation command (r.commands.get? command.name) = none ∧
      r.noticesFor host presentation command = .error (.misuse .tooManyDigits)) ∨
    (¬r.Silences command ∧ ∃ notices, r.noticesFor host presentation command = .ok notices ∧
      notices.map Except.ok =
        (warning presentation command (r.commands.get? command.name)).toList.map (Fault.surface host)) := by
  cases hget : r.commands.get? command.name with
  | none =>
      have hsilent : ¬r.Silences command := by
        rintro ⟨_, hprevious, _⟩
        cases hget.symm.trans hprevious
      exact .inr ⟨hsilent, [], by rw [noticesFor, hget], rfl⟩
  | some previous =>
      have hwarning : warning presentation command (some previous) =
          (redefined presentation command previous).toOption := rfl
      have hnoticesFor : r.noticesFor host presentation command =
          (do return [← (← redefined presentation command previous).surface host]) := by rw [noticesFor, hget]
      by_cases hlong : previous.Overlong
      · have hf := (noText_redefined presentation command previous).error hlong
        rw [hwarning, hnoticesFor, hf]
        exact .inl ⟨⟨previous, hget, hlong⟩, rfl, rfl⟩
      · have hsilent : ¬r.Silences command := by
          rintro ⟨_, hprevious, h⟩
          cases hget.symm.trans hprevious
          exact hlong h
        obtain ⟨f, hf⟩ := (noText_redefined presentation command previous).exists_ok hlong
        obtain ⟨notice, hnotice⟩ := surface_redefined hf host
        rw [hwarning, hnoticesFor, hf]
        refine .inr ⟨hsilent, [notice], ?_, congrArg (fun x => [x]) hnotice.symm⟩
        change (do return [← f.surface host]) = _
        rw [hnotice]
        rfl

theorem add_of_commandFrom (h : commandFrom scheme executor = .ok command) :
    r.add host presentation scheme executor =
      (r.insert command, do return (command, ← r.noticesFor host presentation command)) := by
  rw [add, h]

theorem add_of_error {e : Failure Fault} (h : commandFrom scheme executor = .error e) :
    r.add host presentation scheme executor = (r, .error e) := by
  rw [add, h]

theorem add_eq_ok : (∃ notices, (r.add host presentation scheme executor).2 = .ok (command, notices)) ↔
    commandFrom scheme executor = .ok command ∧ ¬r.Silences command := by
  cases hc : commandFrom scheme executor with
  | error e => simp [add_of_error hc]
  | ok c =>
      rw [add_of_commandFrom hc, Except.ok.injEq]
      rcases noticesFor_cases host presentation r c with ⟨hs, _, hnotices⟩ | ⟨hs, notices, hnotices, _⟩
      · rw [hnotices]
        refine iff_of_false (fun h => nomatch h.choose_spec) ?_
        rintro ⟨rfl, h⟩
        exact h hs
      · rw [hnotices]
        constructor
        · rintro ⟨_, h⟩
          cases h
          exact ⟨rfl, hs⟩
        · rintro ⟨rfl, _⟩
          exact ⟨notices, rfl⟩

theorem told_add (host : Host) (presentation : Presentation) (r : Repository)
    (h : commandFrom scheme executor = .ok command) :
    (told (r.add host presentation scheme executor).2).map Except.ok =
      (warning presentation command (r.commands.get? command.name)).toList.map (Fault.surface host) := by
  rw [add_of_commandFrom h]
  rcases noticesFor_cases host presentation r command with ⟨_, hwarning, hnotices⟩ | ⟨_, notices, hnotices, htold⟩
  · rw [hnotices, hwarning]
    rfl
  · rw [hnotices, ← htold]
    rfl

/-- What there is after an addition that succeeds. -/
theorem of_add (h : r.add host presentation scheme executor = (r', .ok (command, notices))) :
    commandFrom scheme executor = .ok command ∧ r' = r.insert command ∧
      notices.map Except.ok =
        (warning presentation command (r.commands.get? command.name)).toList.map (Fault.surface host) := by
  obtain ⟨hc, _⟩ := add_eq_ok.1 ⟨notices, congrArg Prod.snd h⟩
  have htold := told_add host presentation r hc
  rw [h] at htold
  rw [add_of_commandFrom hc] at h
  exact ⟨hc, (congrArg Prod.fst h).symm, htold⟩

theorem addAll_cons_eq_ok {item : Value} {items : List Value}
    (h : r.addAll host (item :: items) = (notices, .ok r')) :
    ∃ r₁ command first more, r.add host {} item .none = (r₁, .ok (command, first)) ∧
      r₁.addAll host items = (more, .ok r') ∧ notices = first ++ more := by
  rw [addAll] at h
  split at h
  · cases h
  · next r₁ command first hadd =>
      rcases hrest : r₁.addAll host items with ⟨more, outcome⟩
      rw [hrest] at h
      cases h
      exact ⟨r₁, command, first, more, hadd, hrest, rfl⟩

theorem remove_string (r : Repository) (name : String) : r.remove (.string name) =
    match r.commands.get? name with
    | some command => .ok (command, ⟨r.commands.erase command.name⟩)
    | none => .error (.missingKey (Value.string name).reported) := by
  rw [remove]
  split
  · next hempty =>
      rw [List.isEmpty_iff.1 hempty]
      rfl
  · rw [get_string]
    cases r.commands.get? name <;> rfl

theorem string_of_get (h : r.get key = .ok (some command)) :
    ∃ name, key = .string name ∧ r.commands.get? name = some command := by
  obtain ⟨v, hkey, h⟩ := Checked.bind_eq_ok.1 h
  obtain rfl : key = v := by
    rw [Value.asKey] at hkey
    split at hkey
    · cases hkey
    · exact Except.ok.inj hkey
  cases key with
  | string name => exact ⟨name, rfl, Except.ok.inj h⟩
  | _ => cases h

theorem get_of_remove (h : r.remove key = .ok (command, r')) :
    ∃ name, key = .string name ∧ r.commands.get? name = some command ∧ r' = ⟨r.commands.erase command.name⟩ := by
  rw [remove] at h
  split at h
  · cases h
  · obtain ⟨found, hfound, h⟩ := Checked.bind_eq_ok.1 h
    cases found with
    | none => cases h
    | some found =>
        cases h
        obtain ⟨name, hname, hget⟩ := string_of_get hfound
        exact ⟨name, hname, hget, rfl⟩

theorem Shows.removals_of_error {m : Misuse} (h : r.Shows past) (hr : r.remove key = .error m) :
    Event.removals past key = [] := by
  cases key with
  | string name =>
      have hget : r.commands.get? name = none := by
        rw [remove_string] at hr
        cases hget : r.commands.get? name with
        | none => rfl
        | some command =>
            rw [hget] at hr
            cases hr
      rw [Event.removals, ← h.get?, hget]
      rfl
  | _ => rfl

inductive Change where
  | add (presentation : Presentation) (scheme executor : Value)
  | remove (key : Value)
  | snapshot

end Repository

/-- A repository, what the host has been told and the tables that it has kept; with all that was added and removed since
the beginning, and all that had been when each table was kept. -/
structure History where
  repository : Repository
  notices : List Notice := []
  kept : List Repository := []
  past : List Event := []
  moments : List (List Event) := []

namespace History

variable {host : Host} {s : History} {command : Command} {told : List Notice} {r : Repository}

/-- What happens is told by what was there, and not by whether the repository takes part in it. -/
def step (host : Host) (s : History) : Repository.Change → History
  | .add presentation scheme executor =>
      let (repository, outcome) := s.repository.add host presentation scheme executor
      { s with
        repository
        notices := s.notices ++ Repository.told outcome
        past := s.past ++ Event.additions presentation scheme executor }
  | .remove key =>
      { s with
        repository := (s.repository.remove key).toOption.elim s.repository Prod.snd
        past := s.past ++ Event.removals s.past key }
  | .snapshot => { s with kept := s.kept ++ [s.repository], moments := s.moments ++ [s.past] }

def run (host : Host) (s : History) (changes : List Repository.Change) : History := changes.foldl (step host) s

structure Refines (host : Host) (s : History) : Prop where
  shows : s.repository.Shows s.past
  kept : List.Forall₂ Repository.Shows s.kept s.moments
  told : s.notices.map Except.ok = (Event.replacements s.past).map (Fault.surface host)

theorem Refines.added (h : s.Refines host) (presentation : Presentation)
    (htold : told.map Except.ok =
      (Repository.warning presentation command (s.repository.commands.get? command.name)).toList.map
        (Fault.surface host)) :
    Refines host
      { s with
        repository := s.repository.insert command
        notices := s.notices ++ told
        past := s.past ++ [.added presentation command] } where
  shows := h.shows.insert presentation command
  kept := h.kept
  told := by rw [List.map_append, h.told, htold, h.shows.get?, Event.replacements_added, List.map_append]

theorem Refines.step (h : s.Refines host) (change : Repository.Change) : (s.step host change).Refines host := by
  cases change with
  | add presentation scheme executor =>
      rw [History.step]
      cases hc : Repository.commandFrom scheme executor with
      | error e =>
          rw [Repository.add_of_error hc, Event.additions, hc]
          simpa [Repository.told] using h
      | ok command =>
          have htold := Repository.told_add host presentation s.repository hc
          rw [Repository.add_of_commandFrom hc] at htold ⊢
          rw [Event.additions, hc]
          exact h.added presentation htold
  | remove key =>
      rw [History.step]
      cases hr : s.repository.remove key with
      | error m =>
          rw [h.shows.removals_of_error hr]
          simpa [Except.toOption] using h
      | ok removed =>
          obtain ⟨command, r⟩ := removed
          obtain ⟨name, rfl, hget, rfl⟩ := Repository.get_of_remove hr
          -- The command is erased under its own name, which is the key that was asked for.
          have hstanding : (Event.standing s.past name).isSome := by rw [← h.shows.get?, hget]; rfl
          rw [h.shows.name_of_get? hget, Event.removals, if_pos hstanding]
          exact ⟨h.shows.erase name, h.kept, h.told.trans (congrArg _ Event.replacements_removed.symm)⟩
  | snapshot =>
      exact ⟨h.shows, List.rel_append h.kept (.cons h.shows .nil), h.told⟩

theorem Refines.run (h : s.Refines host) (changes : List Repository.Change) : (s.run host changes).Refines host := by
  induction changes generalizing s with
  | nil => exact h
  | cons change changes ih => exact ih (h.step change)

/-- An addition succeeds where there is a command and the host can be told, and a removal where a command stands under
the name, which it returns. -/
structure Answers (host : Host) (s : History) : Prop where
  adds : ∀ presentation scheme executor command,
    (∃ notices, (s.repository.add host presentation scheme executor).2 = .ok (command, notices)) ↔
      Repository.commandFrom scheme executor = .ok command ∧
        ∀ previous, Event.standing s.past command.name = some previous → ¬previous.Overlong
  removes : ∀ name command, (∃ r, s.repository.remove (.string name) = .ok (command, r)) ↔
    Event.standing s.past name = some command

theorem Refines.answers (h : s.Refines host) : s.Answers host where
  adds presentation scheme executor command := by
    rw [Repository.add_eq_ok, Repository.Silences, h.shows.get?]
    simp only [not_exists, not_and]
  removes name command := by
    rw [Repository.remove_string, h.shows.get?]
    cases Event.standing s.past name <;> simp

/-- A repository is built by additions, of which the host is told in the same way. -/
theorem Refines.addAll {items : List Value} (h : s.Refines host)
    (hadd : s.repository.addAll host items = (told, .ok r)) :
    ∃ built, List.Forall₂ (fun item command => Repository.commandFrom item .none = .ok command) items built ∧
      Refines host
        { s with
          repository := r
          notices := s.notices ++ told
          past := s.past ++ built.map (Event.added {}) } := by
  induction items generalizing s told with
  | nil =>
      cases hadd
      refine ⟨[], .nil, ?_⟩
      simpa using h
  | cons item items ih =>
      obtain ⟨_, command, first, more, hfirst, hrest, rfl⟩ := Repository.addAll_cons_eq_ok hadd
      obtain ⟨hc, rfl, htold⟩ := Repository.of_add hfirst
      have hrefines : Refines host _ := h.added {} htold
      obtain ⟨built, hbuilt, hrefines⟩ := ih hrefines hrest
      refine ⟨command :: built, .cons hc hbuilt, ?_⟩
      simpa using hrefines

end History

end Prompter
