import Mathlib.Data.List.Nodup
import Prompter.Proofs.Interpreter.Failures
import Prompter.Proofs.Prompt.Checks
import Prompter.Proofs.Scheme.Declarations
import Prompter.Proofs.Table

namespace Prompter

variable {a : Argument} {i : Interpreter} {sets : String → Option (List String)} {ms : List String} {name text : String}

namespace Slot

/-- A string is a member of the set, or a fault; where there is no set, it is always a fault. -/
def Decides (scope : Scope) (a : Argument) (set : Option (List String)) : Prop :=
  ∀ s, a.accepts scope (.string s) = match set with
    | none => Checked.fault (.unknownEnumeration a)
    | some ms => if s ∈ ms then .ok true else Checked.fault (.noChoice a s ms)

/-- The description of the slot lists these members, in order. -/
def Lists (a : Argument) (ms : List String) : Prop :=
  ∃ entries : Value.Entries, a.description = .map entries ∧
    entries.get? (.string "enumeration") = some (.list (ms.map .string))

variable {scope : Scope}

theorem decides_none (hk : a.kind = .choice) (h : a.members scope = Checked.fault (.unknownEnumeration a)) :
    a.Decides scope none := by
  intro s
  rw [accepts_string hk, h]
  rfl

theorem decides_some (hk : a.kind = .choice) (h : a.members scope = .ok (Choices.write ms)) (hne : ms ≠ [])
    (hbar : ∀ m ∈ ms, '|' ∉ m.toList) : a.Decides scope (some ms) := by
  intro s
  have hstep : a.accepts scope (.string s) =
      if Choices.holds (Choices.write ms) s then .ok true
      else Checked.fault (.noChoice a s (Choices.members (Choices.write ms))) := by
    rw [accepts_string hk, h]
    rfl
  rw [hstep, Choices.members_write hne hbar]
  exact if_congr (Choices.holds_write_iff hne hbar) rfl rfl

theorem named_of_inline (h : a.choices = Choices.write ms) : a.named = false := by simp [named, h, Choices.head_write]

theorem decides_of_written (hk : a.kind = .choice) (hchoices : a.choices = Choices.write ms) (h : Choices.Written ms) :
    a.Decides scope (some ms) := by
  refine decides_some hk ?_ h.ne_nil h.no_bar
  rw [members, named_of_inline hchoices, hchoices]
  rfl

theorem decides_of_inline (h : Scheme.Inline text a ms) : a.Decides scope (some ms) :=
  decides_of_written h.choices.1 h.choices.2 h.1

theorem decides_of_stored (hk : a.kind = .choice) (hn : a.named = true)
    (hstored : scope.enumerations a.choices = some (Choices.write ms)) (hne : ms ≠ [])
    (hbar : ∀ m ∈ ms, '|' ∉ m.toList) : a.Decides scope (some ms) := by
  refine decides_some hk ?_ hne hbar
  rw [members, if_pos hn, hstored]

theorem lists_of_inline (h : Scheme.Inline text a ms) : a.Lists ms := by
  obtain ⟨hk, hchoices⟩ := h.choices
  have hvalue : a.choicesValue = .list (ms.map .string) := by
    rw [choicesValue, named_of_inline hchoices, hchoices, Choices.members_write h.1.ne_nil h.1.no_bar]
    simp [hk]
  let fields : Table Value := [
    ("name", .string a.name), ("type", .string a.kind.keyword), ("optional", .boolean a.optional),
    ("default", a.default), ("origin", Origin.asValue a.origin), ("enumeration", a.choicesValue)]
  refine ⟨fields.map fun e => (.string e.1, e.2), rfl, ?_⟩
  have hlast : fields.get? "enumeration" = some a.choicesValue := by simp [fields, Table.get?_cons]
  rw [Value.Entries.get?_map, ← hvalue]
  exact hlast

theorem decides_of_refers (hi : i.Registers sets) (h : Scheme.Refers text a name) :
    a.Decides i.scope (sets name) := by
  obtain ⟨hk, rfl⟩ := h.choices
  have hnamed : a.named = true := h.1.head
  have hstored : i.scope.enumerations a.choices = (sets a.choices).map Choices.write := hi.get?_eq
  cases hs : sets a.choices with
  | none =>
      rw [hs] at hstored
      refine decides_none hk ?_
      rw [members, if_pos hnamed, hstored]
      rfl
  | some ms =>
      rw [hs] at hstored
      obtain ⟨hne, hbar⟩ := hi.no_bar hs
      exact decides_of_stored hk hnamed hstored hne hbar

end Slot

namespace Interpreter

/-- The view of the enumerations has one entry for each set, with its members in order, and no others. -/
def Shows (i : Interpreter) (sets : String → Option (List String)) : Prop :=
  ∃ entries : Value.Entries, i.enumerationView = .view entries ∧ (entries.map (·.1)).Nodup ∧
    ∀ key, entries.get? key = match key with
      | .string name => (sets name).map fun ms => .tuple (ms.map .string)
      | _ => none

theorem Registers.shows (h : i.Registers sets) : i.Shows sets := by
  let shown (stored : String) : Value := .tuple ((Choices.members stored).map .string)
  refine ⟨(i.enumerations.map fun e => (e.1, shown e.2)).map fun e => (.string e.1, e.2), ?_, ?_, fun key => ?_⟩
  · rw [List.map_map]
    rfl
  · have hkeys : ((i.enumerations.map fun e => (e.1, shown e.2)).map fun e => ((.string e.1, e.2) : Value × Value)).map
        (·.1) = i.enumerations.names.map .string := by
      simp only [List.map_map, Table.names]
      rfl
    rw [hkeys]
    exact List.Nodup.map (fun s t hst => Value.string.inj hst) h.nodup_names
  · rw [Value.Entries.get?_map]
    cases key with
    | string name =>
        change Table.get? (i.enumerations.map fun e => (e.1, shown e.2)) name = (sets name).map _
        rw [Table.get?_map, h.get?_eq, Option.map_map]
        cases hs : sets name with
        | none => rfl
        | some ms =>
            obtain ⟨hne, hbar⟩ := h.no_bar hs
            simp [shown, Choices.members_write hne hbar]
    | _ => rfl

end Interpreter

structure Signature.Describes (c : Command) (d : Description) : Prop where
  name : d.name = c.name
  usage : c.usage = .ok d.usage
  positional : d.positional = c.positional.map Slot.description
  keyword : d.keyword = c.keyword.map fun a => (a.name, a.description)

theorem Signature.exists_description {c : Command} (h : ¬c.Overlong) : ∃ d, c.description = .ok d ∧ c.Describes d := by
  obtain ⟨usage, husage⟩ := (noText_usage c).exists_ok h
  exact ⟨_, by rw [description, husage]; rfl, rfl, husage, rfl, rfl⟩

namespace Session

variable {w : Workspace} {n : Nat} {r : Repository} {c : Command} {d : Description}

theorem describe_of_holds (hw : w.Holds n i r) (hget : r.commands.get? name = some c) (hd : c.description = .ok d) :
    describe n (.string name) w = .ok (some d) w := by
  have hlookup : lookup n (.string name) w = .ok (some c) w := by
    rw [lookup, interpreter_bind hw.1, repositoryOf_bind hw, ← hget]
    rfl
  rw [describe, bind_of_ok hlookup]
  dsimp only
  rw [hd]
  rfl

end Session

namespace Registry

open Scheme

variable {draft : Interpreter.Draft} {w w' : Workspace} {n : Nat} {source : Source} {executor : Value}
  {command : Command}

/-- After any run of registrations, failed ones among them: the view shows the sets that have been accepted, and a slot
of choices has members between brackets, which decide and are listed, or a name, whose accepted set decides. Wherever
the command stands, it is described with all its slots. -/
theorem decides_of_run (hw : Session.create draft w = .ok n w') (hc : compile source executor = .ok command)
    (calls : List (Value × Value)) :
    ∃ i, ((ofDraft draft w').run n calls).workspace.interpreters[n]? = some i ∧
      i.Shows ((ofDraft draft w').run n calls).sets ∧
      (∀ a ∈ command.positional ++ command.keyword,
        (a.kind = .choice → (∃ ms, Inline source.text a ms) ∨ ∃ name, Refers source.text a name) ∧
        (∀ ms, Inline source.text a ms → a.Decides i.scope (some ms) ∧ a.Lists ms) ∧
        ∀ name, Refers source.text a name → a.Decides i.scope (((ofDraft draft w').run n calls).sets name)) ∧
      ∀ u k j r, Workspace.Holds u k j r → r.commands.get? command.name = some command →
        ∃ d, Session.describe k (.string command.name) u = .ok (some d) u ∧ command.Describes d := by
  obtain ⟨i, hi, hsets⟩ := (sound_ofDraft hw).run calls
  refine ⟨i, hi, hsets.shows, fun a ha => ⟨inline_or_refers_of_compile hc ha, fun ms hms => ?_, fun name hname => ?_⟩,
    fun u k j r hu hget => ?_⟩
  · exact ⟨Slot.decides_of_inline hms, Slot.lists_of_inline hms⟩
  · exact Slot.decides_of_refers hsets hname
  · obtain ⟨d, hd, hdescribes⟩ := Signature.exists_description (not_overlong_of_compile hc)
    exact ⟨d, Session.describe_of_holds hu hget hd, hdescribes⟩

/-- A set that comes with the draft, one that takes its place, and one that is refused for a bar in a member. -/
theorem decides_of_run_paint :
    ∃ (draft : Interpreter.Draft) (w : Workspace) (calls : List (Value × Value)) (i : Interpreter)
      (what how : Argument) (u : Workspace) (d : Description),
      draft.enumerations = [(.string "shape", .tuple [.string "dot"])] ∧
      calls = [(.string "shape", .list [.string "box", .string "disc"]), (.string "shape", .list [.string "a|b"])] ∧
      Session.create draft {} = .ok 0 w ∧
      compile ⟨"'paint' 'what':$shape \x7b'how':[thin|thick]='thin'\x7d", "<scheme>"⟩ .none =
        .ok ⟨"paint", [what], [how], .none⟩ ∧
      ((ofDraft draft w).run 0 calls).workspace.interpreters[0]? = some i ∧
      what.Decides i.scope (some ["box", "disc"]) ∧ how.Decides i.scope (some ["thin", "thick"]) ∧
      how.Lists ["thin", "thick"] ∧ Session.describe 0 (.string "paint") u = .ok (some d) u ∧
      d.positional = [what.description] ∧ d.keyword = [("how", how.description)] := by
  let draft : Interpreter.Draft := { enumerations := [(.string "shape", .tuple [.string "dot"])] }
  let first : Interpreter := { repository := 0, enumerations := [("shape", "|dot|")] }
  let w : Workspace := { repositories := [{}], interpreters := [first] }
  let calls : List (Value × Value) :=
    [(.string "shape", .list [.string "box", .string "disc"]), (.string "shape", .list [.string "a|b"])]
  let what : Argument := ⟨"what", .choice, false, .none, none, "shape"⟩
  let how : Argument := ⟨"how", .choice, true, .string "thin", none, "|thin|thick|"⟩
  have hw : Session.create draft {} = .ok 0 w := by with_unfolding_all rfl
  have hc : compile ⟨"'paint' 'what':$shape \x7b'how':[thin|thick]='thin'\x7d", "<scheme>"⟩ .none =
      .ok ⟨"paint", [what], [how], .none⟩ := by
    with_unfolding_all rfl
  have hset : ((ofDraft draft w).run 0 calls).sets "shape" = some ["box", "disc"] := by with_unfolding_all rfl
  let u : Workspace := { repositories := [⟨[("paint", ⟨"paint", [what], [how], .none⟩)]⟩], interpreters := [first] }
  obtain ⟨i, hi, _, hslots, hdescribe⟩ := decides_of_run hw hc calls
  obtain ⟨d, hd, hdescribes⟩ := hdescribe u 0 first _ ⟨rfl, rfl⟩ rfl
  obtain ⟨hwhat, _, hrefers⟩ := hslots what (by simp)
  obtain ⟨hhow, hinline, _⟩ := hslots how (by simp)
  have hshape : what.Decides i.scope (some ["box", "disc"]) := by
    rcases hwhat rfl with ⟨ms, hms⟩ | ⟨name, hname⟩
    · have hhead := Choices.head_write ms
      rw [← hms.choices.2] at hhead
      exact absurd hhead (by decide)
    · obtain rfl : "shape" = name := hname.choices.2
      rw [← hset]
      exact hrefers _ hname
  have hthin : how.Decides i.scope (some ["thin", "thick"]) ∧ how.Lists ["thin", "thick"] := by
    rcases hhow rfl with ⟨ms, hms⟩ | ⟨name, hname⟩
    · have hmembers := Choices.members_write hms.1.ne_nil hms.1.no_bar
      rw [← hms.choices.2] at hmembers
      have hwritten : Choices.members how.choices = ["thin", "thick"] := by decide
      obtain rfl := hwritten.symm.trans hmembers
      exact hinline _ hms
    · have hhead := hname.1.head
      rw [← hname.choices.2] at hhead
      exact absurd hhead (by decide)
  exact ⟨draft, w, calls, i, what, how, u, d, rfl, rfl, hw, hc, hi, hshape, hthin.1, hthin.2, hd, hdescribes.positional,
    hdescribes.keyword⟩

end Registry

end Prompter
