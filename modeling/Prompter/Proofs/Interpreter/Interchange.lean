import Prompter.Proofs.Interpreter.Membership
import Prompter.Proofs.Prompt.Overflow
import Prompter.Proofs.Scheme.Heads

namespace Prompter

open Text Checked

variable {ms : List String} {name : String}

namespace Enumeration

theorem isMember_iff {m : String} : isMember m = true ↔ m ≠ "" ∧ ∀ c ∈ m.toList, c ≠ '|' ∧ isBlank c = false := by
  simp [isMember]

/-- Unless a bracket closes them early, a scheme can write the members that a host may register. -/
theorem written_iff (hbracket : ∀ m ∈ ms, ']' ∉ m.toList) :
    Choices.Written ms ↔ ms ≠ [] ∧ ∀ m ∈ ms, isMember m = true := by
  constructor
  · intro h
    refine ⟨h.ne_nil, fun m hm => isMember_iff.2 ⟨h.ne_empty m hm, fun c hc => ?_⟩⟩
    obtain ⟨hbar, _, hblank⟩ := h.plain m hm c hc
    exact ⟨hbar, hblank⟩
  · rintro ⟨hne, hmem⟩
    refine ⟨hne, fun m hm => (isMember_iff.1 (hmem m hm)).1, fun m hm c hc => ?_⟩
    obtain ⟨hbar, hblank⟩ := (isMember_iff.1 (hmem m hm)).2 c hc
    have hclose : c ≠ ']' := fun h => hbracket m hm (h ▸ hc)
    exact ⟨hbar, hclose, hblank⟩

theorem make_of_isMember (hname : name ≠ "") (hne : ms ≠ []) (hmem : ∀ m ∈ ms, isMember m = true) :
    make (.string name) (.list (ms.map .string)) = .ok (name, Choices.write ms) := by
  have hnamed : nameFrom (.string name) = .ok name := by rw [nameFrom, if_neg (by simpa using hname)]
  have hmembers : (ms.map Value.string).mapM (memberFrom name) = .ok ms := mapM_memberFrom_eq_ok.2 ⟨rfl, hmem⟩
  refine bind_eq_ok.2 ⟨name, hnamed, bind_eq_ok.2 ⟨ms.map .string, rfl, ?_⟩⟩
  rw [if_neg (by simpa using hne)]
  exact bind_eq_ok.2 ⟨ms, hmembers, rfl⟩

end Enumeration

namespace Slot

variable {scope : Scope} {a b : Argument} {v : Value}

/-- What two slots with these members make of a value: they both take it, or pass over it, or find the same fault with
it, each in its own name. -/
inductive SameOutcome (a b : Argument) (ms : List String) : Value → Checked Bool → Checked Bool → Prop
  | accepted (v : Value) : SameOutcome a b ms v (.ok true) (.ok true)
  | skipped (v : Value) : SameOutcome a b ms v (.ok false) (.ok false)
  | wrongKind (v : Value) (kindName : String) :
      SameOutcome a b ms v (fault (.valueKind a v kindName)) (fault (.valueKind b v kindName))
  | noMember (s : String) : SameOutcome a b ms (.string s) (fault (.noChoice a s ms)) (fault (.noChoice b s ms))

theorem sameOutcome_of_decides (hka : a.kind = .choice) (hkb : b.kind = .choice) (ho : a.optional = b.optional)
    (ha : a.Decides scope (some ms)) (hb : b.Decides scope (some ms)) (hv : v.IsDynamic) :
    SameOutcome a b ms v (a.accepts scope v) (b.accepts scope v) := by
  cases hs : v.isString with
  | true =>
      obtain ⟨s, rfl⟩ : ∃ s, v = .string s := by cases v <;> simp_all [Value.isString]
      rw [ha s, hb s]
      by_cases hmem : s ∈ ms
      · simp only [if_pos hmem]
        exact .accepted _
      · simp only [if_neg hmem]
        exact .noMember s
  | false =>
      -- Nothing but a string is a choice, whatever the members are.
      have htakes : Kind.choice.takes v = false := hs
      rw [accepts_of_kind (.inr hs), accepts_of_kind (.inr hs), hka, hkb, ho, htakes]
      cases b.optional with
      | true => exact .skipped v
      | false =>
          obtain ⟨kindName, hkind⟩ := Option.isSome_iff_exists.1 hv.kindName?_isSome
          rw [mismatch_of_kindName hkind, mismatch_of_kindName hkind]
          exact .wrongKind v kindName

end Slot

namespace Interpreter

variable {i i' : Interpreter}

/-- A host may register the members that are one or more, and none of them empty, with a bar or with a blank in it. -/
theorem exists_enumerate_iff (hname : name ≠ "") :
    (∃ i', i.enumerate (.string name) (.list (ms.map .string)) = .ok i') ↔
      ms ≠ [] ∧ ∀ m ∈ ms, Enumeration.isMember m = true := by
  constructor
  · rintro ⟨i', h⟩
    exact (enumerations_of_enumerate rfl h).2
  · rintro ⟨hne, hmem⟩
    exact ⟨_, bind_eq_ok.2 ⟨_, Enumeration.make_of_isMember hname hne hmem, rfl⟩⟩

theorem stored_of_enumerate (h : i.enumerate (.string name) (.list (ms.map .string)) = .ok i') :
    i'.scope.enumerations name = some (Choices.write ms) := by
  change i'.enumerations.get? name = _
  rw [(enumerations_of_enumerate rfl h).1, Table.get?_put, if_pos rfl]

end Interpreter

namespace Scheme

open Reader

variable {i : Interpreter} {label label' before before' : List Char} {x : String} {taken taken' : List String}
  {default : Option Literal} {c c' : Cursor}

/-- Members between brackets and members under a name are interchangeable. An argument with the members in its scheme is
read exactly when a host may register them; then an argument that refers to them is read as well, what it finds is the
text that the former keeps, and the two slots make the same of all values. -/
theorem interchangeable (hl : LabelWritten x label) (hl' : LabelWritten x label') (hx : x ≠ "") (ht : x ∉ taken)
    (ht' : x ∉ taken') (hms : ∀ m ∈ ms, ']' ∉ m.toList ∧ '|' ∉ m.toList) (hname : Choices.Reference name)
    (hb : BeforeChoices before) (hb' : BeforeChoices before')
    (hdefault : ∀ l, default = some l → l = .none ∨ ∃ m ∈ ms, l = .string m)
    (hc : Stands (label ++ ':' :: (before ++ membersText ms)) (defaultOnly default) c)
    (hc' : Stands (label' ++ ':' :: (before' ++ referenceText name)) (defaultOnly default) c') :
    ((∃ a d, readArgument taken c = .ok a d) ↔
      ∃ i', i.enumerate (.string name) (.list (ms.map .string)) = .ok i') ∧
    ∀ i', i.enumerate (.string name) (.list (ms.map .string)) = .ok i' →
      ∃ a d b d', readArgument taken c = .ok a d ∧ readArgument taken' c' = .ok b d' ∧
        a.optional = default.isSome ∧ b.optional = default.isSome ∧
        i'.scope.enumerations name = some a.choices ∧
        ∀ v : Value, v.IsDynamic → Slot.SameOutcome a b ms v (a.accepts i'.scope v) (b.accepts i'.scope v) := by
  have hbracket : ∀ m ∈ ms, ']' ∉ m.toList := fun m hm => (hms m hm).1
  have hbar : ∀ m ∈ ms, '|' ∉ m.toList := fun m hm => (hms m hm).2
  have hread : (∃ a d, readArgument taken c = .ok a d) ↔ Choices.Written ms := by
    rw [exists_readArgument_members_iff hl hb hbracket hbar hc]
    exact ⟨fun h => h.1, fun h => ⟨h, ⟨ht, hx⟩, rfl, hdefault⟩⟩
  have hregister : (∃ i', i.enumerate (.string name) (.list (ms.map .string)) = .ok i') ↔ Choices.Written ms := by
    rw [Interpreter.exists_enumerate_iff hname.ne_empty, Enumeration.written_iff hbracket]
  refine ⟨hread.trans hregister.symm, fun i' hi => ?_⟩
  have hwritten := hregister.1 ⟨i', hi⟩
  have hhead := headWritten_members hl hb hwritten
  have hhead' := headWritten_reference hl' hb' hname
  obtain ⟨a, d, ha⟩ := hread.2 hwritten
  obtain ⟨b, d', hb⟩ : ∃ b d', readArgument taken' c' = .ok b d' := by
    refine (exists_readArgument_iff hhead' hc').2 ⟨⟨ht', hx⟩, nofun, fun l hl => (fits_reference_iff hname.head).2 ?_⟩
    exact (hdefault l hl).imp id fun ⟨m, _, hm⟩ => ⟨m, hm⟩
  obtain ⟨_, hka, hchoices, hoa⟩ := parts_of_stands hhead hc ha
  obtain ⟨_, hkb, hreference, hob⟩ := parts_of_stands hhead' hc' hb
  have hstored := Interpreter.stored_of_enumerate hi
  have hdecides : a.Decides i'.scope (some ms) := Slot.decides_of_written hka hchoices hwritten
  have hdecides' : b.Decides i'.scope (some ms) := by
    subst hreference
    exact Slot.decides_of_stored hkb hname.head hstored hwritten.ne_nil hbar
  refine ⟨a, d, b, d', ha, hb, hoa, hob, by rw [hstored, hchoices], fun v hv => ?_⟩
  exact Slot.sameOutcome_of_decides hka hkb (hoa.trans hob.symm) hdecides hdecides' hv

/-- Two shapes in either way with the same default, and a member that is missing. -/
theorem interchangeable_shape :
    (∃ a d b d' i', readArgument [] (.start "x:[box|disc]='box'") = .ok a d ∧
      readArgument [] (.start "'x': enum $shape ='box'") = .ok b d' ∧
      Interpreter.enumerate { repository := 0 } (.string "shape") (.list [.string "box", .string "disc"]) = .ok i' ∧
      a.optional = true ∧ i'.scope.enumerations "shape" = some a.choices ∧
      Slot.SameOutcome a b ["box", "disc"] (.string "lamp") (a.accepts i'.scope (.string "lamp"))
        (b.accepts i'.scope (.string "lamp"))) ∧
    ¬∃ a d, readArgument [] (.start "x:[box|]") = .ok a d := by
  have hbare : LabelWritten "x" ['x'] := labelWritten_bare .nothing (by decide +kernel) nofun
  have hquoted : LabelWritten "x" "'x'".toList := labelWritten_quoted .nothing .single "x"
  have hbox : (Literal.string "box").Written "'box'".toList :=
    Literal.written_constant (l := .string "box") (.string _) .single
  have hname : Choices.Reference "shape" := by
    have hall : "shape".toList.all (fun y => isNamePart y && y != '$') = true := by decide +kernel
    exact ⟨by decide, fun y hy => by simpa using List.all_eq_true.1 hall y hy⟩
  have hword : BeforeChoices " enum ".toList := .word Gap.space.blank Gap.space.blank
  have hinline : Stands "x:[box|disc]".toList (defaultOnly (some (.string "box"))) (.start "x:[box|disc]='box'") :=
    stands_initial .nothing .nothing hbox endsModifiers_nil rfl
  have hrefers : Stands "'x': enum $shape".toList (defaultOnly (some (.string "box")))
      (.start "'x': enum $shape ='box'") :=
    stands_initial .space .nothing hbox endsModifiers_nil rfl
  have hbroken : Stands "x:[box|]".toList (defaultOnly none) (.start "x:[box|]") := stands_nothing endsModifiers_nil rfl
  have hbare' : Stands "'x': enum $shape".toList (defaultOnly none) (.start "'x': enum $shape") :=
    stands_nothing endsModifiers_nil rfl
  have hgap : BeforeChoices [] := .bare isGap_nil
  let i : Interpreter := { repository := 0 }
  obtain ⟨i', hi⟩ : ∃ i', i.enumerate (.string "shape") (.list [.string "box", .string "disc"]) = .ok i' :=
    ⟨_, by with_unfolding_all rfl⟩
  have hrefused : i.enumerate (.string "shape") (.list [.string "box", .string ""]) =
      .error (.enumerationMember "shape" "") := by
    with_unfolding_all rfl
  refine ⟨?_, ?_⟩
  · have hmembers : ∀ m ∈ ["box", "disc"], ']' ∉ m.toList ∧ '|' ∉ m.toList := by decide
    have hdefault : ∀ l, some (Literal.string "box") = some l → l = .none ∨ ∃ m ∈ ["box", "disc"], l = .string m := by
      intro l hl
      obtain rfl := Option.some.inj hl
      exact .inr ⟨"box", by simp, rfl⟩
    obtain ⟨a, d, b, d', ha, hb, ho, _, hstored, hsame⟩ := (interchangeable hbare hquoted (by decide) List.not_mem_nil
      List.not_mem_nil hmembers hname hgap hword hdefault hinline hrefers).2 i' hi
    exact ⟨a, d, b, d', i', ha, hb, hi, ho, hstored, hsame _ (.string "lamp")⟩
  · intro h
    have hmembers : ∀ m ∈ ["box", ""], ']' ∉ m.toList ∧ '|' ∉ m.toList := by decide
    have hdefault : ∀ l, (none : Option Literal) = some l → l = .none ∨ ∃ m ∈ ["box", ""], l = .string m := nofun
    obtain ⟨_, hi'⟩ := (interchangeable hbare hquoted (by decide) List.not_mem_nil List.not_mem_nil hmembers hname hgap
      hword hdefault hbroken hbare').1.1 h
    cases hrefused.symm.trans hi'

end Scheme

end Prompter
