import Prompter.Proofs.Scheme.Argument

namespace Prompter.Scheme

open Text Reader

variable {rest tail text : List Char} {a : Argument} {slots done : List Argument} {layouts : Nat → Slot.Layout}
  {l : Slot.Layout}

theorem head_write : (l.write a ++ rest).head? = some l.name.char := by simp [Slot.Layout.write, Quote.quoted]

theorem write_ne_nil : l.write a ++ rest ≠ [] := by
  intro h
  have hhead : (l.write a ++ rest).head? = some l.name.char := head_write
  rw [h] at hhead
  cases hhead

theorem ne_brace_of_write {c : Char} (h : l.write a ++ rest = c :: text) : c ≠ '\x7b' ∧ c ≠ '\x7d' := by
  have hhead : (l.write a ++ rest).head? = some l.name.char := head_write
  rw [h] at hhead
  obtain rfl : c = l.name.char := Option.some.inj hhead
  cases l.name <;> decide

theorem closed_write : Closed (l.write a ++ rest) := by
  intro c hc
  rw [head_write] at hc
  obtain rfl : l.name.char = c := Option.some.inj hc
  exact .inl Quote.isQuote_char

theorem reads_skipBlanks_write : Reads (skipBlanks : BuildReader Unit) [] (l.write a ++ rest) () := by
  apply reads_skipBlanks isGap_nil
  intro c hc
  exact (closed_facts (closed_write c hc)).1

theorem closed_writeAll (h : Closed rest) : Closed (Slot.writeAll layouts slots ++ rest) := by
  cases slots with
  | nil => exact h
  | cons a slots =>
      rw [Slot.writeAll, List.append_assoc]
      exact closed_write

theorem fresh_of_nodup (h : ((done ++ a :: slots).map (·.name)).Nodup) :
    a.name ∉ done.map (·.name) ∧ ((done ++ [a] ++ slots).map (·.name)).Nodup := by
  refine ⟨fun hmem => ?_, by rwa [List.append_assoc]⟩
  rw [List.map_append, List.map_cons, List.nodup_append] at h
  exact h.2.2 _ hmem _ List.mem_cons_self rfl

section Block

theorem reads_readNamed (hw : a.WellFormed) (hp : a.Plain) (ht : a.name ∉ done.map (·.name)) (hr : Closed rest) :
    Reads (readNamed done) (l.write a) rest (some (done ++ [a])) := by
  refine reads_skipBlanks_write.bind_nil (yields_ahead_bind ?_)
  split
  · next h => exact absurd h write_ne_nil
  · next h => exact absurd rfl (ne_brace_of_write h).2
  · exact (reads_readArgument hw hp ht hr).bind_pure

theorem reads_readNamed_end : Reads (readNamed done) ['\x7d'] rest none := by
  have hblank : ∀ c ∈ (['\x7d'] ++ rest).head?, isBlank c = false := by
    intro c hc
    obtain rfl : '\x7d' = c := by simpa using hc
    decide
  have hskip : Reads (skip 1 : BuildReader Unit) ['\x7d'] rest () := reads_skip rfl
  refine (reads_skipBlanks isGap_nil hblank).bind_nil (yields_ahead_bind ?_)
  exact hskip.bind_pure

theorem reads_block (hw : ∀ a ∈ slots, a.WellFormed) (hp : ∀ a ∈ slots, a.Plain)
    (hn : ((done ++ slots).map (·.name)).Nodup) :
    Reads (iterate readNamed progresses_readNamed done) (Slot.writeAll layouts slots ++ ['\x7d']) rest
      (done ++ slots) := by
  induction slots generalizing done layouts with
  | nil =>
      rw [List.append_nil]
      exact yields_iterate_end reads_readNamed_end rfl
  | cons a slots ih =>
      obtain ⟨ha, hw⟩ := List.forall_mem_cons.1 hw
      obtain ⟨hpa, hp⟩ := List.forall_mem_cons.1 hp
      obtain ⟨hfresh, hn⟩ := fresh_of_nodup hn
      -- Behind an argument stands another one or the brace, and no modifier begins with either.
      have hclosed : Closed (Slot.writeAll (fun i => layouts (i + 1)) slots ++ ['\x7d'] ++ rest) := by
        rw [List.append_assoc]
        apply closed_writeAll
        intro c hc
        exact .inr (.inr (by simpa [eq_comm] using hc))
      have hrest : Reads (iterate readNamed progresses_readNamed (done ++ [a]))
          (Slot.writeAll (fun i => layouts (i + 1)) slots ++ ['\x7d']) rest (done ++ [a] ++ slots) := ih hw hp hn
      rw [Slot.writeAll, List.append_assoc]
      rw [List.append_assoc] at hrest
      exact (reads_readNamed ha hpa hfresh hclosed).iterate_step hrest

theorem reads_readBlock (g : Gap) (hw : ∀ a ∈ slots, a.WellFormed) (hp : ∀ a ∈ slots, a.Plain)
    (hn : (slots.map (·.name)).Nodup) :
    Reads readBlock (['\x7b'] ++ (g.text ++ (Slot.writeAll layouts slots ++ ['\x7d']))) rest slots := by
  have hskip : ∀ rest, Reads (skip 1 : BuildReader Unit) ['\x7b'] rest () := fun rest => reads_skip rfl
  refine (hskip _).bind (yields_iterate_gap (fun done => ⟨_, rfl⟩) g.blank ?_)
  exact reads_block hw hp (by simpa using hn)

end Block

section Slots

variable {s : Slots} {block : List Argument} {R : Slots → Prop}

theorem reads_readSlots (hw : a.WellFormed) (hp : a.Plain) (ht : a.name ∉ s.positional.map (·.name))
    (hr : Closed rest) :
    Reads (readSlots s) (l.write a) rest (some { s with positional := s.positional ++ [a] }) := by
  refine reads_skipBlanks_write.bind_nil (yields_ahead_bind ?_)
  split
  · next h => exact absurd h write_ne_nil
  · next h => exact absurd rfl (ne_brace_of_write h).1
  · exact (reads_readArgument hw hp ht hr).bind_pure

theorem reads_readSlots_block (g : Gap) (hs : s.keyword = none) (hw : ∀ a ∈ block, a.WellFormed)
    (hp : ∀ a ∈ block, a.Plain) (hn : (block.map (·.name)).Nodup) :
    Reads (readSlots s) (['\x7b'] ++ (g.text ++ (Slot.writeAll layouts block ++ ['\x7d']))) rest
      (some { s with keyword := some block }) := by
  have hblank : ∀ c ∈ (['\x7b'] ++ (g.text ++ (Slot.writeAll layouts block ++ ['\x7d'])) ++ rest).head?,
      isBlank c = false := by
    intro c hc
    obtain rfl : '\x7b' = c := by simpa using hc
    decide
  refine (reads_skipBlanks isGap_nil hblank).bind_nil (yields_ahead_bind ?_)
  simp only [List.cons_append, hs, Option.isSome_none]
  exact (reads_readBlock g hw hp hn).bind_pure

theorem reads_readSlots_end : Reads (readSlots s) [] [] none := by
  refine (reads_skipBlanks isGap_nil (by simp)).bind_nil (yields_ahead_bind ?_)
  exact reads_pure

theorem yields_positional (hw : ∀ a ∈ slots, a.WellFormed) (hp : ∀ a ∈ slots, a.Plain)
    (hn : ((s.positional ++ slots).map (·.name)).Nodup) (hr : Closed (tail ++ rest))
    (h : Yields (iterate readSlots progresses_readSlots { s with positional := s.positional ++ slots }) tail rest R) :
    Yields (iterate readSlots progresses_readSlots s) (Slot.writeAll layouts slots ++ tail) rest R := by
  induction slots generalizing s layouts with
  | nil =>
      rw [List.append_nil] at h
      exact h
  | cons a slots ih =>
      obtain ⟨ha, hw⟩ := List.forall_mem_cons.1 hw
      obtain ⟨hpa, hp⟩ := List.forall_mem_cons.1 hp
      obtain ⟨hfresh, hn⟩ := fresh_of_nodup hn
      have hclosed : Closed (Slot.writeAll (fun i => layouts (i + 1)) slots ++ tail ++ rest) := by
        rw [List.append_assoc]
        exact closed_writeAll hr
      have hrest : Yields (iterate readSlots progresses_readSlots { s with positional := s.positional ++ [a] })
          (Slot.writeAll (fun i => layouts (i + 1)) slots ++ tail) rest R := by
        apply ih hw hp hn
        simpa using h
      rw [Slot.writeAll, List.append_assoc]
      exact (reads_readSlots ha hpa hfresh hclosed).iterate_step hrest

theorem yields_last (hw : ∀ a ∈ slots, a.WellFormed) (hp : ∀ a ∈ slots, a.Plain)
    (hn : ((s.positional ++ slots).map (·.name)).Nodup) :
    Reads (iterate readSlots progresses_readSlots s) (Slot.writeAll layouts slots) []
      { s with positional := s.positional ++ slots } := by
  rw [← List.append_nil (Slot.writeAll layouts slots)]
  exact yields_positional hw hp hn (by simp [Closed]) (yields_iterate_end reads_readSlots_end rfl)

end Slots

section Commands

variable {c : Command} {layout : Signature.Layout} {name : String}

theorem reads_readTitle (g : Gap) (q : Quote) : Reads readTitle (g.text ++ (q.quoted name ++ [':'])) rest name := by
  have hblank : ∀ c ∈ (q.quoted name ++ [':'] ++ rest).head?, isBlank c = false := by
    simp [Quote.quoted, Quote.isBlank_char]
  have hname : Reads (readName true) ([] ++ q.quoted name) ([':'] ++ rest) name := Quote.reads_readName ⟨[], isGap_nil⟩
  have hskip : Reads (skip 1 : Reader Unit) [':'] rest () := reads_skip rfl
  refine (reads_skipBlanks g.blank hblank).bind (hname.bind (reads_standsAt_bind (by decide) ?_))
  rw [if_pos rfl]
  exact hskip.bind_pure

theorem closed_block : Closed (layout.block c ++ Slot.writeAll layouts slots ++ []) := by
  rw [List.append_nil, Signature.Layout.block]
  split
  · rw [List.nil_append, ← List.append_nil (Slot.writeAll layouts slots)]
    exact closed_writeAll (by simp [Closed])
  · intro x hx
    obtain rfl : '\x7b' = x := by simpa using hx
    exact .inr (.inl rfl)

theorem yields_block {first : List Argument} (hw : c.WellFormed) (hp : c.Plain)
    (hslots : first ++ slots = c.positional) :
    Yields (iterate readSlots progresses_readSlots { positional := first })
      (layout.block c ++ Slot.writeAll layouts slots) []
      fun s => s.positional = c.positional ∧ s.keyword.getD [] = c.keyword := by
  have hmem : ∀ a ∈ slots, a ∈ c.positional := fun a ha => hslots ▸ List.mem_append_right first ha
  have hlast : ∀ keyword : Option (List Argument),
      Reads (iterate readSlots progresses_readSlots { positional := first, keyword }) (Slot.writeAll layouts slots) []
        { positional := c.positional, keyword } := by
    intro keyword
    rw [← hslots]
    apply yields_last (fun a ha => hw.positional a (hmem a ha)) (fun a ha => hp.positional a (hmem a ha))
    simp only [hslots]
    exact hw.positional_nodup
  rw [Signature.Layout.block]
  split
  · next hempty =>
      rw [Bool.and_eq_true] at hempty
      have hnone : c.keyword = [] := List.isEmpty_iff.1 hempty.1
      rw [List.nil_append]
      apply (hlast none).mono
      rintro _ rfl
      exact ⟨rfl, hnone.symm⟩
  · have hparts :
        '\x7b' :: (layout.opening.text ++ Slot.writeAll layout.keyword c.keyword ++
            '\x7d' :: layout.closing.text) ++ Slot.writeAll layouts slots =
          (['\x7b'] ++ (layout.opening.text ++ (Slot.writeAll layout.keyword c.keyword ++ ['\x7d']))) ++
            (layout.closing.text ++ Slot.writeAll layouts slots) := by
      simp
    rw [hparts]
    apply (reads_readSlots_block layout.opening rfl hw.keyword hp.keyword hw.keyword_nodup).iterate_step
    refine yields_iterate_gap (fun s => ⟨_, rfl⟩) layout.closing.blank ((hlast (some c.keyword)).mono ?_)
    rintro _ rfl
    exact ⟨rfl, rfl⟩

theorem yields_slots (hw : c.WellFormed) (hp : c.Plain) :
    Yields (iterate readSlots progresses_readSlots {}) (layout.colon.text ++
      (Slot.writeAll layout.positional (c.positional.take layout.place) ++ (layout.block c ++
        Slot.writeAll (fun i => layout.positional (layout.place + i)) (c.positional.drop layout.place)))) []
      fun s => s.positional = c.positional ∧ s.keyword.getD [] = c.keyword := by
  have hmem : ∀ a ∈ c.positional.take layout.place, a ∈ c.positional := fun a => List.mem_of_mem_take
  apply yields_iterate_gap (fun s => ⟨_, rfl⟩) layout.colon.blank
  refine yields_positional (fun a ha => hw.positional a (hmem a ha)) (fun a ha => hp.positional a (hmem a ha)) ?_
    closed_block ?_
  · exact hw.positional_nodup.sublist ((List.take_sublist _ _).map _)
  · exact yields_block hw hp (List.take_append_drop _ _)

theorem reads_readCommand (hw : c.WellFormed) (hp : c.Plain) (executor : Value) :
    Reads (readCommand executor) (layout.write c) [] { c with executor := executor.frozen } := by
  have hparts : layout.write c = (layout.before.text ++ (layout.name.quoted c.name ++ [':'])) ++ (layout.colon.text ++
      (Slot.writeAll layout.positional (c.positional.take layout.place) ++ (layout.block c ++
        Slot.writeAll (fun i => layout.positional (layout.place + i)) (c.positional.drop layout.place)))) := by
    simp [Signature.Layout.write]
  rw [hparts]
  apply (reads_readTitle layout.before layout.name).lift.bind
  refine Yields.bind_end (yields_slots hw hp) fun s hs => reads_build ?_
  rw [hs.1, hs.2]
  exact Signature.make_eq_ok.2 ⟨hw.name_ne_empty, hw.positional_nodup, hw.keyword_nodup, rfl⟩

end Commands

/-- Compiling undoes writing: every well-formed command whose constants can be written is what its scheme compiles to,
however it is laid out. -/
theorem compile_write {c : Command} (hw : c.WellFormed) (hp : c.Plain) (layout : Signature.Layout) (label : String)
    (executor : Value) :
    compile ⟨.ofList (layout.write c), label⟩ executor = .ok { c with executor := executor.frozen } := by
  have hread : Reads (readCommand executor) (layout.write c) [] { c with executor := executor.frozen } :=
    reads_readCommand hw hp executor
  obtain ⟨_, offset, h, rfl⟩ := hread 0 (some 0)
  rw [List.append_nil] at h
  rw [compile, Cursor.start, String.toList_ofList, h]

/-- A command with choices of both sorts, a string that needs escapes, and an origin. -/
def teleport : Command where
  name := "teleport"
  positional := [
    ⟨"to", .choice, true, .string "far", none, "|near|far|"⟩,
    ⟨"by", .integer, true, .integer (-2), some (.named "it's"), ""⟩]
  keyword := [⟨"who", .choice, false, .none, none, "team"⟩]
  executor := .none

theorem teleport_wellFormed : teleport.WellFormed where
  name_ne_empty := by decide
  positional := by
    have hplain : (["near", "far"].all fun m => m.toList.all fun c => c != '|' && c != ']' && !isBlank c) = true := by
      decide
    have hmembers : Choices.Written ["near", "far"] := ⟨by decide, by decide, by simpa [and_assoc] using hplain⟩
    refine List.forall_mem_cons.2 ⟨?_, List.forall_mem_singleton.2 ?_⟩
    · exact ⟨by decide, by decide, fun _ _ => ⟨_, hmembers, rfl, fun _ => ⟨"far", by decide, rfl⟩⟩, nofun, nofun,
        fun _ => ⟨rfl, rfl⟩⟩
    · refine ⟨by decide, by decide, nofun, nofun, fun o ho => ?_, fun _ => ⟨rfl, rfl⟩⟩
      obtain rfl := Option.some.inj ho
      exact ⟨.inr rfl, .inr rfl⟩
  keyword := by
    have hplain : ("team".toList.all fun c => isNamePart c && c != '$') = true := by decide +kernel
    have hteam : Choices.Reference "team" := ⟨by decide, by simpa using hplain⟩
    exact List.forall_mem_singleton.2 ⟨by decide, by decide, nofun, fun _ _ => hteam, nofun, fun h => absurd rfl h⟩
  positional_nodup := by decide
  keyword_nodup := by decide
  keyed := fun _ _ => Signature.name_of_keyword?

theorem teleport_plain : teleport.Plain where
  positional := by
    refine List.forall_mem_cons.2 ⟨?_, List.forall_mem_singleton.2 ?_⟩
    · exact ⟨.string "far", nofun⟩
    · refine ⟨.integer (-2) (by decide), fun o ho => ?_⟩
      obtain rfl := Option.some.inj ho
      exact .string "it's"
  keyword := by
    exact List.forall_mem_singleton.2 ⟨.none, nofun⟩

theorem compile_write_teleport :
    ∃ layout : Signature.Layout,
      String.ofList (layout.write teleport) =
        "'teleport':\x7b'who':enum$team \x7d 'to':enum[near|far]='far' 'by':int~'it\\'s'=-2 " ∧
      teleport.WellFormed ∧ teleport.Plain ∧
      compile ⟨.ofList (layout.write teleport), "<scheme>"⟩ .none =
        .ok { teleport with executor := Value.none.frozen } := by
  let nothing : Gap := ⟨[], isGap_nil⟩
  let space : Gap := ⟨[' '], by simp [IsGap]; decide⟩
  let sign : Modifier.Layout := ⟨nothing, nothing, .single⟩
  let slot : Slot.Layout := ⟨.single, nothing, sign, sign, true, space⟩
  refine ⟨⟨nothing, .single, nothing, fun _ => slot, fun _ => slot, 0, false, nothing, space⟩, by decide +kernel, ?_⟩
  exact ⟨teleport_wellFormed, teleport_plain, compile_write teleport_wellFormed teleport_plain _ _ _⟩

end Prompter.Scheme
