import Prompter.Proofs.Prompt.Bounds
import Prompter.Proofs.Scheme.Bounds

namespace Prompter

inductive Round (σ ρ : Type) where
  | leaves (r : ρ)
  | goesOn (s : σ)

section Loops

variable {σ ρ : Type} {round : σ → Round σ ρ} {s t : σ} {n : Nat} {r : ρ}

/-- The loop takes `n` rounds from the state, the last one included, and is left with `r`. -/
inductive Rounds (round : σ → Round σ ρ) : σ → Nat → ρ → Prop
  | last {s : σ} {r : ρ} (h : round s = .leaves r) : Rounds round s 1 r
  | more {s t : σ} {n : Nat} {r : ρ} (h : round s = .goesOn t) (hrest : Rounds round t n r) : Rounds round s (n + 1) r

/-- The loop is left with `r`, and never takes more rounds than the bound. -/
structure EndsWithin (round : σ → Round σ ρ) (s : σ) (bound : Nat) (r : ρ) : Prop where
  ends : ∃ n, Rounds round s n r
  rounds_le : ∀ n r, Rounds round s n r → n ≤ bound

/-- Where each round that goes on leaves less, there are no more rounds than there is to begin with, and one. -/
theorem Rounds.le (size : σ → Nat) (hsize : ∀ s t, round s = .goesOn t → size t < size s) (h : Rounds round s n r) :
    n ≤ size s + 1 := by
  induction h with
  | last => exact Nat.le_add_left _ _
  | more h _ ih =>
      have := hsize _ _ h
      omega

end Loops

variable {text : List Char} {c d : Cursor}

theorem Cursor.Within.length_ahead (h : c.Within text) : c.ahead.length = text.length - c.offset := by
  rw [h.2, List.length_drop]

theorem Cursor.Within.offset_lt (hc : c.Within text) (hd : d.Within text) (h : d.ahead.length < c.ahead.length) :
    c.offset < d.offset := by
  rw [hc.length_ahead, hd.length_ahead] at h
  have := hc.1
  omega

namespace Reader

variable {ε α σ : Type} {E : ε → Prop} {r : ReaderOf ε α} {step : σ → ReaderOf ε (Option σ)} {hstep : Progresses step}
  {s : σ}

def MovesRight (text : List Char) (r : ReaderOf ε α) : Prop :=
  ∀ c a d, c.Inside text → r c = .ok a d → d.Inside text ∧ c.offset < d.offset

theorem Advances.movesRight (ha : Advances r) (hs : ∀ c, c.Inside text → Stays text E r c) : MovesRight text r := by
  intro c a d hc h
  have hd : d.Inside text := (hs c hc).of_ok h
  exact ⟨hd, hc.within.offset_lt hd.within (ha c a d h).length_lt⟩

def round (step : σ → ReaderOf ε (Option σ)) : σ × Cursor → Round (σ × Cursor) (EStateM.Result ε Cursor σ)
  | (s, c) =>
      match step s c with
      | .error e d => .leaves (.error e d)
      | .ok none d => .leaves (.ok s d)
      | .ok (some t) d => .goesOn (t, d)

theorem round_eq_goesOn {p q : σ × Cursor} : round step p = .goesOn q ↔ step p.1 p.2 = .ok (some q.1) q.2 := by
  rw [round]
  split <;> simp_all [Prod.ext_iff]

theorem exists_rounds_iterate (s : σ) (c : Cursor) : ∃ n, Rounds (round step) (s, c) n (iterate step hstep s c) := by
  induction hn : c.ahead.length using Nat.strongRecOn generalizing s c with
  | ind n ih =>
      subst hn
      rw [iterate_eq]
      cases h : step s c with
      | error e d => exact ⟨1, .last (by rw [round, h])⟩
      | ok t? d =>
          cases t? with
          | none => exact ⟨1, .last (by rw [round, h])⟩
          | some t =>
              obtain ⟨n, hrest⟩ := ih _ (hstep _ _ _ _ h) t d rfl
              exact ⟨n + 1, .more (by rw [round, h]) hrest⟩

/-- A loop over the text: a round that does not leave it leaves the cursor further right, and there are no more rounds
than characters ahead, and one. -/
structure LoopMovesRight (text : List Char) (step : σ → ReaderOf ε (Option σ)) (hstep : Progresses step) : Prop where
  right : ∀ s c t d, c.Inside text → round step (s, c) = .goesOn (t, d) → d.Inside text ∧ c.offset < d.offset
  ends : ∀ s c, c.Within text → EndsWithin (round step) (s, c) (text.length - c.offset + 1) (iterate step hstep s c)

theorem loopMovesRight (hs : ∀ s c, c.Inside text → Stays text E (step s) c) : LoopMovesRight text step hstep where
  right := by
    intro s c t d hc h
    have hok : step s c = .ok (some t) d := round_eq_goesOn.1 h
    have hd : d.Inside text := (hs s c hc).of_ok hok
    exact ⟨hd, hc.within.offset_lt hd.within (hstep _ _ _ _ hok)⟩
  ends := by
    intro s c hc
    refine ⟨exists_rounds_iterate s c, fun n r h => ?_⟩
    rw [← hc.length_ahead]
    exact h.le (fun p => p.2.ahead.length) fun p q hgo => hstep _ _ _ _ (round_eq_goesOn.1 hgo)

theorem advances_expect {sign : String} {mark : Char} (hs : String.singleton mark = sign) : Advances (expect sign) := by
  intro c u d h
  have hc := ahead_of_expect hs h
  exact ⟨⟨[mark], hc.symm⟩, by simp [hc]⟩

end Reader

open Reader

theorem Prompt.advances_readRelative {scope : Scope} {a : Argument} : Advances (readRelative scope a) := by
  have hgiven : Advances (do expect "~"; Given.readDelta) :=
    (advances_expect (show String.singleton '~' = "~" by decide)).bind fun _ => Given.forward_readDelta
  refine hgiven.lift.bind fun given => ?_
  split
  · exact forward_pure _
  · exact forward_here _

namespace Binding

variable (scope : Scope) (command : Command) (given : Given)

def round (b : Binding) : Round Binding (Checked Binding) :=
  match b.vacant with
  | [] => .leaves (.fault (.extraValue command))
  | a :: rest =>
      match Slot.takes scope a given with
      | .error e => .leaves (.error e)
      | .ok true => .leaves do return { b with args := b.args ++ [← Slot.bound scope a given], vacant := rest }
      | .ok false => .goesOn { b with args := b.args ++ [a.default], vacant := rest }

variable {scope command given} {b b' : Binding}

theorem length_vacant_of_round (h : round scope command given b = .goesOn b') :
    b'.vacant.length < b.vacant.length := by
  rw [round] at h
  split at h
  · cases h
  · next hvacant =>
      split at h
      · cases h
      · cases h
      · cases h
        simp [hvacant]

theorem put_of_passed {a : Argument} {args : List Value} {rest : List Argument} {named : Table Value}
    (h : Slot.takes scope a given = .ok false) :
    put scope command given ⟨args, a :: rest, named⟩ = put scope command given ⟨args ++ [a.default], rest, named⟩ := by
  cases hfill : fill scope command given rest <;>
    simp [put, fill, h, hfill, bind, Except.bind, pure, Except.pure]

theorem exists_rounds_put (b : Binding) : ∃ n, Rounds (round scope command given) b n (b.put scope command given) := by
  obtain ⟨args, vacant, named⟩ := b
  induction vacant generalizing args with
  | nil => exact ⟨1, .last rfl⟩
  | cons a rest ih =>
      cases htakes : Slot.takes scope a given with
      | error e => exact ⟨1, .last (by simp [round, put, fill, htakes, bind, Except.bind])⟩
      | ok taken =>
          cases taken with
          | true =>
              refine ⟨1, .last ?_⟩
              cases hbound : Slot.bound scope a given <;>
                simp [round, put, fill, htakes, hbound, bind, Except.bind, pure, Except.pure]
          | false =>
              obtain ⟨n, hrest⟩ := ih (args ++ [a.default])
              rw [put_of_passed htakes]
              exact ⟨n + 1, .more (by simp only [round, htakes]) hrest⟩

theorem endsWithin_put (b : Binding) :
    EndsWithin (round scope command given) b (b.vacant.length + 1) (b.put scope command given) :=
  ⟨exists_rounds_put b, fun _ _ h => h.le (fun b => b.vacant.length) fun _ _ => length_vacant_of_round⟩

end Binding

/-- Every success of a reader of names, literals, arguments or relative values leaves the cursor further right, so does
every round of a loop over prompts, schemes, blocks and modifiers that does not leave it, and these loops, like the one
over the open slots, end. -/
theorem reading_progresses (text : List Char) :
    ((∀ colon, MovesRight text (readName colon)) ∧ MovesRight text readLiteral ∧
        (∀ taken, MovesRight text (Scheme.readArgument taken)) ∧
        ∀ scope a, MovesRight text (Prompt.readRelative scope a)) ∧
      ((∀ scope command,
          LoopMovesRight text (Prompt.readItem scope command) (Prompt.progresses_readItem scope command)) ∧
        LoopMovesRight text Scheme.readSlots Scheme.progresses_readSlots ∧
        LoopMovesRight text Scheme.readNamed Scheme.progresses_readNamed ∧
        LoopMovesRight text Scheme.readModifier Scheme.progresses_readModifier) ∧
      ∀ scope command given (b : Binding), EndsWithin (Binding.round scope command given) b (b.vacant.length + 1)
        (b.put scope command given) := by
  refine ⟨⟨fun colon => ?_, ?_, fun taken => ?_, fun scope a => ?_⟩, ⟨fun scope command => ?_, ?_, ?_, ?_⟩, ?_⟩
  · exact (advances_readName colon).movesRight fun _ hc => keeps_readName hc
  · exact advances_readLiteral.movesRight fun _ hc => keeps_readLiteral hc
  · exact (Scheme.advances_readArgument taken).movesRight fun _ hc => Scheme.stays_readArgument hc
  · exact Prompt.advances_readRelative.movesRight fun _ hc =>
      Prompt.stays_readRelative hc fun _ => Checked.blames_true
  · exact loopMovesRight fun _ _ hc =>
      Prompt.stays_readItem Signature.blames_true (fun _ _ => Slot.blames_true) hc
  · exact loopMovesRight fun _ _ hc => Scheme.stays_readSlots hc
  · exact loopMovesRight fun _ _ hc => Scheme.stays_readNamed hc
  · exact loopMovesRight fun _ _ hc => Scheme.keeps_readModifier hc
  · exact fun _ _ _ b => Binding.endsWithin_put b

/-- Two modifiers take three rounds, and a string of no characters takes its quotes. -/
theorem reading_progresses_modifiers :
    (Cursor.start "='' ~0").Inside "='' ~0".toList ∧
      (∃ d, readLiteral ((Cursor.start "='' ~0").skip 1) = .ok (.string "") d ∧ 1 < d.offset) ∧
      (∃ r, Rounds (round Scheme.readModifier) ({}, .start "='' ~0") 3 r) ∧ 3 ≤ "='' ~0".toList.length - 0 + 1 := by
  obtain ⟨⟨_, hliteral, _⟩, ⟨_, _, _, hmodifiers⟩, _⟩ := reading_progresses "='' ~0".toList
  have hinside := Cursor.inside_start "='' ~0"
  have hread : readLiteral ((Cursor.start "='' ~0").skip 1) = .ok (.string "") ⟨3, " ~0".toList, some 0⟩ := by
    with_unfolding_all rfl
  have hrounds : Rounds (round Scheme.readModifier) ({}, .start "='' ~0") 3
      (.ok ⟨some (.string "", 1), some (.integer 0, 5)⟩ ⟨6, [], some 0⟩) :=
    .more (t := (⟨some (.string "", 1), none⟩, ⟨3, " ~0".toList, some 0⟩)) (by with_unfolding_all rfl)
      (.more (t := (⟨some (.string "", 1), some (.integer 0, 5)⟩, ⟨6, [], some 0⟩)) (by with_unfolding_all rfl)
        (.last (by with_unfolding_all rfl)))
  refine ⟨hinside, ⟨_, hread, (hliteral _ _ _ (hinside.skip_one rfl) hread).2⟩, ⟨_, hrounds⟩, ?_⟩
  exact (hmodifiers.ends _ _ hinside.within).rounds_le _ _ hrounds

end Prompter
