import Prompter.Proofs.Reading

namespace Prompter.Reader

open Text

variable {ε α β σ : Type} {r : ReaderOf ε α} {f : α → ReaderOf ε β} {P : α → Prop} {Q : β → Prop} {a : α} {b : β}
  {text text' gap rest : List Char}

/-- In front of the rest, the reader takes exactly the text and yields something of which `P` holds. -/
def Yields (r : ReaderOf ε α) (text rest : List Char) (P : α → Prop) : Prop :=
  ∀ offset mark, ∃ a offset', r ⟨offset, text ++ rest, mark⟩ = .ok a ⟨offset', rest, mark⟩ ∧ P a

abbrev Reads (r : ReaderOf ε α) (text rest : List Char) (a : α) : Prop := Yields r text rest (· = a)

theorem Yields.mono {P' : α → Prop} (hr : Yields r text rest P) (h : ∀ a, P a → P' a) : Yields r text rest P' := by
  intro offset mark
  obtain ⟨a, offset', ha, hP⟩ := hr offset mark
  exact ⟨a, offset', ha, h a hP⟩

theorem Yields.bind (hr : Yields r text (text' ++ rest) P) (hf : ∀ a, P a → Yields (f a) text' rest Q) :
    Yields (r >>= f) (text ++ text') rest Q := by
  intro offset mark
  obtain ⟨a, offset₁, ha, hP⟩ := hr offset mark
  obtain ⟨b, offset₂, hb, hQ⟩ := hf a hP offset₁ mark
  rw [List.append_assoc]
  exact ⟨b, offset₂, bind_eq_ok.2 ⟨a, _, ha, hb⟩, hQ⟩

theorem Reads.bind (hr : Reads r text (text' ++ rest) a) (hf : Yields (f a) text' rest Q) :
    Yields (r >>= f) (text ++ text') rest Q := by
  apply Yields.bind hr
  intro b hb
  subst hb
  exact hf

theorem reads_pure : Reads (pure a : ReaderOf ε α) [] rest a := fun offset _ => ⟨a, offset, rfl, rfl⟩

theorem Yields.bind_pure {g : α → β} (hr : Yields r text rest P) (hg : ∀ a, P a → Q (g a)) :
    Yields (r >>= fun a => pure (g a)) text rest Q := by
  intro offset mark
  obtain ⟨a, offset', ha, hP⟩ := hr offset mark
  exact ⟨g a, offset', bind_eq_ok.2 ⟨a, _, ha, rfl⟩, hg a hP⟩

theorem Reads.bind_pure {g : α → β} (hr : Reads r text rest a) : Reads (r >>= fun a => pure (g a)) text rest (g a) :=
  Yields.bind_pure hr fun _ h => congrArg g h

theorem Reads.bind_nil (hr : Reads r [] (text ++ rest) a) (hf : Yields (f a) text rest Q) :
    Yields (r >>= f) text rest Q := by
  have h := hr.bind hf
  rwa [List.nil_append] at h

theorem Yields.bind_end (hr : Yields r text rest P) (hf : ∀ a, P a → Yields (f a) [] rest Q) :
    Yields (r >>= f) text rest Q := by
  have h : Yields (r >>= f) (text ++ []) rest Q := Yields.bind hr hf
  rwa [List.append_nil] at h

theorem Reads.bind_end (hr : Reads r text rest a) (hf : Yields (f a) [] rest Q) : Yields (r >>= f) text rest Q := by
  apply Yields.bind_end hr
  intro b hb
  subst hb
  exact hf

theorem Yields.lift {r : Reader α} (h : Yields r text rest P) : Yields (liftM r : BuildReader α) text rest P := by
  intro offset mark
  obtain ⟨a, offset', ha, hP⟩ := h offset mark
  exact ⟨a, offset', lift_eq_ok.2 ha, hP⟩

theorem Reads.lift {r : Reader α} {a : α} (h : Reads r text rest a) : Reads (liftM r : BuildReader α) text rest a :=
  Yields.lift h

theorem reads_build {x : Except Misuse α} (h : x = .ok a) : Reads (liftM x : BuildReader α) [] rest a :=
  fun offset _ => ⟨a, offset, build_eq_ok.2 ⟨h, rfl⟩, rfl⟩

theorem yields_offset_bind {f : Nat → ReaderOf ε β} (h : ∀ n, Yields (f n) text rest Q) :
    Yields (offset >>= f) text rest Q :=
  fun offset mark => h offset offset mark

theorem yields_ahead_bind {f : List Char → ReaderOf ε β} (h : Yields (f (text ++ rest)) text rest Q) :
    Yields (ahead >>= f) text rest Q :=
  fun offset mark => h offset mark

theorem yields_hasNext_bind {f : Bool → ReaderOf ε β} (h : Yields (f !(text ++ rest).isEmpty) text rest Q) :
    Yields (hasNext >>= f) text rest Q :=
  fun offset mark => h offset mark

theorem reads_skip {n : Nat} (h : text.length = n) : Reads (skip n : ReaderOf ε Unit) text rest () := by
  intro offset mark
  refine ⟨(), offset + n, ?_, rfl⟩
  rw [skip_eq_ok, Cursor.skip, ← h, List.drop_left]

theorem reads_run {rule : List Char → List Char} (h : rule (text ++ rest) = text) :
    Reads (run rule : ReaderOf ε (List Char)) text rest text := by
  intro offset mark
  refine ⟨text, offset + text.length, ?_, rfl⟩
  rw [run_eq_ok, Cursor.skip, List.drop_left]
  exact ⟨h, rfl⟩

theorem takeWhile_append_of_head {p : Char → Bool} (ht : ∀ c ∈ text, p c = true) (hr : ∀ c ∈ rest.head?, p c = false) :
    (text ++ rest).takeWhile p = text := by
  rw [List.takeWhile_append_of_pos ht]
  cases rest with
  | nil => simp
  | cons c rest =>
      have hc : p c = false := hr c rfl
      simp [hc]

theorem reads_takeWhile {p : Char → Bool} (ht : ∀ c ∈ text, p c = true) (hr : ∀ c ∈ rest.head?, p c = false) :
    Reads (takeWhile p : ReaderOf ε (List Char)) text rest text :=
  reads_run (takeWhile_append_of_head ht hr)

def IsGap (gap : List Char) : Prop := ∀ c ∈ gap, isBlank c = true

theorem isGap_nil : IsGap [] := by simp [IsGap]

theorem reads_skipBlanks (hg : IsGap gap) (hr : ∀ c ∈ rest.head?, isBlank c = false) :
    Reads (skipBlanks : ReaderOf ε Unit) gap rest () := by
  intro offset mark
  have hskip : ∀ c, (skipBlanks : ReaderOf ε Unit) c = .ok () (c.skip (c.ahead.takeWhile isBlank).length) :=
    fun _ => rfl
  refine ⟨(), offset + gap.length, ?_, rfl⟩
  rw [hskip, takeWhile_append_of_head hg hr, Cursor.skip, List.drop_left]

theorem skipBlanks_bind_gap {f : Unit → ReaderOf ε β} (hg : IsGap gap) (offset : Nat) (mark : Option Int) :
    (skipBlanks >>= f) ⟨offset, gap ++ text, mark⟩ = (skipBlanks >>= f) ⟨offset + gap.length, text, mark⟩ := by
  rw [skipBlanks_bind, skipBlanks_bind]
  simp only [Cursor.skip]
  rw [List.takeWhile_append_of_pos hg, List.length_append, List.drop_length_add_append, Nat.add_assoc]

section

-- A mark is given as a text of one character; which one is settled where the lemma is used.
variable {sign : String} {mark : Char}

theorem reads_standsAt_bind {f : Bool → ReaderOf ε β} (hs : String.singleton mark = sign)
    (h : Yields (f true) (mark :: text) rest Q) : Yields (standsAt sign >>= f) (mark :: text) rest Q := by
  subst hs
  intro offset mark'
  rw [standsAt_bind]
  simpa using h offset mark'

theorem reads_expect (hs : String.singleton mark = sign) : Reads (expect sign) [mark] rest () := by
  have h : Reads (skip 1 : Reader Unit) [mark] rest () := reads_skip rfl
  exact reads_standsAt_bind hs h

end

theorem reads_peek {x : Char} (hg : IsGap gap) (hx : isBlank x = false) : Reads peek gap (x :: rest) x := by
  intro offset mark
  have hskip : Reads (skipBlanks : Reader Unit) gap (x :: rest) () := reads_skipBlanks hg (by simpa using hx)
  obtain ⟨_, offset', hs, rfl⟩ := hskip offset mark
  exact ⟨x, offset', bind_eq_ok.2 ⟨(), _, hs, peekRaw_eq_ok.2 ⟨rfl, rest, rfl⟩⟩, rfl⟩

theorem yields_peek_bind {x : Char} {f : Char → Reader β} (hg : IsGap gap) (hx : isBlank x = false)
    (h : Yields (f x) (x :: text) rest Q) : Yields (peek >>= f) (gap ++ x :: text) rest Q :=
  (reads_peek hg hx).bind h

theorem yields_peek_bind_head {x : Char} {f : Char → Reader β} (hx : isBlank x = false)
    (h : Yields (f x) (x :: text) rest Q) : Yields (peek >>= f) (x :: text) rest Q := by
  have hpeek := yields_peek_bind isGap_nil hx h
  rwa [List.nil_append] at hpeek

section

variable {step : σ → ReaderOf ε (Option σ)} {hstep : Progresses step} {s t : σ}

theorem yields_iterate_end {R : σ → Prop} (h : Reads (step s) text rest none) (hs : R s) :
    Yields (iterate step hstep s) text rest R := by
  intro offset mark
  obtain ⟨_, offset', he, rfl⟩ := h offset mark
  exact ⟨s, offset', by rw [iterate_eq, he], hs⟩

theorem yields_iterate_gap {R : σ → Prop} (hskip : ∀ s, ∃ f, step s = skipBlanks >>= f) (hg : IsGap gap)
    (h : Yields (iterate step hstep s) text rest R) : Yields (iterate step hstep s) (gap ++ text) rest R := by
  intro offset mark
  obtain ⟨t, offset', ht, hR⟩ := h (offset + gap.length) mark
  obtain ⟨f, hf⟩ := hskip s
  refine ⟨t, offset', ?_, hR⟩
  rw [iterate_eq, hf] at ht ⊢
  rwa [List.append_assoc, skipBlanks_bind_gap hg]

theorem yields_iterate_step {P R : σ → Prop}
    (h : Yields (step s) text (text' ++ rest) fun s? => ∃ t, s? = some t ∧ P t)
    (ht : ∀ t, P t → Yields (iterate step hstep t) text' rest R) :
    Yields (iterate step hstep s) (text ++ text') rest R := by
  intro offset mark
  obtain ⟨_, offset₁, he, t, rfl, hP⟩ := h offset mark
  obtain ⟨u, offset₂, hu, hR⟩ := ht t hP offset₁ mark
  refine ⟨u, offset₂, ?_, hR⟩
  rw [List.append_assoc, iterate_eq, he]
  exact hu

theorem Reads.iterate_step {R : σ → Prop} (h : Reads (step s) text (text' ++ rest) (some t))
    (ht : Yields (iterate step hstep t) text' rest R) : Yields (iterate step hstep s) (text ++ text') rest R := by
  refine yields_iterate_step (P := (· = t)) ?_ fun u hu => ?_
  · intro offset mark
    obtain ⟨_, offset', hs, rfl⟩ := h offset mark
    exact ⟨some t, offset', hs, t, rfl, rfl⟩
  · subst hu
    exact ht

end

end Prompter.Reader
