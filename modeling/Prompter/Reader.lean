import Prompter.Cursor
import Prompter.Failure
import Prompter.Text.Blank

namespace Prompter

open Text

abbrev ReaderOf (ε : Type) := EStateM ε Cursor

abbrev Reader := ReaderOf Complaint

/-- A reader of things that hosts build, too, and may build wrongly. -/
abbrev BuildReader := ReaderOf (Failure Complaint)

instance : MonadLift Reader BuildReader where
  monadLift r c := match r c with
    | .ok a d => .ok a d
    | .error e d => .error (.fault e) d

instance : MonadLift (Except Misuse) BuildReader where
  monadLift
    | .ok a => pure a
    | .error m => throw (.misuse m)

namespace Reader

variable {ε α β : Type} {r : ReaderOf ε α} {f : α → ReaderOf ε β} {c : Cursor}

def mapped (g : α → β) : EStateM.Result ε Cursor α → EStateM.Result ε Cursor β
  | .ok a d => .ok (g a) d
  | .error e d => .error e d

theorem mapped_eq_ok {g : α → β} {x : EStateM.Result ε Cursor α} {b : β} :
    mapped g x = .ok b c ↔ ∃ a, x = .ok a c ∧ g a = b := by
  cases x with
  | ok a d =>
      constructor
      · intro h
        cases h
        exact ⟨a, rfl, rfl⟩
      · rintro ⟨_, h, rfl⟩
        cases h
        rfl
  | error => simp [mapped]

def offset : ReaderOf ε Nat := return (← get).offset

def ahead : ReaderOf ε (List Char) := return (← get).ahead

def skip (n : Nat) : ReaderOf ε Unit := modify (·.skip n)

def setMark : ReaderOf ε Unit := modify fun c => { c with mark := some c.offset }

def hasNext : ReaderOf ε Bool := return !(← ahead).isEmpty

def failAt (offset : Int) (cause : Cause) : Reader α := throw ⟨cause, offset⟩

def fail (cause : Cause) : Reader α := do failAt (← offset) cause

def run (rule : List Char → List Char) : ReaderOf ε (List Char) := do
  let text := rule (← ahead)
  skip text.length
  return text

def takeWhile (p : Char → Bool) : ReaderOf ε (List Char) := run (·.takeWhile p)

def skipBlanks : ReaderOf ε Unit := discard (takeWhile isBlank)

def peekRaw : Reader Char := do
  match ← ahead with
  | [] => fail .unexpectedEnd
  | x :: _ => return x

def peek : Reader Char := do skipBlanks; peekRaw

def next : Reader Char := do
  let x ← peekRaw
  skip 1
  return x

/-- Whether the mark stands at the cursor. A mark is one character; others never stand anywhere. -/
def standsAt (mark : String) : ReaderOf ε Bool := return (← ahead).head?.any (String.singleton · == mark)

def expect (mark : String) : Reader Unit := do
  if ← standsAt mark then skip 1 else fail (.markExpected mark)

def takeUntil (mark : String) : ReaderOf ε (List Char) := takeWhile (String.singleton · != mark)

def Forward (r : ReaderOf ε α) : Prop := ∀ c a d, r c = .ok a d → c.Reaches d

def Advances (r : ReaderOf ε α) : Prop := ∀ c a d, r c = .ok a d → c.Passes d

theorem bind_eq_ok {b : β} {e : Cursor} :
    (r >>= f) c = .ok b e ↔ ∃ a d, r c = .ok a d ∧ f a d = .ok b e := by
  simp only [bind, EStateM.bind]
  cases r c with
  | ok a d =>
      refine ⟨fun h => ⟨a, d, rfl, h⟩, fun ⟨a', d', h, hf⟩ => ?_⟩
      cases h
      exact hf
  | error => simp

theorem Advances.forward (h : Advances r) : Forward r := fun c a d e => (h c a d e).reaches

theorem Forward.bind (hr : Forward r) (hf : ∀ a, Forward (f a)) : Forward (r >>= f) := by
  intro c b e h
  obtain ⟨a, d, h₁, h₂⟩ := bind_eq_ok.1 h
  exact (hr c a d h₁).trans (hf a d b e h₂)

theorem Advances.bind (hr : Advances r) (hf : ∀ a, Forward (f a)) : Advances (r >>= f) := by
  intro c b e h
  obtain ⟨a, d, h₁, h₂⟩ := bind_eq_ok.1 h
  exact (hr c a d h₁).trans_reaches (hf a d b e h₂)

theorem Forward.bind_advances (hr : Forward r) (hf : ∀ a, Advances (f a)) : Advances (r >>= f) := by
  intro c b e h
  obtain ⟨a, d, h₁, h₂⟩ := bind_eq_ok.1 h
  exact (hr c a d h₁).trans_passes (hf a d b e h₂)

theorem forward_pure (a : α) : Forward (pure a : ReaderOf ε α) := by
  intro c b d h
  cases h
  exact .refl _

theorem forward_get : Forward (get : ReaderOf ε Cursor) := by
  intro c b d h
  cases h
  exact .refl _

theorem advances_failAt (offset : Int) (cause : Cause) : Advances (failAt offset cause : Reader α) := by
  intro c a d h
  cases h

theorem forward_offset : Forward (offset : ReaderOf ε Nat) := forward_get.bind fun _ => forward_pure _

theorem forward_ahead : Forward (ahead : ReaderOf ε (List Char)) := forward_get.bind fun _ => forward_pure _

theorem advances_fail (cause : Cause) : Advances (fail cause : Reader α) :=
  forward_offset.bind_advances fun _ => advances_failAt _ _

theorem forward_skip (n : Nat) : Forward (skip n : ReaderOf ε Unit) := by
  intro c a d h
  cases h
  exact c.reaches_skip n

theorem forward_setMark : Forward (setMark : ReaderOf ε Unit) := by
  intro c a d h
  cases h
  exact .refl _

theorem forward_run (rule : List Char → List Char) : Forward (run rule : ReaderOf ε (List Char)) :=
  forward_ahead.bind fun _ => (forward_skip _).bind fun _ => forward_pure _

theorem forward_takeWhile (p : Char → Bool) : Forward (takeWhile p : ReaderOf ε (List Char)) := forward_run _

theorem forward_skipBlanks : Forward (skipBlanks : ReaderOf ε Unit) := (forward_takeWhile _).bind fun _ => forward_pure _

theorem forward_hasNext : Forward (hasNext : ReaderOf ε Bool) := forward_ahead.bind fun _ => forward_pure _

theorem forward_expect (mark : String) : Forward (expect mark) := by
  refine (forward_ahead.bind fun _ => forward_pure _).bind fun found => ?_
  split
  · exact forward_skip _
  · exact (advances_fail _).forward

theorem forward_peekRaw : Forward peekRaw := by
  refine forward_ahead.bind fun text => ?_
  split
  · exact (advances_fail _).forward
  · exact forward_pure _

theorem forward_peek : Forward peek := forward_skipBlanks.bind fun _ => forward_peekRaw

theorem lift_eq_ok {r : Reader α} {a : α} {d : Cursor} :
    (liftM r : BuildReader α) c = .ok a d ↔ r c = .ok a d := by
  simp only [liftM, monadLift, MonadLift.monadLift]
  cases r c with
  | ok b e =>
      constructor
      · intro h
        cases h
        rfl
      · intro h
        cases h
        rfl
  | error => simp

theorem Forward.lift {r : Reader α} (h : Forward r) : Forward (liftM r : BuildReader α) :=
  fun c a d e => h c a d (lift_eq_ok.1 e)

theorem Advances.lift {r : Reader α} (h : Advances r) : Advances (liftM r : BuildReader α) :=
  fun c a d e => h c a d (lift_eq_ok.1 e)

theorem forward_build (x : Except Misuse α) : Forward (liftM x : BuildReader α) := by
  intro c a d h
  cases x with
  | error m => cases h
  | ok b =>
      cases h
      exact .refl _

theorem peekRaw_eq_ok {x : Char} {d : Cursor} : peekRaw c = .ok x d ↔ d = c ∧ ∃ rest, c.ahead = x :: rest := by
  obtain ⟨offset, text⟩ := c
  cases text with
  | nil =>
      constructor
      · intro h
        cases h
      · rintro ⟨_, _, h⟩
        cases h
  | cons y rest =>
      constructor
      · intro h
        cases h
        exact ⟨rfl, rest, rfl⟩
      · rintro ⟨rfl, _, h⟩
        cases h
        rfl

theorem ahead_bind {g : List Char → ReaderOf ε β} : (ahead >>= g) c = g c.ahead c := rfl

theorem skip_eq_ok {n : Nat} {d : Cursor} : (skip n : ReaderOf ε Unit) c = .ok () d ↔ d = c.skip n := by
  constructor
  · intro h
    cases h
    rfl
  · rintro rfl
    rfl

/-- A reader that looks at the next character first advances, if it does so from every character. -/
theorem advances_peek {g : Char → Reader α}
    (hg : ∀ x c a d, c.ahead.head? = some x → g x c = .ok a d → c.Passes d) :
    Advances (peek >>= g) := by
  intro c a e h
  obtain ⟨x, d, hp, h⟩ := bind_eq_ok.1 h
  obtain ⟨_, b, hs, hp⟩ := bind_eq_ok.1 hp
  obtain ⟨rfl, rest, hc⟩ := peekRaw_eq_ok.1 hp
  exact (forward_skipBlanks _ _ _ hs).trans_passes (hg x _ _ _ (by simp [hc]) h)

theorem passes_of_skip_bind {g : ReaderOf ε α} (hg : Forward g) {x : Char} {a : α} {d : Cursor}
    (hc : c.ahead.head? = some x) (h : (skip 1 >>= fun _ => g) c = .ok a d) : c.Passes d := by
  obtain ⟨_, e, hs, h⟩ := bind_eq_ok.1 h
  rw [skip_eq_ok] at hs
  subst hs
  refine (Cursor.passes_skip ?_ Nat.one_pos).trans_reaches (hg _ _ _ h)
  rintro ha
  simp [ha] at hc

def Progresses {σ : Type} (step : σ → ReaderOf ε (Option σ)) : Prop :=
  ∀ s c t d, step s c = .ok (some t) d → d.ahead.length < c.ahead.length

def iterate {σ : Type} (step : σ → ReaderOf ε (Option σ)) (h : Progresses step) (s : σ) (c : Cursor) :
    EStateM.Result ε Cursor σ :=
  match hs : step s c with
  | .error e d => .error e d
  | .ok none d => .ok s d
  | .ok (some t) d =>
      have := h s c t d hs
      iterate step h t d
termination_by c.ahead.length

theorem forward_iterate {σ : Type} {step : σ → ReaderOf ε (Option σ)} {h : Progresses step}
    (hf : ∀ s, Forward (step s)) (s : σ) : Forward (iterate step h s) := by
  intro c t e he
  induction hn : c.ahead.length using Nat.strongRecOn generalizing s c with
  | ind n ih =>
      subst hn
      unfold iterate at he
      split at he
      · cases he
      · next d hs =>
          cases he
          exact hf _ _ _ _ hs
      · next u d hs =>
          have hd := h _ _ _ _ hs
          exact (hf _ _ _ _ hs).trans (ih _ hd _ _ he rfl)

end Reader

end Prompter
