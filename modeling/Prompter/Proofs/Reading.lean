import Mathlib.Data.List.TakeWhile
import Prompter.Prompt.Scope
import Prompter.Reader

namespace Prompter

theorem mem_of_lookup {α β : Type} [BEq α] [LawfulBEq α] {table : List (α × β)} {a : α} {b : β}
    (h : table.lookup a = some b) : (a, b) ∈ table := by
  obtain ⟨before, behind, rfl, _⟩ := List.lookup_eq_some_iff.1 h
  exact List.mem_append_right before List.mem_cons_self

namespace Reader

open Text

variable {ε α β σ τ : Type} {c d : Cursor}

theorem pure_eq_ok {a b : α} : (pure a : ReaderOf ε α) c = .ok b d ↔ a = b ∧ c = d := by
  constructor
  · intro h
    cases h
    exact ⟨rfl, rfl⟩
  · rintro ⟨rfl, rfl⟩
    rfl

theorem failAt_ne_ok {offset : Int} {cause : Cause} {a : α} : (failAt offset cause : Reader α) c ≠ .ok a d := by
  intro h
  cases h

theorem fail_ne_ok {cause : Cause} {a : α} : (fail cause : Reader α) c ≠ .ok a d := by
  intro h
  cases h

section

-- These readers cannot fail: what follows them goes on with what they saw and where they stopped.
variable {n : Nat} {mark : String} {g : Unit → ReaderOf ε β}

theorem offset_bind {g : Nat → ReaderOf ε β} : (offset >>= g) c = g c.offset c := rfl

theorem hasNext_bind {g : Bool → ReaderOf ε β} : (hasNext >>= g) c = g (!c.ahead.isEmpty) c := rfl

theorem standsAt_bind {g : Bool → ReaderOf ε β} :
    (standsAt mark >>= g) c = g (c.ahead.head?.any (String.singleton · == mark)) c := rfl

theorem skip_bind : (skip n >>= g) c = g () (c.skip n) := rfl

theorem skipBlanks_bind : (skipBlanks >>= g) c = g () (c.skip (c.ahead.takeWhile isBlank).length) := rfl

theorem setMark_bind : (setMark >>= g) c = g () { c with mark := some c.offset } := rfl

end

theorem reaches_of_marked {r : ReaderOf ε α} {mark : Option Int} {a : α} (h : Forward r)
    (hread : r { c with mark } = .ok a d) : c.Reaches d := h { c with mark } a d hread

theorem bind_of_ok {r : ReaderOf ε α} {f : α → ReaderOf ε β} {a : α} (h : r c = .ok a d) : (r >>= f) c = f a d := by
  change EStateM.bind r f c = f a d
  rw [EStateM.bind, h]

theorem bind_eq_error {r : ReaderOf ε α} {f : α → ReaderOf ε β} {e : ε} :
    (r >>= f) c = .error e d ↔ r c = .error e d ∨ ∃ a d', r c = .ok a d' ∧ f a d' = .error e d := by
  change EStateM.bind r f c = .error e d ↔ _
  rw [EStateM.bind]
  cases r c <;> simp [and_assoc]

/-- Readers that come to the same, each from its cursor, followed by readers that agree wherever these stop, come to the
same. -/
theorem bind_congr {r r' : ReaderOf ε α} {f f' : α → ReaderOf ε β} {c' : Cursor} (hr : r c = r' c')
    (hf : ∀ a d, r' c' = .ok a d → f a d = f' a d) : (r >>= f) c = (r' >>= f') c' := by
  change EStateM.bind r f c = EStateM.bind r' f' c'
  rw [EStateM.bind, EStateM.bind, hr]
  cases h : r' c' with
  | ok a d => exact hf a d h
  | error e d => rfl

theorem lift_of_error {r : Reader α} {e : Complaint} (h : r c = .error e d) :
    (liftM r : BuildReader α) c = .error (.fault e) d := by
  simp only [liftM, monadLift, MonadLift.monadLift, h]

theorem lift_congr {r r' : Reader α} {c' : Cursor} (h : r c = r' c') :
    (liftM r : BuildReader α) c = (liftM r' : BuildReader α) c' := by
  simp only [liftM, monadLift, MonadLift.monadLift, h]

theorem lift_bind {r : Reader α} {f : α → Reader β} :
    (liftM (r >>= f) : BuildReader β) c = ((liftM r : BuildReader α) >>= fun a => liftM (f a)) c := by
  simp only [liftM, monadLift, MonadLift.monadLift, bind, EStateM.bind]
  cases r c <;> rfl

theorem peek_bind_head {f : Char → Reader α} {x : Char} {text : List Char} (hc : c.ahead = x :: text)
    (hx : isBlank x = false) : (peek >>= f) c = f x c := by
  have hpeek : peek c = .ok x c := by
    rw [peek, skipBlanks_bind, hc]
    simp only [List.takeWhile_cons, hx, Bool.false_eq_true, if_false, List.length_nil]
    exact peekRaw_eq_ok.2 ⟨rfl, text, hc⟩
  exact bind_of_ok hpeek

theorem standsAt_iff {text : List Char} {sign : String} {mark : Char} (hs : String.singleton mark = sign) :
    text.head?.any (String.singleton · == sign) = true ↔ text.head? = some mark := by
  subst hs
  simp [Option.any_eq_true, String.singleton_inj]

theorem build_eq_ok {x : Except Misuse α} {a : α} : (liftM x : BuildReader α) c = .ok a d ↔ x = .ok a ∧ c = d := by
  cases x with
  | error m =>
      constructor
      · intro h
        cases h
      · rintro ⟨h, _⟩
        cases h
  | ok b =>
      constructor
      · intro h
        cases h
        exact ⟨rfl, rfl⟩
      · rintro ⟨h, rfl⟩
        cases h
        rfl

theorem run_eq_ok {rule : List Char → List Char} {text : List Char} :
    (run rule : ReaderOf ε (List Char)) c = .ok text d ↔ rule c.ahead = text ∧ c.skip text.length = d := by
  constructor
  · intro h
    cases h
    exact ⟨rfl, rfl⟩
  · rintro ⟨rfl, rfl⟩
    rfl

section

-- Where a reader stops, what it took is the front of what was ahead.
variable {text : List Char} {x mark : Char} {sign : String} {u : Unit}

theorem takeWhile_append_drop {p : Char → Bool} : text.takeWhile p ++ text.drop (text.takeWhile p).length = text :=
  List.prefix_iff_eq_append.1 (List.takeWhile_prefix p)

theorem ahead_of_expect (hs : String.singleton mark = sign) (h : expect sign c = .ok u d) :
    c.ahead = mark :: d.ahead := by
  rw [expect, standsAt_bind] at h
  split at h
  · next hfound =>
      obtain rfl := skip_eq_ok.1 h
      obtain ⟨rest, hc⟩ := List.head?_eq_some_iff.1 ((standsAt_iff hs).1 hfound)
      simp [Cursor.skip, hc]
  · exact absurd h fail_ne_ok

theorem ahead_of_takeWhile {p : Char → Bool} (h : (takeWhile p : ReaderOf ε (List Char)) c = .ok text d) :
    text = c.ahead.takeWhile p ∧ c.ahead = text ++ d.ahead ∧ ∀ x ∈ d.ahead.head?, p x = false := by
  obtain ⟨rfl, rfl⟩ := run_eq_ok.1 h
  refine ⟨rfl, takeWhile_append_drop.symm, fun x hx => ?_⟩
  have hdrop : c.ahead.drop (c.ahead.takeWhile p).length = c.ahead.dropWhile p :=
    List.append_cancel_left (takeWhile_append_drop.trans List.takeWhile_append_dropWhile.symm)
  have hhead := List.head?_dropWhile_not p c.ahead
  rw [← hdrop] at hhead
  rw [Cursor.skip] at hx
  rw [Option.mem_def.1 hx] at hhead
  exact hhead

theorem ahead_of_peek (h : peek c = .ok x d) :
    ∃ gap rest, (∀ y ∈ gap, isBlank y = true) ∧ c.ahead = gap ++ d.ahead ∧ d.ahead = x :: rest := by
  rw [peek, skipBlanks_bind] at h
  obtain ⟨rfl, rest, hrest⟩ := peekRaw_eq_ok.1 h
  exact ⟨_, rest, fun _ => List.mem_takeWhile_imp, takeWhile_append_drop.symm, hrest⟩

end

section

variable {E : ε → Prop} {r : ReaderOf ε α} {f : α → ReaderOf ε β}

def Complains (E : ε → Prop) (r : ReaderOf ε α) : Prop := ∀ c e d, r c = .error e d → E e

theorem Complains.bind (hr : Complains E r) (hf : ∀ a, Complains E (f a)) : Complains E (r >>= f) := by
  intro c e d h
  rcases bind_eq_error.1 h with h | ⟨a, c', _, h⟩
  · exact hr c e d h
  · exact hf a c' e d h

theorem complains_pure {a : α} : Complains E (pure a : ReaderOf ε α) := nofun

theorem complains_ahead : Complains E (ahead : ReaderOf ε (List Char)) := nofun

theorem complains_skip {n : Nat} : Complains E (skip n : ReaderOf ε Unit) := nofun

theorem complains_takeWhile {p : Char → Bool} : Complains E (takeWhile p : ReaderOf ε (List Char)) := nofun

theorem complains_failAt {E : Complaint → Prop} {offset : Int} {cause : Cause} (h : E ⟨cause, offset⟩) :
    Complains E (failAt offset cause : Reader α) := by
  intro c e d he
  cases he
  exact h

theorem complains_fail {E : Complaint → Prop} {cause : Cause} (h : ∀ offset, E ⟨cause, offset⟩) :
    Complains E (fail cause : Reader α) := by
  intro c e d he
  cases he
  exact h _

end

theorem guard_eq_ok {p : Prop} [Decidable p] {r : Reader α} {g : α → Reader β} {g' : Reader β} {b : β}
    (hr : ∀ a c d, r c ≠ .ok a d) (h : (if p then r >>= g else g') c = .ok b d) : ¬p ∧ g' c = .ok b d := by
  by_cases hp : p
  · rw [if_pos hp] at h
    obtain ⟨a, e, he, _⟩ := bind_eq_ok.1 h
    exact absurd he (hr a c e)
  · rw [if_neg hp] at h
    exact ⟨hp, h⟩

variable {step : σ → ReaderOf ε (Option σ)} {hstep : Progresses step} {s t : σ}

theorem iterate_eq (s : σ) (c : Cursor) :
    iterate step hstep s c = match step s c with
      | .error e d => .error e d
      | .ok none d => .ok s d
      | .ok (some t) d => iterate step hstep t d := by
  rw [iterate]
  split <;> simp_all

/-- What holds of the state and the cursor before the first step, and is kept by each further one. -/
theorem iterate_invariant {P : σ → Cursor → Prop} (hP : ∀ s c t d, P s c → step s c = .ok (some t) d → P t d)
    (hs : P s c) (h : iterate step hstep s c = .ok t d) : ∃ e, P t e := by
  -- Each step shortens what is ahead, so the induction is on its length.
  induction hn : c.ahead.length using Nat.strongRecOn generalizing s c with
  | ind n ih =>
      subst hn
      rw [iterate_eq] at h
      split at h
      · cases h
      · cases h
        exact ⟨c, hs⟩
      · next u e he => exact ih _ (hstep _ _ _ _ he) (hP _ _ _ _ hs he) h rfl

theorem iterate_congr {step' : σ → ReaderOf ε (Option σ)} {hstep' : Progresses step'} {I : σ → Cursor → Prop}
    (hsame : ∀ s c, I s c → step s c = step' s c) (hI : ∀ s c t d, I s c → step s c = .ok (some t) d → I t d)
    (hs : I s c) : iterate step hstep s c = iterate step' hstep' s c := by
  induction hn : c.ahead.length using Nat.strongRecOn generalizing s c with
  | ind n ih =>
      subst hn
      rw [iterate_eq, iterate_eq, ← hsame s c hs]
      cases h : step s c with
      | error e d => rfl
      | ok next d =>
          cases next with
          | none => rfl
          | some t => exact ih _ (hstep _ _ _ _ h) (hI _ _ _ _ hs h) rfl

/-- Where each step of one run is matched by a step of another from the same cursor, the runs end in related states at
the same cursor. -/
theorem iterate_simulation {ε' : Type} {step' : τ → ReaderOf ε' (Option τ)} {hstep' : Progresses step'}
    {R : σ → τ → Prop}
    (hgo : ∀ s s' c t d, R s s' → step s c = .ok (some t) d → ∃ t', step' s' c = .ok (some t') d ∧ R t t')
    (hend : ∀ s s' c d, R s s' → step s c = .ok none d → step' s' c = .ok none d)
    {s' : τ} (hs : R s s') (h : iterate step hstep s c = .ok t d) :
    ∃ t', iterate step' hstep' s' c = .ok t' d ∧ R t t' := by
  induction hn : c.ahead.length using Nat.strongRecOn generalizing s s' c with
  | ind n ih =>
      subst hn
      rw [iterate_eq] at h
      split at h
      · cases h
      · next e he =>
          cases h
          exact ⟨s', by rw [iterate_eq, hend _ _ _ _ hs he], hs⟩
      · next u e he =>
          obtain ⟨u', he', hu⟩ := hgo _ _ _ _ _ hs he
          obtain ⟨t', ht', hR⟩ := ih _ (hstep _ _ _ _ he) hu h rfl
          exact ⟨t', by rw [iterate_eq, he']; exact ht', hR⟩

end Reader

namespace Checked

variable {ε α β : Type} {x : Except ε α} {f : α → Except ε β} {a : α} {b : β}

theorem bind_eq_ok : (x >>= f) = .ok b ↔ ∃ a, x = .ok a ∧ f a = .ok b := by
  cases x <;> simp [bind, Except.bind]

theorem bind_eq_error {e : ε} : (x >>= f) = .error e ↔ x = .error e ∨ ∃ a, x = .ok a ∧ f a = .error e := by
  cases x <;> simp [bind, Except.bind]

theorem exists_bind (hx : ∃ a, x = .ok a) (hf : ∀ a, ∃ b, f a = .ok b) : ∃ b, (x >>= f) = .ok b := by
  obtain ⟨a, rfl⟩ := hx
  exact hf a

theorem pure_eq_ok {a' : α} : (pure a : Except ε α) = .ok a' ↔ a = a' := by simp [pure, Except.pure]

theorem mapM_eq_ok {f : α → Except ε β} {g : α → β} {P : α → Prop} {as : List α} {bs : List β}
    (hf : ∀ a b, f a = .ok b ↔ P a ∧ g a = b) : as.mapM f = .ok bs ↔ (∀ a ∈ as, P a) ∧ as.map g = bs := by
  induction as generalizing bs with
  | nil => simp [pure_eq_ok]
  | cons a as ih =>
      simp only [List.mapM_cons, bind_eq_ok, pure_eq_ok, hf, ih, List.forall_mem_cons, List.map_cons]
      constructor
      · rintro ⟨_, ⟨ha, rfl⟩, _, ⟨has, rfl⟩, rfl⟩
        exact ⟨⟨ha, has⟩, rfl⟩
      · rintro ⟨⟨ha, has⟩, rfl⟩
        exact ⟨g a, ⟨ha, rfl⟩, as.map g, ⟨has, rfl⟩, rfl⟩

theorem exists_of_mapM_eq_ok {f : α → Except ε β} {as : List α} {bs : List β} {a : α} (h : as.mapM f = .ok bs)
    (ha : a ∈ as) : ∃ b, f a = .ok b := by
  induction as generalizing bs with
  | nil => cases ha
  | cons a' as ih =>
      rw [List.mapM_cons] at h
      obtain ⟨b, hb, h⟩ := bind_eq_ok.1 h
      obtain ⟨_, hrest, _⟩ := bind_eq_ok.1 h
      rcases List.mem_cons.1 ha with rfl | ha
      · exact ⟨b, hb⟩
      · exact ih hrest ha

theorem exists_of_mapM_eq_error {f : α → Except ε β} {as : List α} {e : ε} (h : as.mapM f = .error e) :
    ∃ a ∈ as, f a = .error e := by
  induction as with
  | nil => cases h
  | cons a as ih =>
      rw [List.mapM_cons] at h
      rcases bind_eq_error.1 h with h | ⟨_, _, h⟩
      · exact ⟨a, List.mem_cons_self, h⟩
      · rcases bind_eq_error.1 h with h | ⟨_, _, h⟩
        · obtain ⟨a', ha', h'⟩ := ih h
          exact ⟨a', List.mem_cons_of_mem _ ha', h'⟩
        · cases h

theorem fault_ne_ok {cause : Cause} : (fault cause : Checked α) ≠ .ok a := by
  intro h
  cases h

end Checked

end Prompter
