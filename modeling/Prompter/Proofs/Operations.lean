import Prompter.Proofs.Prompt.Bounds
import Prompter.Proofs.Scheme.Bounds

namespace Prompter

open Reader

variable {text : List Char} {c d : Cursor}

namespace Prompt

/-- The value behind a key, for a host that calls it anywhere: the sign between them is expected to be there. -/
def readKeyed (scope : Scope) (command : Command) (key : Literal) (b : Binding) : BuildReader Binding := do
  let a ← here (Binding.keyed command key)
  liftM (expect "=")
  skipBlanks
  setMark
  let given ← liftM Given.read
  here (Binding.putNamed scope given a b)

variable {scope : Scope} {command : Command} {key : Literal} {b : Binding}

theorem expect_eq_skip {sign : String} {mark : Char} (hs : String.singleton mark = sign)
    (hc : c.ahead.head? = some mark) : expect sign c = (skip 1 : Reader Unit) c := by
  rw [expect, standsAt_bind, (standsAt_iff hs).2 hc]
  rfl

/-- Where the sign stands, this is what prompts are read with. -/
theorem readKeyed_eq (hc : c.ahead.head? = some '=') :
    readKeyed scope command key b c = readNamed scope command key b c := by
  have hexpect : (liftM (expect "=") : BuildReader Unit) c = (skip 1 : BuildReader Unit) c :=
    lift_eq_ok.2 (expect_eq_skip rfl hc)
  rw [readKeyed, readNamed]
  refine Reader.bind_congr rfl fun a d ha => ?_
  obtain ⟨_, rfl⟩ := here_eq_ok.1 ha
  exact Reader.bind_congr hexpect fun _ _ _ => rfl

theorem stays_readKeyed (hc : c.Inside text) :
    Stays text (Failure.Blames text fun _ => True) (readKeyed scope command key b) c :=
  (stays_here hc Checked.blames_true).bind fun _ _ _ h₁ => (keeps_expect h₁).lift.bind fun _ _ _ h₂ =>
    (stays_skipBlanks h₂).bind fun _ _ _ h₃ => (stays_setMark h₃).bind fun _ _ _ h₄ =>
      (Given.keeps_read h₄).lift.bind fun _ _ _ h₅ => stays_here h₅ Checked.blames_true

end Prompt

namespace Reader

variable {ε α : Type} {E : ε → Prop} {r : ReaderOf ε α}

def stop (r : ReaderOf ε α) (c : Cursor) : Cursor :=
  match r c with
  | .ok _ d | .error _ d => d

theorem Stays.inside_stop (h : Stays text E r c) : (stop r c).Inside text := by
  rw [stop]
  cases hrc : r c with
  | ok a d => exact h.of_ok hrc
  | error e d => exact (h.of_error hrc).1

end Reader

inductive Operation where
  | hasNext
  | skipBlanks
  | peekRaw
  | peek
  | next
  | back (count : Int)
  | expect (mark : String)
  | takeUntil (mark : String)
  | quoted (quote : String)
  | escape
  | number (factor : Int)
  | name (colon : Bool)
  | literal
  | kind
  | choices
  | argument (taken : List String)
  | scheme (executor : Value)
  | relative (scope : Scope) (a : Argument)
  | keyed (scope : Scope) (command : Command) (key : Literal) (b : Binding)
  /-- Any check of a value; a binding of values in order is one of them. -/
  | check {α : Type} (x : Checked α)
  | lookup (commands : Table Command)
  | prompt (scope : Scope) (commands : Table Command)

namespace Operation

def run (text : String) (c : Cursor) : Operation → Cursor
  | hasNext => stop (Reader.hasNext : Reader Bool) c
  | skipBlanks => stop (Reader.skipBlanks : Reader Unit) c
  | peekRaw => stop Reader.peekRaw c
  | peek => stop Reader.peek c
  | next => stop Reader.next c
  | back count =>
      match Cursor.back text count c with
      | .ok d => d
      | .error _ => c
  | expect mark => stop (Reader.expect mark) c
  | takeUntil mark => stop (Reader.takeUntil mark : Reader (List Char)) c
  | quoted quote => stop (readQuoted quote) c
  | escape => stop readEscape c
  | number factor => stop (readMultiple factor) c
  | name colon => stop (readName colon) c
  | literal => stop readLiteral c
  | kind => stop Scheme.readKind c
  | choices => stop Scheme.readChoices c
  | argument taken => stop (Scheme.readArgument taken) c
  | scheme executor => stop (Scheme.readCommand executor) c
  | relative scope a => stop (Prompt.readRelative scope a) c
  | keyed scope command key b => stop (Prompt.readKeyed scope command key b) c
  | check x => stop (Prompt.here x) c
  | lookup commands => stop (Prompt.readName commands) c
  | prompt scope commands => stop (Prompt.read scope commands) c

def runAll (text : String) (operations : List Operation) : Cursor := operations.foldl (run text) (.start text)

/-- No operation leaves the text, wherever in the text it begins and whether it succeeds or not. -/
theorem inside_run {text : String} (o : Operation) (hc : c.Inside text.toList) :
    (run text c o).Inside text.toList := by
  cases o with
  | hasNext => exact hc
  | skipBlanks => exact (stays_skipBlanks hc : Keeps text.toList Reader.skipBlanks c).inside_stop
  | peekRaw => exact (keeps_peekRaw hc).inside_stop
  | peek => exact (keeps_peek hc).inside_stop
  | next => exact (keeps_next hc).inside_stop
  | back count =>
      rw [run]
      split
      · next hback => exact hc.back hback
      · exact hc
  | expect mark => exact (keeps_expect hc).inside_stop
  | takeUntil mark => exact (stays_takeWhile hc : Keeps text.toList (Reader.takeUntil mark) c).inside_stop
  | quoted quote => exact (stays_readQuoted hc).inside_stop
  | escape => exact (keeps_readEscape hc).inside_stop
  | number factor => exact (stays_readMultiple (M := fun _ => True) hc fun _ => trivial).inside_stop
  | name colon => exact (keeps_readName hc).inside_stop
  | literal => exact (keeps_readLiteral hc).inside_stop
  | kind => exact (Scheme.keeps_readKind hc).inside_stop
  | choices => exact (Scheme.keeps_readChoices hc).inside_stop
  | argument taken => exact (Scheme.stays_readArgument hc).inside_stop
  | scheme executor => exact (Scheme.stays_readCommand hc).inside_stop
  | relative scope a => exact (Prompt.stays_readRelative hc fun _ => Checked.blames_true).inside_stop
  | keyed scope command key b => exact (Prompt.stays_readKeyed hc).inside_stop
  | check x => exact (Prompt.stays_here hc Checked.blames_true).inside_stop
  | lookup commands => exact (Prompt.stays_readName (M := fun _ => True) hc).inside_stop
  | prompt scope commands =>
      exact (Prompt.stays_read (fun _ _ _ => Signature.blames_true) hc).inside_stop

theorem inside_runAll (text : String) (operations : List Operation) :
    (runAll text operations).Inside text.toList := by
  have hrun : ∀ c : Cursor, c.Inside text.toList → (operations.foldl (run text) c).Inside text.toList := by
    induction operations with
    | nil => exact fun _ hc => hc
    | cons o operations ih => exact fun _ hc => ih _ (inside_run o hc)
  exact hrun _ (Cursor.inside_start text)

end Operation

/-- The cursor stays in the text behind all operations of a host, and the faults of a text that is read as a scheme or a
prompt are at places of the text. -/
theorem Source.stays_inside (source : Source) :
    (∀ operations, (Operation.runAll source.text operations).Within source.text.toList) ∧
      (∀ executor f, Scheme.compile source executor = .error (.fault f) → f.PointsInto source) ∧
      ∀ scope commands f, Prompt.parse scope commands source = .error (.fault f) → f.PointsInto source :=
  ⟨fun operations => (Operation.inside_runAll source.text operations).within,
    fun _ _ h => Scheme.pointsInto_of_compile h, fun _ _ _ h => Prompt.pointsInto_of_parse h⟩

/-- A string that is not closed, read as a scheme and as a prompt, and a host that reads on and steps back behind it. -/
theorem Source.stays_inside_unclosed :
    ∃ (source : Source) (f g : Fault), source = ⟨"t: x:num='a", "<string>"⟩ ∧
      (Operation.runAll source.text [.scheme .none, .next, .back 2, .literal]).Within source.text.toList ∧
      Scheme.compile source .none = .error (.fault f) ∧ f.column = .integer 10 ∧ f.PointsInto source ∧
      Prompt.parse .empty [] source = .error (.fault g) ∧ g.column = .integer 1 ∧ g.PointsInto source := by
  have hcompile : Scheme.compile ⟨"t: x:num='a", "<string>"⟩ .none =
      .error (.fault (.hinted ⟨"t: x:num='a", "<string>"⟩ (.textEnds "'") 9 "close the string with '")) := by
    with_unfolding_all rfl
  have hparse : Prompt.parse .empty [] ⟨"t: x:num='a", "<string>"⟩ =
      .error (.fault (.hinted ⟨"t: x:num='a", "<string>"⟩ (.unknownCommand "t" []) 0
        "no command is registered under this name")) := by
    with_unfolding_all rfl
  obtain ⟨hoperations, hschemes, hprompts⟩ := Source.stays_inside ⟨"t: x:num='a", "<string>"⟩
  exact ⟨_, _, _, rfl, hoperations _, hcompile, rfl, hschemes _ _ hcompile, hparse, rfl, hprompts _ _ _ hparse⟩

end Prompter
