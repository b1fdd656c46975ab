import Prompter.Fault.Basic

namespace Prompter

structure Cursor where
  offset : Nat
  ahead : List Char
  mark : Option Int := some 0

namespace Cursor

variable {text : List Char} {c d e : Cursor} {n : Nat}

def start (text : String) : Cursor := ⟨0, text.toList, some 0⟩

def seek (text : String) (offset : Nat) (c : Cursor) : Cursor := ⟨offset, text.toList.drop offset, c.mark⟩

def skip (c : Cursor) (n : Nat) : Cursor := ⟨c.offset + n, c.ahead.drop n, c.mark⟩

def back (text : String) (count : Int) (c : Cursor) : Except Misuse Cursor :=
  if count < 0 ∨ c.offset < count then do
    discard (integerText count)
    throw (.backTooFar count c.offset)
  else .ok (c.seek text (c.offset - count.toNat))

def valueOffset (c : Cursor) : Int := c.mark.getD c.offset

def Reaches (c d : Cursor) : Prop := d.ahead <:+ c.ahead

def Passes (c d : Cursor) : Prop := c.Reaches d ∧ d.ahead.length < c.ahead.length

theorem Reaches.refl (c : Cursor) : c.Reaches c := List.suffix_rfl

theorem Reaches.length_le (h : c.Reaches d) : d.ahead.length ≤ c.ahead.length := List.IsSuffix.length_le h

theorem Reaches.trans (h : c.Reaches d) (h' : d.Reaches e) : c.Reaches e := List.IsSuffix.trans h' h

theorem Passes.reaches (h : c.Passes d) : c.Reaches d := h.1

theorem Passes.length_lt (h : c.Passes d) : d.ahead.length < c.ahead.length := h.2

theorem Passes.trans_reaches (h : c.Passes d) (h' : d.Reaches e) : c.Passes e :=
  ⟨h.reaches.trans h', Nat.lt_of_le_of_lt h'.length_le h.length_lt⟩

theorem Reaches.trans_passes (h : c.Reaches d) (h' : d.Passes e) : c.Passes e :=
  ⟨h.trans h'.reaches, Nat.lt_of_lt_of_le h'.length_lt h.length_le⟩

theorem reaches_skip (c : Cursor) (n : Nat) : c.Reaches (c.skip n) := List.drop_suffix n c.ahead

theorem skip_skip {m : Nat} : (c.skip n).skip m = c.skip (m + n) := by
  simp only [skip, List.drop_drop, Nat.add_assoc, Nat.add_comm m n]

theorem passes_skip (hc : c.ahead ≠ []) (hn : 0 < n) : c.Passes (c.skip n) := by
  have hlen := List.length_pos_iff.2 hc
  refine ⟨reaches_skip c n, ?_⟩
  simp only [skip, List.length_drop]
  omega

def Within (text : List Char) (c : Cursor) : Prop :=
  c.offset ≤ text.length ∧ c.ahead = text.drop c.offset

theorem within_start (text : String) : Within text.toList (start text) := by simp [Within, start]

theorem Within.skip (h : Within text c) (hn : n ≤ c.ahead.length) : Within text (c.skip n) := by
  obtain ⟨ho, ha⟩ := h
  simp only [ha, List.length_drop] at hn
  exact ⟨by simp only [Cursor.skip]; omega, by simp [Cursor.skip, ha]⟩

end Cursor

structure Complaint where
  cause : Cause
  offset : Int

def Complaint.fault (source : Source) (complaint : Complaint) : Except Misuse Fault :=
  Fault.ofCause source complaint.cause complaint.offset

end Prompter
