import Prompter.Text.Numeral

namespace Prompter

open Text

variable {colon : Bool} {text : List Char} {c : Char}

def nameSigns : List Char := ['_', '$', '@', '.']

def isNameStart (c : Char) : Bool := isLetter c || nameSigns.contains c

def isNamePart (c : Char) : Bool := isAlphanumeric c || nameSigns.contains c

theorem isNamePart_of_isNameStart (h : isNameStart c = true) : isNamePart c = true := by
  simp only [isNameStart, isNamePart, Bool.or_eq_true] at *
  exact h.imp isAlphanumeric_of_isLetter id

/-- The identifier at the start of the text. With `colon`, a colon belongs to it when an identifier character follows;
a colon at the end is left. -/
def nameRun (colon : Bool) : List Char → List Char
  | [] => []
  | c :: rest =>
      if isNamePart c then c :: nameRun colon rest
      else if colon && c == ':' && rest.head?.any isNamePart then c :: nameRun colon rest
      else []

theorem nameRun_prefix : nameRun colon text <+: text := by
  induction text with
  | nil => simp [nameRun]
  | cons c rest ih =>
      simp only [nameRun]
      split
      · exact List.cons_prefix_cons.2 ⟨rfl, ih⟩
      · split
        · exact List.cons_prefix_cons.2 ⟨rfl, ih⟩
        · exact List.nil_prefix

theorem nameRun_append_of_parts {word : List Char} (h : ∀ c ∈ word, isNamePart c = true) :
    nameRun colon (word ++ text) = word ++ nameRun colon text := by
  induction word with
  | nil => rfl
  | cons c word ih =>
      obtain ⟨hc, hword⟩ := List.forall_mem_cons.1 h
      rw [List.cons_append, nameRun, if_pos hc, ih hword, List.cons_append]

theorem nameRun_false : nameRun false text = text.takeWhile isNamePart := by
  induction text with
  | nil => rfl
  | cons c rest ih => by_cases hc : isNamePart c <;> simp [nameRun, hc, ih]

theorem nameRun_ne_nil (h : isNameStart c = true) : nameRun colon (c :: text) ≠ [] := by
  simp [nameRun, isNamePart_of_isNameStart h]

def wordRun (text : List Char) : List Char := text.takeWhile fun c => isNamePart c && c != '$'

end Prompter
