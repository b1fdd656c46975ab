import Mathlib.Algebra.Group.Nat.Defs
import Prompter.Literal.Reader
import Prompter.Proofs.Reading

namespace Prompter

namespace Decimal

variable {num den : Nat} {e : Int} {i : Int}

theorem roundHalfEven_le : roundHalfEven num den ≤ num / den + 1 := by
  simp only [roundHalfEven]
  split <;> omega

theorem lastPlace_ge : (num.log2 : Int) - 53 ≤ lastPlace num 1 := by
  have hlog : Nat.log2 1 = 0 := rfl
  simp only [lastPlace, hlog]
  split <;> omega

theorem lastPlace_le : lastPlace num 1 ≤ max ((num.log2 : Int) - 52) (-1074) := by
  have hlog : Nat.log2 1 = 0 := rfl
  simp only [lastPlace, hlog]
  split <;> omega

/-- In units of its last place, a number has 54 bits at most. -/
theorem scaledByTwo_div_lt (he : (num.log2 : Int) - 53 ≤ e) :
    (scaledByTwo num 1 e).1 / (scaledByTwo num 1 e).2 < 2 ^ 54 := by
  apply Nat.div_lt_of_lt_mul
  simp only [scaledByTwo, Nat.pow_eq, Nat.one_mul]
  have hnum : num < 2 ^ (num.log2 + 1) := Nat.lt_log2_self
  calc num * 2 ^ (-e).toNat
      < 2 ^ (num.log2 + 1) * 2 ^ (-e).toNat := Nat.mul_lt_mul_of_pos_right hnum (Nat.two_pow_pos _)
    _ = 2 ^ (num.log2 + 1 + (-e).toNat) := (Nat.pow_add _ _ _).symm
    _ ≤ 2 ^ (e.toNat + 54) := Nat.pow_le_pow_right (by omega) (by omega)
    _ = 2 ^ e.toNat * 2 ^ 54 := Nat.pow_add _ _ _

theorem nearestBits?_isSome (h : num < 2 ^ 64) : (nearestBits? num 1).isSome := by
  rw [nearestBits?]
  split
  · rfl
  · next hne =>
      have hlog : num.log2 < 64 := (Nat.log2_lt hne).2 h
      have hplace : lastPlace num 1 ≤ max ((num.log2 : Int) - 52) (-1074) := lastPlace_le
      have hscaled := scaledByTwo_div_lt (lastPlace_ge : (num.log2 : Int) - 53 ≤ lastPlace num 1)
      dsimp only
      generalize scaledByTwo num 1 (lastPlace num 1) = scaled at hscaled ⊢
      obtain ⟨n, d⟩ := scaled
      dsimp only at hscaled ⊢
      have hround : roundHalfEven n d ≤ n / d + 1 := roundHalfEven_le
      have hpow : Nat.pow 2 52 = 2 ^ 52 := rfl
      have hbits : (lastPlace num 1 + 1074).toNat * Nat.pow 2 52 + roundHalfEven n d < 0x7ff * Nat.pow 2 52 := by
        rw [hpow]
        omega
      rw [if_pos hbits]
      rfl

theorem ofInt?_isSome (h : i.natAbs < 2 ^ 64) : (ofInt? i).isSome := by
  simp only [ofInt?, nearest?, Option.isSome_map]
  exact nearestBits?_isSome h

end Decimal

namespace Literal

def InRange (l : Literal) : Prop := ∀ i, l = integer i → -0x8000000000000000 ≤ i ∧ i < 0x8000000000000000

theorem inRange_integer {i : Int} : (integer i).InRange ↔ -0x8000000000000000 ≤ i ∧ i < 0x8000000000000000 := by
  simp [InRange]

theorem InRange.ofInt?_isSome {i : Int} (h : (integer i).InRange) : (Decimal.ofInt? i).isSome := by
  have hi := h i rfl
  exact Decimal.ofInt?_isSome (by omega)

end Literal

open Reader

variable {c d : Cursor} {l : Literal} {start : Nat} {sign : Int}

theorem signed_integer_eq_ok {m : Nat} : (Numeral.integer m).signed start sign c = .ok l d ↔
    (Literal.integer (sign * m)).InRange ∧ .integer (sign * m) = l ∧ c = d := by
  rw [Literal.inRange_integer, Numeral.signed, boundedInteger]
  split
  · next h => simp [h, pure_eq_ok]
  · next h => simp [h, failAt_ne_ok]

theorem signed_scaled_eq_ok {mantissa : Nat} {exponent : Int}
    (h : (Numeral.scaled mantissa exponent).signed start sign c = .ok l d) : ∃ x, l = .number x := by
  simp only [Numeral.signed, boundedNumber] at h
  generalize Decimal.ofInt? sign = s, Decimal.ofScaled? mantissa exponent = x at h
  split at h
  · split at h
    · exact ⟨_, (pure_eq_ok.1 h).1.symm⟩
    · exact absurd h failAt_ne_ok
  · exact absurd h failAt_ne_ok

theorem inRange_of_signed {n : Numeral} (h : n.signed start sign c = .ok l d) : l.InRange := by
  cases n with
  | integer m =>
      obtain ⟨hrange, rfl, _⟩ := signed_integer_eq_ok.1 h
      exact hrange
  | scaled mantissa exponent =>
      obtain ⟨x, rfl⟩ := signed_scaled_eq_ok h
      exact nofun

theorem inRange_of_readNumber (h : readNumber sign c = .ok l d) : l.InRange := by
  obtain ⟨start, c₁, _, h⟩ := bind_eq_ok.1 h
  obtain ⟨n, c₂, _, h⟩ := bind_eq_ok.1 h
  exact inRange_of_signed h

theorem Literal.inRange_ofWord (word : String) : (ofWord word).InRange := by
  intro i hi
  -- No word stands for an integer.
  have hreserved : ∀ e ∈ reserved, e.2 ≠ integer i := by simp [reserved]
  rw [ofWord] at hi
  cases hl : reserved.lookup word with
  | none =>
      rw [hl] at hi
      cases hi
  | some l =>
      rw [hl] at hi
      exact absurd hi (hreserved (word, l) (mem_of_lookup hl))

theorem inRange_of_readLiteral (h : readLiteral c = .ok l d) : l.InRange := by
  rw [readLiteral, bind_eq_ok] at h
  obtain ⟨x, c₁, _, h⟩ := h
  split at h
  · obtain ⟨word, c₂, _, h⟩ := bind_eq_ok.1 h
    obtain ⟨rfl, _⟩ := pure_eq_ok.1 h
    exact Literal.inRange_ofWord _
  split at h
  · obtain ⟨_, c₂, _, h⟩ := bind_eq_ok.1 h
    obtain ⟨s, c₃, _, h⟩ := bind_eq_ok.1 h
    obtain ⟨rfl, _⟩ := pure_eq_ok.1 h
    exact nofun
  split at h
  · obtain ⟨_, c₂, _, h⟩ := bind_eq_ok.1 h
    exact inRange_of_readNumber h
  split at h
  · obtain ⟨_, c₂, _, h⟩ := bind_eq_ok.1 h
    exact inRange_of_readNumber h
  split at h
  · exact inRange_of_readNumber h
  · exact absurd h fail_ne_ok

end Prompter
