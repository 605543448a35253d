/-
Rounding up to a multiple of a power of two, over natural numbers.

An allocator that carves blocks of `2 ^ k` bytes out of a region rounds its
free pointer up to the block size, then checks how many whole blocks the
rest of the region holds. When the region's size is itself a multiple of
`2 ^ k`, the rounded pointer and those blocks never run past its end: the
space lost to rounding is exactly the fraction of a block that the count
of whole blocks leaves out. `roundUp_add_floor_le` says so; the other
lemmas move the rounding past an aligned base and read it off a word mask.
Nothing in this file knows what the blocks are.
-/
import Mathlib

set_option autoImplicit false

namespace Align

/-- `x` rounded up to a multiple of `2 ^ k`. -/
def roundUp (x k : Nat) : Nat := (x + 2 ^ k - 1) / 2 ^ k * 2 ^ k

section RoundUp

variable {x k : Nat}

theorem dvd_roundUp : 2 ^ k ∣ roundUp x k := Nat.dvd_mul_left _ _

/-- Rounding up never goes down. -/
theorem le_roundUp : x ≤ roundUp x k := by
  have hpos := Nat.two_pow_pos k
  have hdm := Nat.div_add_mod (x + 2 ^ k - 1) (2 ^ k)
  have hlt := Nat.mod_lt (x + 2 ^ k - 1) hpos
  rw [roundUp, Nat.mul_comm]
  omega

/-- A base that is already aligned passes through the rounding. -/
theorem roundUp_add_of_dvd {a : Nat} (h : 2 ^ k ∣ a) : roundUp (a + x) k = a + roundUp x k := by
  obtain ⟨m, rfl⟩ := h
  have hpos := Nat.two_pow_pos k
  have hsum : 2 ^ k * m + x + 2 ^ k - 1 = x + 2 ^ k - 1 + 2 ^ k * m := by omega
  rw [roundUp, roundUp, hsum, Nat.add_mul_div_left _ _ hpos, Nat.add_mul, Nat.mul_comm m, Nat.add_comm]

/-- **Rounding up and then taking whole blocks stays inside an aligned
region.** From `x` in a region of `M` bytes, `M` a multiple of `2 ^ k`, the
rounded pointer plus as many blocks as the bytes left hold does not pass
`M`. -/
theorem roundUp_add_floor_le {M : Nat} (hM : 2 ^ k ∣ M) (h : x ≤ M) :
    roundUp x k + (M - x) / 2 ^ k * 2 ^ k ≤ M := by
  obtain ⟨K, rfl⟩ := hM
  have hpos := Nat.two_pow_pos k
  have hup : (x + 2 ^ k - 1) / 2 ^ k * 2 ^ k ≤ x + 2 ^ k - 1 := Nat.div_mul_le_self _ _
  have hdown : (2 ^ k * K - x) / 2 ^ k * 2 ^ k ≤ 2 ^ k * K - x := Nat.div_mul_le_self _ _
  -- the two counts together stay below `K + 1` blocks, hence at most `K`
  have hcount : (x + 2 ^ k - 1) / 2 ^ k + (2 ^ k * K - x) / 2 ^ k < K + 1 := by
    apply Nat.lt_of_mul_lt_mul_right (a := 2 ^ k)
    rw [Nat.add_mul, Nat.add_mul, Nat.one_mul, Nat.mul_comm K]
    omega
  calc roundUp x k + (2 ^ k * K - x) / 2 ^ k * 2 ^ k
      = ((x + 2 ^ k - 1) / 2 ^ k + (2 ^ k * K - x) / 2 ^ k) * 2 ^ k := by rw [roundUp, Nat.add_mul]
    _ ≤ K * 2 ^ k := Nat.mul_le_mul_right _ (Nat.le_of_lt_succ hcount)
    _ = 2 ^ k * K := Nat.mul_comm _ _

/-- So any count of blocks up to that many fits after the rounded pointer. -/
theorem roundUp_add_mul_le {M n : Nat} (hM : 2 ^ k ∣ M) (h : x ≤ M) (hn : n ≤ (M - x) / 2 ^ k) :
    roundUp x k + n * 2 ^ k ≤ M :=
  calc roundUp x k + n * 2 ^ k
      ≤ roundUp x k + (M - x) / 2 ^ k * 2 ^ k := Nat.add_le_add_left (Nat.mul_le_mul_right _ hn) _
    _ ≤ M := roundUp_add_floor_le hM h

/-- A block aligned to its size that starts below an aligned bound ends at
or before it. -/
theorem add_le_of_dvd_of_lt {a M : Nat} (ha : 2 ^ k ∣ a) (hM : 2 ^ k ∣ M) (h : a < M) : a + 2 ^ k ≤ M := by
  obtain ⟨p, rfl⟩ := ha
  obtain ⟨q, rfl⟩ := hM
  have hpq : p + 1 ≤ q := Nat.lt_of_mul_lt_mul_left h
  calc 2 ^ k * p + 2 ^ k = 2 ^ k * (p + 1) := by rw [Nat.mul_succ]
    _ ≤ 2 ^ k * q := Nat.mul_le_mul_left _ hpq

/-- Consecutive blocks of one size do not overlap. -/
theorem block_disjoint {base i j : Nat} (hij : i < j) : base + i * 2 ^ k + 2 ^ k ≤ base + j * 2 ^ k := by
  have : (i + 1) * 2 ^ k ≤ j * 2 ^ k := Nat.mul_le_mul_right _ hij
  rw [Nat.add_mul, Nat.one_mul] at this
  omega

/-- Adding its lowest set bit to `x` carries into the next: if `2 ^ k` is the
largest power of two dividing `x`, then `2 ^ (k + 1)` divides `x + 2 ^ k`. -/
theorem two_pow_succ_dvd_add {x : Nat} (h : 2 ^ k ∣ x) (hn : ¬ 2 ^ (k + 1) ∣ x) : 2 ^ (k + 1) ∣ x + 2 ^ k := by
  obtain ⟨m, rfl⟩ := h
  -- the quotient is odd, or the next power would divide too
  have hodd : m % 2 = 1 := by
    by_contra hm
    exact hn ⟨m / 2, by rw [Nat.pow_succ, Nat.mul_assoc, Nat.mul_div_cancel' (Nat.dvd_of_mod_eq_zero (by omega))]⟩
  refine ⟨(m + 1) / 2, ?_⟩
  rw [Nat.pow_succ, Nat.mul_assoc, Nat.mul_div_cancel' (Nat.dvd_of_mod_eq_zero (by omega)), Nat.mul_add, Nat.mul_one]

end RoundUp

/-! ## Reading the rounding off a mask -/

/-- `2 ^ w - 2 ^ k` is the mask of the bits from `k` to `w`. -/
theorem two_pow_sub_two_pow {w k : Nat} (hk : k ≤ w) : 2 ^ w - 2 ^ k = (2 ^ (w - k) - 1) * 2 ^ k := by
  rw [Nat.sub_mul, Nat.one_mul, ← Nat.pow_add, Nat.sub_add_cancel hk]

/-- Masking off the bits below `k` of a `w`-bit value rounds it down to a
multiple of `2 ^ k`. -/
theorem and_two_pow_sub_two_pow {x w k : Nat} (hx : x < 2 ^ w) (hk : k ≤ w) :
    x &&& (2 ^ w - 2 ^ k) = x / 2 ^ k * 2 ^ k := by
  rw [two_pow_sub_two_pow hk]
  apply Nat.eq_of_testBit_eq
  intro i
  simp only [Nat.testBit_and, Nat.testBit_mul_two_pow, Nat.testBit_two_pow_sub_one, Nat.testBit_div_two_pow]
  by_cases hki : k ≤ i
  · have hi : i - k + k = i := Nat.sub_add_cancel hki
    by_cases hiw : i < w
    · have : i - k < w - k := by omega
      simp [hki, hi, this]
    · have : ¬ i - k < w - k := by omega
      have hbit : x.testBit i = false := Nat.testBit_eq_false_of_lt
        (Nat.lt_of_lt_of_le hx (Nat.pow_le_pow_right (by decide) (Nat.le_of_not_lt hiw)))
      simp [hki, hi, this, hbit]
  · simp [hki]

end Align
