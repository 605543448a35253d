/-
Strings of bits, their fields, and arrays of machine words read as one string.

A string of bits is a function `Nat → Bool`, bit 0 first. The field of width
`n` at position `a` is the string of its bits, `get bits a n`, and
`set bits a n x` writes the low `n` bits of `x` there. The two are a lens:
reading back what was written gives it modulo `2 ^ n` (`get_set`), writing
back what was read changes nothing (`set_get`), a write leaves every bit
outside its field (`set_of_not_mem`), and writes to disjoint fields commute
(`set_comm`).

A word is assembled from pieces: a piece put above the bits already there
(`getLsbD_or_shiftLeft`), or spliced into a field of a word
(`getLsbD_splice`).

An array of `N` words of `w` bits is such a string, least significant bit
first: bit `j` is bit `j % w` of word `j / w` (`bit`). The reading loses
nothing (`ext_bit`), and storing one word changes the bits of that word only
(`bit_set`). Nothing in this file knows what the fields hold.
-/
import Mathlib

set_option autoImplicit false

namespace BitString

/-! ## Fields -/

section Field

variable (bits : Nat → Bool) (a n : Nat)

/-- The `n` bits of `bits` from position `a` on, moved down to position 0. -/
def get : Nat → Bool := fun k => decide (k < n) && bits (a + k)

/-- `bits` with its `n` bits from position `a` on replaced by the low bits of `x`. -/
def set (x : Nat → Bool) : Nat → Bool := fun j => if a ≤ j ∧ j < a + n then x (j - a) else bits j

@[simp] theorem get_apply (k : Nat) : get bits a n k = (decide (k < n) && bits (a + k)) := rfl

theorem set_of_mem {x : Nat → Bool} {j : Nat} (hj : a ≤ j ∧ j < a + n) : set bits a n x j = x (j - a) :=
  if_pos hj

/-- A write leaves every bit outside its field. -/
theorem set_of_not_mem {x : Nat → Bool} {j : Nat} (hj : ¬(a ≤ j ∧ j < a + n)) : set bits a n x j = bits j :=
  if_neg hj

/-- A field of no bits holds nothing. -/
theorem set_zero (x : Nat → Bool) : set bits a 0 x = bits := by
  funext j
  exact set_of_not_mem bits a 0 (by omega)

variable {bits a n}

/-- Reading a field gives what was written there, modulo `2 ^ n`. -/
theorem get_set (x : Nat → Bool) : get (set bits a n x) a n = get x 0 n := by
  funext k
  by_cases hk : k < n
  · rw [get_apply, get_apply, set_of_mem bits a n (by omega), Nat.add_sub_cancel_left, Nat.zero_add]
  · simp [hk]

/-- Writing back what was read changes nothing. -/
theorem set_get : set bits a n (get bits a n) = bits := by
  funext j
  by_cases hj : a ≤ j ∧ j < a + n
  · rw [set_of_mem bits a n hj, get_apply, Nat.add_sub_cancel' hj.1]
    simp only [Bool.and_eq_right_iff_imp, decide_eq_true_eq]
    intro
    omega
  · exact set_of_not_mem bits a n hj

/-- Writes to disjoint fields commute. -/
theorem set_comm {b m : Nat} (x y : Nat → Bool) (hd : a + n ≤ b ∨ b + m ≤ a) :
    set (set bits a n x) b m y = set (set bits b m y) a n x := by
  funext j
  by_cases ha : a ≤ j ∧ j < a + n
  · -- in the first field, so outside the second
    have hb : ¬(b ≤ j ∧ j < b + m) := by omega
    rw [set_of_not_mem _ b m hb, set_of_mem _ a n ha, set_of_mem _ a n ha]
  · rw [set_of_not_mem _ a n ha]
    by_cases hb : b ≤ j ∧ j < b + m
    · rw [set_of_mem _ b m hb, set_of_mem _ b m hb]
    · rw [set_of_not_mem _ b m hb, set_of_not_mem _ b m hb, set_of_not_mem _ a n ha]

end Field

/-! ## Words built up from pieces -/

section Pieces

variable {v : Nat}

/-- A string of `s` bits with a piece of `n` bits put above it. -/
theorem getLsbD_or_shiftLeft {s n : Nat} {x y : BitVec v} {B : Nat → Bool}
    (hx : ∀ k, x.getLsbD k = (decide (k < s) && B k))
    (hy : ∀ p, y.getLsbD p = (decide (p < n) && B (s + p))) (hv : s + n ≤ v) (k : Nat) :
    (x ||| y <<< s).getLsbD k = (decide (k < s + n) && B k) := by
  rw [BitVec.getLsbD_or, BitVec.getLsbD_shiftLeft, hx, hy]
  by_cases hk : k < s
  · have hkn : k < s + n := by omega
    simp [hk, hkn]
  · have hsk : s + (k - s) = k := by omega
    rw [hsk]
    by_cases hkn : k < s + n
    · have hkv : k < v := by omega
      have hks : k - s < n := by omega
      simp [hk, hkn, hkv, hks]
    · have hks : ¬k - s < n := by omega
      simp [hk, hkn, hks]

/-- A word with the bits `[s, e)` replaced: `m` clears them and keeps the
others, and `c` has no bit outside them. -/
theorem getLsbD_splice {s e : Nat} {word m c : BitVec v}
    (hm : ∀ p < v, m.getLsbD p = !decide (s ≤ p ∧ p < e))
    (hc : ∀ p, ¬(s ≤ p ∧ p < e) → c.getLsbD p = false) (p : Nat) :
    ((word &&& m) ||| c).getLsbD p = if s ≤ p ∧ p < e then c.getLsbD p else word.getLsbD p := by
  by_cases hp : p < v
  · rw [BitVec.getLsbD_or, BitVec.getLsbD_and, hm p hp]
    by_cases hin : s ≤ p ∧ p < e
    · simp [hin]
    · simp [hin, hc p hin]
  · have hge : v ≤ p := Nat.le_of_not_lt hp
    simp [BitVec.getLsbD_of_ge _ _ hge]

end Pieces

/-! ## Arrays of words -/

section Words

variable {w N : Nat}

/-- Bit `j` of an array of words, `false` past its end. -/
def bit (arr : Vector (BitVec w) N) (j : Nat) : Bool :=
  if h : j / w < N then arr[j / w].getLsbD (j % w) else false

/-- Bit `p` of word `i` is bit `i * w + p` of the array. -/
theorem bit_of_lt (arr : Vector (BitVec w) N) {i p : Nat} (hi : i < N) (hp : p < w) :
    bit arr (i * w + p) = arr[i].getLsbD p := by
  have hw : 0 < w := Nat.lt_of_le_of_lt (Nat.zero_le p) hp
  have hdiv : (i * w + p) / w = i := by
    rw [Nat.add_comm, Nat.add_mul_div_right _ _ hw, Nat.div_eq_of_lt hp, Nat.zero_add]
  have hmod : (i * w + p) % w = p := by
    rw [Nat.add_comm, Nat.add_mul_mod_self_right, Nat.mod_eq_of_lt hp]
  simp only [bit, hdiv, hmod, dif_pos hi]

/-- Two arrays with the same bits are the same array. -/
theorem ext_bit {arr arr' : Vector (BitVec w) N} (h : ∀ j, bit arr j = bit arr' j) : arr = arr' := by
  apply Vector.ext
  intro i hi
  apply BitVec.eq_of_getLsbD_eq
  intro p hp
  rw [← bit_of_lt arr hi hp, ← bit_of_lt arr' hi hp]
  exact h _

/-- Storing word `i` changes the bits of that word only. -/
theorem bit_set (arr : Vector (BitVec w) N) {i : Nat} (hi : i < N) (x : BitVec w) (j : Nat) :
    bit (arr.set i x hi) j = if j / w = i then x.getLsbD (j % w) else bit arr j := by
  unfold bit
  by_cases hj : j / w = i
  · simp [hj, hi]
  · by_cases hN : j / w < N
    · simp [hj, hN, Ne.symm hj]
    · simp [hj, hN]

/-- **Writing a piece of a field into one word.** The array holds `B` with
the first `s` bits of the field at `a` written from `X`; the next `n` bits of
the field lie at bits `[q, q + n)` of word `i`. Storing there a word that
has `X`'s next bits in that place and the old bits elsewhere leaves the
array holding `B` with the first `s + n` bits of the field written. -/
theorem bit_set_field (hw : 0 < w) {B X : Nat → Bool} {a s n q i : Nat} (arr : Vector (BitVec w) N) (hi : i < N)
    (harr : bit arr = set B a s X) (hpos : i * w + q = a + s) (hq : q + n ≤ w) (x : BitVec w)
    (hx : ∀ p, x.getLsbD p = if q ≤ p ∧ p < q + n then X (s + (p - q)) else arr[i].getLsbD p) :
    bit (arr.set i x hi) = set B a (s + n) X := by
  funext j
  rw [bit_set]
  by_cases hj : j / w = i
  · -- `j` is bit `j % w` of word `i`
    have hdm : i * w + j % w = j := by rw [← hj]; exact Nat.div_add_mod' j w
    have hp : j % w < w := Nat.mod_lt _ hw
    rw [if_pos hj, hx]
    by_cases hin : q ≤ j % w ∧ j % w < q + n
    · rw [if_pos hin, set_of_mem B a (s + n) (by omega)]
      congr 1
      omega
    · rw [if_neg hin, ← bit_of_lt arr hi hp, hdm, harr]
      unfold set
      split_ifs <;> first | rfl | omega
  · -- the piece lies in word `i`, so `j` is outside it
    have hout : ¬(a + s ≤ j ∧ j < a + s + n) := fun ⟨h₁, h₂⟩ =>
      hj (Nat.div_eq_of_lt_le (by omega) (by rw [Nat.add_mul, Nat.one_mul]; omega))
    rw [if_neg hj, harr]
    unfold set
    split_ifs <;> first | rfl | omega

end Words

end BitString
