/-
The bitfield codec under every kernel object (`sel4_bitfield_types.rs`).

A kernel object's fields sit at bit ranges `[start, end)` of an array of `N`
words of a primitive type `T`, least significant bit first. `get_bits` reads
a range into a value of a primitive type `U`, and `set_bits` writes one: each
takes what the range has of its first word, then loops over the words after
it, a whole word or the rest of the range at a time. Values are `BitVec`s of
the primitive's width; `none` is a panic: an `assert!` or `debug_assert!`
that fails, an index past the array, a shift by the whole width or more
(Rust's overflow check), or a `checked_cast` of a value the target cannot
hold (`unreachable!()`).

What is proved, and where the work was. `get_bits_spec` and `set_bits_spec`
say that both functions return for every range that `check_range` accepts and
that starts inside the array, and that they compute the abstract field of the
array's bits (`BitString.get`, `BitString.set`). The work is in the loops
(`get_bits_loop_spec`, `set_bits_loop_spec`): after the first word, the range
left starts at a word boundary, and each turn adds one word's piece. The lens
laws then come from the abstract ones (`BitString.get_set` and the rest),
with `BitString.ext_bit` to turn equal bits into equal arrays.

`check_range` lets through the empty range at the very end of the array,
`start = end = N * NUM_BITS`. The first word's index is then `N`, and both
functions panic on it (`get_bits_at_end`, `set_bits_at_end`).
-/
import Rel4Kernel.Lib.BitString

set_option autoImplicit false

namespace Rel4Kernel

open BitString

/-- The primitives of the codec (`impl BitfieldPrimitive for u8 .. u128`). -/
inductive BitfieldPrimitive where
  | u8 | u16 | u32 | u64 | u128
  deriving DecidableEq, Repr

/-- `NUM_BITS`: `mem::size_of::<Self>() * 8`. -/
def BitfieldPrimitive.NUM_BITS : BitfieldPrimitive → Nat
  | u8 => 8
  | u16 => 16
  | u32 => 32
  | u64 => 64
  | u128 => 128

theorem BitfieldPrimitive.NUM_BITS_pos (T : BitfieldPrimitive) : 0 < T.NUM_BITS := by
  cases T <;> decide

/-! ## The primitive operations

The code is generic over the primitive; the model over its width `w`. -/

section Ops

variable {w : Nat}

/-- `x << n`, which panics when `n` reaches the width. -/
def checked_shl (x : BitVec w) (n : Nat) : Option (BitVec w) := if n < w then some (x <<< n) else none

/-- `x >> n`, which panics when `n` reaches the width. -/
def checked_shr (x : BitVec w) (n : Nat) : Option (BitVec w) := if n < w then some (x >>> n) else none

/-- `BitfieldPrimitiveExt::mask(range)`: ones at `range`. -/
def mask (w start end_ : Nat) : Option (BitVec w) :=
  -- the two `debug_assert!`s
  if start ≤ end_ ∧ end_ ≤ w then
    let num_bits := end_ - start
    -- avoid overflow
    if num_bits = 0 then some 0
    else if num_bits = w then some (~~~0)
    else (checked_shl (~~~0 : BitVec w) num_bits).bind fun m => checked_shl (~~~m) start
  else none

/-- `BitfieldPrimitiveExt::take`: the low `num_bits` bits. -/
def take (x : BitVec w) (num_bits : Nat) : Option (BitVec w) := (mask w 0 num_bits).map (x &&& ·)

/-- `checked_cast`: `try_into` from one primitive to another, `unreachable!()`
where the value does not fit. -/
def checked_cast (v : Nat) (x : BitVec w) : Option (BitVec v) :=
  if x.toNat < 2 ^ v then some (BitVec.ofNat v x.toNat) else none

/-- `check_range::<T, N, U>`: its three `assert!`s, with `w` the width of `T`
and `v` that of `U`. -/
def check_range (w N v start end_ : Nat) : Option Unit :=
  if start ≤ end_ ∧ end_ ≤ N * w ∧ end_ - start ≤ v then some () else none

end Ops

/-! ## `get_bits` and `set_bits` -/

section Codec

variable {w N v : Nat}

/-- The `while` loop of `get_bits`, over the words after the first. `fuel`
counts the words: a loop that needs more turns reads past the array. -/
def get_bits_loop (arr : Vector (BitVec w) N) (num_bits : Nat) :
    Nat → BitVec v → Nat → Nat → Option (BitVec v)
  | 0, bits, num_bits_so_far, _ => if num_bits_so_far < num_bits then none else some bits
  | fuel + 1, bits, num_bits_so_far, index_of_cur_primitive =>
    if num_bits_so_far < num_bits then
      let num_bits_from_cur_primitive := (num_bits - num_bits_so_far).min w
      if h : index_of_cur_primitive < N then do
        let bits_from_cur_primitive ← take arr[index_of_cur_primitive] num_bits_from_cur_primitive
        let c ← checked_cast v bits_from_cur_primitive
        let c ← checked_shl c num_bits_so_far
        get_bits_loop arr num_bits fuel (bits ||| c) (num_bits_so_far + num_bits_from_cur_primitive)
          (index_of_cur_primitive + 1)
      else none
    else some bits

/-- `get_bits(arr, start..end_)`, into a primitive of width `v`. -/
def get_bits (v : Nat) (arr : Vector (BitVec w) N) (start end_ : Nat) : Option (BitVec v) := do
  check_range w N v start end_
  let num_bits := end_ - start
  let index_of_first_primitive := start / w
  let offset_into_first_primitive := start % w
  let num_bits_from_first_primitive := (w - offset_into_first_primitive).min num_bits
  if h : index_of_first_primitive < N then
    let x ← checked_shr arr[index_of_first_primitive] offset_into_first_primitive
    let bits_from_first_primitive ← take x num_bits_from_first_primitive
    let bits ← checked_cast v bits_from_first_primitive
    get_bits_loop arr num_bits N bits num_bits_from_first_primitive (index_of_first_primitive + 1)
  else none

/-- The `while` loop of `set_bits`, over the words after the first. -/
def set_bits_loop (bits : BitVec v) (num_bits : Nat) :
    Nat → Vector (BitVec w) N → Nat → Nat → Option (Vector (BitVec w) N)
  | 0, arr, num_bits_so_far, _ => if num_bits_so_far < num_bits then none else some arr
  | fuel + 1, arr, num_bits_so_far, index_of_cur_primitive =>
    if num_bits_so_far < num_bits then do
      let num_bits_for_cur_primitive := (num_bits - num_bits_so_far).min w
      let x ← checked_shr bits num_bits_so_far
      let bits_for_cur_primitive ← take x num_bits_for_cur_primitive
      if h : index_of_cur_primitive < N then
        let m ← mask w num_bits_for_cur_primitive w
        let c ← checked_cast w bits_for_cur_primitive
        set_bits_loop bits num_bits fuel
          (arr.set index_of_cur_primitive ((arr[index_of_cur_primitive] &&& m) ||| c) h)
          (num_bits_so_far + num_bits_for_cur_primitive) (index_of_cur_primitive + 1)
      else none
    else some arr

/-- `set_bits(arr, start..end_, bits)`, from a primitive of width `v`. -/
def set_bits (arr : Vector (BitVec w) N) (start end_ : Nat) (bits : BitVec v) :
    Option (Vector (BitVec w) N) := do
  check_range w N v start end_
  let num_bits := end_ - start
  let index_of_first_primitive := start / w
  let offset_into_first_primitive := start % w
  let num_bits_for_first_primitive := (w - offset_into_first_primitive).min num_bits
  let bits_for_first_primitive ← take bits num_bits_for_first_primitive
  if h : index_of_first_primitive < N then
    let m ← mask w offset_into_first_primitive (offset_into_first_primitive + num_bits_for_first_primitive)
    let c ← checked_cast w bits_for_first_primitive
    let c ← checked_shl c offset_into_first_primitive
    set_bits_loop bits num_bits N
      (arr.set index_of_first_primitive ((arr[index_of_first_primitive] &&& ~~~m) ||| c) h)
      num_bits_for_first_primitive (index_of_first_primitive + 1)
  else none

end Codec

/-! ## What the primitive operations compute -/

section OpSpecs

variable {w : Nat}

theorem checked_shl_of_lt (x : BitVec w) {n : Nat} (h : n < w) : checked_shl x n = some (x <<< n) :=
  if_pos h

theorem checked_shr_of_lt (x : BitVec w) {n : Nat} (h : n < w) : checked_shr x n = some (x >>> n) :=
  if_pos h

/-- A range inside the word gives its mask, whichever of the three arms builds it. -/
theorem mask_spec {start end_ : Nat} (h₁ : start ≤ end_) (h₂ : end_ ≤ w) :
    ∃ m, mask w start end_ = some m ∧ ∀ p, m.getLsbD p = (decide (start ≤ p) && decide (p < end_)) := by
  unfold mask
  rw [if_pos ⟨h₁, h₂⟩]
  dsimp only
  by_cases h0 : end_ - start = 0
  · refine ⟨0, by rw [if_pos h0], fun p => ?_⟩
    rw [Bool.eq_iff_iff]
    simp
    omega
  · rw [if_neg h0]
    by_cases hw : end_ - start = w
    · -- the whole word: `start` is 0 and `end_` is `w`
      refine ⟨~~~0, by rw [if_pos hw], fun p => ?_⟩
      rw [Bool.eq_iff_iff]
      simp
      omega
    · rw [if_neg hw, checked_shl_of_lt _ (by omega : end_ - start < w), Option.bind_some,
        checked_shl_of_lt _ (by omega : start < w)]
      refine ⟨_, rfl, fun p => ?_⟩
      rw [Bool.eq_iff_iff]
      simp [BitVec.getLsbD_shiftLeft]
      omega

theorem take_spec (x : BitVec w) {n : Nat} (h : n ≤ w) :
    ∃ y, take x n = some y ∧ ∀ p, y.getLsbD p = (decide (p < n) && x.getLsbD p) := by
  obtain ⟨m, hm, hbits⟩ := mask_spec (Nat.zero_le n) h
  refine ⟨x &&& m, by rw [take, hm]; rfl, fun p => ?_⟩
  rw [BitVec.getLsbD_and, hbits]
  simp [Bool.and_comm]

/-- A value with no bit at or above `v` fits a primitive of width `v`, and
keeps its bits. -/
theorem checked_cast_spec {v : Nat} {x : BitVec w} (h : ∀ p, v ≤ p → x.getLsbD p = false) :
    ∃ y, checked_cast v x = some y ∧ ∀ p, y.getLsbD p = x.getLsbD p := by
  have hlt : x.toNat < 2 ^ v :=
    Nat.lt_pow_two_of_testBit _ fun p hp => by rw [BitVec.testBit_toNat]; exact h p hp
  refine ⟨BitVec.ofNat v x.toNat, if_pos hlt, fun p => ?_⟩
  rw [BitVec.getLsbD_ofNat, BitVec.testBit_toNat]
  by_cases hp : p < v
  · simp [hp]
  · simp [hp, h p (Nat.le_of_not_lt hp)]

/-- The low `n` bits of a word, taken and cast to a primitive of at least
`n` bits, keep their place. -/
theorem take_cast_spec (x : BitVec w) {n v : Nat} (hw : n ≤ w) (hv : n ≤ v) :
    ∃ y c, take x n = some y ∧ checked_cast v y = some c ∧
      ∀ p, c.getLsbD p = (decide (p < n) && x.getLsbD p) := by
  obtain ⟨y, hy, hbits⟩ := take_spec x hw
  obtain ⟨c, hc, hbitsc⟩ := checked_cast_spec (v := v) (x := y) fun p hp => by
    rw [hbits]
    simp only [Bool.and_eq_false_imp, decide_eq_true_eq]
    omega
  exact ⟨y, c, hy, hc, fun p => by rw [hbitsc, hbits]⟩

end OpSpecs

/-! ## `get_bits` computes the field -/

section GetSpec

variable {w N v : Nat} (arr : Vector (BitVec w) N)

/-- The word at index `idx` holds the `n ≤ w` bits from `start + so_far` on
when `idx * w = start + so_far`. -/
theorem bit_of_aligned {start so_far idx n : Nat} (halign : idx * w = start + so_far) (hidx : idx < N)
    (hn : n ≤ w) {p : Nat} (hp : p < n) : bit arr (start + (so_far + p)) = arr[idx].getLsbD p := by
  rw [← Nat.add_assoc, ← halign]
  exact bit_of_lt arr hidx (by omega)

/-- While bits of a field inside the array are left, the word where they
start is in the array. -/
theorem word_lt_of_bits_left {start num_bits so_far idx : Nat} (hend : start + num_bits ≤ N * w)
    (hlt : so_far < num_bits) (hal : idx * w = start + so_far) : idx < N :=
  Nat.lt_of_mul_lt_mul_right (by omega : idx * w < N * w)

/-- **The loop of `get_bits`.** The invariant: `bits` holds the first `so_far`
bits of the field, and when bits are left, `idx` is the word where they
start, at its bit 0. `N ≤ idx + fuel` is enough fuel: the loop never reads
past the array. -/
theorem get_bits_loop_spec {start num_bits : Nat} (hend : start + num_bits ≤ N * w) (hv : num_bits ≤ v) :
    ∀ fuel (bits : BitVec v) so_far idx,
      (∀ k, bits.getLsbD k = (decide (k < so_far) && bit arr (start + k))) → so_far ≤ num_bits →
      (so_far < num_bits → idx * w = start + so_far) → N ≤ idx + fuel →
      ∃ y, get_bits_loop arr num_bits fuel bits so_far idx = some y ∧
        ∀ k, y.getLsbD k = BitString.get (bit arr) start num_bits k := by
  intro fuel
  induction fuel with
  | zero =>
    intro bits so_far idx hbits hle halign hfuel
    by_cases hlt : so_far < num_bits
    · -- bits are left, so word `idx` is in the array: not with no fuel left
      exact absurd (word_lt_of_bits_left hend hlt (halign hlt)) (by omega)
    · refine ⟨bits, if_neg hlt, fun k => ?_⟩
      rw [hbits, get_apply, Nat.le_antisymm hle (Nat.le_of_not_lt hlt)]
  | succ fuel ih =>
    intro bits so_far idx hbits hle halign hfuel
    by_cases hlt : so_far < num_bits
    · have hal := halign hlt
      have hidx : idx < N := word_lt_of_bits_left hend hlt hal
      -- one turn: the next `n` bits, a whole word or the rest of the field
      set n := (num_bits - so_far).min w with hn
      have hn' : n = min (num_bits - so_far) w := hn
      have hnw : n ≤ w := by omega
      have hnr : so_far + n ≤ num_bits := by omega
      obtain ⟨y₁, c, hy₁, hc, hbitsc⟩ := take_cast_spec arr[idx] hnw (by omega : n ≤ v)
      have hpiece : ∀ p, c.getLsbD p = (decide (p < n) && bit arr (start + (so_far + p))) := fun p => by
        rw [hbitsc]
        by_cases hp : p < n
        · rw [bit_of_aligned arr hal hidx hnw hp]
        · simp [hp]
      have hstep := getLsbD_or_shiftLeft (B := fun k => bit arr (start + k)) (n := n) hbits hpiece
        (by omega)
      obtain ⟨y, hy, hbitsy⟩ := ih (bits ||| c <<< so_far) (so_far + n) (idx + 1) hstep hnr
        (fun hlt' => by rw [Nat.add_mul, Nat.one_mul, hal]; omega) (by omega)
      refine ⟨y, ?_, hbitsy⟩
      simp only [get_bits_loop, if_pos hlt, dif_pos hidx, ← hn, hy₁, hc,
        checked_shl_of_lt c (by omega : so_far < v), Option.bind_eq_bind, Option.bind_some, hy]
    · refine ⟨bits, by simp only [get_bits_loop, if_neg hlt], fun k => ?_⟩
      rw [hbits, get_apply, Nat.le_antisymm hle (Nat.le_of_not_lt hlt)]

/-- **`get_bits` computes the field.** For every range that `check_range`
accepts and that starts inside the array, `get_bits` returns, with the
range's bits. -/
theorem get_bits_spec (hw : 0 < w) {start end_ : Nat} (hr : start ≤ end_) (hN : end_ ≤ N * w)
    (hv : end_ - start ≤ v) (hs : start < N * w) :
    ∃ y, get_bits v arr start end_ = some y ∧
      ∀ k, y.getLsbD k = BitString.get (bit arr) start (end_ - start) k := by
  have hidx : start / w < N := (Nat.div_lt_iff_lt_mul hw).mpr hs
  have hoff : start % w < w := Nat.mod_lt _ hw
  have hdm : start / w * w + start % w = start := Nat.div_add_mod' start w
  -- the first word: its bits from `start % w` on, at most to its end
  set n₀ := (w - start % w).min (end_ - start) with hn₀
  have hn₀' : n₀ = min (w - start % w) (end_ - start) := hn₀
  obtain ⟨y₁, c, hy₁, hc, hbitsc⟩ :=
    take_cast_spec (arr[start / w] >>> (start % w)) (n := n₀) (by omega) (by omega : n₀ ≤ v)
  have hfirst : ∀ k, c.getLsbD k = (decide (k < n₀) && bit arr (start + k)) := fun k => by
    rw [hbitsc, BitVec.getLsbD_ushiftRight]
    by_cases hk : k < n₀
    · have hpos : start + k = start / w * w + (start % w + k) := by omega
      rw [hpos, bit_of_lt arr hidx (by omega)]
    · simp [hk]
  obtain ⟨y, hy, hbitsy⟩ := get_bits_loop_spec arr (by omega) hv N c n₀ (start / w + 1) hfirst (by omega)
    (fun _ => by rw [Nat.add_mul, Nat.one_mul]; omega) (Nat.le_add_left N _)
  refine ⟨y, ?_, hbitsy⟩
  simp only [get_bits, check_range, if_pos (⟨hr, hN, hv⟩ : start ≤ end_ ∧ end_ ≤ N * w ∧ end_ - start ≤ v),
    dif_pos hidx, checked_shr_of_lt _ hoff, ← hn₀, hy₁, hc, Option.bind_eq_bind, Option.bind_some, hy]

end GetSpec

/-! ## `set_bits` writes the field -/

section SetSpec

variable {w N v : Nat} (arr₀ : Vector (BitVec w) N) (x : BitVec v)

/-- **The loop of `set_bits`.** The invariant: the array is `arr₀` with the
first `so_far` bits of the field written, and when bits are left, `idx` is
the word where they start, at its bit 0. -/
theorem set_bits_loop_spec (hw : 0 < w) {start num_bits : Nat} (hend : start + num_bits ≤ N * w)
    (hv : num_bits ≤ v) :
    ∀ fuel (arr : Vector (BitVec w) N) so_far idx,
      bit arr = BitString.set (bit arr₀) start so_far x.getLsbD → so_far ≤ num_bits →
      (so_far < num_bits → idx * w = start + so_far) → N ≤ idx + fuel →
      ∃ arr', set_bits_loop x num_bits fuel arr so_far idx = some arr' ∧
        bit arr' = BitString.set (bit arr₀) start num_bits x.getLsbD := by
  intro fuel
  induction fuel with
  | zero =>
    intro arr so_far idx harr hle halign hfuel
    by_cases hlt : so_far < num_bits
    · exact absurd (word_lt_of_bits_left hend hlt (halign hlt)) (by omega)
    · refine ⟨arr, if_neg hlt, ?_⟩
      rw [harr, Nat.le_antisymm hle (Nat.le_of_not_lt hlt)]
  | succ fuel ih =>
    intro arr so_far idx harr hle halign hfuel
    by_cases hlt : so_far < num_bits
    · have hal := halign hlt
      have hidx : idx < N := word_lt_of_bits_left hend hlt hal
      -- one turn: the next `n` bits of `x`, into bits `[0, n)` of word `idx`
      set n := (num_bits - so_far).min w with hn
      have hn' : n = min (num_bits - so_far) w := hn
      have hnw : n ≤ w := by omega
      obtain ⟨y₁, c, hy₁, hc, hbitsc⟩ := take_cast_spec (x >>> so_far) (by omega : n ≤ v) hnw
      obtain ⟨m, hm, hbitsm⟩ := mask_spec hnw (Nat.le_refl w)
      have hmask : ∀ p < w, m.getLsbD p = !decide (0 ≤ p ∧ p < n) := fun p hp => by
        rw [hbitsm, Bool.eq_iff_iff]
        simp only [Bool.and_eq_true, decide_eq_true_eq, Bool.not_eq_true', decide_eq_false_iff_not]
        omega
      have hcout : ∀ p, ¬(0 ≤ p ∧ p < n) → c.getLsbD p = false := fun p hp => by
        rw [hbitsc]
        simp only [Bool.and_eq_false_imp, decide_eq_true_eq]
        omega
      have hword : ∀ p, ((arr[idx] &&& m) ||| c).getLsbD p =
          if 0 ≤ p ∧ p < 0 + n then x.getLsbD (so_far + (p - 0)) else arr[idx].getLsbD p := fun p => by
        rw [getLsbD_splice hmask hcout, Nat.zero_add, Nat.sub_zero]
        by_cases hp : p < n
        · rw [if_pos ⟨Nat.zero_le p, hp⟩, if_pos ⟨Nat.zero_le p, hp⟩, hbitsc,
            BitVec.getLsbD_ushiftRight]
          simp [hp]
        · rw [if_neg fun h => hp h.2, if_neg fun h => hp h.2]
      have harr' := bit_set_field hw arr hidx harr (by omega) (by omega) _ hword
      obtain ⟨arr', hy, hbitsy⟩ := ih _ (so_far + n) (idx + 1) harr' (by omega)
        (fun _ => by rw [Nat.add_mul, Nat.one_mul, hal]; omega) (by omega)
      refine ⟨arr', ?_, hbitsy⟩
      simp only [set_bits_loop, if_pos hlt, dif_pos hidx, ← hn, checked_shr_of_lt x (by omega : so_far < v),
        hy₁, hm, hc, Option.bind_eq_bind, Option.bind_some, hy]
    · refine ⟨arr, by simp only [set_bits_loop, if_neg hlt], ?_⟩
      rw [harr, Nat.le_antisymm hle (Nat.le_of_not_lt hlt)]

/-- **`set_bits` writes the field.** For every range that `check_range`
accepts and that starts inside the array, `set_bits` returns, with the
range's bits replaced by the low bits of `x` and every other bit kept. -/
theorem set_bits_spec (hw : 0 < w) {start end_ : Nat} (hr : start ≤ end_) (hN : end_ ≤ N * w)
    (hv : end_ - start ≤ v) (hs : start < N * w) :
    ∃ arr', set_bits arr₀ start end_ x = some arr' ∧
      bit arr' = BitString.set (bit arr₀) start (end_ - start) x.getLsbD := by
  have hidx : start / w < N := (Nat.div_lt_iff_lt_mul hw).mpr hs
  have hoff : start % w < w := Nat.mod_lt _ hw
  have hdm : start / w * w + start % w = start := Nat.div_add_mod' start w
  -- the first word: the field's first `n₀` bits, at its bits from `start % w` on
  set n₀ := (w - start % w).min (end_ - start) with hn₀
  have hn₀' : n₀ = min (w - start % w) (end_ - start) := hn₀
  obtain ⟨y₁, c, hy₁, hc, hbitsc⟩ := take_cast_spec x (n := n₀) (by omega) (by omega : n₀ ≤ w)
  obtain ⟨m, hm, hbitsm⟩ := mask_spec (Nat.le_add_right (start % w) n₀) (by omega : start % w + n₀ ≤ w)
  have hmask : ∀ p < w, (~~~m).getLsbD p = !decide (start % w ≤ p ∧ p < start % w + n₀) := fun p hp => by
    rw [BitVec.getLsbD_not, hbitsm, Bool.eq_iff_iff]
    simp [hp]
  have hcout : ∀ p, ¬(start % w ≤ p ∧ p < start % w + n₀) → (c <<< (start % w)).getLsbD p = false :=
    fun p hp => by
      rw [BitVec.getLsbD_shiftLeft, hbitsc, Bool.eq_iff_iff]
      simp
      omega
  have hword : ∀ p, ((arr₀[start / w] &&& ~~~m) ||| c <<< (start % w)).getLsbD p =
      if start % w ≤ p ∧ p < start % w + n₀ then x.getLsbD (0 + (p - start % w))
      else arr₀[start / w].getLsbD p := fun p => by
    rw [getLsbD_splice hmask hcout, Nat.zero_add]
    by_cases hp : start % w ≤ p ∧ p < start % w + n₀
    · have hpw : p < w := by omega
      have hpn : p - start % w < n₀ := by omega
      rw [if_pos hp, if_pos hp, BitVec.getLsbD_shiftLeft, hbitsc]
      simp [hpw, Nat.not_lt.mpr hp.1, hpn]
    · rw [if_neg hp, if_neg hp]
  have harr₁ := bit_set_field hw arr₀ hidx (set_zero (bit arr₀) start x.getLsbD).symm
    (by omega : start / w * w + start % w = start + 0) (by omega) _ hword
  rw [Nat.zero_add] at harr₁
  obtain ⟨arr', hy, hbitsy⟩ := set_bits_loop_spec arr₀ x hw (by omega) hv N _ n₀ (start / w + 1) harr₁
    (by omega) (fun _ => by rw [Nat.add_mul, Nat.one_mul]; omega) (Nat.le_add_left N _)
  refine ⟨arr', ?_, hbitsy⟩
  simp only [set_bits, check_range, if_pos (⟨hr, hN, hv⟩ : start ≤ end_ ∧ end_ ≤ N * w ∧ end_ - start ≤ v),
    dif_pos hidx, ← hn₀, hy₁, hm, hc, checked_shl_of_lt c hoff, Option.bind_eq_bind, Option.bind_some, hy]

end SetSpec

/-! ## The lens laws -/

section Lens

variable {w N v : Nat} (hw : 0 < w) (arr : Vector (BitVec w) N) {start end_ : Nat}
  (hr : start ≤ end_) (hN : end_ ≤ N * w) (hs : start < N * w)
include hw hr hN hs

/-- Reading a range back gives what was written there, modulo `2 ^ (end_ - start)`. -/
theorem get_bits_set_bits (hv : end_ - start ≤ v) (x : BitVec v) :
    ∃ arr', set_bits arr start end_ x = some arr' ∧
      get_bits v arr' start end_ = some (BitVec.ofNat v (x.toNat % 2 ^ (end_ - start))) := by
  obtain ⟨arr', hset, hbits'⟩ := set_bits_spec arr x hw hr hN hv hs
  obtain ⟨z, hz, hbitsz⟩ := get_bits_spec arr' hw hr hN hv hs
  refine ⟨arr', hset, ?_⟩
  rw [hz]
  congr 1
  apply BitVec.eq_of_getLsbD_eq
  intro k hk
  rw [hbitsz, hbits', BitString.get_set, BitVec.getLsbD_ofNat, Nat.testBit_mod_two_pow,
    BitVec.testBit_toNat]
  simp [hk]

/-- A write leaves every bit outside its range. -/
theorem set_bits_bit_of_not_mem (hv : end_ - start ≤ v) (x : BitVec v) :
    ∃ arr', set_bits arr start end_ x = some arr' ∧
      ∀ j, ¬(start ≤ j ∧ j < end_) → bit arr' j = bit arr j := by
  obtain ⟨arr', hset, hbits'⟩ := set_bits_spec arr x hw hr hN hv hs
  refine ⟨arr', hset, fun j hj => ?_⟩
  rw [hbits']
  exact BitString.set_of_not_mem _ _ _ (by omega)

/-- Writing back what was read gives the array back. -/
theorem set_bits_get_bits (hv : end_ - start ≤ v) :
    ∃ y, get_bits v arr start end_ = some y ∧ set_bits arr start end_ y = some arr := by
  obtain ⟨y, hy, hbitsy⟩ := get_bits_spec arr hw hr hN hv hs
  obtain ⟨arr', hset, hbits'⟩ := set_bits_spec arr y hw hr hN hv hs
  refine ⟨y, hy, ?_⟩
  rw [hset]
  congr 1
  apply BitString.ext_bit
  intro j
  rw [hbits', show y.getLsbD = BitString.get (bit arr) start (end_ - start) from funext hbitsy,
    BitString.set_get]

/-- Writes to disjoint ranges commute. -/
theorem set_bits_comm {v' start' end_' : Nat} (hv : end_ - start ≤ v) (hr' : start' ≤ end_')
    (hN' : end_' ≤ N * w) (hv' : end_' - start' ≤ v') (hs' : start' < N * w)
    (hd : end_ ≤ start' ∨ end_' ≤ start) (x : BitVec v) (x' : BitVec v') :
    (set_bits arr start end_ x).bind (fun a => set_bits a start' end_' x') =
      (set_bits arr start' end_' x').bind (fun a => set_bits a start end_ x) := by
  obtain ⟨a₁, h₁, hbits₁⟩ := set_bits_spec arr x hw hr hN hv hs
  obtain ⟨a₁₂, h₁₂, hbits₁₂⟩ := set_bits_spec a₁ x' hw hr' hN' hv' hs'
  obtain ⟨a₂, h₂, hbits₂⟩ := set_bits_spec arr x' hw hr' hN' hv' hs'
  obtain ⟨a₂₁, h₂₁, hbits₂₁⟩ := set_bits_spec a₂ x hw hr hN hv hs
  rw [h₁, h₂, Option.bind_some, Option.bind_some, h₁₂, h₂₁]
  congr 1
  apply BitString.ext_bit
  intro j
  rw [hbits₁₂, hbits₂₁, hbits₁, hbits₂, BitString.set_comm _ _ (by omega)]

end Lens

-- `get_bits_set_bits` on a field that straddles two words
example : (set_bits (Vector.replicate 2 (0 : BitVec 8)) 3 13 (0x2A5 : BitVec 16)).bind
    (fun a => get_bits 16 a 3 13) = some 0x2A5 := by
  decide

/-! ## Every pair of primitives -/

/-- The codec is a lens for every word type `T`, value type `U` and array of
`N` words, on every range that `check_range` accepts and that starts inside
the array: both functions return (no `assert!`, index, shift or cast
panics), a read gives back what was written modulo `2 ^ (end_ - start)`, a
write keeps every other bit, writing back what was read changes nothing, and
writes to disjoint ranges commute. -/
theorem bitfield_codec_is_lens (T U : BitfieldPrimitive) {N : Nat} (arr : Vector (BitVec T.NUM_BITS) N)
    {start end_ : Nat} (hr : start ≤ end_) (hN : end_ ≤ N * T.NUM_BITS) (hU : end_ - start ≤ U.NUM_BITS)
    (hs : start < N * T.NUM_BITS) (x : BitVec U.NUM_BITS) :
    (∃ arr', set_bits arr start end_ x = some arr' ∧
      get_bits U.NUM_BITS arr' start end_ = some (BitVec.ofNat U.NUM_BITS (x.toNat % 2 ^ (end_ - start))) ∧
      ∀ j, ¬(start ≤ j ∧ j < end_) → bit arr' j = bit arr j) ∧
    (∃ y, get_bits U.NUM_BITS arr start end_ = some y ∧ set_bits arr start end_ y = some arr) ∧
    ∀ (U' : BitfieldPrimitive) (start' end_' : Nat) (x' : BitVec U'.NUM_BITS), start' ≤ end_' →
      end_' ≤ N * T.NUM_BITS → end_' - start' ≤ U'.NUM_BITS → start' < N * T.NUM_BITS →
      (end_ ≤ start' ∨ end_' ≤ start) →
      (set_bits arr start end_ x).bind (fun a => set_bits a start' end_' x') =
        (set_bits arr start' end_' x').bind (fun a => set_bits a start end_ x) := by
  have hw := T.NUM_BITS_pos
  obtain ⟨arr', hset, hget⟩ := get_bits_set_bits hw arr hr hN hs hU x
  obtain ⟨arr'', hset', hout⟩ := set_bits_bit_of_not_mem hw arr hr hN hs hU x
  have harr : arr'' = arr' := Option.some.inj (hset'.symm.trans hset)
  refine ⟨⟨arr', hset, hget, harr ▸ hout⟩, set_bits_get_bits hw arr hr hN hs hU, ?_⟩
  intro U' start' end_' x' hr' hN' hU' hs' hd
  exact set_bits_comm hw arr hr hN hs hU hr' hN' hU' hs' hd x x'

/-- A field of ten bits across the two words of a `[u8; 2]`, through a `u16`. -/
theorem bitfield_codec_is_lens_u8_u16 :
    (∃ arr', set_bits (Vector.replicate 2 (0 : BitVec 8)) 3 13 (0x2A5 : BitVec 16) = some arr' ∧
      get_bits BitfieldPrimitive.u16.NUM_BITS arr' 3 13 =
        some (BitVec.ofNat BitfieldPrimitive.u16.NUM_BITS ((0x2A5 : BitVec 16).toNat % 2 ^ (13 - 3))) ∧
      ∀ j, ¬(3 ≤ j ∧ j < 13) → bit arr' j = bit (Vector.replicate 2 (0 : BitVec 8)) j) ∧
    (∃ y, get_bits BitfieldPrimitive.u16.NUM_BITS (Vector.replicate 2 (0 : BitVec 8)) 3 13 = some y ∧
      set_bits (Vector.replicate 2 (0 : BitVec 8)) 3 13 y = some (Vector.replicate 2 (0 : BitVec 8))) ∧
    ∀ (U' : BitfieldPrimitive) (start' end_' : Nat) (x' : BitVec U'.NUM_BITS), start' ≤ end_' →
      end_' ≤ 2 * 8 → end_' - start' ≤ U'.NUM_BITS → start' < 2 * 8 → (13 ≤ start' ∨ end_' ≤ 3) →
      (set_bits (Vector.replicate 2 (0 : BitVec 8)) 3 13 (0x2A5 : BitVec 16)).bind
          (fun a => set_bits a start' end_' x') =
        (set_bits (Vector.replicate 2 (0 : BitVec 8)) start' end_' x').bind
          (fun a => set_bits a 3 13 (0x2A5 : BitVec 16)) :=
  bitfield_codec_is_lens .u8 .u16 (Vector.replicate 2 0) (by decide) (by decide) (by decide) (by decide) 0x2A5

/-- The empty range at the very end passes `check_range`, and both functions
index the word past the array. -/
theorem get_bits_set_bits_at_end (T U : BitfieldPrimitive) {N : Nat}
    (arr : Vector (BitVec T.NUM_BITS) N) (x : BitVec U.NUM_BITS) :
    check_range T.NUM_BITS N U.NUM_BITS (N * T.NUM_BITS) (N * T.NUM_BITS) = some () ∧
      get_bits U.NUM_BITS arr (N * T.NUM_BITS) (N * T.NUM_BITS) = none ∧
      set_bits arr (N * T.NUM_BITS) (N * T.NUM_BITS) x = none := by
  have hw := T.NUM_BITS_pos
  have hcheck : check_range T.NUM_BITS N U.NUM_BITS (N * T.NUM_BITS) (N * T.NUM_BITS) = some () :=
    if_pos ⟨Nat.le_refl _, Nat.le_refl _, by omega⟩
  -- the first word's index is `N`
  have hidx : ¬(N * T.NUM_BITS / T.NUM_BITS < N) := by
    rw [Nat.mul_div_cancel _ hw]
    exact Nat.lt_irrefl N
  obtain ⟨y₁, hy₁, -⟩ := take_spec x (n := (T.NUM_BITS - N * T.NUM_BITS % T.NUM_BITS).min
    (N * T.NUM_BITS - N * T.NUM_BITS)) (Nat.le_trans (Nat.min_le_right _ _) (by omega))
  refine ⟨hcheck, ?_, ?_⟩
  · simp only [get_bits, hcheck, dif_neg hidx, Option.bind_eq_bind, Option.bind_some]
  · simp only [set_bits, hcheck, hy₁, dif_neg hidx, Option.bind_eq_bind, Option.bind_some]

/-- Two bytes read as one field of 16 bits: the empty range at bit 16 passes
the check, and both functions index the third byte. -/
theorem bitfield_codec_panics_at_end :
    check_range 8 2 16 16 16 = some () ∧
      get_bits 16 (Vector.replicate 2 (0 : BitVec 8)) 16 16 = none ∧
      set_bits (Vector.replicate 2 (0 : BitVec 8)) 16 16 (0x2A5 : BitVec 16) = none :=
  get_bits_set_bits_at_end .u8 .u16 (Vector.replicate 2 0) 0x2A5

end Rel4Kernel
