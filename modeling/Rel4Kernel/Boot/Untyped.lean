/-
`boot::untyped`: the untyped caps that boot hands to the root server for the
memory it keeps no use for (`create_untypeds_for_region`,
`provide_untyped_cap`).

A region `[start, end)` is cut from its start into blocks of `2 ^ k` bytes:
`k` is the highest set bit of the length `end - start` (read off
`leading_zeros`), at most `MAX_UNTYPED_BITS`, and at most the alignment of
the start (`trailing_zeros`; a start of 0 is aligned to everything). A block
of at least `SEL4_MIN_UNTYPED_BITS` gets an untyped cap in the next slot of
the root CNode; a smaller one is dropped. The arithmetic is the release
build's: the length and the next start wrap at `2 ^ 64`, so a device region
whose end has wrapped past the top of the address space is cut like any
other.

The loop is modelled with fuel, and the blocks it visits as a list of their
own (`untyped_blocks`). The blocks tile the region, each aligned to its size
(`untyped_blocks_tiling`), and the loop provides a cap for exactly the blocks
of at least the minimum size, in order, until one is refused
(`create_untypeds_for_region_eq`). Few bytes are dropped: while a whole
minimum-sized block is left, a smaller block is cut only to reach an
alignment, and each such block raises the alignment of the start, so they
add up to less than `2 ^ SEL4_MIN_UNTYPED_BITS` (`align_debt`); what is left
after that is smaller than a minimum-sized block too (`drop_bound`).

Of the boot state only the slot count, the root CNode's slots and the boot
info's `untypedList` are modelled; the MDB node `write_slot` gives the cap is
left out.
-/
import Rel4Kernel.Syscall.Untyped
import Rel4Kernel.VSpace.Riscv64

set_option autoImplicit false

namespace Rel4Kernel

/-! ## Words -/

/-- `usize::leading_zeros`. -/
def leading_zeros (x : Nat) : Nat := if x = 0 then WORD_BITS else WORD_BITS - 1 - Nat.log2 x

/-- `usize::trailing_zeros`: the largest `k` with `2 ^ k` dividing the word,
`WORD_BITS` for zero. -/
def trailing_zeros (x : Nat) : Nat := Nat.findGreatest (fun k => 2 ^ k ∣ x) WORD_BITS

/-- `is_aligned!`. -/
def is_aligned (n b : Nat) : Bool := n &&& mask_bits b == 0

section Words

variable {x y d j : Nat}

/-- `WORD_BITS - 1 - leading_zeros x` is the highest set bit of a non-zero word. -/
theorem sub_leading_zeros (hx : x ≠ 0) (hlt : x < 2 ^ WORD_BITS) :
    WORD_BITS - 1 - leading_zeros x = Nat.log2 x := by
  have hlog : Nat.log2 x < WORD_BITS := (Nat.log2_lt hx).mpr hlt
  rw [leading_zeros, if_neg hx]
  omega

theorem pow_trailing_zeros_dvd (x : Nat) : 2 ^ trailing_zeros x ∣ x :=
  Nat.findGreatest_spec (P := fun k => 2 ^ k ∣ x) (Nat.zero_le _) (Nat.one_dvd x)

theorem le_trailing_zeros (hj : j ≤ WORD_BITS) (h : 2 ^ j ∣ x) : j ≤ trailing_zeros x :=
  Nat.le_findGreatest hj h

/-- Above the trailing zeros of a non-zero word is a set bit. -/
theorem not_pow_succ_trailing_zeros_dvd (hx : x ≠ 0) (hlt : x < 2 ^ WORD_BITS) :
    ¬ 2 ^ (trailing_zeros x + 1) ∣ x := by
  by_cases hw : trailing_zeros x + 1 ≤ WORD_BITS
  · exact Nat.findGreatest_is_greatest (P := fun k => 2 ^ k ∣ x) (Nat.lt_succ_self _) hw
  · -- a power of two past the width of the word is larger than the word
    intro hd
    have hle : 2 ^ WORD_BITS ≤ 2 ^ (trailing_zeros x + 1) := Nat.pow_le_pow_right (by decide) (by omega)
    have hge := Nat.le_of_dvd (Nat.pos_of_ne_zero hx) hd
    omega

theorem is_aligned_iff : is_aligned x j = true ↔ 2 ^ j ∣ x := by
  rw [is_aligned, mask_bits, beq_iff_eq, Nat.and_two_pow_sub_one_eq_mod, Nat.dvd_iff_mod_eq_zero]

/-- A multiple of `2 ^ j` stays one when it wraps. -/
theorem pow_dvd_wadd (hj : j ≤ WORD_BITS) (h : 2 ^ j ∣ x + y) : 2 ^ j ∣ wadd x y :=
  (Nat.dvd_mod_iff (Nat.pow_dvd_pow 2 hj)).mpr h

theorem wsub_eq (hx : x < 2 ^ WORD_BITS) (hy : y < 2 ^ WORD_BITS) :
    wsub x y = if y ≤ x then x - y else x + 2 ^ WORD_BITS - y := by
  split_ifs with h
  · exact wsub_of_le h hx
  · rw [wsub, Nat.mod_eq_of_lt hx, Nat.mod_eq_of_lt hy, Nat.mod_eq_of_lt (by omega)]
    omega

theorem wsub_eq_zero_iff (hx : x < 2 ^ WORD_BITS) (hy : y < 2 ^ WORD_BITS) : wsub x y = 0 ↔ x = y := by
  rw [wsub_eq hx hy]
  split_ifs <;> omega

/-- Moving the start of `[y, x)` up by `d` bytes shortens it by `d`, whether
either wraps or not. -/
theorem wsub_wadd (hx : x < 2 ^ WORD_BITS) (hy : y < 2 ^ WORD_BITS) (hd : d ≤ wsub x y) :
    wsub x (wadd y d) = wsub x y - d := by
  have hdw : d < 2 ^ WORD_BITS := Nat.lt_of_le_of_lt hd (Nat.mod_lt _ (Nat.two_pow_pos _))
  have hadd : wadd y d = if y + d < 2 ^ WORD_BITS then y + d else y + d - 2 ^ WORD_BITS := by
    split_ifs with h
    · exact Nat.mod_eq_of_lt h
    · rw [wadd, Nat.mod_eq_sub_mod (by omega), Nat.mod_eq_of_lt (by omega)]
  have hlt : wadd y d < 2 ^ WORD_BITS := Nat.mod_lt _ (Nat.two_pow_pos _)
  rw [wsub_eq hx hy] at hd ⊢
  rw [wsub_eq hx hlt, hadd]
  split_ifs at hd ⊢ <;> omega

end Words

/-! ## Providing a cap -/

/-- `CONFIG_ROOT_CNODE_SIZE_BITS`. -/
def CONFIG_ROOT_CNODE_SIZE_BITS : Nat := 12

/-- `CONFIG_MAX_NUM_BOOTINFO_UNTYPED_CAPS`. -/
def CONFIG_MAX_NUM_BOOTINFO_UNTYPED_CAPS : Nat := 230

/-- `UntypedDesc`: the boot info's description of one untyped cap. -/
structure UntypedDesc where
  paddr : Nat
  sizeBits : Nat
  isDevice : Bool
  deriving DecidableEq, Repr

/-- What providing untyped caps reads and writes of the boot state:
`ndks_boot.slot_pos_cur`, the caps in the slots of the root CNode, and the
boot info's `untypedList`. -/
structure untyped_boot where
  slot_pos_cur : Nat
  root_cnode : Nat → cap
  untypedList : Nat → UntypedDesc

/-- `pptr_in_kernel_window`. -/
def pptr_in_kernel_window (pptr : Nat) : Bool :=
  decide (riscv64.PPTR_BASE ≤ pptr) && decide (pptr < riscv64.PPTR_TOP)

/-- `provide_cap`: the cap goes into the next slot of the root CNode, while
there is one. -/
def provide_cap (capability : cap) (b : untyped_boot) : Bool × untyped_boot :=
  if b.slot_pos_cur ≥ 2 ^ CONFIG_ROOT_CNODE_SIZE_BITS then (false, b)
  else (true, { b with root_cnode := Function.update b.root_cnode b.slot_pos_cur capability,
                       slot_pos_cur := b.slot_pos_cur + 1 })

/-- `provide_untyped_cap`: the size and alignment checks, and for memory that
is not device memory that the block lies in the kernel window; then the
block's description in the boot info while it has room, and its cap. -/
def provide_untyped_cap (device_memory : Bool) (pptr size_bits first_untyped_slot : Nat)
    (b : untyped_boot) : Bool × untyped_boot :=
  if size_bits > MAX_UNTYPED_BITS ∨ size_bits < SEL4_MIN_UNTYPED_BITS then (false, b)
  else if !is_aligned pptr size_bits then (false, b)
  else if !device_memory && !pptr_in_kernel_window pptr then (false, b)
  else if !device_memory && !pptr_in_kernel_window (wadd pptr (mask_bits size_bits)) then (false, b)
  else
    let i := b.slot_pos_cur - first_untyped_slot
    if i < CONFIG_MAX_NUM_BOOTINFO_UNTYPED_CAPS then
      let desc : UntypedDesc :=
        { paddr := wsub pptr riscv64.PPTR_BASE_OFFSET, sizeBits := size_bits, isDevice := device_memory }
      let b := { b with untypedList := Function.update b.untypedList i desc }
      provide_cap (.untyped_cap (max_free_index size_bits) device_memory.toNat size_bits pptr) b
    else (true, b)

/-! ## The loop -/

/-- The size in bits of the block `create_untypeds_for_region` cuts at
`start`, with the region ending at `end_`. -/
def untyped_size_bits (start end_ : Nat) : Nat :=
  let size_bits := WORD_BITS - 1 - leading_zeros (wsub end_ start)
  let size_bits := if size_bits > MAX_UNTYPED_BITS then MAX_UNTYPED_BITS else size_bits
  if start ≠ 0 then
    let align_bits := trailing_zeros start
    if size_bits > align_bits then align_bits else size_bits
  else size_bits

/-- `create_untypeds_for_region` on `[start, end_)`, for at most `fuel` turns
of its loop. -/
def create_untypeds_for_region (device_memory : Bool) (first_untyped_slot : Nat) :
    Nat → Nat → Nat → untyped_boot → Option (Bool × untyped_boot)
  | 0, start, end_, b => if start = end_ then some (true, b) else none
  | fuel + 1, start, end_, b =>
    if start = end_ then some (true, b)
    else
      let size_bits := untyped_size_bits start end_
      let next := wadd start (2 ^ size_bits)
      if size_bits ≥ SEL4_MIN_UNTYPED_BITS then
        match provide_untyped_cap device_memory start size_bits first_untyped_slot b with
        | (true, b) => create_untypeds_for_region device_memory first_untyped_slot fuel next end_ b
        | (false, b) => some (false, b)
      else create_untypeds_for_region device_memory first_untyped_slot fuel next end_ b

/-- The blocks `create_untypeds_for_region` visits in `[start, end_)` within
`fuel` turns, each as its start and its size in bits. -/
def untyped_blocks : Nat → Nat → Nat → List (Nat × Nat)
  | 0, _, _ => []
  | fuel + 1, start, end_ =>
    if start = end_ then []
    else (start, untyped_size_bits start end_) ::
      untyped_blocks fuel (wadd start (2 ^ untyped_size_bits start end_)) end_

/-- Providing untyped caps for the blocks `bs` in order, up to the first one
refused. -/
def provide_untyped_caps (device_memory : Bool) (first_untyped_slot : Nat) :
    List (Nat × Nat) → untyped_boot → Bool × untyped_boot
  | [], b => (true, b)
  | (pptr, size_bits) :: bs, b =>
    match provide_untyped_cap device_memory pptr size_bits first_untyped_slot b with
    | (true, b) => provide_untyped_caps device_memory first_untyped_slot bs b
    | (false, b) => (false, b)

/-- `bs` are consecutive blocks of the address space from `start` to `end_`:
`(p, k)` is `[p, p + 2 ^ k)`, wrapping at `2 ^ 64`. -/
def tiles : Nat → List (Nat × Nat) → Nat → Prop
  | start, [], end_ => start = end_
  | start, (p, k) :: bs, end_ => p = start ∧ tiles (wadd start (2 ^ k)) bs end_

/-- The bytes in the blocks too small for an untyped cap. -/
def dropped (bs : List (Nat × Nat)) : Nat :=
  ((bs.filter fun blk => blk.2 < SEL4_MIN_UNTYPED_BITS).map fun blk => 2 ^ blk.2).sum

/-- At most the bytes of the small blocks still to be cut from `start` to
align it to `2 ^ SEL4_MIN_UNTYPED_BITS`. -/
def align_debt (start : Nat) : Nat :=
  2 ^ SEL4_MIN_UNTYPED_BITS - 2 ^ min (trailing_zeros start) SEL4_MIN_UNTYPED_BITS

/-- A bound on the bytes dropped from `start` on, with `len` bytes left. -/
def drop_bound (start len : Nat) : Nat :=
  if len < 2 ^ SEL4_MIN_UNTYPED_BITS then len
  else align_debt start + (2 ^ SEL4_MIN_UNTYPED_BITS - 1)

theorem dropped_cons (p k : Nat) (bs : List (Nat × Nat)) :
    dropped ((p, k) :: bs) = (if k < SEL4_MIN_UNTYPED_BITS then 2 ^ k else 0) + dropped bs := by
  unfold dropped
  rw [List.filter_cons]
  by_cases hk : k < SEL4_MIN_UNTYPED_BITS <;> simp [hk]

theorem drop_bound_lt (start len : Nat) : drop_bound start len < 2 ^ (SEL4_MIN_UNTYPED_BITS + 1) := by
  have hdebt : align_debt start < 2 ^ SEL4_MIN_UNTYPED_BITS :=
    Nat.sub_lt (Nat.two_pow_pos _) (Nat.two_pow_pos _)
  rw [drop_bound, Nat.pow_succ]
  split_ifs <;> omega

/-! ## One block -/

section Step

variable {s e : Nat} (hs : s < 2 ^ WORD_BITS) (he : e < 2 ^ WORD_BITS) (hne : s ≠ e)
include hs he hne

theorem wsub_ne_zero_of_ne : wsub e s ≠ 0 := fun h => hne ((wsub_eq_zero_iff he hs).mp h).symm

/-- The block's size, read off the length left and the alignment of the start. -/
theorem untyped_size_bits_eq :
    untyped_size_bits s e = if s = 0 then min (Nat.log2 (wsub e s)) MAX_UNTYPED_BITS
      else min (min (Nat.log2 (wsub e s)) MAX_UNTYPED_BITS) (trailing_zeros s) := by
  have hlen := sub_leading_zeros (wsub_ne_zero_of_ne hs he hne) (Nat.mod_lt _ (Nat.two_pow_pos _))
  simp only [untyped_size_bits, hlen]
  split_ifs <;> omega

theorem untyped_size_bits_le_max : untyped_size_bits s e ≤ MAX_UNTYPED_BITS := by
  rw [untyped_size_bits_eq hs he hne]
  split_ifs <;> omega

/-- The block fits in the bytes left. -/
theorem pow_untyped_size_bits_le : 2 ^ untyped_size_bits s e ≤ wsub e s := by
  have hk : untyped_size_bits s e ≤ Nat.log2 (wsub e s) := by
    rw [untyped_size_bits_eq hs he hne]
    split_ifs <;> omega
  exact (Nat.pow_le_pow_right (by decide) hk).trans (Nat.log2_self_le (wsub_ne_zero_of_ne hs he hne))

/-- The block is aligned to its size. -/
theorem pow_untyped_size_bits_dvd : 2 ^ untyped_size_bits s e ∣ s := by
  rw [untyped_size_bits_eq hs he hne]
  split_ifs with h0
  · rw [h0]
    exact Nat.dvd_zero _
  · exact (Nat.pow_dvd_pow 2 (Nat.min_le_right _ _)).trans (pow_trailing_zeros_dvd s)

/-- While a whole minimum-sized block is left, a block below the minimum is
cut only to reach the alignment of the start. -/
theorem untyped_size_bits_of_lt_min (hlen : 2 ^ SEL4_MIN_UNTYPED_BITS ≤ wsub e s)
    (hk : untyped_size_bits s e < SEL4_MIN_UNTYPED_BITS) :
    s ≠ 0 ∧ untyped_size_bits s e = trailing_zeros s := by
  have hlog : SEL4_MIN_UNTYPED_BITS ≤ Nat.log2 (wsub e s) :=
    (Nat.le_log2 (wsub_ne_zero_of_ne hs he hne)).mpr hlen
  have hmax : SEL4_MIN_UNTYPED_BITS ≤ MAX_UNTYPED_BITS := by decide
  rw [untyped_size_bits_eq hs he hne] at hk ⊢
  split_ifs at hk ⊢ with h0
  · omega
  · exact ⟨h0, by omega⟩

/-- Each turn takes at least one byte: the next start is a word, and the
rest of the region fits in one turn less. -/
theorem untyped_next_fuel {fuel : Nat} (hlen : wsub e s ≤ fuel + 1) :
    wadd s (2 ^ untyped_size_bits s e) < 2 ^ WORD_BITS ∧
      wsub e (wadd s (2 ^ untyped_size_bits s e)) ≤ fuel := by
  have hle := pow_untyped_size_bits_le hs he hne
  have hpos := Nat.two_pow_pos (untyped_size_bits s e)
  refine ⟨Nat.mod_lt _ (Nat.two_pow_pos _), ?_⟩
  rw [wsub_wadd he hs hle]
  omega

/-- A block of at least the minimum size leaves the next start aligned to it. -/
theorem align_debt_next_of_le (hk : SEL4_MIN_UNTYPED_BITS ≤ untyped_size_bits s e) :
    align_debt (wadd s (2 ^ untyped_size_bits s e)) = 0 := by
  have hmin : 2 ^ SEL4_MIN_UNTYPED_BITS ∣ 2 ^ untyped_size_bits s e := Nat.pow_dvd_pow 2 hk
  have hdvd : 2 ^ SEL4_MIN_UNTYPED_BITS ∣ wadd s (2 ^ untyped_size_bits s e) :=
    pow_dvd_wadd (by decide) (Nat.dvd_add (hmin.trans (pow_untyped_size_bits_dvd hs he hne)) hmin)
  rw [align_debt, Nat.min_eq_right (le_trailing_zeros (by decide) hdvd), Nat.sub_self]

/-- A block cut to reach the alignment of the start raises it past the
block's own size. -/
theorem align_debt_next_of_eq (h0 : s ≠ 0) (htz : untyped_size_bits s e = trailing_zeros s)
    (hk : untyped_size_bits s e < SEL4_MIN_UNTYPED_BITS) :
    align_debt (wadd s (2 ^ untyped_size_bits s e)) ≤
      2 ^ SEL4_MIN_UNTYPED_BITS - 2 ^ (untyped_size_bits s e + 1) := by
  have hcarry : 2 ^ (untyped_size_bits s e + 1) ∣ s + 2 ^ untyped_size_bits s e :=
    Align.two_pow_succ_dvd_add (pow_untyped_size_bits_dvd hs he hne)
      (htz ▸ not_pow_succ_trailing_zeros_dvd h0 hs)
  have hw : untyped_size_bits s e + 1 ≤ WORD_BITS := Nat.le_trans hk (by decide)
  have htz' := le_trailing_zeros hw (pow_dvd_wadd hw hcarry)
  have hpow : 2 ^ (untyped_size_bits s e + 1) ≤
      2 ^ min (trailing_zeros (wadd s (2 ^ untyped_size_bits s e))) SEL4_MIN_UNTYPED_BITS :=
    Nat.pow_le_pow_right (by decide) (by omega)
  rw [align_debt]
  omega

/-- **The bound on dropped bytes carries over one block.** A dropped block
is paid for by the length left, or by the alignment it brings. -/
theorem drop_bound_step :
    (if untyped_size_bits s e < SEL4_MIN_UNTYPED_BITS then 2 ^ untyped_size_bits s e else 0) +
      drop_bound (wadd s (2 ^ untyped_size_bits s e)) (wsub e s - 2 ^ untyped_size_bits s e) ≤
      drop_bound s (wsub e s) := by
  have hle := pow_untyped_size_bits_le hs he hne
  unfold drop_bound
  by_cases hlen : wsub e s < 2 ^ SEL4_MIN_UNTYPED_BITS
  · -- fewer bytes than a minimum-sized block: all of them are dropped
    have hk : untyped_size_bits s e < SEL4_MIN_UNTYPED_BITS :=
      (Nat.pow_lt_pow_iff_right (by decide)).mp (Nat.lt_of_le_of_lt hle hlen)
    have hrest : wsub e s - 2 ^ untyped_size_bits s e < 2 ^ SEL4_MIN_UNTYPED_BITS :=
      Nat.lt_of_le_of_lt (Nat.sub_le _ _) hlen
    rw [if_pos hlen, if_pos hk, if_pos hrest]
    omega
  · rw [if_neg hlen]
    by_cases hk : untyped_size_bits s e < SEL4_MIN_UNTYPED_BITS
    · -- a block cut for alignment: it takes half of what the alignment raises
      obtain ⟨h0, htz⟩ := untyped_size_bits_of_lt_min hs he hne (by omega) hk
      have hnext := align_debt_next_of_eq hs he hne h0 htz hk
      have hdebt : align_debt s = 2 ^ SEL4_MIN_UNTYPED_BITS - 2 ^ untyped_size_bits s e := by
        rw [align_debt, ← htz, Nat.min_eq_left (Nat.le_of_lt hk)]
      have hsucc : 2 ^ (untyped_size_bits s e + 1) = 2 * 2 ^ untyped_size_bits s e := by
        rw [Nat.pow_succ, Nat.mul_comm]
      have hfit : 2 ^ (untyped_size_bits s e + 1) ≤ 2 ^ SEL4_MIN_UNTYPED_BITS :=
        Nat.pow_le_pow_right (by decide) hk
      rw [if_pos hk]
      split_ifs <;> omega
    · rw [if_neg hk, align_debt_next_of_le hs he hne (by omega)]
      split_ifs <;> omega

end Step

/-! ## The blocks of a region -/

/-- What the blocks cut from `[start, end_)` satisfy. -/
structure untyped_tiling (start end_ : Nat) (bs : List (Nat × Nat)) : Prop where
  consecutive : tiles start bs end_
  length_eq : (bs.map fun blk => 2 ^ blk.2).sum = wsub end_ start
  aligned : ∀ blk ∈ bs, blk.2 ≤ MAX_UNTYPED_BITS ∧ 2 ^ blk.2 ∣ blk.1
  dropped_le : dropped bs ≤ drop_bound start (wsub end_ start)

namespace untyped_tiling

variable {s e : Nat}

theorem nil (he : e < 2 ^ WORD_BITS) : untyped_tiling e e [] where
  consecutive := rfl
  length_eq := ((wsub_eq_zero_iff he he).mpr rfl).symm
  aligned := fun _ h => absurd h List.not_mem_nil
  dropped_le := Nat.zero_le _

/-- One block in front of the blocks of the rest of the region. -/
theorem cons (hs : s < 2 ^ WORD_BITS) (he : e < 2 ^ WORD_BITS) (hne : s ≠ e) {bs : List (Nat × Nat)}
    (h : untyped_tiling (wadd s (2 ^ untyped_size_bits s e)) e bs) :
    untyped_tiling s e ((s, untyped_size_bits s e) :: bs) := by
  have hle := pow_untyped_size_bits_le hs he hne
  have hrest := wsub_wadd he hs hle
  refine ⟨⟨rfl, h.consecutive⟩, ?_, ?_, ?_⟩
  · rw [List.map_cons, List.sum_cons, h.length_eq, hrest]
    dsimp only
    omega
  · exact List.forall_mem_cons.mpr
      ⟨⟨untyped_size_bits_le_max hs he hne, pow_untyped_size_bits_dvd hs he hne⟩, h.aligned⟩
  · have hd := h.dropped_le
    rw [hrest] at hd
    rw [dropped_cons]
    exact Nat.le_trans (Nat.add_le_add_left hd _) (drop_bound_step hs he hne)

end untyped_tiling

section Region

variable {e : Nat} (he : e < 2 ^ WORD_BITS)
include he

/-- Enough fuel for the length of the region cuts it all. -/
theorem untyped_blocks_tiling :
    ∀ (fuel : Nat) {s : Nat}, s < 2 ^ WORD_BITS → wsub e s ≤ fuel →
      untyped_tiling s e (untyped_blocks fuel s e) := by
  intro fuel
  induction fuel with
  | zero =>
    intro s hs hlen
    have hse : e = s := (wsub_eq_zero_iff he hs).mp (Nat.le_zero.mp hlen)
    subst hse
    exact untyped_tiling.nil he
  | succ fuel ih =>
    intro s hs hlen
    by_cases hse : s = e
    · subst hse
      simp only [untyped_blocks, if_true]
      exact untyped_tiling.nil he
    · obtain ⟨hnext, hrest⟩ := untyped_next_fuel hs he hse hlen
      simp only [untyped_blocks, if_neg hse]
      exact untyped_tiling.cons hs he hse (ih hnext hrest)

/-- **The loop provides caps for the large blocks, in order.** With enough
fuel `create_untypeds_for_region` finishes, and does what providing caps for
the blocks of at least `SEL4_MIN_UNTYPED_BITS` does. -/
theorem create_untypeds_for_region_eq (device_memory : Bool) (first_untyped_slot : Nat) :
    ∀ (fuel : Nat) {s : Nat} (b : untyped_boot), s < 2 ^ WORD_BITS → wsub e s ≤ fuel →
      create_untypeds_for_region device_memory first_untyped_slot fuel s e b =
        some (provide_untyped_caps device_memory first_untyped_slot
          ((untyped_blocks fuel s e).filter fun blk => SEL4_MIN_UNTYPED_BITS ≤ blk.2) b) := by
  intro fuel
  induction fuel with
  | zero =>
    intro s b hs hlen
    have hse : e = s := (wsub_eq_zero_iff he hs).mp (Nat.le_zero.mp hlen)
    subst hse
    simp [create_untypeds_for_region, untyped_blocks, provide_untyped_caps]
  | succ fuel ih =>
    intro s b hs hlen
    by_cases hse : s = e
    · subst hse
      simp [create_untypeds_for_region, untyped_blocks, provide_untyped_caps]
    · obtain ⟨hnext, hrest⟩ := untyped_next_fuel hs he hse hlen
      simp only [create_untypeds_for_region, untyped_blocks, if_neg hse, List.filter_cons]
      by_cases hk : SEL4_MIN_UNTYPED_BITS ≤ untyped_size_bits s e
      · -- a cap for this block, then the rest only if it was given
        rcases hp : provide_untyped_cap device_memory s (untyped_size_bits s e) first_untyped_slot b
          with ⟨_ | _, b'⟩
        · simp [hk, provide_untyped_caps, hp]
        · simp [hk, provide_untyped_caps, hp, ih b' hnext hrest]
      · simp [hk, ih b hnext hrest]

end Region

/-- **Boot untypeds tile their region.** For every region of the address
space, also one whose end has wrapped past `2 ^ 64`, the loop finishes, and
the blocks it visits cut the region into consecutive blocks of `2 ^ k` bytes,
each aligned to its size with `k ≤ MAX_UNTYPED_BITS`. The loop offers
`provide_untyped_cap` exactly the blocks of at least `SEL4_MIN_UNTYPED_BITS`,
which pass its size and alignment checks, and the blocks it drops for being
smaller add up to less than `2 ^ (SEL4_MIN_UNTYPED_BITS + 1)` bytes. -/
theorem untypeds_tile_region (device_memory : Bool) (first_untyped_slot : Nat) (b : untyped_boot)
    {s e : Nat} (hs : s < 2 ^ WORD_BITS) (he : e < 2 ^ WORD_BITS) :
    let bs := untyped_blocks (2 ^ WORD_BITS) s e
    create_untypeds_for_region device_memory first_untyped_slot (2 ^ WORD_BITS) s e b =
        some (provide_untyped_caps device_memory first_untyped_slot
          (bs.filter fun blk => SEL4_MIN_UNTYPED_BITS ≤ blk.2) b) ∧
      tiles s bs e ∧ (bs.map fun blk => 2 ^ blk.2).sum = wsub e s ∧
      (∀ blk ∈ bs, blk.2 ≤ MAX_UNTYPED_BITS ∧ 2 ^ blk.2 ∣ blk.1) ∧
      (∀ blk ∈ bs, SEL4_MIN_UNTYPED_BITS ≤ blk.2 →
        ¬(blk.2 > MAX_UNTYPED_BITS ∨ blk.2 < SEL4_MIN_UNTYPED_BITS) ∧ is_aligned blk.1 blk.2 = true) ∧
      dropped bs < 2 ^ (SEL4_MIN_UNTYPED_BITS + 1) := by
  intro bs
  -- a region has fewer bytes than the fuel, and each turn takes at least one
  have hfuel : wsub e s ≤ 2 ^ WORD_BITS := Nat.le_of_lt (Nat.mod_lt _ (Nat.two_pow_pos _))
  have h := untyped_blocks_tiling he (2 ^ WORD_BITS) hs hfuel
  refine ⟨create_untypeds_for_region_eq he device_memory first_untyped_slot _ b hs hfuel,
    h.consecutive, h.length_eq, h.aligned, fun blk hmem hmin => ?_,
    Nat.lt_of_le_of_lt h.dropped_le (drop_bound_lt s _)⟩
  have hblk := h.aligned blk hmem
  exact ⟨by omega, is_aligned_iff.mpr hblk.2⟩

/-- A device region that wraps past the top of the address space. -/
theorem untypeds_tile_wrapped_region :
    let bs := untyped_blocks (2 ^ WORD_BITS) 0xFFFF_FFFF_FFFF_F000 0x2000
    create_untypeds_for_region true 0 (2 ^ WORD_BITS) 0xFFFF_FFFF_FFFF_F000 0x2000
        ⟨0, fun _ => .null_cap, fun _ => ⟨0, 0, false⟩⟩ =
        some (provide_untyped_caps true 0
          (bs.filter fun blk => SEL4_MIN_UNTYPED_BITS ≤ blk.2) ⟨0, fun _ => .null_cap, fun _ => ⟨0, 0, false⟩⟩) ∧
      tiles 0xFFFF_FFFF_FFFF_F000 bs 0x2000 ∧
      (bs.map fun blk => 2 ^ blk.2).sum = wsub 0x2000 0xFFFF_FFFF_FFFF_F000 ∧
      (∀ blk ∈ bs, blk.2 ≤ MAX_UNTYPED_BITS ∧ 2 ^ blk.2 ∣ blk.1) ∧
      (∀ blk ∈ bs, SEL4_MIN_UNTYPED_BITS ≤ blk.2 →
        ¬(blk.2 > MAX_UNTYPED_BITS ∨ blk.2 < SEL4_MIN_UNTYPED_BITS) ∧ is_aligned blk.1 blk.2 = true) ∧
      dropped bs < 2 ^ (SEL4_MIN_UNTYPED_BITS + 1) :=
  untypeds_tile_region true 0 _ (by decide) (by decide)

/-- The wrapped region: a page up to the top, then the two pages from 0. -/
example : untyped_blocks 2 0xFFFF_FFFF_FFFF_F000 0x2000 = [(0xFFFF_FFFF_FFFF_F000, 12), (0, 13)] := by
  decide

end Rel4Kernel
