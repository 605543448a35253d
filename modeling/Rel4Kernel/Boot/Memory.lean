/-
`boot::mm` and the root server's memory (`root_server_mem_init`): how boot
sorts physical memory into the free memory it will hand to the root server
and the regions it must keep.

`rust_init_freemem` sweeps the available regions, moved into the kernel
window and clipped to its top, against the reserved ones, taking both in
order: what lies under a reserved region is cut away, the rest goes to
`ndks_boot.freemem` through `insert_region`, and every region reserved or
freed is recorded in `ndks_boot.reserved` through `reserve_region`, which
keeps that array sorted and joins neighbours that touch (`merge_regions`).

The sweep is right only for regions in increasing order.
`check_reserved_memory` refuses reserved regions out of order, but
`check_available_memory` prints "wrong order" for available regions out of
order and accepts them (`rust_init_freemem_checks`). Given high memory
first, the sweep records a reserved region lying below it, and then frees
the lower available region whole, the reserved part included
(`unsorted_memory_frees_reserved`).

`root_server_mem_init` then cuts the root server's objects from the end of
the last free region that holds them. When none does, it returns without
placing them, and nothing tells its caller (`root_server_mem_init_of_no_fit`).

Every loop is a recursion on the turns it has left; a failed `assert!` is
`none`. Indexing past an array is left out: the counts stay within the
arrays in every run the theorems are about.
-/
import Rel4Kernel.Boot.Untyped

set_option autoImplicit false

namespace Rel4Kernel

/-! ## Regions -/

def MAX_NUM_FREEMEM_REG : Nat := 16
def NUM_RESERVED_REGIONS : Nat := 3
def MAX_NUM_RESV_REG : Nat := MAX_NUM_FREEMEM_REG + NUM_RESERVED_REGIONS

/-- `Region`: the kernel-window addresses `[start, end)`. -/
structure Region where
  start : Nat
  end_ : Nat
  deriving DecidableEq, Repr

/-- `PRegion`: the physical addresses `[start, end)`. -/
structure PRegion where
  start : Nat
  end_ : Nat
  deriving DecidableEq, Repr

/-- `Region::empty`. -/
def Region.empty : Region := ⟨0, 0⟩

/-- `Region::is_empty`. -/
def Region.is_empty (r : Region) : Bool := r.start == r.end_

/-- `Region::to_pregion`. -/
def Region.to_pregion (r : Region) : PRegion :=
  ⟨wsub r.start riscv64.PPTR_BASE_OFFSET, wsub r.end_ riscv64.PPTR_BASE_OFFSET⟩

/-- `PRegion::empty`. -/
def PRegion.empty : PRegion := ⟨0, 0⟩

/-- `PRegion::to_region`. -/
def PRegion.to_region (r : PRegion) : Region :=
  ⟨wadd r.start riscv64.PPTR_BASE_OFFSET, wadd r.end_ riscv64.PPTR_BASE_OFFSET⟩

/-- Two regions share an address. -/
def Region.overlaps (x y : Region) : Prop := x.start < y.end_ ∧ y.start < x.end_

/-- Two physical regions share an address. -/
def PRegion.overlaps (x y : PRegion) : Prop := x.start < y.end_ ∧ y.start < x.end_

instance (x y : Region) : Decidable (x.overlaps y) := inferInstanceAs (Decidable (_ ∧ _))

instance (x y : PRegion) : Decidable (x.overlaps y) := inferInstanceAs (Decidable (_ ∧ _))

/-- `ceiling_kernel_window`: an address past the top of the kernel window is
moved to the top. -/
def ceiling_kernel_window (p : Nat) : Nat :=
  if wsub p riscv64.PPTR_BASE_OFFSET > riscv64.PADDR_TOP then riscv64.PPTR_TOP else p

/-- The part of `ndks_boot` that sorting memory writes: the reserved regions
`reserved[0..resv_count)` and the free regions. -/
structure ndks_boot_t where
  reserved : Nat → PRegion
  resv_count : Nat
  freemem : Nat → Region

/-- `ndks_boot` as boot starts. -/
def ndks_boot_t.init : ndks_boot_t :=
  { reserved := fun _ => PRegion.empty, resv_count := 0, freemem := fun _ => Region.empty }

/-! ## The reserved regions -/

/-- The inner loop of `merge_regions`: from entry `j` on, with `n` turns
left, each entry moves down one. -/
def shift_down (j : Nat) : Nat → (Nat → PRegion) → (Nat → PRegion)
  | 0, res => res
  | n + 1, res => shift_down (j + 1) n (Function.update res (j - 1) (res j))

/-- The loop of `merge_regions` from entry `i` on, with `n` turns left: an
entry that starts where the one before ends is joined to it. Each turn
lowers `resv_count - i` by one, so that many turns are enough. -/
def merge_regions_loop (i : Nat) : Nat → ndks_boot_t → ndks_boot_t
  | 0, b => b
  | n + 1, b =>
    if i < b.resv_count then
      if (b.reserved (i - 1)).end_ = (b.reserved i).start then
        let res := Function.update b.reserved (i - 1) { b.reserved (i - 1) with end_ := (b.reserved i).end_ }
        merge_regions_loop i n
          { b with reserved := shift_down (i + 1) (b.resv_count - (i + 1)) res,
                   resv_count := b.resv_count - 1 }
      else merge_regions_loop (i + 1) n b
    else b

/-- `merge_regions`. -/
def merge_regions (b : ndks_boot_t) : ndks_boot_t := merge_regions_loop 1 (b.resv_count - 1) b

/-- The inner loop of `reserve_region`: from entry `j` down to entry `i + 1`,
each entry moves up one. -/
def shift_up (i : Nat) : Nat → (Nat → PRegion) → (Nat → PRegion)
  | 0, res => res
  | j + 1, res => if j + 1 > i then shift_up i j (Function.update res (j + 1) (res j)) else res

/-- The loop of `reserve_region` from entry `i` on, with `n` turns left
(`resv_count - i`), and what follows it. -/
def reserve_region_loop (reg : PRegion) (i : Nat) : Nat → ndks_boot_t → Bool × ndks_boot_t
  | n + 1, b =>
    if i < b.resv_count then
      if (b.reserved i).start = reg.end_ then
        (true, merge_regions { b with reserved := Function.update b.reserved i { b.reserved i with start := reg.start } })
      else if (b.reserved i).end_ = reg.start then
        (true, merge_regions { b with reserved := Function.update b.reserved i { b.reserved i with end_ := reg.end_ } })
      else if (b.reserved i).start > reg.end_ then
        -- `reg` goes before entry `i`
        if b.resv_count + 1 ≥ MAX_NUM_RESV_REG then (false, b)
        else (true, { b with reserved := Function.update (shift_up i b.resv_count b.reserved) i reg,
                             resv_count := b.resv_count + 1 })
      else reserve_region_loop reg (i + 1) n b
    else reserve_region_loop reg i 0 b
  | 0, b =>
    -- past the last entry: `reg` goes at the end
    if i + 1 = MAX_NUM_RESV_REG then (false, b)
    else (true, { b with reserved := Function.update b.reserved i reg, resv_count := b.resv_count + 1 })

/-- `reserve_region`: record `reg` in `ndks_boot.reserved`. -/
def reserve_region (reg : PRegion) (b : ndks_boot_t) : Option (Bool × ndks_boot_t) :=
  if reg.start > reg.end_ then none
  else if reg.start = reg.end_ then some (true, b)
  else some (reserve_region_loop reg 0 b.resv_count b)

/-! ## The free regions -/

/-- The loop of `insert_region` from slot `i` on, with `n` slots left: `reg`
goes into the first empty slot, and is recorded as reserved too. -/
def insert_region_loop (reg : Region) (i : Nat) : Nat → ndks_boot_t → Option (Bool × ndks_boot_t)
  | 0, _ => none
  | n + 1, b =>
    if (b.freemem i).is_empty then do
      let (_, b) ← reserve_region reg.to_pregion b
      return (true, { b with freemem := Function.update b.freemem i reg })
    else insert_region_loop reg (i + 1) n b

/-- `insert_region`. Its result is `false` only after `assert!(false)`, when
every slot is taken. -/
def insert_region (reg : Region) (b : ndks_boot_t) : Option (Bool × ndks_boot_t) :=
  if reg.start > reg.end_ then none
  else if reg.is_empty then some (true, b)
  else insert_region_loop reg 0 MAX_NUM_FREEMEM_REG b

/-! ## The sweep -/

/-- `check_available_memory`. The test that a region starts below the end of
the one before it only prints "wrong order": it does not fail the check. -/
def check_available_memory (n_available : Nat) (available : Nat → PRegion) : Bool :=
  n_available != 0 && (List.range n_available).all fun i =>
    !decide ((available i).start > (available i).end_) && !decide ((available i).start = (available i).end_)

/-- `check_reserved_memory`. -/
def check_reserved_memory (n_reserved : Nat) (reserved : Nat → Region) : Bool :=
  (List.range n_reserved).all fun i =>
    !decide ((reserved i).start > (reserved i).end_) &&
      !(decide (i > 0) && decide ((reserved i).start < (reserved (i - 1)).end_))

/-- The state of the sweep of `rust_init_freemem`: the next available and
reserved regions, the available regions as trimmed so far, and `ndks_boot`. -/
structure sweep_t where
  a : Nat
  r : Nat
  avail_reg : Nat → Region
  boot : ndks_boot_t

/-- One turn of the sweep. -/
def init_freemem_step (reserved : Nat → Region) (st : sweep_t) : Option sweep_t :=
  let res := reserved st.r
  let av := st.avail_reg st.a
  if res.start = res.end_ then some { st with r := st.r + 1 }
  else if av.start ≥ av.end_ then some { st with a := st.a + 1 }
  else if res.end_ ≤ av.start then do
    -- the reserved region is below the available one
    let (_, b) ← reserve_region res.to_pregion st.boot
    return { st with r := st.r + 1, boot := b }
  else if res.start ≥ av.end_ then do
    -- the reserved region is above the available one
    let (_, b) ← insert_region av st.boot
    return { st with a := st.a + 1, boot := b }
  else if res.start ≤ av.start then do
    let avail_reg := Function.update st.avail_reg st.a
      { av with start := if av.end_ < res.end_ then av.end_ else res.end_ }
    let (_, b) ← reserve_region res.to_pregion st.boot
    return { st with r := st.r + 1, avail_reg := avail_reg, boot := b }
  else do
    -- the `assert!` that the reserved region starts below the available
    -- one's end holds here: the previous test failed
    let (_, b) ← insert_region { av with end_ := res.start } st.boot
    if av.end_ > res.end_ then do
      let avail_reg := Function.update st.avail_reg st.a { av with start := res.end_ }
      let (_, b) ← reserve_region res.to_pregion b
      return { st with r := st.r + 1, avail_reg := avail_reg, boot := b }
    else return { st with a := st.a + 1, boot := b }

/-- The sweep from `st`, with `n` turns left. Each turn moves `a` or `r` on,
so `n_available - a + n_reserved - r` turns are enough. -/
def init_freemem_sweep (n_available n_reserved : Nat) (reserved : Nat → Region) :
    Nat → sweep_t → Option sweep_t
  | 0, st => some st
  | n + 1, st =>
    if st.a < n_available ∧ st.r < n_reserved then
      init_freemem_step reserved st >>= init_freemem_sweep n_available n_reserved reserved n
    else some st

/-- The loop over the reserved regions the sweep did not reach, from `r` on
with `n` left. -/
def reserve_rest (reserved : Nat → Region) (r : Nat) : Nat → ndks_boot_t → Option ndks_boot_t
  | 0, b => some b
  | n + 1, b =>
    if (reserved r).start < (reserved r).end_ then do
      let (_, b) ← reserve_region (reserved r).to_pregion b
      reserve_rest reserved (r + 1) n b
    else reserve_rest reserved (r + 1) n b

/-- The loop over the available regions the sweep did not reach, from `a` on
with `n` left. -/
def insert_rest (avail_reg : Nat → Region) (a : Nat) : Nat → ndks_boot_t → Option ndks_boot_t
  | 0, b => some b
  | n + 1, b =>
    if (avail_reg a).start < (avail_reg a).end_ then do
      let (_, b) ← insert_region (avail_reg a) b
      insert_rest avail_reg (a + 1) n b
    else insert_rest avail_reg (a + 1) n b

/-- `rust_init_freemem`. The available regions are read as `avail_reg` at
every index; the sweep reads only the first `n_available`. -/
def rust_init_freemem (n_available : Nat) (available : Nat → PRegion) (n_reserved : Nat)
    (reserved : Nat → Region) (b : ndks_boot_t) : Option (Bool × ndks_boot_t) :=
  if !check_available_memory n_available available || !check_reserved_memory n_reserved reserved then
    some (false, b)
  else do
    let b := { b with freemem := fun _ => Region.empty }
    let avail_reg := fun i =>
      let reg := (available i).to_region
      ({ start := ceiling_kernel_window reg.start, end_ := ceiling_kernel_window reg.end_ } : Region)
    let st ← init_freemem_sweep n_available n_reserved reserved (n_available + n_reserved) ⟨0, 0, avail_reg, b⟩
    let b ← reserve_rest reserved st.r (n_reserved - st.r) st.boot
    let b ← insert_rest st.avail_reg st.a (n_available - st.a) b
    if !(b.freemem (MAX_NUM_FREEMEM_REG - 1)).is_empty then some (false, b) else some (true, b)

/-! ## The root server's objects -/

def BI_FRAME_SIZE_BITS : Nat := 12
def SEL4_ASID_POOL_BITS : Nat := 12
def SEL4_VSPACE_BITS : Nat := 12

/-- `calculate_rootserver_size` (without MCS), with `n_paging` standing for
`arch_get_n_paging(it_v_reg)`, the page tables of the initial thread. -/
def calculate_rootserver_size (n_paging extra_bi_size_bits : Nat) : Nat :=
  let size := 2 ^ (CONFIG_ROOT_CNODE_SIZE_BITS + SEL4_SLOT_BITS)
  let size := size + 2 ^ SEL4_TCB_BITS
  let size := size + 2 ^ SEL4_PAGE_BITS
  let size := size + 2 ^ BI_FRAME_SIZE_BITS
  let size := size + 2 ^ SEL4_ASID_POOL_BITS
  let size := size + if extra_bi_size_bits > 0 then 2 ^ extra_bi_size_bits else 0
  let size := size + 2 ^ SEL4_VSPACE_BITS
  size + n_paging * 2 ^ SEL4_PAGE_TABLE_BITS

/-- `rootserver_max_size_bits`. -/
def rootserver_max_size_bits (extra_bi_size_bits : Nat) : Nat :=
  let cnode_size_bits := CONFIG_ROOT_CNODE_SIZE_BITS + SEL4_SLOT_BITS
  let maxx := if cnode_size_bits > SEL4_VSPACE_BITS then cnode_size_bits else SEL4_VSPACE_BITS
  if maxx > extra_bi_size_bits then maxx else extra_bi_size_bits

/-- `round_down!`. -/
def round_down (n b : Nat) : Nat := wshl (wshr n b) b

/-- The first loop of `root_server_mem_init`: from slot `i` down past the
empty slots. `none` is the index wrapping below 0 to `usize::MAX`. -/
def skip_empty (freemem : Nat → Region) : Nat → Option Nat
  | 0 => if (freemem 0).is_empty then none else some 0
  | i + 1 => if (freemem (i + 1)).is_empty then skip_empty freemem i else some (i + 1)

/-- A region too small for the root server's objects moves from slot `i` up
into slot `i + 1`. -/
def shuffle_up (i : Nat) (b : ndks_boot_t) : ndks_boot_t :=
  { b with freemem := Function.update (Function.update b.freemem (i + 1) (b.freemem i)) i Region.empty }

/-- The second loop of `root_server_mem_init`, from the candidate slot `i`
down: the objects go at the end of the first region that holds them, and a
region that does not moves up into the empty slot above it. The start of the
objects, or `none` when the index wraps below 0. -/
def place_rootserver (size max i : Nat) (b : ndks_boot_t) : Option (Option Nat × ndks_boot_t) :=
  if ¬ i < MAX_NUM_FREEMEM_REG - 1 then none
  else if !(b.freemem (i + 1)).is_empty then none
  else
    let reg := b.freemem i
    let unaligned_start := wsub reg.end_ size
    let start := round_down unaligned_start max
    if unaligned_start ≤ reg.end_ ∧ start ≥ reg.start then
      let freemem := Function.update b.freemem (i + 1) ⟨wadd start size, reg.end_⟩
      some (some start, { b with freemem := Function.update freemem i { reg with end_ := start } })
    else
      match i with
      | 0 => some (none, shuffle_up 0 b)
      | i + 1 => place_rootserver size max i (shuffle_up (i + 1) b)

/-- `root_server_mem_init`, with `n_paging` standing for
`arch_get_n_paging(it_v_reg)`: the start of the root server's objects, which
`create_rootserver_objects` lays out from there, or `none` when they were
not placed. -/
def root_server_mem_init (n_paging extra_bi_size_bits : Nat) (b : ndks_boot_t) :
    Option (Option Nat × ndks_boot_t) :=
  let size := calculate_rootserver_size n_paging extra_bi_size_bits
  let max := rootserver_max_size_bits extra_bi_size_bits
  match skip_empty b.freemem (MAX_NUM_FREEMEM_REG - 1) with
  | none => some (none, b)
  | some i => place_rootserver size max i b

/-! ## Placing the root server's objects -/

/-- The test of `root_server_mem_init`: the `size` bytes below the end of
`reg`, moved down to a multiple of `2 ^ max`, stay in `reg`. -/
def rootserver_fits (size max : Nat) (reg : Region) : Prop :=
  wsub reg.end_ size ≤ reg.end_ ∧ round_down (wsub reg.end_ size) max ≥ reg.start

theorem skip_empty_spec {freemem : Nat → Region} : ∀ {k i : Nat}, skip_empty freemem k = some i →
    i ≤ k ∧ (freemem i).is_empty = false ∧ ∀ j, i < j → j ≤ k → (freemem j).is_empty = true := by
  intro k
  induction k with
  | zero =>
    intro i h
    cases hemp : (freemem 0).is_empty
    · simp only [skip_empty, hemp, Bool.false_eq_true, if_false, Option.some.injEq] at h
      subst h
      exact ⟨Nat.le_refl 0, hemp, fun j hj hj' => absurd hj' (by omega)⟩
    · simp [skip_empty, hemp] at h
  | succ k ih =>
    intro i h
    cases hemp : (freemem (k + 1)).is_empty
    · simp only [skip_empty, hemp, Bool.false_eq_true, if_false, Option.some.injEq] at h
      subst h
      exact ⟨Nat.le_refl _, hemp, fun j hj hjk => absurd hjk (by omega)⟩
    · -- slot `k + 1` is skipped
      simp only [skip_empty, hemp, if_true] at h
      obtain ⟨hik, hne, hrest⟩ := ih h
      refine ⟨by omega, hne, fun j hj hjk => ?_⟩
      rcases Nat.lt_or_ge j (k + 1) with hlt | hge
      · exact hrest j hj (by omega)
      · rw [show j = k + 1 by omega]
        exact hemp

section Place

variable {size max i : Nat} {b : ndks_boot_t}

theorem shuffle_up_freemem_of_lt {j : Nat} (hj : j < i) : (shuffle_up i b).freemem j = b.freemem j := by
  simp only [shuffle_up, Function.update_apply]
  rw [if_neg (by omega), if_neg (by omega)]

theorem shuffle_up_freemem_self : (shuffle_up i b).freemem i = Region.empty := by
  simp [shuffle_up]

theorem place_rootserver_of_fits (hi : i < MAX_NUM_FREEMEM_REG - 1)
    (hemp : (b.freemem (i + 1)).is_empty = true) (hfit : rootserver_fits size max (b.freemem i)) :
    place_rootserver size max i b =
      let start := round_down (wsub (b.freemem i).end_ size) max
      let freemem := Function.update b.freemem (i + 1) ⟨wadd start size, (b.freemem i).end_⟩
      some (some start, { b with freemem := Function.update freemem i { b.freemem i with end_ := start } }) := by
  rw [place_rootserver.eq_def]
  simp only [if_neg (not_not.mpr hi), hemp, Bool.not_true, Bool.false_eq_true, if_false]
  exact if_pos hfit

theorem place_rootserver_zero_of_not_fits (hemp : (b.freemem 1).is_empty = true)
    (hfit : ¬ rootserver_fits size max (b.freemem 0)) :
    place_rootserver size max 0 b = some (none, shuffle_up 0 b) := by
  rw [place_rootserver.eq_def]
  simp only [if_neg (not_not.mpr (show 0 < MAX_NUM_FREEMEM_REG - 1 by decide)), hemp, Bool.not_true,
    Bool.false_eq_true, if_false]
  exact if_neg hfit

theorem place_rootserver_succ_of_not_fits (hi : i + 1 < MAX_NUM_FREEMEM_REG - 1)
    (hemp : (b.freemem (i + 2)).is_empty = true) (hfit : ¬ rootserver_fits size max (b.freemem (i + 1))) :
    place_rootserver size max (i + 1) b = place_rootserver size max i (shuffle_up (i + 1) b) := by
  rw [place_rootserver.eq_def]
  simp only [if_neg (not_not.mpr hi), hemp, Bool.not_true, Bool.false_eq_true, if_false]
  exact if_neg hfit

/-- With no region that holds the objects, the loop moves every candidate up
and runs out of slots without an error. -/
theorem place_rootserver_of_no_fit : ∀ (i : Nat) (b : ndks_boot_t), i < MAX_NUM_FREEMEM_REG - 1 →
    (b.freemem (i + 1)).is_empty = true → (∀ j ≤ i, ¬ rootserver_fits size max (b.freemem j)) →
    ∃ b', place_rootserver size max i b = some (none, b') := by
  intro i
  induction i with
  | zero =>
    intro b _ hemp hno
    rw [place_rootserver_zero_of_not_fits hemp (hno 0 (Nat.le_refl 0))]
    exact ⟨_, rfl⟩
  | succ i ih =>
    intro b hi hemp hno
    rw [place_rootserver_succ_of_not_fits hi hemp (hno (i + 1) (Nat.le_refl _))]
    -- the region at `i + 1` moved up; the slots below it are as they were
    refine ih _ (by omega) ?_ fun j hj => ?_
    · rw [shuffle_up_freemem_self]
      rfl
    · rw [shuffle_up_freemem_of_lt (by omega)]
      exact hno j (by omega)

/-- A run that returns passed the two `assert!`s: the candidate is below the
last slot, and the slot above it is empty. -/
theorem place_rootserver_guard (h : place_rootserver size max i b ≠ none) :
    i < MAX_NUM_FREEMEM_REG - 1 ∧ (b.freemem (i + 1)).is_empty = true := by
  by_cases hi : i < MAX_NUM_FREEMEM_REG - 1
  · refine ⟨hi, ?_⟩
    cases hemp : (b.freemem (i + 1)).is_empty
    · exact absurd (by simp [place_rootserver.eq_def, hi, hemp]) h
    · rfl
  · exact absurd (by simp [place_rootserver.eq_def, hi]) h

/-- Where a fitting candidate takes the objects: at its end, moved down to a
multiple of `2 ^ max`, with the bytes above them in the slot above it. -/
theorem place_rootserver_placed {b' : ndks_boot_t} {start : Nat} (hi : i < MAX_NUM_FREEMEM_REG - 1)
    (hemp : (b.freemem (i + 1)).is_empty = true) (hfit : rootserver_fits size max (b.freemem i))
    (h : place_rootserver size max i b = some (some start, b')) :
    start = round_down (wsub (b.freemem i).end_ size) max ∧
      b'.freemem i = { b.freemem i with end_ := start } ∧
      b'.freemem (i + 1) = ⟨wadd start size, (b.freemem i).end_⟩ := by
  rw [place_rootserver_of_fits hi hemp hfit] at h
  simp only [Option.some.injEq, Prod.mk.injEq] at h
  obtain ⟨rfl, rfl⟩ := h
  exact ⟨rfl, by simp, by simp⟩

/-- **Where the loop places the objects.** They go at the end of a region
`j` at or below the candidate, moved down to a multiple of `2 ^ max`; the
region keeps what lies below them, and what lies above them goes to slot
`j + 1`. -/
theorem place_rootserver_of_some : ∀ (i : Nat) {b b' : ndks_boot_t} {start : Nat},
    place_rootserver size max i b = some (some start, b') →
    ∃ j ≤ i, rootserver_fits size max (b.freemem j) ∧
      start = round_down (wsub (b.freemem j).end_ size) max ∧
      b'.freemem j = { b.freemem j with end_ := start } ∧
      b'.freemem (j + 1) = ⟨wadd start size, (b.freemem j).end_⟩ := by
  intro i
  induction i with
  | zero =>
    intro b b' start h
    obtain ⟨hi, hemp⟩ := place_rootserver_guard (by rw [h]; simp)
    by_cases hfit : rootserver_fits size max (b.freemem 0)
    · exact ⟨0, Nat.le_refl 0, hfit, place_rootserver_placed hi hemp hfit h⟩
    · -- the last candidate does not fit: nothing is placed
      rw [place_rootserver_zero_of_not_fits hemp hfit] at h
      cases h
  | succ i ih =>
    intro b b' start h
    obtain ⟨hi, hemp⟩ := place_rootserver_guard (by rw [h]; simp)
    by_cases hfit : rootserver_fits size max (b.freemem (i + 1))
    · exact ⟨i + 1, Nat.le_refl _, hfit, place_rootserver_placed hi hemp hfit h⟩
    · -- the region moved up; the objects go lower, where nothing moved
      rw [place_rootserver_succ_of_not_fits hi hemp hfit] at h
      obtain ⟨j, hj, hjfit, hstart, hlow, hhigh⟩ := ih h
      have hsame := shuffle_up_freemem_of_lt (b := b) (Nat.lt_succ_of_le hj)
      rw [hsame] at hjfit hstart hlow hhigh
      exact ⟨j, Nat.le_succ_of_le hj, hjfit, hstart, hlow, hhigh⟩

end Place

/-- **`root_server_mem_init` fails silently.** When no free region holds the
root server's objects, it returns without placing them and without an
error, so boot goes on to build the root server at address 0. -/
theorem root_server_mem_init_of_no_fit (n_paging extra_bi_size_bits : Nat) (b : ndks_boot_t)
    (hlast : (b.freemem (MAX_NUM_FREEMEM_REG - 1)).is_empty = true)
    (hno : ∀ j < MAX_NUM_FREEMEM_REG - 1, ¬ rootserver_fits (calculate_rootserver_size n_paging extra_bi_size_bits)
      (rootserver_max_size_bits extra_bi_size_bits) (b.freemem j)) :
    ∃ b', root_server_mem_init n_paging extra_bi_size_bits b = some (none, b') := by
  unfold root_server_mem_init
  rcases hs : skip_empty b.freemem (MAX_NUM_FREEMEM_REG - 1) with _ | i
  · exact ⟨b, rfl⟩
  · obtain ⟨hik, hne, hrest⟩ := skip_empty_spec hs
    -- the last slot is empty, so the candidate is below it and the slot above it is empty
    have hi : i < MAX_NUM_FREEMEM_REG - 1 := by
      rcases Nat.lt_or_ge i (MAX_NUM_FREEMEM_REG - 1) with hlt | hge
      · exact hlt
      · rw [show i = MAX_NUM_FREEMEM_REG - 1 by omega, hlast] at hne
        cases hne
    exact place_rootserver_of_no_fit i b hi (hrest (i + 1) (Nat.lt_succ_self i) hi)
      fun j hj => hno j (by omega)

/-- Free memory of one page at the base of the kernel window, too small for
the root server's objects. -/
def one_page_free : ndks_boot_t :=
  { ndks_boot_t.init with
    freemem := fun j => if j = 0 then ⟨0xFFFFFFC080000000, 0xFFFFFFC080001000⟩ else Region.empty }

theorem root_server_mem_init_of_one_page :
    ∃ b', root_server_mem_init 1 0 one_page_free = some (none, b') := by
  refine root_server_mem_init_of_no_fit 1 0 one_page_free rfl fun j _ => ?_
  -- the one region is too small, and the others are empty
  by_cases h0 : j = 0
  · subst h0
    unfold rootserver_fits
    decide
  · simp only [one_page_free, h0, if_false]
    unfold rootserver_fits
    decide

/-- `round_down!` on a word: the multiple of `2 ^ b` at or below it. -/
theorem round_down_eq {n b : Nat} (hb : b < WORD_BITS) (hn : n < 2 ^ WORD_BITS) :
    round_down n b = n / 2 ^ b * 2 ^ b := by
  have hle : n / 2 ^ b * 2 ^ b ≤ n := Nat.div_mul_le_self n _
  rw [round_down, wshr_of_lt hb hn, wshl_of_lt hb (by omega)]

/-- A fitting block lies in the region, aligned. -/
theorem rootserver_fits_spec {size max : Nat} {reg : Region} (hmax : max < WORD_BITS)
    (hsize : size < 2 ^ WORD_BITS) (hend : reg.end_ < 2 ^ WORD_BITS) (hfit : rootserver_fits size max reg) :
    2 ^ max ∣ round_down (wsub reg.end_ size) max ∧ reg.start ≤ round_down (wsub reg.end_ size) max ∧
      round_down (wsub reg.end_ size) max + size ≤ reg.end_ := by
  obtain ⟨hunder, hstart⟩ := hfit
  rw [wsub_eq hend hsize] at hunder hstart ⊢
  -- the subtraction did not wrap: the region is at least `size` long
  have hle : size ≤ reg.end_ := by
    by_contra hlt
    rw [if_neg hlt] at hunder
    omega
  rw [if_pos hle] at hstart ⊢
  rw [round_down_eq hmax (by omega)] at hstart ⊢
  have hdown : (reg.end_ - size) / 2 ^ max * 2 ^ max ≤ reg.end_ - size := Nat.div_mul_le_self _ _
  exact ⟨Nat.dvd_mul_left _ _, hstart, by omega⟩

/-- **Where `root_server_mem_init` puts the root server's objects**, when it
places them: at the end of a free region `j` below the last slot, moved down
to a multiple of `2 ^ max`, so aligned and inside the region; the region
keeps what lies below them, and what lies above them goes to slot `j + 1`. -/
theorem root_server_mem_init_of_some {n_paging extra_bi_size_bits start : Nat} {b b' : ndks_boot_t}
    (hmax : rootserver_max_size_bits extra_bi_size_bits < WORD_BITS)
    (hsize : calculate_rootserver_size n_paging extra_bi_size_bits < 2 ^ WORD_BITS)
    (hend : ∀ j, (b.freemem j).end_ < 2 ^ WORD_BITS)
    (h : root_server_mem_init n_paging extra_bi_size_bits b = some (some start, b')) :
    ∃ j < MAX_NUM_FREEMEM_REG - 1,
      2 ^ rootserver_max_size_bits extra_bi_size_bits ∣ start ∧ (b.freemem j).start ≤ start ∧
      start + calculate_rootserver_size n_paging extra_bi_size_bits ≤ (b.freemem j).end_ ∧
      b'.freemem j = { b.freemem j with end_ := start } ∧
      b'.freemem (j + 1) = ⟨wadd start (calculate_rootserver_size n_paging extra_bi_size_bits), (b.freemem j).end_⟩ := by
  unfold root_server_mem_init at h
  split at h
  · cases h
  · rename_i i _
    -- the loop passed its guard at the candidate, and placed the objects at or below it
    have hi := (place_rootserver_guard (by rw [h]; simp)).1
    obtain ⟨j, hj, hfit, rfl, hlow, hhigh⟩ := place_rootserver_of_some i h
    obtain ⟨halign, hstart, hin⟩ := rootserver_fits_spec hmax hsize (hend j) hfit
    exact ⟨j, by omega, halign, hstart, hin, hlow, hhigh⟩

/-- Free memory of 64 MiB at the base of the kernel window. -/
def big_region_free : ndks_boot_t :=
  { ndks_boot_t.init with
    freemem := fun j => if j = 0 then ⟨0xFFFFFFC080000000, 0xFFFFFFC084000000⟩ else Region.empty }

theorem root_server_mem_init_of_big_region :
    ∃ start b', root_server_mem_init 1 0 big_region_free = some (some start, b') ∧
      ∃ j < MAX_NUM_FREEMEM_REG - 1,
        2 ^ rootserver_max_size_bits 0 ∣ start ∧ (big_region_free.freemem j).start ≤ start ∧
        start + calculate_rootserver_size 1 0 ≤ (big_region_free.freemem j).end_ ∧
        b'.freemem j = { big_region_free.freemem j with end_ := start } ∧
        b'.freemem (j + 1) = ⟨wadd start (calculate_rootserver_size 1 0), (big_region_free.freemem j).end_⟩ := by
  have hrun : (root_server_mem_init 1 0 big_region_free).map (fun r => r.1.isSome) = some true := by
    decide +kernel
  obtain ⟨⟨start?, b'⟩, h, hsome⟩ := Option.map_eq_some_iff.mp hrun
  obtain ⟨start, rfl⟩ := Option.isSome_iff_exists.mp hsome
  have hend : ∀ j, (big_region_free.freemem j).end_ < 2 ^ WORD_BITS := by
    intro j
    by_cases h0 : j = 0
    · subst h0
      decide
    · simp only [big_region_free, h0, if_false]
      decide
  exact ⟨start, b', h, root_server_mem_init_of_some (by decide) (by decide) hend h⟩

/-! ## The checks -/

/-- Two regions of RAM, the higher one first. -/
def unsorted_available : Nat → PRegion :=
  fun i => if i = 0 then ⟨0x8020_0000, 0x8040_0000⟩ else ⟨0x8000_0000, 0x8010_0000⟩

/-- One reserved region: the first half megabyte of RAM, in the kernel window. -/
def low_reserved : Nat → Region := fun _ => PRegion.to_region ⟨0x8000_0000, 0x8008_0000⟩

/-- **Free memory over a reserved region.** Boot accepts the available
regions out of order, records the reserved region below the first of them,
and then frees the second whole: it reaches free memory, and the reserved
array holds two entries that overlap. -/
theorem unsorted_memory_frees_reserved :
    check_available_memory 2 unsorted_available = true ∧ check_reserved_memory 1 low_reserved = true ∧
    ∃ b, rust_init_freemem 2 unsorted_available 1 low_reserved ndks_boot_t.init = some (true, b) ∧
      b.freemem 1 = (unsorted_available 1).to_region ∧ (b.freemem 1).overlaps (low_reserved 0) ∧
      b.reserved 0 = (low_reserved 0).to_pregion ∧ b.reserved 1 = unsorted_available 1 ∧
      (b.reserved 0).overlaps (b.reserved 1) := by
  have hrun : (rust_init_freemem 2 unsorted_available 1 low_reserved ndks_boot_t.init).map
      (fun res => (res.1, res.2.freemem 1, res.2.reserved 0, res.2.reserved 1)) =
      some (true, (unsorted_available 1).to_region, (low_reserved 0).to_pregion, unsorted_available 1) := by
    decide +kernel
  obtain ⟨⟨ok, b⟩, hb, heq⟩ := Option.map_eq_some_iff.mp hrun
  simp only [Prod.mk.injEq] at heq
  obtain ⟨rfl, hfree, hres₀, hres₁⟩ := heq
  refine ⟨by decide, by decide, b, hb, hfree, ?_, hres₀, hres₁, ?_⟩
  · rw [hfree]
    decide
  · rw [hres₀, hres₁]
    decide

end Rel4Kernel
