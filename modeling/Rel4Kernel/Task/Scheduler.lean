/-
`sel4_task::scheduler`: the two-level priority bitmap (non-SMP build).

Bit `p mod 64` of the L2 word `ksReadyQueuesL2Bitmap[d][L2_BITMAP_SIZE - 1 - (p >> 6)]`
records that priority `p` of domain `d` has a non-empty ready queue, and bit
`p >> 6` of `ksReadyQueuesL1Bitmap[d]` that the L2 word is non-zero. The L2
index is inverted so that the highest priorities share the first cache line.

`WORD_BITS - 1 - w.leading_zeros()` is the index of the highest set bit of a
non-zero word, which is `Nat.log2 w`. On a zero word the `usize` subtraction
would wrap; the code only reads the L2 word below a set L1 bit, where it is
non-zero while the two levels agree.
-/
import Rel4Kernel.Object.Structures

set_option autoImplicit false

namespace Rel4Kernel

/-- `ready_queues_index`. -/
def ready_queues_index (dom prio : Nat) : Nat := dom * CONFIG_NUM_PRIORITIES + prio

/-- `prio_to_l1index`. -/
def prio_to_l1index (prio : Nat) : Nat := prio >>> WORD_RADIX

/-- `l1index_to_prio`. -/
def l1index_to_prio (l1index : Nat) : Nat := l1index <<< WORD_RADIX

/-- `invert_l1index`. -/
def invert_l1index (l1index : Nat) : Nat := L2_BITMAP_SIZE - 1 - l1index

/-- `get_highest_prio`. -/
def get_highest_prio (s : KernelState) (dom : Nat) : Nat :=
  let l1index := Nat.log2 (s.ksReadyQueuesL1Bitmap dom)
  let l1index_inverted := invert_l1index l1index
  let l2index := Nat.log2 (s.ksReadyQueuesL2Bitmap dom l1index_inverted)
  l1index_to_prio l1index ||| l2index

/-- `is_highest_prio`: no thread of `dom` is ready, or none above `prio`. -/
def is_highest_prio (s : KernelState) (dom prio : Nat) : Bool :=
  s.ksReadyQueuesL1Bitmap dom == 0 || prio ≥ get_highest_prio s dom

/-- `add_to_bitmap`. -/
def add_to_bitmap (s : KernelState) (dom prio : Nat) : KernelState :=
  let l1index := prio_to_l1index prio
  let l1index_inverted := invert_l1index l1index
  let l1 := s.ksReadyQueuesL1Bitmap dom ||| 1 <<< l1index
  let l2 := s.ksReadyQueuesL2Bitmap dom l1index_inverted ||| 1 <<< (prio % 2 ^ WORD_RADIX)
  { s with
    ksReadyQueuesL1Bitmap := Function.update s.ksReadyQueuesL1Bitmap dom l1
    ksReadyQueuesL2Bitmap := Function.update s.ksReadyQueuesL2Bitmap dom
      (Function.update (s.ksReadyQueuesL2Bitmap dom) l1index_inverted l2) }

/-- `remove_from_bigmap`: clear the L2 bit, and the L1 bit when the L2 word
became zero. -/
def remove_from_bigmap (s : KernelState) (dom prio : Nat) : KernelState :=
  let l1index := prio_to_l1index prio
  let l1index_inverted := invert_l1index l1index
  let l2 := s.ksReadyQueuesL2Bitmap dom l1index_inverted &&& wnot (1 <<< (prio % 2 ^ WORD_RADIX))
  let s := { s with
    ksReadyQueuesL2Bitmap := Function.update s.ksReadyQueuesL2Bitmap dom
      (Function.update (s.ksReadyQueuesL2Bitmap dom) l1index_inverted l2) }
  if l2 = 0 then
    { s with
      ksReadyQueuesL1Bitmap := Function.update s.ksReadyQueuesL1Bitmap dom
        (s.ksReadyQueuesL1Bitmap dom &&& wnot (1 <<< l1index)) }
  else s

/-! ## Bits and words

Priorities below `CONFIG_NUM_PRIORITIES` fill the four L2 words exactly: the
word index and the bit index together determine the priority. -/

theorem L2_BITMAP_SIZE_eq : L2_BITMAP_SIZE = 4 := rfl

theorem two_pow_WORD_RADIX : 2 ^ WORD_RADIX = 64 := rfl

/-- Two valid queues share an index only when they are the same queue. -/
theorem ready_queues_index_inj {d p d' p' : Nat} (hp : p < CONFIG_NUM_PRIORITIES)
    (hp' : p' < CONFIG_NUM_PRIORITIES) (h : ready_queues_index d p = ready_queues_index d' p') :
    d = d' ∧ p = p' := by
  unfold ready_queues_index CONFIG_NUM_PRIORITIES at *
  omega

theorem prio_to_l1index_lt {p : Nat} (hp : p < CONFIG_NUM_PRIORITIES) :
    prio_to_l1index p < L2_BITMAP_SIZE := by
  rw [prio_to_l1index, Nat.shiftRight_eq_div_pow, two_pow_WORD_RADIX, L2_BITMAP_SIZE_eq]
  unfold CONFIG_NUM_PRIORITIES at hp
  omega

theorem invert_l1index_inj {i j : Nat} (hi : i < L2_BITMAP_SIZE) (hj : j < L2_BITMAP_SIZE)
    (h : invert_l1index i = invert_l1index j) : i = j := by
  rw [invert_l1index, invert_l1index, L2_BITMAP_SIZE_eq] at h
  rw [L2_BITMAP_SIZE_eq] at hi hj
  omega

/-- A priority is its word index and its bit index. -/
theorem prio_eq_of_index_eq {p p' : Nat} (h1 : prio_to_l1index p = prio_to_l1index p')
    (h2 : p % 2 ^ WORD_RADIX = p' % 2 ^ WORD_RADIX) : p = p' := by
  rw [prio_to_l1index, prio_to_l1index, Nat.shiftRight_eq_div_pow, Nat.shiftRight_eq_div_pow] at h1
  rw [← Nat.div_add_mod p (2 ^ WORD_RADIX), ← Nat.div_add_mod p' (2 ^ WORD_RADIX), h1, h2]

theorem bit_index_lt (p : Nat) : p % 2 ^ WORD_RADIX < WORD_BITS :=
  Nat.mod_lt _ (Nat.two_pow_pos _)

/-- `!x` keeps exactly the bits of the word that `x` does not have. -/
theorem testBit_wnot (x i : Nat) :
    (wnot x).testBit i = (decide (i < WORD_BITS) && !(x % 2 ^ WORD_BITS).testBit i) := by
  have hlt : x % 2 ^ WORD_BITS < 2 ^ WORD_BITS := Nat.mod_lt _ (Nat.two_pow_pos _)
  have h : wnot x = 2 ^ WORD_BITS - (x % 2 ^ WORD_BITS + 1) := by unfold wnot; omega
  rw [h, Nat.testBit_two_pow_sub_succ hlt]

theorem testBit_or_two_pow (x k j : Nat) : (x ||| 2 ^ k).testBit j = (x.testBit j || decide (k = j)) := by
  rw [Nat.testBit_or, Nat.testBit_two_pow]

/-- Clearing bit `k` of a word leaves the other bits of the word. -/
theorem testBit_and_wnot_two_pow {x k j : Nat} (hk : k < WORD_BITS) (hj : j < WORD_BITS) :
    (x &&& wnot (2 ^ k)).testBit j = (x.testBit j && !decide (k = j)) := by
  have hmod : 2 ^ k % 2 ^ WORD_BITS = 2 ^ k := Nat.mod_eq_of_lt (Nat.pow_lt_pow_right (by decide) hk)
  rw [Nat.testBit_and, testBit_wnot, hmod, Nat.testBit_two_pow]
  simp [hj]

theorem ne_zero_of_testBit {x : Nat} (i : Nat) (h : x.testBit i = true) : x ≠ 0 := by
  rintro rfl
  simp at h

/-! ## What the two updates write -/

section Updates

variable (s : KernelState) (dom prio d i : Nat)

theorem add_to_bitmap_L2 :
    (add_to_bitmap s dom prio).ksReadyQueuesL2Bitmap d i =
      if d = dom ∧ i = invert_l1index (prio_to_l1index prio) then
        s.ksReadyQueuesL2Bitmap d i ||| 2 ^ (prio % 2 ^ WORD_RADIX)
      else s.ksReadyQueuesL2Bitmap d i := by
  simp only [add_to_bitmap, Function.update_apply, Nat.one_shiftLeft]
  by_cases hd : d = dom <;> by_cases hi : i = invert_l1index (prio_to_l1index prio) <;> simp [hd, hi]

theorem add_to_bitmap_L1 :
    (add_to_bitmap s dom prio).ksReadyQueuesL1Bitmap d =
      if d = dom then s.ksReadyQueuesL1Bitmap d ||| 2 ^ prio_to_l1index prio
      else s.ksReadyQueuesL1Bitmap d := by
  simp only [add_to_bitmap, Function.update_apply, Nat.one_shiftLeft]
  by_cases hd : d = dom <;> simp [hd]

theorem remove_from_bigmap_L2 :
    (remove_from_bigmap s dom prio).ksReadyQueuesL2Bitmap d i =
      if d = dom ∧ i = invert_l1index (prio_to_l1index prio) then
        s.ksReadyQueuesL2Bitmap d i &&& wnot (2 ^ (prio % 2 ^ WORD_RADIX))
      else s.ksReadyQueuesL2Bitmap d i := by
  unfold remove_from_bigmap
  dsimp only
  rw [Nat.one_shiftLeft]
  split <;> by_cases hd : d = dom <;> by_cases hi : i = invert_l1index (prio_to_l1index prio) <;>
    simp [hd, hi]

/-- The L1 bit goes when the L2 word it summarises became zero. -/
theorem remove_from_bigmap_L1 :
    (remove_from_bigmap s dom prio).ksReadyQueuesL1Bitmap d =
      if d = dom ∧ (remove_from_bigmap s dom prio).ksReadyQueuesL2Bitmap dom
          (invert_l1index (prio_to_l1index prio)) = 0 then
        s.ksReadyQueuesL1Bitmap d &&& wnot (2 ^ prio_to_l1index prio)
      else s.ksReadyQueuesL1Bitmap d := by
  simp only [remove_from_bigmap_L2, and_self, if_true]
  unfold remove_from_bigmap
  dsimp only
  rw [Nat.one_shiftLeft, Nat.one_shiftLeft]
  split <;> by_cases hd : d = dom <;> simp_all

@[simp] theorem add_to_bitmap_tcbs : (add_to_bitmap s dom prio).tcbs = s.tcbs := rfl
@[simp] theorem add_to_bitmap_ksReadyQueues :
    (add_to_bitmap s dom prio).ksReadyQueues = s.ksReadyQueues := rfl

@[simp] theorem remove_from_bigmap_tcbs : (remove_from_bigmap s dom prio).tcbs = s.tcbs := by
  unfold remove_from_bigmap; dsimp only; split <;> rfl

@[simp] theorem remove_from_bigmap_ksReadyQueues :
    (remove_from_bigmap s dom prio).ksReadyQueues = s.ksReadyQueues := by
  unfold remove_from_bigmap; dsimp only; split <;> rfl

@[simp] theorem remove_from_bigmap_ksSchedulerAction :
    (remove_from_bigmap s dom prio).ksSchedulerAction = s.ksSchedulerAction := by
  unfold remove_from_bigmap; dsimp only; split <;> rfl

@[simp] theorem remove_from_bigmap_ksCurThread :
    (remove_from_bigmap s dom prio).ksCurThread = s.ksCurThread := by
  unfold remove_from_bigmap; dsimp only; split <;> rfl

@[simp] theorem remove_from_bigmap_ksIdleThread :
    (remove_from_bigmap s dom prio).ksIdleThread = s.ksIdleThread := by
  unfold remove_from_bigmap; dsimp only; split <;> rfl

@[simp] theorem remove_from_bigmap_eps : (remove_from_bigmap s dom prio).eps = s.eps := by
  unfold remove_from_bigmap; dsimp only; split <;> rfl

@[simp] theorem remove_from_bigmap_ntfns : (remove_from_bigmap s dom prio).ntfns = s.ntfns := by
  unfold remove_from_bigmap; dsimp only; split <;> rfl

end Updates

/-- `remove_from_bigmap` reads nothing but the bitmap. -/
theorem remove_from_bigmap_congr {s s' : KernelState} {dom prio : Nat}
    (h1 : s'.ksReadyQueuesL1Bitmap = s.ksReadyQueuesL1Bitmap)
    (h2 : s'.ksReadyQueuesL2Bitmap = s.ksReadyQueuesL2Bitmap) :
    (remove_from_bigmap s' dom prio).ksReadyQueuesL1Bitmap =
        (remove_from_bigmap s dom prio).ksReadyQueuesL1Bitmap ∧
      (remove_from_bigmap s' dom prio).ksReadyQueuesL2Bitmap =
        (remove_from_bigmap s dom prio).ksReadyQueuesL2Bitmap := by
  constructor
  · funext d
    rw [remove_from_bigmap_L1, remove_from_bigmap_L1, remove_from_bigmap_L2, remove_from_bigmap_L2, h1, h2]
  · funext d i
    rw [remove_from_bigmap_L2, remove_from_bigmap_L2, h2]

/-! ## The bitmap invariant -/

/-- The two levels of the bitmap summarise the ready queues of each domain: the
L2 bit of a priority is set exactly when its queue is non-empty, and the L1 bit
of an L2 word exactly when the word is non-zero. Words have `WORD_BITS` bits,
and L1 has one bit per L2 word. -/
structure bitmap_inv (s : KernelState) : Prop where
  l2 : ∀ d p, d < CONFIG_NUM_DOMAINS → p < CONFIG_NUM_PRIORITIES →
    ((s.ksReadyQueuesL2Bitmap d (invert_l1index (prio_to_l1index p))).testBit
        (p % 2 ^ WORD_RADIX) = true ↔
      (s.ksReadyQueues (ready_queues_index d p)).head ≠ 0)
  l1 : ∀ d i, d < CONFIG_NUM_DOMAINS → i < L2_BITMAP_SIZE →
    ((s.ksReadyQueuesL1Bitmap d).testBit i = true ↔ s.ksReadyQueuesL2Bitmap d (invert_l1index i) ≠ 0)
  l2_lt : ∀ d i, s.ksReadyQueuesL2Bitmap d i < 2 ^ WORD_BITS
  l1_lt : ∀ d, s.ksReadyQueuesL1Bitmap d < 2 ^ L2_BITMAP_SIZE

namespace bitmap_inv

variable {s s' : KernelState} {prio : Nat}

/-- Within one domain, the word and bit of a valid priority determine it. -/
private theorem index_eq_iff {p : Nat} (hp : p < CONFIG_NUM_PRIORITIES)
    (hprio : prio < CONFIG_NUM_PRIORITIES)
    (hw : invert_l1index (prio_to_l1index p) = invert_l1index (prio_to_l1index prio)) :
    prio % 2 ^ WORD_RADIX = p % 2 ^ WORD_RADIX ↔ p = prio := by
  have h1 := invert_l1index_inj (prio_to_l1index_lt hp) (prio_to_l1index_lt hprio) hw
  exact ⟨fun h => prio_eq_of_index_eq h1 h.symm, fun h => h ▸ rfl⟩

/-- The bitmap is untouched and no queue changed between empty and non-empty. -/
theorem of_heads (hv : bitmap_inv s) (hL1 : s'.ksReadyQueuesL1Bitmap = s.ksReadyQueuesL1Bitmap)
    (hL2 : s'.ksReadyQueuesL2Bitmap = s.ksReadyQueuesL2Bitmap)
    (hh : ∀ d p, d < CONFIG_NUM_DOMAINS → p < CONFIG_NUM_PRIORITIES →
      ((s'.ksReadyQueues (ready_queues_index d p)).head ≠ 0 ↔
        (s.ksReadyQueues (ready_queues_index d p)).head ≠ 0)) :
    bitmap_inv s' where
  l2 d p hd hp := by rw [hL2, hh d p hd hp]; exact hv.l2 d p hd hp
  l1 d i hd hi := by rw [hL1, hL2]; exact hv.l1 d i hd hi
  l2_lt d i := hL2 ▸ hv.l2_lt d i
  l1_lt d := hL1 ▸ hv.l1_lt d

/-- `add_to_bitmap` records a queue that became non-empty. -/
theorem add (hv : bitmap_inv s) (dom : Nat) (hprio : prio < CONFIG_NUM_PRIORITIES)
    (hL1 : s'.ksReadyQueuesL1Bitmap = (add_to_bitmap s dom prio).ksReadyQueuesL1Bitmap)
    (hL2 : s'.ksReadyQueuesL2Bitmap = (add_to_bitmap s dom prio).ksReadyQueuesL2Bitmap)
    (hh : ∀ d p, d < CONFIG_NUM_DOMAINS → p < CONFIG_NUM_PRIORITIES →
      ((s'.ksReadyQueues (ready_queues_index d p)).head ≠ 0 ↔
        (s.ksReadyQueues (ready_queues_index d p)).head ≠ 0 ∨ (d = dom ∧ p = prio))) :
    bitmap_inv s' where
  l2 d p hd hp := by
    rw [hL2, add_to_bitmap_L2, hh d p hd hp, ← hv.l2 d p hd hp]
    by_cases hc : d = dom ∧ invert_l1index (prio_to_l1index p) = invert_l1index (prio_to_l1index prio)
    · rw [if_pos hc, testBit_or_two_pow, Bool.or_eq_true, decide_eq_true_eq,
        index_eq_iff hp hprio hc.2]
      simp [hc.1]
    · -- another word, or another domain: the bit is the old one
      have hne : ¬ (d = dom ∧ p = prio) := fun h => hc ⟨h.1, h.2 ▸ rfl⟩
      rw [if_neg hc]
      simp [hne]
  l1 d i hd hi := by
    rw [hL1, hL2, add_to_bitmap_L1, add_to_bitmap_L2]
    by_cases hdd : d = dom
    · subst hdd
      by_cases hii : i = prio_to_l1index prio
      · -- the word `prio` lives in now has its bit
        subst hii
        simp only [if_true, and_self, testBit_or_two_pow, decide_true, Bool.or_true, true_iff]
        exact ne_zero_of_testBit (prio % 2 ^ WORD_RADIX) (by simp)
      · have hw : invert_l1index i ≠ invert_l1index (prio_to_l1index prio) :=
          fun h => hii (invert_l1index_inj hi (prio_to_l1index_lt hprio) h)
        simp only [if_true, testBit_or_two_pow, true_and, if_neg hw]
        rw [← hv.l1 d i hd hi]
        simp [Ne.symm hii]
    · simp only [hdd, false_and, if_false]
      exact hv.l1 d i hd hi
  l2_lt d i := by
    rw [hL2, add_to_bitmap_L2]
    split
    · exact Nat.or_lt_two_pow (hv.l2_lt d i) (Nat.pow_lt_pow_right (by decide) (bit_index_lt _))
    · exact hv.l2_lt d i
  l1_lt d := by
    rw [hL1, add_to_bitmap_L1]
    split
    · exact Nat.or_lt_two_pow (hv.l1_lt d) (Nat.pow_lt_pow_right (by decide) (prio_to_l1index_lt hprio))
    · exact hv.l1_lt d

/-- `remove_from_bigmap` records a queue that became empty. -/
theorem remove (hv : bitmap_inv s) (dom : Nat) (hprio : prio < CONFIG_NUM_PRIORITIES)
    (hL1 : s'.ksReadyQueuesL1Bitmap = (remove_from_bigmap s dom prio).ksReadyQueuesL1Bitmap)
    (hL2 : s'.ksReadyQueuesL2Bitmap = (remove_from_bigmap s dom prio).ksReadyQueuesL2Bitmap)
    (hh : ∀ d p, d < CONFIG_NUM_DOMAINS → p < CONFIG_NUM_PRIORITIES →
      ((s'.ksReadyQueues (ready_queues_index d p)).head ≠ 0 ↔
        (s.ksReadyQueues (ready_queues_index d p)).head ≠ 0 ∧ ¬ (d = dom ∧ p = prio))) :
    bitmap_inv s' where
  l2 d p hd hp := by
    rw [hL2, remove_from_bigmap_L2, hh d p hd hp, ← hv.l2 d p hd hp]
    by_cases hc : d = dom ∧ invert_l1index (prio_to_l1index p) = invert_l1index (prio_to_l1index prio)
    · rw [if_pos hc, testBit_and_wnot_two_pow (bit_index_lt _) (bit_index_lt _), Bool.and_eq_true,
        Bool.not_eq_true', decide_eq_false_iff_not, index_eq_iff hp hprio hc.2]
      simp [hc.1]
    · have hne : ¬ (d = dom ∧ p = prio) := fun h => hc ⟨h.1, h.2 ▸ rfl⟩
      rw [if_neg hc]
      simp [hne]
  l1 d i hd hi := by
    have hi64 : i < WORD_BITS := Nat.lt_trans hi (by decide)
    rw [hL1, hL2, remove_from_bigmap_L1, remove_from_bigmap_L2, remove_from_bigmap_L2]
    simp only [and_self, if_true]
    by_cases hdd : d = dom
    · subst hdd
      by_cases hii : i = prio_to_l1index prio
      · -- the word `prio` lives in: its L1 bit goes exactly when it became zero
        subst hii
        simp only [if_true, true_and]
        by_cases hw : s.ksReadyQueuesL2Bitmap d (invert_l1index (prio_to_l1index prio)) &&&
            wnot (2 ^ (prio % 2 ^ WORD_RADIX)) = 0
        · rw [if_pos hw, testBit_and_wnot_two_pow hi64 hi64, hw]
          simp
        · rw [if_neg hw, hv.l1 d _ hd hi]
          refine iff_of_true (fun h0 => hw ?_) hw
          rw [h0, Nat.zero_and]
      · have hw : invert_l1index i ≠ invert_l1index (prio_to_l1index prio) :=
          fun h => hii (invert_l1index_inj hi (prio_to_l1index_lt hprio) h)
        simp only [true_and, if_neg hw]
        split
        · rw [testBit_and_wnot_two_pow (Nat.lt_trans (prio_to_l1index_lt hprio) (by decide)) hi64]
          simp [Ne.symm hii, hv.l1 d i hd hi]
        · exact hv.l1 d i hd hi
    · simp only [hdd, false_and, if_false]
      exact hv.l1 d i hd hi
  l2_lt d i := by
    rw [hL2, remove_from_bigmap_L2]
    split
    · exact Nat.lt_of_le_of_lt Nat.and_le_left (hv.l2_lt d i)
    · exact hv.l2_lt d i
  l1_lt d := by
    rw [hL1, remove_from_bigmap_L1]
    split
    · exact Nat.lt_of_le_of_lt Nat.and_le_left (hv.l1_lt d)
    · exact hv.l1_lt d

/-- **`get_highest_prio` finds a ready queue.** While the bitmap holds,
the highest set bit of a non-zero L1 word names an L2 word that is not zero,
and the highest set bit of that word a priority whose queue is not empty. -/
theorem get_highest_prio_spec (hv : bitmap_inv s) {d : Nat} (hd : d < CONFIG_NUM_DOMAINS)
    (h : s.ksReadyQueuesL1Bitmap d ≠ 0) :
    get_highest_prio s d < CONFIG_NUM_PRIORITIES ∧
      (s.ksReadyQueues (ready_queues_index d (get_highest_prio s d))).head ≠ 0 := by
  -- the L1 index and the L2 word it summarises
  have hi : Nat.log2 (s.ksReadyQueuesL1Bitmap d) < L2_BITMAP_SIZE := (Nat.log2_lt h).mpr (hv.l1_lt d)
  have hw : s.ksReadyQueuesL2Bitmap d (invert_l1index (Nat.log2 (s.ksReadyQueuesL1Bitmap d))) ≠ 0 :=
    (hv.l1 d _ hd hi).mp (Nat.testBit_log2 h)
  -- the bit index within that word
  have hj : Nat.log2 (s.ksReadyQueuesL2Bitmap d (invert_l1index (Nat.log2 (s.ksReadyQueuesL1Bitmap d)))) <
      2 ^ WORD_RADIX := (Nat.log2_lt hw).mpr (hv.l2_lt d _)
  have hprio : get_highest_prio s d = Nat.log2 (s.ksReadyQueuesL1Bitmap d) * 2 ^ WORD_RADIX +
      Nat.log2 (s.ksReadyQueuesL2Bitmap d (invert_l1index (Nat.log2 (s.ksReadyQueuesL1Bitmap d)))) := by
    rw [get_highest_prio, l1index_to_prio, ← Nat.shiftLeft_add_eq_or_of_lt hj, Nat.shiftLeft_eq]
  rw [two_pow_WORD_RADIX] at hj hprio
  rw [L2_BITMAP_SIZE_eq] at hi
  have hp : get_highest_prio s d < CONFIG_NUM_PRIORITIES := by
    unfold CONFIG_NUM_PRIORITIES; omega
  have hl1 : prio_to_l1index (get_highest_prio s d) = Nat.log2 (s.ksReadyQueuesL1Bitmap d) := by
    rw [prio_to_l1index, Nat.shiftRight_eq_div_pow, two_pow_WORD_RADIX]; omega
  have hbit : get_highest_prio s d % 2 ^ WORD_RADIX =
      Nat.log2 (s.ksReadyQueuesL2Bitmap d (invert_l1index (Nat.log2 (s.ksReadyQueuesL1Bitmap d)))) := by
    rw [two_pow_WORD_RADIX]; omega
  refine ⟨hp, (hv.l2 d _ hd hp).mp ?_⟩
  rw [hl1, hbit]
  exact Nat.testBit_log2 hw

end bitmap_inv

end Rel4Kernel
