/-
The ready-queue bitmap of `sel4_task::scheduler` refines a set of priorities.

What the two levels of a domain's bitmap are for is the set of priorities
that have a ready thread: `add_to_bitmap` puts a priority in,
`remove_from_bigmap` takes it out, `get_highest_prio` is the largest one and
`is_highest_prio p` says that none is above `p`. `bitmap_encodes s d S` ties
the words of domain `d` to such a set `S` bit by bit, in both directions: no
bit is set that no priority of `S` accounts for.

Nothing here reads the ready queues. The bitmap is followed through any
sequence of calls, whichever queue operation makes them, and the set it
refines is the one the calls build: the priorities added and not removed
since.
-/
import Rel4Kernel.Task.Scheduler

set_option autoImplicit false

namespace Rel4Kernel

/-! ## Bits of a word -/

/-- A set bit is at most the highest one. -/
theorem le_log2_of_testBit {x i : Nat} (h : x.testBit i = true) : i ≤ Nat.log2 x :=
  (Nat.le_log2 (ne_zero_of_testBit i h)).mpr (Nat.ge_two_pow_of_testBit h)

/-- Clearing bit `b` of a word: the result has the bits of the word below
`WORD_BITS`, less bit `b`. -/
theorem testBit_and_wnot_two_pow_of_lt {x b i : Nat} (hb : b < WORD_BITS) :
    (x &&& wnot (2 ^ b)).testBit i = (x.testBit i && decide (i < WORD_BITS) && !decide (b = i)) := by
  have hmod : 2 ^ b % 2 ^ WORD_BITS = 2 ^ b := Nat.mod_eq_of_lt (Nat.pow_lt_pow_right (by decide) hb)
  rw [Nat.testBit_and, testBit_wnot, hmod, Nat.testBit_two_pow]
  cases x.testBit i <;> simp

/-- A priority is its L1 index times the word size plus its bit. -/
theorem prio_eq_l1index_add (p : Nat) : p = prio_to_l1index p * 2 ^ WORD_RADIX + p % 2 ^ WORD_RADIX := by
  rw [prio_to_l1index, Nat.shiftRight_eq_div_pow, Nat.div_add_mod']

/-- `get_highest_prio`'s last step puts the two indices back together. -/
theorem l1index_to_prio_or_bit (p : Nat) :
    l1index_to_prio (prio_to_l1index p) ||| p % 2 ^ WORD_RADIX = p := by
  rw [l1index_to_prio, ← Nat.shiftLeft_add_eq_or_of_lt (Nat.mod_lt _ (Nat.two_pow_pos _)),
    Nat.shiftLeft_eq, ← prio_eq_l1index_add]

/-- Two valid priorities with the same L2 word and the same bit are equal. -/
theorem prio_eq_of_word_bit {p q : Nat} (hp : p < CONFIG_NUM_PRIORITIES)
    (hq : q < CONFIG_NUM_PRIORITIES)
    (hw : invert_l1index (prio_to_l1index q) = invert_l1index (prio_to_l1index p))
    (hb : q % 2 ^ WORD_RADIX = p % 2 ^ WORD_RADIX) : q = p :=
  prio_eq_of_index_eq (invert_l1index_inj (prio_to_l1index_lt hq) (prio_to_l1index_lt hp) hw) hb

/-- Erasing an element that does not have a property leaves the witnesses of
the property. -/
theorem exists_mem_erase_iff {S : Finset Nat} {p : Nat} {P : Nat → Prop} (hp : ¬ P p) :
    (∃ q ∈ S.erase p, P q) ↔ ∃ q ∈ S, P q := by
  constructor
  · rintro ⟨q, hq, hPq⟩
    exact ⟨q, Finset.mem_of_mem_erase hq, hPq⟩
  · rintro ⟨q, hq, hPq⟩
    exact ⟨q, Finset.mem_erase.mpr ⟨fun h => hp (h ▸ hPq), hq⟩, hPq⟩

/-! ## The encoding -/

/-- The words of domain `d` hold exactly the priorities of `S`: bit `k` of L2
word `j` is set iff a priority of `S` has word `j` and bit `k`, and bit `i` of
the L1 word iff a priority of `S` has L1 index `i`. -/
structure bitmap_encodes (s : KernelState) (d : Nat) (S : Finset Nat) : Prop where
  lt : ∀ p ∈ S, p < CONFIG_NUM_PRIORITIES
  l2 : ∀ j k, (s.ksReadyQueuesL2Bitmap d j).testBit k = true ↔
    ∃ p ∈ S, invert_l1index (prio_to_l1index p) = j ∧ p % 2 ^ WORD_RADIX = k
  l1 : ∀ i, (s.ksReadyQueuesL1Bitmap d).testBit i = true ↔ ∃ p ∈ S, prio_to_l1index p = i

/-- Zero words encode the empty set. -/
theorem bitmap_encodes_of_zero {s : KernelState} {d : Nat} (hL1 : s.ksReadyQueuesL1Bitmap d = 0)
    (hL2 : ∀ j, s.ksReadyQueuesL2Bitmap d j = 0) : bitmap_encodes s d ∅ where
  lt := by simp
  l2 j k := by simp [hL2 j]
  l1 i := by simp [hL1]

/-- An L2 word is non-zero exactly when a priority of the set lives in it. -/
theorem word_ne_zero_iff {s : KernelState} {d : Nat} {S : Finset Nat}
    (hlt : ∀ p ∈ S, p < CONFIG_NUM_PRIORITIES)
    (hl2 : ∀ j k, (s.ksReadyQueuesL2Bitmap d j).testBit k = true ↔
      ∃ p ∈ S, invert_l1index (prio_to_l1index p) = j ∧ p % 2 ^ WORD_RADIX = k)
    {i : Nat} (hi : i < L2_BITMAP_SIZE) :
    s.ksReadyQueuesL2Bitmap d (invert_l1index i) ≠ 0 ↔ ∃ p ∈ S, prio_to_l1index p = i := by
  constructor
  · intro hw
    obtain ⟨k, hk⟩ := Nat.exists_testBit_of_ne_zero hw
    obtain ⟨p, hp, hpw, -⟩ := (hl2 _ k).mp hk
    exact ⟨p, hp, invert_l1index_inj (prio_to_l1index_lt (hlt p hp)) hi hpw⟩
  · rintro ⟨p, hp, rfl⟩
    exact ne_zero_of_testBit _ ((hl2 _ _).mpr ⟨p, hp, rfl, rfl⟩)

namespace bitmap_encodes

variable {s s' : KernelState} {d : Nat} {S : Finset Nat}

/-- The encoding reads nothing but the two words of the domain. -/
theorem of_words (h : bitmap_encodes s d S)
    (hL1 : s'.ksReadyQueuesL1Bitmap d = s.ksReadyQueuesL1Bitmap d)
    (hL2 : s'.ksReadyQueuesL2Bitmap d = s.ksReadyQueuesL2Bitmap d) : bitmap_encodes s' d S where
  lt := h.lt
  l2 j k := by rw [hL2]; exact h.l2 j k
  l1 i := by rw [hL1]; exact h.l1 i

/-- The L1 word is zero exactly when the set is empty. -/
theorem l1_eq_zero_iff (h : bitmap_encodes s d S) : s.ksReadyQueuesL1Bitmap d = 0 ↔ S = ∅ := by
  constructor
  · intro h0
    refine Finset.eq_empty_of_forall_notMem fun p hp => ?_
    have hbit := (h.l1 _).mpr ⟨p, hp, rfl⟩
    rw [h0, Nat.zero_testBit] at hbit
    exact Bool.false_ne_true hbit
  · rintro rfl
    refine Nat.eq_of_testBit_eq fun i => ?_
    rw [Nat.zero_testBit]
    cases hb : (s.ksReadyQueuesL1Bitmap d).testBit i with
    | false => rfl
    | true =>
      obtain ⟨p, hp, -⟩ := (h.l1 i).mp hb
      simp at hp

/-- **`get_highest_prio` is the largest priority of the set.** The highest
L1 bit is the word of some live priority and bounds the word of every other
one; within that word the highest bit bounds every live priority there. -/
theorem get_highest_prio_eq (h : bitmap_encodes s d S) (hS : S.Nonempty) :
    get_highest_prio s d = S.max' hS := by
  have hL1 : s.ksReadyQueuesL1Bitmap d ≠ 0 := fun h0 => hS.ne_empty (h.l1_eq_zero_iff.mp h0)
  -- the word the highest L1 bit names holds a live priority
  obtain ⟨p, hp, hpi⟩ := (h.l1 _).mp (Nat.testBit_log2 hL1)
  have hw : s.ksReadyQueuesL2Bitmap d (invert_l1index (Nat.log2 (s.ksReadyQueuesL1Bitmap d))) ≠ 0 :=
    (word_ne_zero_iff h.lt h.l2 (hpi ▸ prio_to_l1index_lt (h.lt p hp))).mpr ⟨p, hp, hpi⟩
  -- and the highest bit of that word is the priority `q`
  obtain ⟨q, hq, hqw, hqb⟩ := (h.l2 _ _).mp (Nat.testBit_log2 hw)
  have hqi : prio_to_l1index q = Nat.log2 (s.ksReadyQueuesL1Bitmap d) := by
    rw [← hpi] at hqw ⊢
    exact invert_l1index_inj (prio_to_l1index_lt (h.lt q hq)) (prio_to_l1index_lt (h.lt p hp)) hqw
  have hget : get_highest_prio s d = q := by
    rw [get_highest_prio, ← hqb, ← hqi, l1index_to_prio_or_bit]
  -- every live priority is at most `q`: its word is not above, and in the
  -- same word its bit is not above
  have hmax : ∀ r ∈ S, r ≤ q := by
    intro r hr
    have ha : prio_to_l1index r ≤ prio_to_l1index q := by
      rw [hqi]
      exact le_log2_of_testBit ((h.l1 _).mpr ⟨r, hr, rfl⟩)
    have hr' := prio_eq_l1index_add r
    have hq' := prio_eq_l1index_add q
    have hrb := Nat.mod_lt r (Nat.two_pow_pos WORD_RADIX)
    have hqb' := Nat.mod_lt q (Nat.two_pow_pos WORD_RADIX)
    rw [two_pow_WORD_RADIX] at hr' hq' hrb hqb'
    by_cases he : prio_to_l1index r = prio_to_l1index q
    · have hb : r % 2 ^ WORD_RADIX ≤ q % 2 ^ WORD_RADIX := by
        rw [hqb]
        apply le_log2_of_testBit
        rw [← hqi, ← he]
        exact (h.l2 _ _).mpr ⟨r, hr, rfl, rfl⟩
      rw [two_pow_WORD_RADIX] at hb
      omega
    · omega
  rw [hget]
  exact le_antisymm (S.le_max' q hq) (S.max'_le hS q hmax)

/-- **`is_highest_prio p` says that no live priority is above `p`.** -/
theorem is_highest_prio_iff (h : bitmap_encodes s d S) (p : Nat) :
    is_highest_prio s d p = true ↔ ∀ hS : S.Nonempty, S.max' hS ≤ p := by
  rcases S.eq_empty_or_nonempty with rfl | hS
  · have h0 : s.ksReadyQueuesL1Bitmap d = 0 := h.l1_eq_zero_iff.mpr rfl
    simp [is_highest_prio, h0]
  · have h0 : s.ksReadyQueuesL1Bitmap d ≠ 0 := fun h0 => hS.ne_empty (h.l1_eq_zero_iff.mp h0)
    rw [forall_prop_of_true hS, ← h.get_highest_prio_eq hS]
    simp [is_highest_prio, h0]

/-! ## The two updates -/

/-- `add_to_bitmap` on another domain leaves this one's words. -/
theorem add_to_bitmap_of_ne (h : bitmap_encodes s d S) {dom prio : Nat} (hd : d ≠ dom) :
    bitmap_encodes (add_to_bitmap s dom prio) d S :=
  h.of_words (by rw [add_to_bitmap_L1, if_neg hd])
    (funext fun j => by rw [add_to_bitmap_L2, if_neg fun h' => hd h'.1])

/-- `remove_from_bigmap` on another domain leaves this one's words. -/
theorem remove_from_bigmap_of_ne (h : bitmap_encodes s d S) {dom prio : Nat} (hd : d ≠ dom) :
    bitmap_encodes (remove_from_bigmap s dom prio) d S :=
  h.of_words (by rw [remove_from_bigmap_L1, if_neg fun h' => hd h'.1])
    (funext fun j => by rw [remove_from_bigmap_L2, if_neg fun h' => hd h'.1])

variable {p : Nat}

/-- **`add_to_bitmap` inserts the priority.** Its word gains its bit and the
L1 word gains the bit of its word; every other bit stays. -/
theorem add_to_bitmap_self (h : bitmap_encodes s d S) (hp : p < CONFIG_NUM_PRIORITIES) :
    bitmap_encodes (add_to_bitmap s d p) d (insert p S) where
  lt q hq := by
    rcases Finset.mem_insert.mp hq with rfl | hq
    · exact hp
    · exact h.lt q hq
  l2 j k := by
    rw [add_to_bitmap_L2, Finset.exists_mem_insert]
    by_cases hj : j = invert_l1index (prio_to_l1index p)
    · rw [if_pos ⟨rfl, hj⟩, testBit_or_two_pow, Bool.or_eq_true, decide_eq_true_eq, h.l2, hj]
      simp only [true_and, or_comm]
    · rw [if_neg fun h' => hj h'.2, h.l2]
      simp only [Ne.symm hj, false_and, false_or]
  l1 i := by
    rw [add_to_bitmap_L1, if_pos rfl, testBit_or_two_pow, Bool.or_eq_true, decide_eq_true_eq,
      h.l1, Finset.exists_mem_insert, or_comm]

/-- The L2 words after `remove_from_bigmap`: the priority's bit is gone. -/
theorem remove_from_bigmap_l2 (h : bitmap_encodes s d S) (hp : p < CONFIG_NUM_PRIORITIES) (j k : Nat) :
    ((remove_from_bigmap s d p).ksReadyQueuesL2Bitmap d j).testBit k = true ↔
      ∃ q ∈ S.erase p, invert_l1index (prio_to_l1index q) = j ∧ q % 2 ^ WORD_RADIX = k := by
  rw [remove_from_bigmap_L2]
  by_cases hj : j = invert_l1index (prio_to_l1index p)
  · -- the word of `p`: another priority there has another bit
    rw [if_pos ⟨rfl, hj⟩, testBit_and_wnot_two_pow_of_lt (bit_index_lt p), Bool.and_eq_true,
      Bool.and_eq_true, h.l2, Bool.not_eq_true', decide_eq_false_iff_not, decide_eq_true_eq]
    constructor
    · rintro ⟨⟨⟨q, hq, hqw, rfl⟩, -⟩, hne⟩
      exact ⟨q, Finset.mem_erase.mpr ⟨fun e => hne (e ▸ rfl), hq⟩, hqw, rfl⟩
    · rintro ⟨q, hq, hqw, rfl⟩
      obtain ⟨hqp, hq⟩ := Finset.mem_erase.mp hq
      refine ⟨⟨⟨q, hq, hqw, rfl⟩, bit_index_lt q⟩, fun e => hqp ?_⟩
      exact prio_eq_of_word_bit hp (h.lt q hq) (hqw.trans hj) e.symm
  · rw [if_neg fun h' => hj h'.2, h.l2, exists_mem_erase_iff fun h' => hj h'.1.symm]

/-- **`remove_from_bigmap` erases the priority.** Its bit goes; the L1 bit
of its word goes exactly when no other live priority shares the word. -/
theorem remove_from_bigmap_self (h : bitmap_encodes s d S) (hp : p < CONFIG_NUM_PRIORITIES) :
    bitmap_encodes (remove_from_bigmap s d p) d (S.erase p) where
  lt q hq := h.lt q (Finset.mem_of_mem_erase hq)
  l2 := h.remove_from_bigmap_l2 hp
  l1 i := by
    have hw := word_ne_zero_iff (fun q hq => h.lt q (Finset.mem_of_mem_erase hq))
      (h.remove_from_bigmap_l2 hp) (prio_to_l1index_lt hp)
    rw [remove_from_bigmap_L1]
    by_cases hi : prio_to_l1index p = i
    · subst hi
      by_cases h0 : (remove_from_bigmap s d p).ksReadyQueuesL2Bitmap d
          (invert_l1index (prio_to_l1index p)) = 0
      · -- the word emptied: its L1 bit is cleared
        rw [if_pos ⟨rfl, h0⟩, testBit_and_wnot_two_pow_of_lt
          (Nat.lt_trans (prio_to_l1index_lt hp) (by decide))]
        simp only [decide_true, Bool.not_true, Bool.and_false, Bool.false_eq_true, false_iff]
        exact fun hq => hw.mpr hq h0
      · rw [if_neg fun h' => h0 h'.2, h.l1]
        obtain ⟨q, hq, hqi⟩ := hw.mp h0
        exact iff_of_true ⟨q, Finset.mem_of_mem_erase hq, hqi⟩ ⟨q, hq, hqi⟩
    · -- another L1 bit: it stays, and no priority with it is `p`
      have hrest : (s.ksReadyQueuesL1Bitmap d).testBit i = true ↔
          ∃ q ∈ S.erase p, prio_to_l1index q = i := by
        rw [h.l1, exists_mem_erase_iff (P := fun q => prio_to_l1index q = i) hi]
      split
      · rw [testBit_and_wnot_two_pow_of_lt (Nat.lt_trans (prio_to_l1index_lt hp) (by decide)),
          decide_eq_false hi, Bool.not_false, Bool.and_true, Bool.and_eq_true, decide_eq_true_eq, hrest]
        constructor
        · exact And.left
        · intro hq
          obtain ⟨q, hq, rfl⟩ := hq
          exact ⟨⟨q, hq, rfl⟩, Nat.lt_trans (prio_to_l1index_lt (h.lt q (Finset.mem_of_mem_erase hq)))
            (by decide)⟩
      · exact hrest

end bitmap_encodes


/-! ## Sequences of calls -/

/-- One call on the bitmap. -/
inductive bitmap_op where
  | add_to_bitmap (dom prio : Nat)
  | remove_from_bigmap (dom prio : Nat)
  deriving DecidableEq, Repr

namespace bitmap_op

/-- The priority the call is given. -/
def prio : bitmap_op → Nat
  | add_to_bitmap _ p | remove_from_bigmap _ p => p

/-- The call on the kernel state. -/
def run : bitmap_op → KernelState → KernelState
  | add_to_bitmap d p, s => Rel4Kernel.add_to_bitmap s d p
  | remove_from_bigmap d p, s => Rel4Kernel.remove_from_bigmap s d p

/-- What the call is for: the live priorities of each domain gain or lose
one. -/
def live : bitmap_op → (Nat → Finset Nat) → Nat → Finset Nat
  | add_to_bitmap d p, S => Function.update S d (insert p (S d))
  | remove_from_bigmap d p, S => Function.update S d ((S d).erase p)

/-- **One call keeps every domain's encoding.** -/
theorem run_encodes {s : KernelState} {S : Nat → Finset Nat} (h : ∀ d, bitmap_encodes s d (S d))
    (op : bitmap_op) (hp : op.prio < CONFIG_NUM_PRIORITIES) (d : Nat) :
    bitmap_encodes (op.run s) d (op.live S d) := by
  cases op with
  | add_to_bitmap dom p =>
    by_cases hd : d = dom
    · subst hd
      rw [live, Function.update_self]
      exact (h d).add_to_bitmap_self hp
    · rw [live, Function.update_of_ne hd]
      exact (h d).add_to_bitmap_of_ne hd
  | remove_from_bigmap dom p =>
    by_cases hd : d = dom
    · subst hd
      rw [live, Function.update_self]
      exact (h d).remove_from_bigmap_self hp
    · rw [live, Function.update_of_ne hd]
      exact (h d).remove_from_bigmap_of_ne hd

end bitmap_op

/-- The calls, first to last. -/
def bitmap_run (ops : List bitmap_op) (s : KernelState) : KernelState :=
  ops.foldl (fun s op => op.run s) s

/-- The live priorities after the calls, from `S`. -/
def live_prios (ops : List bitmap_op) (S : Nat → Finset Nat) : Nat → Finset Nat :=
  ops.foldl (fun S op => op.live S) S

/-- A run of calls with valid priorities keeps every domain's encoding; by
induction on the calls, each step by `bitmap_op.run_encodes`. -/
theorem bitmap_run_encodes (ops : List bitmap_op) (hops : ∀ op ∈ ops, op.prio < CONFIG_NUM_PRIORITIES)
    {s : KernelState} {S : Nat → Finset Nat} (h : ∀ d, bitmap_encodes s d (S d)) (d : Nat) :
    bitmap_encodes (bitmap_run ops s) d (live_prios ops S d) := by
  induction ops generalizing s S with
  | nil => exact h d
  | cons op ops ih =>
    exact ih (fun op' hop' => hops op' (List.mem_cons_of_mem op hop'))
      (op.run_encodes h (hops op List.mem_cons_self))

/-- **The priority bitmap refines the set of live priorities.** From zero
bitmaps, after any calls of `add_to_bitmap` and `remove_from_bigmap` with
valid priorities, on any domains: the words of domain `d` encode exactly the
priorities added there and not removed since, the L1 word is zero exactly
when there are none, `get_highest_prio` is their maximum, and
`is_highest_prio p` holds exactly when none is above `p`. -/
theorem bitmap_refines_prio_set (ops : List bitmap_op)
    (hops : ∀ op ∈ ops, op.prio < CONFIG_NUM_PRIORITIES) {s : KernelState}
    (hL1 : ∀ d, s.ksReadyQueuesL1Bitmap d = 0) (hL2 : ∀ d j, s.ksReadyQueuesL2Bitmap d j = 0)
    (d : Nat) :
    bitmap_encodes (bitmap_run ops s) d (live_prios ops (fun _ => ∅) d) ∧
      ((bitmap_run ops s).ksReadyQueuesL1Bitmap d = 0 ↔ live_prios ops (fun _ => ∅) d = ∅) ∧
      (∀ hS : (live_prios ops (fun _ => ∅) d).Nonempty,
        get_highest_prio (bitmap_run ops s) d = (live_prios ops (fun _ => ∅) d).max' hS) ∧
      ∀ p, is_highest_prio (bitmap_run ops s) d p = true ↔
        ∀ hS : (live_prios ops (fun _ => ∅) d).Nonempty, (live_prios ops (fun _ => ∅) d).max' hS ≤ p := by
  have h := bitmap_run_encodes ops hops (fun d => bitmap_encodes_of_zero (hL1 d) (hL2 d)) d
  exact ⟨h, h.l1_eq_zero_iff, h.get_highest_prio_eq, h.is_highest_prio_iff⟩

/-- Priorities 3 and 200 added to domain 0, then 3 removed, from the zeroed
state. -/
theorem bitmap_refines_prio_set_two_words :
    (∀ op ∈ [bitmap_op.add_to_bitmap 0 3, .add_to_bitmap 0 200, .remove_from_bigmap 0 3],
        op.prio < CONFIG_NUM_PRIORITIES) ∧
      (∀ d, ({} : KernelState).ksReadyQueuesL1Bitmap d = 0) ∧
      (∀ d j, ({} : KernelState).ksReadyQueuesL2Bitmap d j = 0) ∧
      (∀ hS : (live_prios [.add_to_bitmap 0 3, .add_to_bitmap 0 200, .remove_from_bigmap 0 3]
          (fun _ => ∅) 0).Nonempty,
        get_highest_prio (bitmap_run [.add_to_bitmap 0 3, .add_to_bitmap 0 200,
          .remove_from_bigmap 0 3] {}) 0 =
          (live_prios [.add_to_bitmap 0 3, .add_to_bitmap 0 200, .remove_from_bigmap 0 3]
            (fun _ => ∅) 0).max' hS) := by
  have hops : ∀ op ∈ [bitmap_op.add_to_bitmap 0 3, .add_to_bitmap 0 200, .remove_from_bigmap 0 3],
      op.prio < CONFIG_NUM_PRIORITIES := by decide
  exact ⟨hops, fun _ => rfl, fun _ _ => rfl,
    (bitmap_refines_prio_set _ hops (s := {}) (fun _ => rfl) (fun _ _ => rfl) 0).2.2.1⟩

end Rel4Kernel
