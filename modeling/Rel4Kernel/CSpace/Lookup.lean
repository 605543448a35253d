/-
`resolve_address_bits`: the guarded-CNode walk of `sel4_cspace::cte`, the
syscall helper built on it, and how the fast path's `lookup_fp` agrees with
it.

Each round of the walk takes the CNode cap in hand, compares its guard with
the top remaining bits of the address, and indexes the CNode with the next
`radix` bits. It ends when the bits run out, at a slot that holds no CNode
cap, or at a lookup fault. A level of zero bits would make no progress; the
source stops there with `assert_ne!(levelBits, 0)`, which is `none` here,
and since every other round uses up at least one bit, `n_bits + 1` rounds
are always enough.

The word arithmetic is the release build's: the guard's shift is
`(n_bits - guardBits) & 63` with a wrapping subtraction, taken before the
test that `guardBits ≤ n_bits`. `guarded_lookup` states the same walk over
plain numbers, level by level; the loop is proved to compute it, and
`lookup_fp`, which shifts the address left instead, to find the same cap.
-/
import Rel4Kernel.Kernel.Fastpath
import Rel4Kernel.CSpace.Capability

set_option autoImplicit false

namespace Rel4Kernel

/-! ## Fields of a word -/

theorem WORD_BITS_eq : WORD_BITS = 64 := rfl

/-- The `b` bits of a word from bit `a` on do not depend on what lies above
the word. -/
theorem mod_word_div_mod {x a b : Nat} (h : a + b ≤ WORD_BITS) :
    x % 2 ^ WORD_BITS / 2 ^ a % 2 ^ b = x / 2 ^ a % 2 ^ b := by
  apply Nat.eq_of_testBit_eq
  intro i
  simp only [Nat.testBit_mod_two_pow, Nat.testBit_div_two_pow]
  by_cases hi : i < b
  · have hia : i + a < WORD_BITS := by omega
    simp [hi, hia]
  · simp [hi]

/-- `(x >> a) & mask_bits!(b)` on `usize` is the field of `b` bits at bit `a`. -/
theorem wshr_and_mask_bits {x a b : Nat} (ha : a < WORD_BITS) (h : a + b ≤ WORD_BITS) :
    wshr x a &&& mask_bits b = x / 2 ^ a % 2 ^ b := by
  rw [wshr, Nat.mod_eq_of_lt ha, mask_bits, Nat.and_two_pow_sub_one_eq_mod, Nat.shiftRight_eq_div_pow,
    mod_word_div_mod h]

/-- `x << s` on `usize`, for a shift inside the word. -/
theorem wshl_eq {x s : Nat} (hs : s < WORD_BITS) : wshl x s = x * 2 ^ s % 2 ^ WORD_BITS := by
  rw [wshl, Nat.mod_eq_of_lt hs, Nat.shiftLeft_eq]

/-- Two shifts left are one, for shifts inside the word. -/
theorem wshl_wshl {x a b : Nat} (ha : a < WORD_BITS) (hb : b < WORD_BITS) :
    wshl (wshl x a) b = x * 2 ^ (a + b) % 2 ^ WORD_BITS := by
  rw [wshl_eq hb, wshl_eq ha, Nat.mod_mul_mod, Nat.pow_add, Nat.mul_assoc]

/-- **The top `r` bits of `x << t`** are the `r` bits of `x` that end at bit
`WORD_BITS - t`: this is how `lookup_fp` reads a field without shifting
right by a varying amount. -/
theorem top_bits_of_shifted {x t r : Nat} (hr : 0 < r) (h : t + r ≤ WORD_BITS) :
    wshr (x * 2 ^ t % 2 ^ WORD_BITS) (WORD_BITS - r) = x / 2 ^ (WORD_BITS - t - r) % 2 ^ r := by
  rw [wshr, Nat.mod_mod, Nat.mod_eq_of_lt (by omega : WORD_BITS - r < WORD_BITS),
    Nat.shiftRight_eq_div_pow]
  apply Nat.eq_of_testBit_eq
  intro i
  simp only [Nat.testBit_mod_two_pow, Nat.testBit_div_two_pow, Nat.testBit_mul_two_pow]
  by_cases hi : i < r
  · have h1 : i + (WORD_BITS - r) < WORD_BITS := by omega
    have h2 : t ≤ i + (WORD_BITS - r) := by omega
    have h3 : i + (WORD_BITS - r) - t = i + (WORD_BITS - t - r) := by omega
    simp [hi, h1, h2, h3]
  · have h1 : ¬ i + (WORD_BITS - r) < WORD_BITS := by omega
    simp [hi, h1]

/-! ## The walk -/

/-- `resolveAddressBits_ret_t`. -/
structure resolveAddressBits_ret_t where
  status : exception_t
  slot : Nat
  bitsRemaining : Nat
  deriving DecidableEq, Repr

/-- The rounds of `resolve_address_bits`'s loop from a CNode cap on, at most
`fuel` of them, with `n_bits` bits of `cap_ptr` left; a fault returns the
`ret` the function started with, null slot and `_n_bits` remaining. `none`
is the failed `assert_ne!(levelBits, 0)`, or the rounds running out. -/
def resolve_address_bits_loop (ctes : Nat → cte_t) (cap_ptr _n_bits : Nat) :
    Nat → Nat → Nat → Nat → Nat → Nat → Option resolveAddressBits_ret_t
  | 0, _, _, _, _, _ => none
  | fuel + 1, capGuard, guardBits, radixBits, capCNodePtr, n_bits =>
    let levelBits := radixBits + guardBits
    if levelBits = 0 then none
    else
      let guard := wshr cap_ptr (wsub n_bits guardBits % 2 ^ WORD_RADIX) &&& mask_bits guardBits
      if guardBits > n_bits ∨ guard ≠ capGuard then some ⟨.EXCEPTION_LOOKUP_FAULT, 0, _n_bits⟩
      else if levelBits > n_bits then some ⟨.EXCEPTION_LOOKUP_FAULT, 0, _n_bits⟩
      else
        let offset := wshr cap_ptr (n_bits - levelBits) &&& mask_bits radixBits
        let slot := capCNodePtr + offset * CTE_SIZE
        if n_bits = levelBits then some ⟨.EXCEPTION_NONE, slot, 0⟩
        else
          let n_bits := n_bits - levelBits
          match (ctes slot).capability with
          | .cnode_cap g gs r p => resolve_address_bits_loop ctes cap_ptr _n_bits fuel g gs r p n_bits
          | _ => some ⟨.EXCEPTION_NONE, slot, n_bits⟩

/-- `resolve_address_bits(node_cap, cap_ptr, _n_bits)`. -/
def resolve_address_bits (ctes : Nat → cte_t) (node_cap : cap) (cap_ptr _n_bits : Nat) :
    Option resolveAddressBits_ret_t :=
  match node_cap with
  | .cnode_cap capGuard guardBits radixBits capCNodePtr =>
    resolve_address_bits_loop ctes cap_ptr _n_bits (_n_bits + 1) capGuard guardBits radixBits
      capCNodePtr _n_bits
  | _ => some ⟨.EXCEPTION_LOOKUP_FAULT, 0, _n_bits⟩

/-- `lookup_slot_for_cnode_op(is_source, root, cap_ptr, depth)`: the slot, or
the syscall error it reports. `current_lookup_fault` is not modelled. -/
def lookup_slot_for_cnode_op (ctes : Nat → cte_t) (is_source : Bool) (root : cap)
    (cap_ptr depth : Nat) : Option (Except syscall_error Nat) :=
  match root with
  | .cnode_cap .. =>
    if depth < 1 ∨ depth > WORD_BITS then some (.error (.SEL4_RANGE_ERROR 1 WORD_BITS))
    else do
      let res_ret ← resolve_address_bits ctes root cap_ptr depth
      if res_ret.status ≠ .EXCEPTION_NONE then
        pure (.error (.SEL4_FAILED_LOOKUP is_source.toNat))
      else if res_ret.bitsRemaining ≠ 0 then
        pure (.error (.SEL4_FAILED_LOOKUP is_source.toNat))
      else pure (.ok res_ret.slot)
  | _ => some (.error (.SEL4_FAILED_LOOKUP is_source.toNat))

/-! ## The lookup over numbers -/

/-- Where a guarded lookup ends: at a fault, or at a slot, with the bits it
did not use. -/
inductive lookup_result where
  | fault
  | found (slot bitsRemaining : Nat)
  deriving DecidableEq, Repr

/-- The `resolveAddressBits_ret_t` the source returns for a result, when it
was asked for `n_bits` bits. -/
def lookup_result.ret (n_bits : Nat) : lookup_result → resolveAddressBits_ret_t
  | .fault => ⟨.EXCEPTION_LOOKUP_FAULT, 0, n_bits⟩
  | .found slot bitsRemaining => ⟨.EXCEPTION_NONE, slot, bitsRemaining⟩

/-- The slot of a CNode at `ptr` that the `radix` bits of `cptr` below its
guard select, with `n` bits left. -/
def cnode_slot (cptr n guardSize radix ptr : Nat) : Nat :=
  ptr + cptr / 2 ^ (n - radix - guardSize) % 2 ^ radix * CTE_SIZE

/-- **The recursive guarded-CNode lookup** of the low `n` bits of `cptr`.
At a CNode cap with a guard of `guardSize` bits and `2 ^ radix` slots, the
guard is compared with the `guardSize` bits of `cptr` below bit `n` and the
slot is indexed by the `radix` bits below those; the lookup faults when the
guard does not fit in the bits left or differs, or when the whole level does
not fit, ends at the slot when the bits are used up or the slot holds no
CNode cap, and goes on from the slot's CNode cap otherwise. -/
inductive guarded_lookup (ctes : Nat → cte_t) (cptr : Nat) : cap → Nat → lookup_result → Prop
  | guard_mismatch {capGuard guardSize radix ptr n : Nat}
      (h : guardSize > n ∨ cptr / 2 ^ (n - guardSize) % 2 ^ guardSize ≠ capGuard) :
      guarded_lookup ctes cptr (.cnode_cap capGuard guardSize radix ptr) n .fault
  | level_mismatch {capGuard guardSize radix ptr n : Nat} (hg : guardSize ≤ n)
      (hguard : cptr / 2 ^ (n - guardSize) % 2 ^ guardSize = capGuard) (h : radix + guardSize > n) :
      guarded_lookup ctes cptr (.cnode_cap capGuard guardSize radix ptr) n .fault
  | found_all {capGuard guardSize radix ptr n : Nat}
      (hguard : cptr / 2 ^ (n - guardSize) % 2 ^ guardSize = capGuard) (h : n = radix + guardSize) :
      guarded_lookup ctes cptr (.cnode_cap capGuard guardSize radix ptr) n
        (.found (cnode_slot cptr n guardSize radix ptr) 0)
  | found_leaf {capGuard guardSize radix ptr n : Nat}
      (hguard : cptr / 2 ^ (n - guardSize) % 2 ^ guardSize = capGuard) (h : radix + guardSize < n)
      (hleaf : ∀ g gs r p, (ctes (cnode_slot cptr n guardSize radix ptr)).capability ≠ .cnode_cap g gs r p) :
      guarded_lookup ctes cptr (.cnode_cap capGuard guardSize radix ptr) n
        (.found (cnode_slot cptr n guardSize radix ptr) (n - radix - guardSize))
  | descend {capGuard guardSize radix ptr n g gs r p : Nat} {res : lookup_result}
      (hguard : cptr / 2 ^ (n - guardSize) % 2 ^ guardSize = capGuard) (h : radix + guardSize < n)
      (hnode : (ctes (cnode_slot cptr n guardSize radix ptr)).capability = .cnode_cap g gs r p)
      (hnext : guarded_lookup ctes cptr (.cnode_cap g gs r p) (n - radix - guardSize) res) :
      guarded_lookup ctes cptr (.cnode_cap capGuard guardSize radix ptr) n res

/-- A CNode cap as the kernel makes and mints them: at least one radix bit
(`check_object_type` refuses a CapTable of size 0), guard size and radix
fitting the word together (`update_data` refuses more), and a guard of at
most `guardSize` bits (`update_data` masks it). -/
def cap.cnode_wf : cap → Prop
  | .cnode_cap capCNodeGuard capCNodeGuardSize capCNodeRadix _ =>
    1 ≤ capCNodeRadix ∧ capCNodeGuardSize + capCNodeRadix ≤ WORD_BITS ∧
      capCNodeGuard < 2 ^ capCNodeGuardSize
  | _ => True

instance (c : cap) : Decidable c.cnode_wf := by
  cases c <;> unfold cap.cnode_wf <;> infer_instance

/-- The guard the loop reads, when the guard fits in the bits left. -/
theorem resolve_guard_eq {cptr n gs : Nat} (hg : gs ≤ n) (hn : n ≤ WORD_BITS) :
    wshr cptr (wsub n gs % 2 ^ WORD_RADIX) &&& mask_bits gs = cptr / 2 ^ (n - gs) % 2 ^ gs := by
  have h64 : n < 2 ^ WORD_BITS := Nat.lt_of_le_of_lt hn (by decide)
  have hw : wsub n gs = n - gs := by
    have hgs : gs < 2 ^ WORD_BITS := Nat.lt_of_le_of_lt hg h64
    have hsum : n + (2 ^ WORD_BITS - gs) = n - gs + 2 ^ WORD_BITS := by omega
    rw [wsub, Nat.mod_eq_of_lt h64, Nat.mod_eq_of_lt hgs, hsum, Nat.add_mod_right,
      Nat.mod_eq_of_lt (Nat.lt_of_le_of_lt (Nat.sub_le n gs) h64)]
  rw [WORD_BITS_eq] at hn
  rcases Nat.eq_zero_or_pos gs with rfl | hgs
  · rw [Nat.pow_zero, Nat.mod_one, mask_bits, Nat.pow_zero, Nat.sub_self, Nat.and_zero]
  · have hlt : n - gs < 2 ^ WORD_RADIX := by rw [two_pow_WORD_RADIX]; omega
    rw [hw, Nat.mod_eq_of_lt hlt]
    exact wshr_and_mask_bits hlt (by rw [WORD_BITS_eq]; omega)

/-- The slot the loop indexes, when the level fits in the bits left. -/
theorem resolve_slot_eq {cptr n gs r p : Nat} (hr : 1 ≤ r) (hl : r + gs ≤ n) (hn : n ≤ WORD_BITS) :
    p + (wshr cptr (n - (r + gs)) &&& mask_bits r) * CTE_SIZE = cnode_slot cptr n gs r p := by
  rw [wshr_and_mask_bits (by omega) (by omega), cnode_slot, Nat.sub_sub]

/-- **One level at a time, the loop is the lookup.** By induction on the
rounds left, which always exceed the bits left: each round that goes on
uses at least one bit. A fault answers the bits asked for at the start. -/
theorem resolve_address_bits_loop_spec {ctes : Nat → cte_t} (hwf : ∀ q, (ctes q).capability.cnode_wf)
    (cptr n₀ : Nat) :
    ∀ fuel g gs r p n, (cap.cnode_cap g gs r p).cnode_wf → n ≤ WORD_BITS → n < fuel →
      ∃ res, guarded_lookup ctes cptr (.cnode_cap g gs r p) n res ∧
        resolve_address_bits_loop ctes cptr n₀ fuel g gs r p n = some (res.ret n₀) := by
  intro fuel
  induction fuel with
  | zero => intro g gs r p n _ _ h; omega
  | succ fuel ih =>
    intro g gs r p n hc hn hfuel
    obtain ⟨hr, hgr, -⟩ := hc
    rw [resolve_address_bits_loop]
    dsimp only
    rw [if_neg (by omega)]
    by_cases hgt : gs > n
    · -- the guard does not fit
      refine ⟨.fault, .guard_mismatch (Or.inl hgt), ?_⟩
      rw [if_pos (Or.inl hgt)]
      rfl
    rw [resolve_guard_eq (Nat.le_of_not_gt hgt) hn]
    by_cases hgm : cptr / 2 ^ (n - gs) % 2 ^ gs ≠ g
    · -- the guard differs
      refine ⟨.fault, .guard_mismatch (Or.inr hgm), ?_⟩
      rw [if_pos (Or.inr hgm)]
      rfl
    have hguard : cptr / 2 ^ (n - gs) % 2 ^ gs = g := not_not.mp hgm
    rw [if_neg (by omega)]
    by_cases hlv : r + gs > n
    · -- the level does not fit
      refine ⟨.fault, .level_mismatch (Nat.le_of_not_gt hgt) hguard hlv, ?_⟩
      rw [if_pos hlv]
      rfl
    rw [if_neg hlv, resolve_slot_eq hr (Nat.le_of_not_gt hlv) hn]
    by_cases hall : n = r + gs
    · -- every bit used
      refine ⟨_, .found_all hguard hall, ?_⟩
      rw [if_pos hall]
      rfl
    rw [if_neg hall]
    have hlt : r + gs < n := by omega
    cases hcap : (ctes (cnode_slot cptr n gs r p)).capability with
    | cnode_cap g' gs' r' p' =>
      -- the slot holds a CNode: go on with the bits left
      have hwf' := hwf (cnode_slot cptr n gs r p)
      rw [hcap] at hwf'
      obtain ⟨res, hres, hrun⟩ := ih g' gs' r' p' (n - (r + gs)) hwf' (by omega) (by omega)
      refine ⟨res, .descend hguard hlt hcap (by rw [Nat.sub_sub]; exact hres), ?_⟩
      exact hrun
    | _ =>
      refine ⟨_, .found_leaf hguard hlt (by intros; rw [hcap]; nofun), ?_⟩
      rw [Nat.sub_sub]
      rfl

/-! ## The fast path finds the same cap -/

/-- The cap a lookup ends at: the slot's, or the null cap for a fault. -/
def lookup_result.cap_of (ctes : Nat → cte_t) : lookup_result → cap
  | .fault => .null_cap
  | .found slot _ => (ctes slot).capability

/-- A round of `lookup_fp` whose level needs more bits than are left ends the
lookup with the null cap, whatever the guard compares to. -/
theorem lookup_fp_loop_of_overrun {ctes : Nat → cte_t} {cptr fuel g gs r p b : Nat}
    (h : b + gs + r > WORD_BITS) : lookup_fp_loop ctes cptr (fuel + 1) g gs r p b = some .null_cap := by
  rw [lookup_fp_loop]
  dsimp only
  split
  · rfl
  · split
    · rw [if_neg (by omega)]
    · rfl

/-- Where the guard fits, `lookup_fp`'s guard test reads the same bits as
the specification's. -/
theorem lookup_fp_guard_eq {cptr b gs : Nat} (hb : b < WORD_BITS) (hgs : 0 < gs)
    (h : b + gs ≤ WORD_BITS) :
    wshr (wshl cptr b) (WORD_BITS - gs) = cptr / 2 ^ (WORD_BITS - b - gs) % 2 ^ gs := by
  rw [wshl_eq hb, top_bits_of_shifted hgs h]

/-- With `b` bits used and `n` left, a guard that fits in what is left
reads the bits the specification compares. -/
theorem lookup_fp_guard_eq_of_fit {cptr b n gs : Nat} (hb : b + n = WORD_BITS) (hgs : 0 < gs)
    (hfit : gs ≤ n) : wshr (wshl cptr b) (WORD_BITS - gs) = cptr / 2 ^ (n - gs) % 2 ^ gs := by
  rw [lookup_fp_guard_eq (by omega) hgs (by omega)]
  have he : WORD_BITS - b - gs = n - gs := by omega
  rw [he]

/-- Where the level fits, `lookup_fp`'s slot index reads the same bits as
the specification's. -/
theorem lookup_fp_index_eq {cptr b gs r : Nat} (hb : b < WORD_BITS) (hr : 0 < r)
    (h : b + gs + r ≤ WORD_BITS) :
    wshr (wshl (wshl cptr b) gs) (WORD_BITS - r) = cptr / 2 ^ (WORD_BITS - (b + gs) - r) % 2 ^ r := by
  rw [wshl_wshl hb (by omega), top_bits_of_shifted hr (by omega)]

/-- A round of `lookup_fp` whose guard matches and whose level fits reads
the slot the specification selects and ends there unless it holds a CNode
cap and bits are left. -/
theorem lookup_fp_loop_of_fit {ctes : Nat → cte_t} {cptr fuel g gs r p b n : Nat}
    (hb : b + n = WORD_BITS) (hr : 1 ≤ r) (hl : r + gs ≤ n)
    (hguard : cptr / 2 ^ (n - gs) % 2 ^ gs = g) :
    lookup_fp_loop ctes cptr (fuel + 1) g gs r p b =
      match (ctes (cnode_slot cptr n gs r p)).capability with
      | .cnode_cap g' gs' r' p' =>
        if b + gs + r < WORD_BITS then lookup_fp_loop ctes cptr fuel g' gs' r' p' (b + gs + r)
        else some (ctes (cnode_slot cptr n gs r p)).capability
      | _ => some (ctes (cnode_slot cptr n gs r p)).capability := by
  have hpass : ¬ (gs ≠ 0 ∧ wshr (wshl cptr b) (WORD_BITS - gs) ≠ g) := by
    rintro ⟨hgs, hne⟩
    rw [lookup_fp_guard_eq_of_fit hb (Nat.pos_of_ne_zero hgs) (by omega)] at hne
    exact hne hguard
  have hslot : p + wshr (wshl (wshl cptr b) gs) (WORD_BITS - r) * CTE_SIZE = cnode_slot cptr n gs r p := by
    rw [lookup_fp_index_eq (by omega) (by omega) (by omega), cnode_slot]
    have he : WORD_BITS - (b + gs) - r = n - r - gs := by omega
    rw [he]
  have hover : ¬ b + gs + r > WORD_BITS := by omega
  rw [lookup_fp_loop]
  dsimp only
  rw [if_neg hpass, hslot]
  -- the two matches may differ in their auxiliary matchers: reduce each case
  cases (ctes (cnode_slot cptr n gs r p)).capability <;> simp only [if_neg hover]

/-- **`lookup_fp` follows the guarded lookup.** By induction on the lookup:
each level of it is one round of the fast path's loop, with `b` bits used
and `n` left. A guard of zero bits is never compared by the fast path, and
the guard the lookup compares it to is zero there. -/
theorem lookup_fp_loop_of_guarded_lookup {ctes : Nat → cte_t} (hwf : ∀ q, (ctes q).capability.cnode_wf)
    {cptr n : Nat} {c : cap} {res : lookup_result} (hl : guarded_lookup ctes cptr c n res) :
    ∀ {fuel b g gs r p : Nat}, c = .cnode_cap g gs r p → c.cnode_wf → b + n = WORD_BITS → n ≤ fuel →
      0 < n → lookup_fp_loop ctes cptr fuel g gs r p b = some (res.cap_of ctes) := by
  induction hl with
  | @guard_mismatch g gs r p n h =>
    intro fuel b _ _ _ _ hc hc' hb hfuel hn
    cases hc
    obtain ⟨hr, -, hg⟩ := hc'
    obtain ⟨fuel, rfl⟩ : ∃ f, fuel = f + 1 := ⟨fuel - 1, by omega⟩
    rcases h with hgt | hne
    · exact lookup_fp_loop_of_overrun (by omega)
    · -- the guard fits and differs; a guard of no bits cannot differ
      have hgs : 0 < gs := by
        rcases Nat.eq_zero_or_pos gs with rfl | hgs
        · simp at hg hne; omega
        · exact hgs
      by_cases hfit : gs ≤ n
      · have hne' : wshr (wshl cptr b) (WORD_BITS - gs) ≠ g := by
          rw [lookup_fp_guard_eq_of_fit hb hgs hfit]
          exact hne
        rw [lookup_fp_loop]
        dsimp only
        rw [if_pos ⟨by omega, hne'⟩]
        rfl
      · exact lookup_fp_loop_of_overrun (by omega)
  | @level_mismatch g gs r p n hg hguard h =>
    intro fuel b _ _ _ _ hc hc' hb hfuel hn
    cases hc
    obtain ⟨fuel, rfl⟩ : ∃ f, fuel = f + 1 := ⟨fuel - 1, by omega⟩
    exact lookup_fp_loop_of_overrun (by omega)
  | @found_all g gs r p n hguard h =>
    intro fuel b _ _ _ _ hc hc' hb hfuel hn
    cases hc
    obtain ⟨hr, -, -⟩ := hc'
    obtain ⟨fuel, rfl⟩ : ∃ f, fuel = f + 1 := ⟨fuel - 1, by omega⟩
    -- every bit used: the round ends at the slot, whatever it holds
    rw [lookup_fp_loop_of_fit hb hr (by omega) hguard]
    split
    · rw [if_neg (by omega)]
      rfl
    · rfl
  | @found_leaf g gs r p n hguard h hleaf =>
    intro fuel b _ _ _ _ hc hc' hb hfuel hn
    cases hc
    obtain ⟨hr, -, -⟩ := hc'
    obtain ⟨fuel, rfl⟩ : ∃ f, fuel = f + 1 := ⟨fuel - 1, by omega⟩
    rw [lookup_fp_loop_of_fit hb hr (by omega) hguard]
    split
    · rename_i g' gs' r' p' hcap
      exact absurd hcap (hleaf g' gs' r' p')
    · rfl
  | @descend g gs r p n g' gs' r' p' res hguard h hnode hnext ih =>
    intro fuel b _ _ _ _ hc hc' hb hfuel hn
    cases hc
    obtain ⟨hr, -, -⟩ := hc'
    obtain ⟨fuel, rfl⟩ : ∃ f, fuel = f + 1 := ⟨fuel - 1, by omega⟩
    -- bits are left and the slot holds a CNode cap: the next round
    have hwf' := hwf (cnode_slot cptr n gs r p)
    rw [hnode] at hwf'
    rw [lookup_fp_loop_of_fit hb hr (by omega) hguard, hnode]
    dsimp only
    rw [if_pos (by omega)]
    exact ih rfl hwf' (by omega) (by omega) (by omega)

/-! ## The two lookups agree -/

/-- A lookup has one result: at each level the premises of the five cases
exclude one another. -/
theorem guarded_lookup.det {ctes : Nat → cte_t} {cptr n : Nat} {c : cap} {res₁ res₂ : lookup_result}
    (h₁ : guarded_lookup ctes cptr c n res₁) (h₂ : guarded_lookup ctes cptr c n res₂) : res₁ = res₂ := by
  induction h₁ generalizing res₂ with
  | guard_mismatch h =>
    cases h₂ with
    | guard_mismatch => rfl
    | level_mismatch => rfl
    | found_all hguard => omega
    | found_leaf hguard => omega
    | descend hguard => omega
  | level_mismatch hg hguard h =>
    cases h₂ with
    | guard_mismatch => rfl
    | level_mismatch => rfl
    | found_all _ h' => omega
    | found_leaf _ h' => omega
    | descend _ h' => omega
  | found_all hguard h =>
    cases h₂ with
    | found_all => rfl
    | guard_mismatch h' => omega
    | level_mismatch _ _ h' => omega
    | found_leaf _ h' => omega
    | descend _ h' => omega
  | found_leaf hguard h hleaf =>
    cases h₂ with
    | found_leaf => rfl
    | guard_mismatch h' => omega
    | level_mismatch _ _ h' => omega
    | found_all _ h' => omega
    | descend _ _ hnode => exact absurd hnode (hleaf _ _ _ _)
  | descend hguard h hnode hnext ih =>
    cases h₂ with
    | descend _ _ hnode' hnext' =>
      -- both go on from the cap in the same slot
      rw [hnode] at hnode'
      cases hnode'
      exact ih hnext'
    | guard_mismatch h' => omega
    | level_mismatch _ _ h' => omega
    | found_all _ h' => omega
    | found_leaf _ _ hleaf => exact absurd hnode (hleaf _ _ _ _)

/-- **`lookup_slot_for_cnode_op` answers the guarded lookup.** Given a depth
the word can hold, it returns a slot exactly where the lookup uses every bit
and ends at that slot; every other outcome is the failed-lookup error. -/
theorem lookup_slot_for_cnode_op_ok_iff {ctes : Nat → cte_t} (hwf : ∀ q, (ctes q).capability.cnode_wf)
    {capGuard guardBits radixBits capCNodePtr : Nat}
    (hc : (cap.cnode_cap capGuard guardBits radixBits capCNodePtr).cnode_wf)
    (is_source : Bool) (cap_ptr depth slot : Nat) (h1 : 1 ≤ depth) (h2 : depth ≤ WORD_BITS) :
    lookup_slot_for_cnode_op ctes is_source (.cnode_cap capGuard guardBits radixBits capCNodePtr) cap_ptr
        depth = some (.ok slot) ↔
      guarded_lookup ctes cap_ptr (.cnode_cap capGuard guardBits radixBits capCNodePtr) depth (.found slot 0) := by
  obtain ⟨res, hres, hrun⟩ :=
    resolve_address_bits_loop_spec hwf cap_ptr depth (depth + 1) capGuard guardBits radixBits
      capCNodePtr depth hc h2 (Nat.lt_succ_self _)
  rw [lookup_slot_for_cnode_op, if_neg (by omega), resolve_address_bits, hrun]
  constructor
  · -- a slot comes only from a result with no bits left
    intro h
    cases res with
    | fault => simp [lookup_result.ret] at h
    | found s k =>
      by_cases hk : k = 0
      · subst hk
        simp [lookup_result.ret] at h
        rw [← h]
        exact hres
      · simp [lookup_result.ret, hk] at h
  · intro h
    cases hres.det h
    simp [lookup_result.ret]

/-- Five bits through a CNode of a two-bit guard and radix 3 end at its slot. -/
theorem lookup_slot_for_cnode_op_of_five_bits :
    lookup_slot_for_cnode_op (fun _ => {}) false (.cnode_cap 2 2 3 0x1000) 18 5 =
      some (.ok (cnode_slot 18 5 2 3 0x1000)) :=
  (@lookup_slot_for_cnode_op_ok_iff (fun _ => {}) (fun _ => trivial) 2 2 3 0x1000 (by decide) false 18 5 _
    (by decide) (by decide)).mpr
    (.found_all (by decide) (by decide))

/-- A CNode cap of no radix and no guard makes no progress: the walk stops at
`assert_ne!(levelBits, 0)` whatever the CSpace and the address. -/
theorem resolve_address_bits_empty_level (ctes : Nat → cte_t) (capGuard capCNodePtr cap_ptr n_bits : Nat) :
    resolve_address_bits ctes (.cnode_cap capGuard 0 0 capCNodePtr) cap_ptr n_bits = none := by
  rw [resolve_address_bits, resolve_address_bits_loop]
  rfl

theorem resolve_address_bits_radix_zero_panics :
    resolve_address_bits (fun _ => {}) (.cnode_cap 0 0 0 0x8000) 0 1 = none :=
  resolve_address_bits_empty_level _ 0 0x8000 0 1

/-- **`resolve_address_bits` is the guarded lookup, and `lookup_fp` finds its
cap.** From a well-formed CNode cap, in a CSpace whose CNode caps are all
well formed, the walk returns for every address and every number of bits up
to the word: a fault exactly where the guarded lookup faults, and otherwise
the slot it ends at with the bits it left. Asked for the whole word, the
fast path's walk returns the cap in that slot, or the null cap for a fault. -/
theorem resolve_address_bits_agrees {ctes : Nat → cte_t} (hwf : ∀ q, (ctes q).capability.cnode_wf)
    {capGuard guardBits radixBits capCNodePtr : Nat}
    (hc : (cap.cnode_cap capGuard guardBits radixBits capCNodePtr).cnode_wf)
    (cap_ptr n_bits : Nat) (hn : n_bits ≤ WORD_BITS) :
    ∃ res, guarded_lookup ctes cap_ptr (.cnode_cap capGuard guardBits radixBits capCNodePtr) n_bits res ∧
      resolve_address_bits ctes (.cnode_cap capGuard guardBits radixBits capCNodePtr) cap_ptr n_bits =
        some (res.ret n_bits) ∧
      (n_bits = WORD_BITS →
        lookup_fp ctes (.cnode_cap capGuard guardBits radixBits capCNodePtr) cap_ptr = some (res.cap_of ctes)) := by
  obtain ⟨res, hres, hrun⟩ :=
    resolve_address_bits_loop_spec hwf cap_ptr n_bits (n_bits + 1) capGuard guardBits radixBits
      capCNodePtr n_bits hc hn (Nat.lt_succ_self _)
  refine ⟨res, hres, hrun, ?_⟩
  rintro rfl
  exact lookup_fp_loop_of_guarded_lookup hwf hres rfl hc (Nat.zero_add _) (Nat.le_refl _) (by decide)

/-- The CSpace of `sel4_cspace`'s `resolve_address_bits_test`: two CNodes of
radix 3, with guards `2` and `3` of two bits, share one buffer, so the slot
the first selects ends up holding the domain cap inserted last. -/
def resolve_test_ctes : Nat → cte_t :=
  fun p => if p = 0x1000 + 2 * CTE_SIZE then { capability := .domain_cap } else {}

/-- With ten bits the test's walk stops at the domain cap with five left. -/
theorem resolve_address_bits_agrees_test :
    (∀ q, (resolve_test_ctes q).capability.cnode_wf) ∧ (cap.cnode_cap 2 2 3 0x1000).cnode_wf ∧
      10 ≤ WORD_BITS ∧
      ∃ res, guarded_lookup resolve_test_ctes ((2 <<< 8) ||| (2 <<< 5) ||| (3 <<< 3) ||| 2)
          (.cnode_cap 2 2 3 0x1000) 10 res ∧
        resolve_address_bits resolve_test_ctes (.cnode_cap 2 2 3 0x1000)
          ((2 <<< 8) ||| (2 <<< 5) ||| (3 <<< 3) ||| 2) 10 = some (res.ret 10) ∧
        (10 = WORD_BITS →
          lookup_fp resolve_test_ctes (.cnode_cap 2 2 3 0x1000) ((2 <<< 8) ||| (2 <<< 5) ||| (3 <<< 3) ||| 2) =
            some (res.cap_of resolve_test_ctes)) := by
  have hwf : ∀ q, (resolve_test_ctes q).capability.cnode_wf := by
    intro q
    unfold resolve_test_ctes
    split <;> trivial
  have hc : (cap.cnode_cap 2 2 3 0x1000).cnode_wf := by decide
  exact ⟨hwf, hc, by decide, resolve_address_bits_agrees hwf hc _ 10 (by decide)⟩

example : resolve_address_bits resolve_test_ctes (.cnode_cap 2 2 3 0x1000)
    ((2 <<< 8) ||| (2 <<< 5) ||| (3 <<< 3) ||| 2) 10 = some ⟨.EXCEPTION_NONE, 0x1000 + 2 * CTE_SIZE, 5⟩ := by
  decide

end Rel4Kernel
