/-
`sel4_cspace::capability` and its RISC-V part: what a cap points at, and the
two relations the capability derivation tree is built on.

`same_region_as c₁ c₂` says that `c₂`'s object lies inside what `c₁` covers
(an untyped cap covers a whole block); `same_object_as` is the same for
everything but untyped caps and frames, which compare exactly.
`is_cap_revocable` decides whether a freshly derived cap starts a new
subtree. All three are written as the source writes them, one `match` arm per
cap type of the non-MCS RISC-V build.

`pageBitsForSize` panics on a size field of 3, which no kernel path writes
into a frame cap; the frame arm of `arch_same_region_as` answers `false` there.
-/
import Rel4Kernel.Object.Structures

set_option autoImplicit false

namespace Rel4Kernel

open cap_tag

/-! ## Object sizes -/

def SEL4_ENDPOINT_BITS : Nat := 4
def SEL4_NOTIFICATION_BITS : Nat := 5
def SEL4_SLOT_BITS : Nat := 5
def SEL4_MIN_UNTYPED_BITS : Nat := 4
def PT_SIZE_BITS : Nat := 12
def TCB_CNODE_RADIX : Nat := 4
def ZOMBIE_TYPE_ZOMBIE_TCB : Nat := 2 ^ WORD_RADIX

/-- `mask_bits!(n)`. -/
def mask_bits (n : Nat) : Nat := 2 ^ n - 1

/-- `max_free_index`. -/
def max_free_index (bits : Nat) : Nat := 2 ^ (bits - SEL4_MIN_UNTYPED_BITS)

/-- `pageBitsForSize` (RISC-V); `none` is its panic. -/
def pageBitsForSize (page_size : Nat) : Option Nat :=
  match page_size with
  | 0 => some 12
  | 1 => some 21
  | 2 => some 30
  | _ => none

/-! ## Zombies -/

/-- `cap_zombie_cap::get_zombie_bit`. -/
def zombie_bit (capZombieType : Nat) : Nat :=
  if capZombieType = ZOMBIE_TYPE_ZOMBIE_TCB then TCB_CNODE_RADIX
  else capZombieType % 2 ^ WORD_RADIX

/-- `cap_zombie_cap::get_zombie_ptr`: the ID with its low `radix + 1` bits cleared. -/
def zombie_ptr (capZombieID capZombieType : Nat) : Nat :=
  capZombieID - capZombieID % 2 ^ (zombie_bit capZombieType + 1)

/-- `cap_zombie_cap::get_zombie_number`. -/
def zombie_number (capZombieID capZombieType : Nat) : Nat :=
  capZombieID % 2 ^ (zombie_bit capZombieType + 1)

/-! ## What a cap points at -/

/-- `cap_arch_func::get_cap_ptr` (RISC-V). -/
def cap.get_cap_ptr : cap → Nat
  | .untyped_cap _ _ _ capPtr => capPtr
  | .endpoint_cap _ _ _ _ _ capEPPtr => capEPPtr
  | .notification_cap _ _ _ capNtfnPtr => capNtfnPtr
  | .cnode_cap _ _ _ capCNodePtr => capCNodePtr
  | .thread_cap capTCBPtr => capTCBPtr
  | .zombie_cap capZombieID capZombieType => zombie_ptr capZombieID capZombieType
  | .frame_cap _ capFBasePtr _ _ _ _ => capFBasePtr
  | .page_table_cap _ capPTBasePtr _ _ => capPTBasePtr
  | .asid_pool_cap _ capASIDPool => capASIDPool
  | _ => 0

/-- `cap_func::get_cap_size_bits` (non-MCS). -/
def cap.get_cap_size_bits : cap → Nat
  | .untyped_cap _ _ capBlockSize _ => capBlockSize
  | .endpoint_cap .. => SEL4_ENDPOINT_BITS
  | .notification_cap .. => SEL4_NOTIFICATION_BITS
  | .cnode_cap _ _ capCNodeRadix _ => capCNodeRadix + SEL4_SLOT_BITS
  | .page_table_cap .. => PT_SIZE_BITS
  | _ => 0

/-- `cap_func::get_cap_is_physical` (non-MCS). -/
def cap.get_cap_is_physical (c : cap) : Bool :=
  match c.get_tag with
  | cap_untyped_cap | cap_endpoint_cap | cap_notification_cap | cap_cnode_cap | cap_frame_cap
  | cap_asid_pool_cap | cap_page_table_cap | cap_zombie_cap | cap_thread_cap => true
  | _ => false

/-! ## The two relations -/

/-- `arch_same_region_as` (RISC-V). Its callers only pass arch caps, for
which the source's final `panic!` arm is never reached. -/
def arch_same_region_as (cap1 cap2 : cap) : Bool :=
  match cap1, cap2 with
  | .frame_cap _ botA sizeA _ _ _, .frame_cap _ botB sizeB _ _ _ =>
    match pageBitsForSize sizeA, pageBitsForSize sizeB with
    | some bitsA, some bitsB =>
      let topA := botA + mask_bits bitsA
      let topB := botB + mask_bits bitsB
      botA ≤ botB && topA ≥ topB && botB ≤ topB
    | _, _ => false
  | .page_table_cap _ baseA _ _, .page_table_cap _ baseB _ _ => baseA == baseB
  | .asid_control_cap, c => c.get_tag == cap_asid_control_cap
  | .asid_pool_cap _ poolA, .asid_pool_cap _ poolB => poolA == poolB
  | _, _ => false

/-- `arch_same_object_as` (RISC-V): frames compare exactly. -/
def arch_same_object_as (cap1 cap2 : cap) : Bool :=
  match cap1, cap2 with
  | .frame_cap _ baseA sizeA _ devA _, .frame_cap _ baseB sizeB _ devB _ =>
    baseA == baseB && sizeA == sizeB && ((devA == 0) == (devB == 0))
  | _, _ => arch_same_region_as cap1 cap2

/-- `same_region_as`. -/
def same_region_as (cap1 cap2 : cap) : Bool :=
  match cap1 with
  | .untyped_cap _ _ capBlockSize capPtr =>
    if cap2.get_cap_is_physical then
      let aBase := capPtr
      let bBase := cap2.get_cap_ptr
      let aTop := aBase + mask_bits capBlockSize
      let bTop := bBase + mask_bits cap2.get_cap_size_bits
      aBase ≤ bBase && bTop ≤ aTop && bBase ≤ bTop
    else false
  | .endpoint_cap .. | .notification_cap .. | .page_table_cap .. | .asid_pool_cap ..
  | .thread_cap .. =>
    cap2.get_tag == cap1.get_tag && cap1.get_cap_ptr == cap2.get_cap_ptr
  | .asid_control_cap | .domain_cap => cap2.get_tag == cap1.get_tag
  | .cnode_cap _ _ radixA ptrA =>
    match cap2 with
    | .cnode_cap _ _ radixB ptrB => ptrA == ptrB && radixA == radixB
    | _ => false
  | .irq_control_cap =>
    cap2.get_tag == cap_irq_control_cap || cap2.get_tag == cap_irq_handler_cap
  | .irq_handler_cap irqA =>
    match cap2 with
    | .irq_handler_cap irqB => irqA == irqB
    | _ => false
  | _ => cap1.is_arch_cap && cap2.is_arch_cap && arch_same_region_as cap1 cap2

/-- `same_object_as`. -/
def same_object_as (cap1 cap2 : cap) : Bool :=
  if cap1.get_tag = cap_untyped_cap then false
  else if cap1.get_tag = cap_irq_control_cap ∧ cap2.get_tag = cap_irq_handler_cap then false
  else if cap1.is_arch_cap ∧ cap2.is_arch_cap then arch_same_object_as cap1 cap2
  else same_region_as cap1 cap2

/-- `is_cap_revocable`; `none` is a failed `assert_eq!` on the source cap's
type. RISC-V arch caps are never revocable. -/
def is_cap_revocable (derived_cap src_cap : cap) : Option Bool :=
  if derived_cap.is_arch_cap then some false
  else
    match derived_cap, src_cap with
    | .endpoint_cap badgeD .., .endpoint_cap badgeS .. => some (badgeD != badgeS)
    | .endpoint_cap .., _ => none
    | .notification_cap badgeD .., .notification_cap badgeS .. => some (badgeD != badgeS)
    | .notification_cap .., _ => none
    | .irq_handler_cap _, c => some (c.get_tag == cap_irq_control_cap)
    | .untyped_cap .., _ => some true
    | _, _ => some false

/-- `cap_func::update_data` (RISC-V, whose `arch_updatedata` returns the cap
unchanged). Only an unbadged cap takes a badge, and only when not asked to
preserve; a CNode cap takes its guard size from bits 0..5 of the data and its
guard from the bits above. -/
def cap.update_data (c : cap) (preserve : Bool) (new_data : Nat) : cap :=
  if c.is_arch_cap then c
  else
    match c with
    | .endpoint_cap badge grantReply grant recv send ptr =>
      if !preserve && badge = 0 then .endpoint_cap new_data grantReply grant recv send ptr
      else .null_cap
    | .notification_cap badge recv send ptr =>
      if !preserve && badge = 0 then .notification_cap new_data recv send ptr else .null_cap
    | .cnode_cap _ _ radix ptr =>
      let guard_size := new_data % 2 ^ 6
      if guard_size + radix > WORD_BITS then .null_cap
      else .cnode_cap (new_data / 2 ^ 6 % 2 ^ guard_size) guard_size radix ptr
    | c => c

/-- No cap is the same object as the null cap, either way round. -/
@[simp] theorem same_object_as_null_right (c : cap) : same_object_as c .null_cap = false := by
  cases c <;> simp [same_object_as, same_region_as, arch_same_region_as,
    cap.get_tag, cap.is_arch_cap, cap_tag.val]

@[simp] theorem same_object_as_null_left (c : cap) : same_object_as .null_cap c = false := by
  simp [same_object_as, same_region_as, cap.get_tag, cap.is_arch_cap, cap_tag.val]

end Rel4Kernel
