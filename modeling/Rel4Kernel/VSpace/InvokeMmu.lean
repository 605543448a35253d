/-
The architecture-independent part of the MMU invocations (`invoke_mmu_op.rs`),
over a model of page-table memory.

Page tables live in the kernel window. The model keeps their entries as one
map `ptes` from the kernel address of an entry to its 64-bit word; `pt.add(i)`
on a `*mut PTE` is the address `pt + 8 * i`. `clear_memory` zeroes every entry
of a block. The source picks `unmap_page_table` by `cfg`; here it is a
parameter, instantiated in `Rel4Kernel.VSpace.Riscv64` and
`Rel4Kernel.VSpace.Aarch64`, whose `none` is a failed assertion inside it.
-/
import Rel4Kernel.CSpace.Capability

set_option autoImplicit false

namespace Rel4Kernel

/-! ## `sel4_config` -/

def PT_INDEX_BITS : Nat := 9
def SEL4_PAGE_BITS : Nat := 12
def SEL4_PAGE_TABLE_BITS : Nat := 12
def ASID_LOW_BITS : Nat := 9

/-! ## Page-table memory -/

/-- `pt.add(i)` on a `*mut PTE`: entries are eight bytes. -/
def pte_add (pt i : Nat) : Nat := pt + 8 * i

/-- `clear_memory(ptr, bits)`: the `2 ^ bits` bytes from `ptr` are zero. -/
def clear_memory (ptes : Nat → Nat) (ptr bits : Nat) : Nat → Nat :=
  fun a => if ptr ≤ a ∧ a < ptr + 2 ^ bits then 0 else ptes a

theorem clear_memory_of_mem {ptes : Nat → Nat} {ptr bits a : Nat} (h1 : ptr ≤ a)
    (h2 : a < ptr + 2 ^ bits) : clear_memory ptes ptr bits a = 0 := by
  simp [clear_memory, h1, h2]

/-- `clear_memory` leaves every entry outside the block alone. -/
theorem clear_memory_of_not_mem {ptes : Nat → Nat} {ptr bits a : Nat}
    (h : a < ptr ∨ ptr + 2 ^ bits ≤ a) : clear_memory ptes ptr bits a = ptes a := by
  have : ¬ (ptr ≤ a ∧ a < ptr + 2 ^ bits) := by omega
  simp only [clear_memory, this, if_false]

/-! ## `invoke_page_table_unmap` -/

/-- `invoke_page_table_unmap`, given the fields of the page-table cap: a
mapped table is unlinked from its address space and cleared, and the cap
written back says it is not mapped. -/
def invoke_page_table_unmap
    (unmap_page_table : Nat → Nat → Nat → (Nat → Nat) → Option (Nat → Nat))
    (capPTMappedASID capPTBasePtr capPTIsMapped capPTMappedAddress : Nat) (ptes : Nat → Nat) :
    Option (cap × (Nat → Nat)) := do
  let ptes ←
    if capPTIsMapped ≠ 0 then do
      let ptes ← unmap_page_table capPTMappedASID capPTMappedAddress capPTBasePtr ptes
      pure (clear_memory ptes capPTBasePtr SEL4_PAGE_TABLE_BITS)
    else pure ptes
  pure (.page_table_cap capPTMappedASID capPTBasePtr 0 capPTMappedAddress, ptes)

/-- The spec of `invoke_page_table_unmap` on a mapped table: whatever the
architecture's unmap leaves, the table is cleared and the cap unmapped. -/
theorem invoke_page_table_unmap_of_mapped
    {unmap_page_table : Nat → Nat → Nat → (Nat → Nat) → Option (Nat → Nat)}
    {asid base mapped vaddr : Nat} {ptes ptes' : Nat → Nat} (hm : mapped ≠ 0)
    (h : unmap_page_table asid vaddr base ptes = some ptes') :
    invoke_page_table_unmap unmap_page_table asid base mapped vaddr ptes =
      some (.page_table_cap asid base 0 vaddr, clear_memory ptes' base SEL4_PAGE_TABLE_BITS) := by
  simp [invoke_page_table_unmap, hm, h]

end Rel4Kernel
