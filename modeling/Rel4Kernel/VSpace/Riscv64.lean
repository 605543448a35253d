/-
`sel4_vspace` on RISC-V (Sv39, three levels): page-table entries, the ASID
table and `unmap_page_table`.

An entry is a 64-bit word: bit 0 valid, bits 1..3 read, write, execute, and
the physical page number from bit 10. A valid entry with none of the three
rights points to the next-level table, which the kernel reaches in its window
at `PPTR_BASE_OFFSET`. ASIDs are the 16 bits of a cap's `capPTMappedASID`, so
the 128-entry `riscvKSASIDTable` is never indexed out of bounds and is a
total map here; so is the `array` of every ASID pool.

`unmap_page_table` walks from the root of the ASID's address space along the
virtual address until it reaches the table to unmap, and stops early at an
entry it cannot follow. The source's early-exit test is `is_pte_table()`, not
its negation: the walk stops at the first entry that does point to a table.
-/
import Rel4Kernel.VSpace.InvokeMmu

set_option autoImplicit false

namespace Rel4Kernel.riscv64

open Function

def CONFIG_PT_LEVELS : Nat := 3
def PPTR_BASE_OFFSET : Nat := 0xFFFFFFC000000000
def PPTR_BASE : Nat := 0xFFFFFFC000000000

/-- `PTEFlags::V`. -/
def PTEFlags_V : Nat := 0x1

/-- `riscv_get_pt_index`: the index into a level-`n` table, level 0 being the
root. -/
def riscv_get_pt_index (addr n : Nat) : Nat :=
  (addr >>> (PT_INDEX_BITS * (CONFIG_PT_LEVELS - 1 - n) + SEL4_PAGE_BITS)) &&& mask_bits PT_INDEX_BITS

/-! ## Entries -/

namespace PTE

/-- `PTE::new(ppn, flags)`. -/
def new (ppn flags : Nat) : Nat := flags ||| (ppn <<< 10)

def get_valid (w : Nat) : Nat := (w &&& 0x1) >>> 0
def get_read (w : Nat) : Nat := (w &&& 0x2) >>> 1
def get_write (w : Nat) : Nat := (w &&& 0x4) >>> 2
def get_execute (w : Nat) : Nat := (w &&& 0x8) >>> 3
def get_ppn (w : Nat) : Nat := (w &&& 0x3ffffffffffc00) >>> 10

/-- `is_pte_table`: valid, with no right, so a link to a next-level table. -/
def is_pte_table (w : Nat) : Bool :=
  get_valid w ≠ 0 && !(get_read w ≠ 0 || get_write w ≠ 0 || get_execute w ≠ 0)

/-- `get_pte_from_ppn_mut`: the kernel address of the table an entry points to. -/
def get_pte_from_ppn_mut (w : Nat) : Nat := (get_ppn w <<< SEL4_PAGE_TABLE_BITS) + PPTR_BASE_OFFSET

end PTE

/-! ## ASIDs -/

/-- `find_vspace_for_asid`: the root of the address space of `asid`, `none`
for the lookup fault `invalid_root` (no pool, or no root in the pool). -/
def find_vspace_for_asid (riscvKSASIDTable : Nat → Nat) (asid_pool : Nat → Nat → Nat)
    (asid : Nat) : Option Nat :=
  let poolPtr := riscvKSASIDTable (asid >>> ASID_LOW_BITS)
  if poolPtr = 0 then none
  else
    let vspace_root := asid_pool poolPtr (asid &&& mask_bits ASID_LOW_BITS)
    if vspace_root = 0 then none else some vspace_root

/-! ## Installing an address space -/

def PPTR_TOP : Nat := 0xFFFFFFFF80000000
def PADDR_TOP : Nat := PPTR_TOP - PPTR_BASE_OFFSET
def PHYS_BASE : Nat := 0x80000000
def KERNEL_ELF_PADDR_BASE : Nat := PHYS_BASE + 0x4000000
def KERNEL_ELF_BASE : Nat := PPTR_TOP + (KERNEL_ELF_PADDR_BASE &&& mask_bits 30)
def KERNEL_ELF_BASE_OFFSET : Nat := KERNEL_ELF_BASE - KERNEL_ELF_PADDR_BASE

/-- `kpptr_to_paddr`: the physical address of an address in the kernel image. -/
def kpptr_to_paddr (x : Nat) : Nat := x - KERNEL_ELF_BASE_OFFSET

/-- `PPtr::to_paddr`: the physical address of an address in the kernel window. -/
def to_paddr (x : Nat) : Nat := x - PPTR_BASE_OFFSET

/-- `lookup_fault`, of which the ASID lookup raises one kind. -/
inductive lookup_fault where
  | lookup_fault_invalid_root
  deriving DecidableEq, Repr

/-- `set_vspace_root(addr, asid)`: `satp` takes the root's physical address
and the ASID (the Sv39 mode and the page-number packing are not modelled). -/
def set_vspace_root (addr asid : Nat) (s : KernelState) : KernelState :=
  { s with vspaceRoot := (addr, asid) }

@[simp] theorem set_vspace_root_vspaceRoot (addr asid : Nat) (s : KernelState) :
    (set_vspace_root addr asid s).vspaceRoot = (addr, asid) := rfl

/-- A second write to `satp` overwrites the first. -/
@[simp] theorem set_vspace_root_set_vspace_root (addr asid addr' asid' : Nat) (s : KernelState) :
    set_vspace_root addr asid (set_vspace_root addr' asid' s) = set_vspace_root addr asid s := rfl

/-- `set_vm_root(vspace_root_cap)`, with `KERNEL_ROOT_PAGE_TABLE` the
kernel-image address of the kernel's own root table. A cap that is not a
page-table cap installs the kernel's root. Otherwise the ASID lookup decides
whether the kernel's root is installed and a fault returned; the branch that
does so has no `return`, and the thread's root is installed after it on
every path. -/
def set_vm_root (riscvKSASIDTable : Nat → Nat) (asid_pool : Nat → Nat → Nat)
    (KERNEL_ROOT_PAGE_TABLE : Nat) (vspace_root_cap : cap) (s : KernelState) :
    Except lookup_fault Unit × KernelState :=
  match vspace_root_cap with
  | .page_table_cap capPTMappedASID capPTBasePtr _ _ =>
    let lvl1pt := capPTBasePtr
    let asid := capPTMappedASID
    let find_ret := find_vspace_for_asid riscvKSASIDTable asid_pool asid
    let (ret, s) :=
      if find_ret ≠ some lvl1pt then
        (if find_ret = none then .error .lookup_fault_invalid_root else .ok (),
          set_vspace_root (kpptr_to_paddr KERNEL_ROOT_PAGE_TABLE) 0 s)
      else (.ok (), s)
    (ret, set_vspace_root (to_paddr lvl1pt) asid s)
  | _ => (.ok (), set_vspace_root (kpptr_to_paddr KERNEL_ROOT_PAGE_TABLE) 0 s)

/-! ## Mapping and unmapping a page table -/

/-- `invoke_page_table_map`: the entry `pt_slot` is made a link to the table,
and the cap written back records where it is mapped. -/
def invoke_page_table_map (capPTBasePtr pt_slot asid vaddr : Nat) (ptes : Nat → Nat) :
    cap × (Nat → Nat) :=
  let paddr := capPTBasePtr - PPTR_BASE_OFFSET
  let pte := PTE.new (paddr >>> SEL4_PAGE_BITS) PTEFlags_V
  (.page_table_cap asid capPTBasePtr 1 vaddr, update ptes pt_slot pte)

/-- The `while` loop of `unmap_page_table`: from level `i`, at table `pt`,
with the last entry read `ptSlot`. `none` is the early `return`; otherwise
the table and entry the loop ends at. -/
def unmap_page_table_loop (ptes : Nat → Nat) (vptr target_pt : Nat) (i pt ptSlot : Nat) :
    Option (Nat × Nat) :=
  if h : i < CONFIG_PT_LEVELS - 1 ∧ pt ≠ target_pt then
    let ptSlot := pte_add pt (riscv_get_pt_index vptr i)
    if PTE.is_pte_table (ptes ptSlot) then none
    else
      unmap_page_table_loop ptes vptr target_pt (i + 1) (PTE.get_pte_from_ppn_mut (ptes ptSlot))
        ptSlot
  else some (pt, ptSlot)
termination_by CONFIG_PT_LEVELS - 1 - i
decreasing_by omega

/-- `unmap_page_table(asid, vptr, pt)`; `none` is the failed `assert_ne!`
that the root is not the table itself. -/
def unmap_page_table (riscvKSASIDTable : Nat → Nat) (asid_pool : Nat → Nat → Nat)
    (asid vptr target_pt : Nat) (ptes : Nat → Nat) : Option (Nat → Nat) :=
  match find_vspace_for_asid riscvKSASIDTable asid_pool asid with
  | none => some ptes
  | some root =>
    if root = target_pt then none
    else
      match unmap_page_table_loop ptes vptr target_pt 0 root
          (pte_add root (riscv_get_pt_index vptr 0)) with
      | none => some ptes
      | some (pt, ptSlot) => if pt ≠ target_pt then some ptes else some (update ptes ptSlot (PTE.new 0 0))

/-! ## What the walk does -/

/-- One turn of the loop: an entry that links to a table ends the walk. -/
theorem unmap_page_table_loop_of_table {ptes : Nat → Nat} {vptr target_pt i pt ptSlot : Nat}
    (hi : i < CONFIG_PT_LEVELS - 1) (hpt : pt ≠ target_pt)
    (htab : PTE.is_pte_table (ptes (pte_add pt (riscv_get_pt_index vptr i))) = true) :
    unmap_page_table_loop ptes vptr target_pt i pt ptSlot = none := by
  rw [unmap_page_table_loop]
  simp [hi, hpt, htab]

/-- A table that hangs below the root is reached through a link in the root,
and at that link the inverted test ends the walk: nothing is unmapped. -/
theorem unmap_page_table_of_root_table {T : Nat → Nat} {P : Nat → Nat → Nat}
    {asid vptr target_pt root : Nat} {ptes : Nat → Nat}
    (hfind : find_vspace_for_asid T P asid = some root) (hne : root ≠ target_pt)
    (htab : PTE.is_pte_table (ptes (pte_add root (riscv_get_pt_index vptr 0))) = true) :
    unmap_page_table T P asid vptr target_pt ptes = some ptes := by
  have hloop : unmap_page_table_loop ptes vptr target_pt 0 root
      (pte_add root (riscv_get_pt_index vptr 0)) = none :=
    unmap_page_table_loop_of_table (by decide) hne htab
  simp [unmap_page_table, hfind, hne, hloop]

/-! ## Unmapping a mapped table

Every table mapped below the root of an address space is reached through a
link in the root. The walk stops there, so `invoke_page_table_unmap` clears
the table while the entry that links it stays a valid link, and the cap says
the table is no longer mapped. -/

theorem invoke_page_table_unmap_leaves_table_linked {T : Nat → Nat} {P : Nat → Nat → Nat}
    {asid base mapped vaddr root slot : Nat} {ptes : Nat → Nat}
    (hfind : find_vspace_for_asid T P asid = some root) (hne : root ≠ base) (hm : mapped ≠ 0)
    (htab : PTE.is_pte_table (ptes (pte_add root (riscv_get_pt_index vaddr 0))) = true)
    (hlink : PTE.is_pte_table (ptes slot) = true ∧ PTE.get_pte_from_ppn_mut (ptes slot) = base)
    (hout : slot < base ∨ base + 2 ^ SEL4_PAGE_TABLE_BITS ≤ slot) :
    ∃ ptes', invoke_page_table_unmap (unmap_page_table T P) asid base mapped vaddr ptes =
        some (.page_table_cap asid base 0 vaddr, ptes') ∧
      PTE.is_pte_table (ptes' slot) = true ∧ PTE.get_pte_from_ppn_mut (ptes' slot) = base ∧
      ∀ a, base ≤ a → a < base + 2 ^ SEL4_PAGE_TABLE_BITS → ptes' a = 0 := by
  have hun : unmap_page_table T P asid vaddr base ptes = some ptes :=
    unmap_page_table_of_root_table hfind hne htab
  refine ⟨_, invoke_page_table_unmap_of_mapped hm hun, ?_, ?_, fun a h1 h2 => clear_memory_of_mem h1 h2⟩
  · rw [clear_memory_of_not_mem hout]; exact hlink.1
  · rw [clear_memory_of_not_mem hout]; exact hlink.2

/-- The root table of ASID 1 at `0xFFFFFFC080000000`, whose first entry links
to the table at `0xFFFFFFC080001000`, as `invoke_page_table_map` writes it. -/
def mappedTablePtes : Nat → Nat :=
  (invoke_page_table_map 0xFFFFFFC080001000 0xFFFFFFC080000000 1 0 (fun _ => 0)).2

def asidTableOne : Nat → Nat := fun i => if i = 0 then 0x9000 else 0

def asidPoolOne : Nat → Nat → Nat := fun p i => if p = 0x9000 ∧ i = 1 then 0xFFFFFFC080000000 else 0

theorem invoke_page_table_unmap_mapped_table :
    ∃ ptes', invoke_page_table_unmap (unmap_page_table asidTableOne asidPoolOne) 1
        0xFFFFFFC080001000 1 0 mappedTablePtes =
        some (.page_table_cap 1 0xFFFFFFC080001000 0 0, ptes') ∧
      PTE.is_pte_table (ptes' 0xFFFFFFC080000000) = true ∧
      PTE.get_pte_from_ppn_mut (ptes' 0xFFFFFFC080000000) = 0xFFFFFFC080001000 ∧
      ∀ a, 0xFFFFFFC080001000 ≤ a → a < 0xFFFFFFC080001000 + 2 ^ SEL4_PAGE_TABLE_BITS → ptes' a = 0 :=
  invoke_page_table_unmap_leaves_table_linked
    (show find_vspace_for_asid asidTableOne asidPoolOne 1 = some 0xFFFFFFC080000000 by decide)
    (by decide) (by decide) (by decide) ⟨by decide, by decide⟩ (by decide)


/-! ## What `set_vm_root` installs

The failure branch of `set_vm_root` installs the kernel's root and then falls
through to the write of the thread's root. Whatever the ASID table holds, a
page-table cap's base and ASID end up in `satp`: after its pool is deleted,
its slot cleared, or the ASID given to another address space. -/

/-- `set_vm_root` on a page-table cap: `satp` ends with the cap's table and
ASID on every path, and a lookup fault is returned exactly when the ASID
names no address space. The rest of the state is untouched. -/
theorem set_vm_root_installs_cap_root (T : Nat → Nat) (P : Nat → Nat → Nat)
    (KERNEL_ROOT_PAGE_TABLE capPTMappedASID capPTBasePtr capPTIsMapped capPTMappedAddress : Nat)
    (s : KernelState) :
    set_vm_root T P KERNEL_ROOT_PAGE_TABLE
        (.page_table_cap capPTMappedASID capPTBasePtr capPTIsMapped capPTMappedAddress) s =
      (if find_vspace_for_asid T P capPTMappedASID = none then .error .lookup_fault_invalid_root else .ok (),
        set_vspace_root (to_paddr capPTBasePtr) capPTMappedASID s) := by
  unfold set_vm_root
  dsimp only
  by_cases hfind : find_vspace_for_asid T P capPTMappedASID = some capPTBasePtr
  · -- the lookup names the cap's own table: one write
    rw [if_neg (not_not.mpr hfind), hfind, if_neg (Option.some_ne_none _)]
  · -- the failure branch writes the kernel's root, then falls through
    rw [if_pos hfind, set_vspace_root_set_vspace_root]

/-- ASID 1 after its pool has been deleted (`riscvKSASIDTable` all zero):
the lookup faults, and `satp` still takes the table the cap names, with
ASID 1. -/
theorem set_vm_root_after_pool_deleted :
    find_vspace_for_asid (fun _ => 0) asidPoolOne 1 = none ∧
      (set_vm_root (fun _ => 0) asidPoolOne 0xFFFFFFFF84000000 (.page_table_cap 1 0xFFFFFFC080000000 1 0)
          {}).2.vspaceRoot = (0x80000000, 1) := by
  refine ⟨by decide, ?_⟩
  rw [set_vm_root_installs_cap_root, set_vspace_root_vspaceRoot]
  rfl

end Rel4Kernel.riscv64
