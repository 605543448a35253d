/-
`sel4_vspace` on AArch64 (four levels): page-table entries, ASID maps and
`unmap_page_table`.

An entry's type is its low two bits together with bit 58; a table link has
type `pte_table` and the next table's physical address in bits 12..47. The
ASID pools hold `asid_map`s, of which only `asid_map_vspace` names a root.

`unmap_page_table` walks like the RISC-V one, with the test the right way
round, but ends with two stores to the entry it found: zero, then the word
read from the table being unmapped, so the entry becomes a copy of that
table's first entry.
-/
import Rel4Kernel.VSpace.InvokeMmu

set_option autoImplicit false

namespace Rel4Kernel.aarch64

open Function

def UPT_LEVELS : Nat := 4
def PPTR_BASE_OFFSET : Nat := 0xffffff8000000000

/-- `mask_bits!(48) & !0xfff`: bits 12..47. -/
def PAGE_ADDR_MASK : Nat := mask_bits 48 - 0xfff

/-- `pte_tag_t`. -/
inductive pte_tag_t where
  | pte_table | pte_page | pte_4k_page | pte_invalid
  deriving DecidableEq, Repr

def pte_tag_t.val : pte_tag_t → Nat
  | .pte_table => 3
  | .pte_page => 1
  | .pte_4k_page => 7
  | .pte_invalid => 0

/-- `upt_level_shift`: level 0 is the root. -/
def upt_level_shift (n : Nat) : Nat := PT_INDEX_BITS * (UPT_LEVELS - 1 - n) + SEL4_PAGE_BITS

/-- `VAddr::get_upt_index`. -/
def get_upt_index (vaddr n : Nat) : Nat := (vaddr >>> upt_level_shift n) &&& mask_bits PT_INDEX_BITS

/-- `PAddr::to_pptr`. -/
def to_pptr (paddr : Nat) : Nat := paddr + PPTR_BASE_OFFSET

namespace PTE

def get_type (w : Nat) : Nat := w &&& 0x3 ||| ((w &&& (1 <<< 58)) >>> 56)

def next_level_paddr (w : Nat) : Nat := w &&& PAGE_ADDR_MASK

end PTE

/-! ## ASIDs -/

/-- The `asid_map` tagged union. -/
inductive asid_map where
  | asid_map_none
  | asid_map_vspace (vspace_root : Nat)
  deriving DecidableEq, Repr

/-- `find_map_for_asid`: the pool entry of `asid`, if its pool exists. -/
def find_map_for_asid (armKSASIDTable : Nat → Nat) (asid_pool : Nat → Nat → asid_map)
    (asid : Nat) : Option asid_map :=
  let poolPtr := armKSASIDTable (asid >>> ASID_LOW_BITS)
  if poolPtr = 0 then none else some (asid_pool poolPtr (asid &&& mask_bits ASID_LOW_BITS))

/-- `find_vspace_for_asid`: `none` for the lookup fault `invalid_root`. -/
def find_vspace_for_asid (armKSASIDTable : Nat → Nat) (asid_pool : Nat → Nat → asid_map)
    (asid : Nat) : Option Nat :=
  match find_map_for_asid armKSASIDTable asid_pool asid with
  | some (.asid_map_vspace vspace_root) => some vspace_root
  | _ => none

/-! ## Installing an address space -/

/-- `KERNEL_ELF_BASE - KERNEL_ELF_PADDR_BASE`, where `KERNEL_ELF_BASE` is
`PPTR_BASE_OFFSET + KERNEL_ELF_PADDR_BASE`. -/
def KERNEL_ELF_BASE_OFFSET : Nat := PPTR_BASE_OFFSET

/-- `kpptr_to_paddr`: the physical address of an address in the kernel image. -/
def kpptr_to_paddr (x : Nat) : Nat := x - KERNEL_ELF_BASE_OFFSET

/-- `PPtr::to_paddr`. -/
def to_paddr (x : Nat) : Nat := x - PPTR_BASE_OFFSET

/-- `ttbr_new(asid, addr)`: the ASID in bits 48..63 above the table's address. -/
def ttbr_new (asid addr : Nat) : Nat := ((asid &&& 0xffff) <<< 48) ||| (addr &&& 0xffffffffffff)

/-- The fields of a `cap_vspace_cap` that `set_vm_root` reads. -/
structure cap_vspace_cap where
  capVSMappedASID : Nat
  capVSBasePtr : Nat
  capVSIsMapped : Nat
  deriving DecidableEq, Repr

/-- `set_vm_root(thread_root)`: the word it writes to `TTBR0_EL1`; it returns
`Ok(())` on every path. `thread_root` is `none` for a cap of another type than
`cap_vspace_cap`, and `armKSGlobalUserVSpace` is the kernel-image address of
the global user root. The root's check sits inside `if let Some(root)`, so a
failed lookup goes on to the write of the cap's own table, and that write has
no ASID. -/
def set_vm_root (armKSASIDTable : Nat → Nat) (asid_pool : Nat → Nat → asid_map)
    (armKSGlobalUserVSpace : Nat) (thread_root : Option cap_vspace_cap) : Nat :=
  match thread_root with
  | some thread_root_vspace =>
    -- `is_valid_native_root`: a VSpace cap that is mapped
    if thread_root_vspace.capVSIsMapped = 0 then ttbr_new 0 (kpptr_to_paddr armKSGlobalUserVSpace)
    else
      let vspace_root := thread_root_vspace.capVSBasePtr
      let asid := thread_root_vspace.capVSMappedASID
      match find_vspace_for_asid armKSASIDTable asid_pool asid with
      | some root =>
        if root ≠ vspace_root then ttbr_new 0 (kpptr_to_paddr armKSGlobalUserVSpace)
        else to_paddr thread_root_vspace.capVSBasePtr
      | none => to_paddr thread_root_vspace.capVSBasePtr
  | none => ttbr_new 0 (kpptr_to_paddr armKSGlobalUserVSpace)

/-- An ASID table whose pool at `0x9000` maps ASID 1 to the table at
`0xffffff8000001000`. -/
def one_asid_table : Nat → Nat := fun i => if i = 0 then 0x9000 else 0

def one_asid_pool : Nat → Nat → asid_map :=
  fun _ i => if i = 1 then .asid_map_vspace 0xffffff8000001000 else .asid_map_none

/-- Found through its ASID, the table goes to `TTBR0_EL1` untagged. -/
example : set_vm_root (fun i => if i = 0 then 0x9000 else 0)
    (fun _ i => if i = 1 then .asid_map_vspace 0xffffff8080000000 else .asid_map_none) 0
    (some ⟨1, 0xffffff8080000000, 1⟩) ≠ ttbr_new 1 (to_paddr 0xffffff8080000000) := by
  decide

/-! ## Unmapping a page table -/

/-- The `while` loop of `unmap_page_table`: from `level`, at table `pte`,
with the last entry read `ptSlot`. `none` is the early `return`. -/
def unmap_page_table_loop (ptes : Nat → Nat) (vaddr pt : Nat) (level pte ptSlot : Nat) :
    Option (Nat × Nat) :=
  if h : level < UPT_LEVELS - 1 ∧ pte ≠ pt then
    let ptSlot := pte_add pte (get_upt_index vaddr level)
    if PTE.get_type (ptes ptSlot) ≠ pte_tag_t.pte_table.val then none
    else unmap_page_table_loop ptes vaddr pt (level + 1) (to_pptr (PTE.next_level_paddr (ptes ptSlot)))
      ptSlot
  else some (pte, ptSlot)
termination_by UPT_LEVELS - 1 - level
decreasing_by omega

/-- `unmap_page_table(asid, vaddr, pt)`; `ptSlot` starts null, and `none` is
the failed `assert!` that it is not. -/
def unmap_page_table (armKSASIDTable : Nat → Nat) (asid_pool : Nat → Nat → asid_map)
    (asid vaddr pt : Nat) (ptes : Nat → Nat) : Option (Nat → Nat) :=
  match find_vspace_for_asid armKSASIDTable asid_pool asid with
  | none => some ptes
  | some vspace_root =>
    match unmap_page_table_loop ptes vaddr pt 0 vspace_root 0 with
    | none => some ptes
    | some (pte, ptSlot) =>
      if pte ≠ pt then some ptes
      else if ptSlot = 0 then none
      else
        -- `*(ptSlot) = PTE(0)`, then `ptSlot.update(*(pte))`
        let ptes := update ptes ptSlot 0
        some (update ptes ptSlot (ptes pte))

/-! ## What the walk does -/

section Walk

variable {ptes : Nat → Nat} {vaddr pt level pte ptSlot : Nat}

/-- One turn of the loop that follows a link: the walk goes on at the table
the link names, with the link as the last entry read. -/
theorem unmap_page_table_loop_of_link (hlevel : level < UPT_LEVELS - 1) (hpte : pte ≠ pt)
    (htab : PTE.get_type (ptes (pte_add pte (get_upt_index vaddr level))) = pte_tag_t.pte_table.val) :
    unmap_page_table_loop ptes vaddr pt level pte ptSlot =
      unmap_page_table_loop ptes vaddr pt (level + 1)
        (to_pptr (PTE.next_level_paddr (ptes (pte_add pte (get_upt_index vaddr level)))))
        (pte_add pte (get_upt_index vaddr level)) := by
  rw [unmap_page_table_loop]
  simp [hlevel, hpte, htab]

/-- The loop stops at the table it is looking for. -/
theorem unmap_page_table_loop_of_eq : unmap_page_table_loop ptes vaddr pt level pt ptSlot = some (pt, ptSlot) := by
  rw [unmap_page_table_loop]
  simp

end Walk

/-- Unmapping a table linked from the root: the link is not cleared but
overwritten with the first entry of the table being unmapped. -/
theorem unmap_page_table_copies_first_entry {T : Nat → Nat} {P : Nat → Nat → asid_map}
    {asid vaddr pt root : Nat} {ptes : Nat → Nat}
    (hfind : find_vspace_for_asid T P asid = some root) (hne : root ≠ pt)
    (htab : PTE.get_type (ptes (pte_add root (get_upt_index vaddr 0))) = pte_tag_t.pte_table.val)
    (hnext : to_pptr (PTE.next_level_paddr (ptes (pte_add root (get_upt_index vaddr 0)))) = pt)
    (hslot : pte_add root (get_upt_index vaddr 0) ≠ 0) (hpt : pt ≠ pte_add root (get_upt_index vaddr 0)) :
    unmap_page_table T P asid vaddr pt ptes =
      some (update ptes (pte_add root (get_upt_index vaddr 0)) (ptes pt)) := by
  have hloop : unmap_page_table_loop ptes vaddr pt 0 root 0 =
      some (pt, pte_add root (get_upt_index vaddr 0)) := by
    rw [unmap_page_table_loop_of_link (by decide) hne htab, hnext, unmap_page_table_loop_of_eq]
  simp [unmap_page_table, hfind, hloop, hslot, hpt]

/-- So `invoke_page_table_unmap` of a table linked from the root clears the
table and leaves in the link what the table's first entry was. -/
theorem invoke_page_table_unmap_copies_first_entry {T : Nat → Nat} {P : Nat → Nat → asid_map}
    {asid vaddr pt mapped root : Nat} {ptes : Nat → Nat} (hm : mapped ≠ 0)
    (hfind : find_vspace_for_asid T P asid = some root) (hne : root ≠ pt)
    (htab : PTE.get_type (ptes (pte_add root (get_upt_index vaddr 0))) = pte_tag_t.pte_table.val)
    (hnext : to_pptr (PTE.next_level_paddr (ptes (pte_add root (get_upt_index vaddr 0)))) = pt)
    (hslot : pte_add root (get_upt_index vaddr 0) ≠ 0)
    (hout : pte_add root (get_upt_index vaddr 0) < pt ∨
      pt + 2 ^ SEL4_PAGE_TABLE_BITS ≤ pte_add root (get_upt_index vaddr 0)) :
    ∃ ptes', invoke_page_table_unmap (unmap_page_table T P) asid pt mapped vaddr ptes =
        some (.page_table_cap asid pt 0 vaddr, ptes') ∧
      ptes' (pte_add root (get_upt_index vaddr 0)) = ptes pt ∧
      ∀ a, pt ≤ a → a < pt + 2 ^ SEL4_PAGE_TABLE_BITS → ptes' a = 0 := by
  have hpt : pt ≠ pte_add root (get_upt_index vaddr 0) := by
    have := Nat.two_pow_pos SEL4_PAGE_TABLE_BITS
    omega
  refine ⟨_, invoke_page_table_unmap_of_mapped hm
    (unmap_page_table_copies_first_entry hfind hne htab hnext hslot hpt), ?_,
    fun a h1 h2 => clear_memory_of_mem h1 h2⟩
  rw [clear_memory_of_not_mem hout]
  simp

/-- The root at `0xffffff8000001000` links, at the entry for address 0, the
table at `0xffffff8000002000`, whose first entry is `0x55`. -/
def linked_table_ptes : Nat → Nat := fun a =>
  if a = 0xffffff8000001000 then 0x2003 else if a = 0xffffff8000002000 then 0x55 else 0

theorem invoke_page_table_unmap_linked_table :
    ∃ ptes', invoke_page_table_unmap (unmap_page_table one_asid_table one_asid_pool) 1 0xffffff8000002000 1 0
        linked_table_ptes = some (.page_table_cap 1 0xffffff8000002000 0 0, ptes') ∧
      ptes' (pte_add 0xffffff8000001000 (get_upt_index 0 0)) = 0x55 ∧
      ∀ a, 0xffffff8000002000 ≤ a → a < 0xffffff8000002000 + 2 ^ SEL4_PAGE_TABLE_BITS → ptes' a = 0 :=
  @invoke_page_table_unmap_copies_first_entry one_asid_table one_asid_pool 1 0 0xffffff8000002000 1
    0xffffff8000001000 linked_table_ptes (by decide) (by decide) (by decide) (by decide) (by decide) (by decide)
    (by decide)

end Rel4Kernel.aarch64
