/-
The decoders of the MMU invocations (`syscall/invocation/decode/arch`): the
checks a page-table unmap passes on RISC-V before `invoke_page_table_unmap`.

`decode_page_table_unmap` refuses a cap that is not final, and a mapped
table that is the root of its ASID's address space. For any other mapped
table it stores the lookup's fault in `current_lookup_fault` with
`find_ret.lookup_fault.unwrap()`; `find_vspace_for_asid` leaves that field
`None` when the lookup succeeds, so the unwrap panics exactly on the ordinary
case of a table below a live root. The model's `none` is that panic.
-/
import Rel4Kernel.VSpace.Riscv64
import Rel4Kernel.CSpace.Mdb
import Rel4Kernel.Task.Schedule

set_option autoImplicit false

namespace Rel4Kernel.riscv64

open ThreadState

/-! ## `decode_page_table_unmap` -/

/-- `decode_page_table_unmap(pt_cte)`, given the fields of the page-table cap
in slot `pt_cte` as `cap::cap_page_table_cap` reads them, over the page-table
entries `ptes`: the syscall error it reports, or the state and entries after
the current thread is set to restart and the table is unmapped. `none` is
the panic of `find_ret.lookup_fault.unwrap()`. -/
def decode_page_table_unmap (riscvKSASIDTable : Nat → Nat) (asid_pool : Nat → Nat → Nat)
    (s : KernelState) (ptes : Nat → Nat) (pt_cte : Nat)
    (capPTMappedASID capPTBasePtr capPTIsMapped capPTMappedAddress : Nat) :
    Option (Except syscall_error (KernelState × (Nat → Nat))) := do
  if !is_final_cap s.ctes pt_cte then return .error .SEL4_REVOKE_FIRST
  if capPTIsMapped ≠ 0 then
    let find_ret := find_vspace_for_asid riscvKSASIDTable asid_pool capPTMappedASID
    if find_ret = some capPTBasePtr then return .error .SEL4_REVOKE_FIRST
    -- `current_lookup_fault = find_ret.lookup_fault.unwrap()`: a successful
    -- lookup leaves no fault to unwrap
    if find_ret.isSome then none
  let s := set_thread_state s s.ksCurThread ThreadStateRestart
  let (c, ptes) ← invoke_page_table_unmap (unmap_page_table riscvKSASIDTable asid_pool)
    capPTMappedASID capPTBasePtr capPTIsMapped capPTMappedAddress ptes
  return .ok ({ s with ctes := set_cap s.ctes pt_cte c }, ptes)

/-! ## When the decoder panics -/

/-- Where the decoder lets a table through (it is not mapped, or its ASID
names no address space), the unmap cannot fail its assertion. -/
theorem invoke_page_table_unmap_of_unlinked {T : Nat → Nat} {P : Nat → Nat → Nat}
    {capPTMappedASID capPTBasePtr capPTIsMapped capPTMappedAddress : Nat} {ptes : Nat → Nat}
    (h : capPTIsMapped = 0 ∨ find_vspace_for_asid T P capPTMappedASID = none) :
    ∃ c ptes', invoke_page_table_unmap (unmap_page_table T P) capPTMappedASID capPTBasePtr capPTIsMapped
      capPTMappedAddress ptes = some (c, ptes') := by
  rcases h with hm | hfind
  · subst hm
    exact ⟨_, _, rfl⟩
  · simp only [invoke_page_table_unmap, unmap_page_table, hfind]
    split <;> exact ⟨_, _, rfl⟩

/-- **`decode_page_table_unmap` panics exactly on a table below a live
root.** For every state, it reaches the panic if and only if the cap is
final, the table is mapped, and its ASID names an address space whose root
is another table: the ordinary case of unmapping a table below the root. -/
theorem decode_page_table_unmap_eq_none_iff (T : Nat → Nat) (P : Nat → Nat → Nat) (s : KernelState)
    (ptes : Nat → Nat) (pt_cte capPTMappedASID capPTBasePtr capPTIsMapped capPTMappedAddress : Nat) :
    decode_page_table_unmap T P s ptes pt_cte capPTMappedASID capPTBasePtr capPTIsMapped
        capPTMappedAddress = none ↔
      is_final_cap s.ctes pt_cte = true ∧ capPTIsMapped ≠ 0 ∧
        ∃ root, find_vspace_for_asid T P capPTMappedASID = some root ∧ root ≠ capPTBasePtr := by
  by_cases hfinal : is_final_cap s.ctes pt_cte = true
  · by_cases hm : capPTIsMapped = 0
    · -- an unmapped table goes straight to the unmap
      simp [decode_page_table_unmap, hfinal, hm]
      exact invoke_page_table_unmap_of_unlinked (Or.inl rfl)
    · cases hfind : find_vspace_for_asid T P capPTMappedASID with
      | none =>
        -- the lookup's fault is there to unwrap
        simp [decode_page_table_unmap, hfinal, hm, hfind]
        exact invoke_page_table_unmap_of_unlinked (Or.inr hfind)
      | some root =>
        -- the root itself is refused; any other table reaches the unwrap
        simp [decode_page_table_unmap, hfinal, hm, hfind]
  · simp [decode_page_table_unmap, hfinal]

/-- The table of `invoke_page_table_unmap_mapped_table`, mapped below the
root of ASID 1 and named by one cap only: unmapping it panics in the decoder,
before `invoke_page_table_unmap` is reached. -/
theorem decode_page_table_unmap_mapped_table :
    decode_page_table_unmap asidTableOne asidPoolOne
        { ctes := fun p => if p = 0x5000 then { capability := .page_table_cap 1 0xFFFFFFC080001000 1 0 } else {} }
        mappedTablePtes 0x5000 1 0xFFFFFFC080001000 1 0 = none :=
  (decode_page_table_unmap_eq_none_iff _ _ _ _ _ _ _ _ _).mpr
    ⟨by decide, by decide, 0xFFFFFFC080000000, by decide, by decide⟩

end Rel4Kernel.riscv64
