/-
Deleting and revoking caps (`cte.rs`, `capability/zombie.rs`,
`interfaces_impl/cspace.rs`), non-MCS, on RISC-V, and the two CNode
invocations that call them (`invoke_cnode_revoke`, `invoke_cnode_delete`).

`delete_all` finalises a slot's cap and empties the slot. Finalising the last
cap to a CNode or a thread cannot be done at once: the cap becomes a zombie
naming the slots still to be emptied, and `reduce_zombie` deletes them one by
one from the last, each through `delete_all` again. That is a recursion
through three functions, modelled here as a `mutual` block over one `fuel`
that every call lowers; `none` is a panic, a failed assertion or the fuel
running out. `preempt fuel` says whether the preemption point reached with
`fuel` left finds the work units used up and an interrupt pending. The
unmapping and ASID deletion of `arch_finalise_cap` act on the page tables,
which the model does not hold: an arch cap finalises to nothing.

What is proved: one turn of a revoke deletes the next child or stops
(`cte_t.revoke_succ`), the general `finalise_cap'` agrees with the
`finalise_cap` of the interrupt model on the calls that model covers
(`finalise_cap_of_exposed`), and a cap whose finalisation makes no zombie is
deleted with no slot written but emptied ones, which keeps the slots well
formed (`delete_all_wf`). A revoke deletes slot after slot, so it keeps them
well formed when every cap after the revoked slot in the tree's list is of
that kind (`revoke_wf`): emptying slots puts no new slot there. No deletion
moves the IRQ node, whatever the caps (`delete_irq_node_ptr`).
-/
import Rel4Kernel.Syscall.InvokeCNode
import Rel4Kernel.Kernel.Interrupt

set_option autoImplicit false

namespace Rel4Kernel

open ThreadState cap_tag PointerChain

/-! ## Zombies (`capability/zombie.rs`) -/

/-- `zombie_new(number, _type, ptr)`: the ID keeps the pointer above the
low `radix + 1` bits and the number in them. -/
def zombie_new (number _type ptr : Nat) : cap :=
  let bits := zombie_bit _type + 1
  .zombie_cap (ptr - ptr % 2 ^ bits + number % 2 ^ bits) _type

/-- `cap_zombie_cap::set_zombie_number`, on the ID. -/
def zombie_set_number (capZombieID capZombieType n : Nat) : Nat :=
  let bits := zombie_bit capZombieType + 1
  capZombieID - capZombieID % 2 ^ bits + n % 2 ^ bits

/-- `cap_cyclic_zombie`: a zombie that names its own slot. -/
def cap_cyclic_zombie (capability : cap) (slot : Nat) : Bool :=
  match capability with
  | .zombie_cap capZombieID capZombieType => zombie_ptr capZombieID capZombieType = slot
  | _ => false

/-- `cap_removable`: the null cap, or a zombie with nothing left to delete
but, for a thread's, its own slot. `none` is the panic on any other cap. -/
def cap_removable (capability : cap) (slot : Nat) : Option Bool :=
  match capability with
  | .null_cap => some true
  | .zombie_cap capZombieID capZombieType =>
    let n := zombie_number capZombieID capZombieType
    some (n = 0 ∨ (n = 1 ∧ slot = zombie_ptr capZombieID capZombieType))
  | _ => none

/-! ## Finalising a cap (`interfaces_impl/cspace.rs`) -/

/-- `FinaliseCapRet`. -/
structure FinaliseCapRet where
  remainder : cap
  cleanupInfo : cap
  deriving DecidableEq, Repr

/-- `safe_unbind_notification`. -/
def safe_unbind_notification (s : KernelState) (tcb : Nat) : KernelState :=
  let ntfn := (s.tcbs tcb).tcbBoundNotification
  if ntfn ≠ 0 then
    let s := s.modifyNtfn ntfn fun n => { n with ntfnBoundTCB := 0 }
    s.modifyTcb tcb fun t => { t with tcbBoundNotification := 0 }
  else s

/-- `finalise_cap(capability, final, exposed)` with all its arguments;
`finalise_cap` is its call with `exposed`. The last cap to a CNode or a
thread leaves a zombie over its slots, a zombie stays, and the last IRQ
handler cap empties the IRQ's slot and passes itself on as cleanup. -/
def finalise_cap' (fuel : Nat) (s : KernelState) (g : interrupt_state) (capability : cap)
    (final exposed : Bool) : Option (FinaliseCapRet × KernelState) :=
  if capability.is_arch_cap then some (⟨.null_cap, .null_cap⟩, s)
  else
    match capability with
    | .endpoint_cap _ _ _ _ _ capEPPtr =>
      (if final then cancel_all_ipc fuel s capEPPtr else some s).map (⟨.null_cap, .null_cap⟩, ·)
    | .notification_cap _ _ _ capNtfnPtr =>
      (if final then cacncel_all_signal fuel (notification.safe_unbind_tcb s capNtfnPtr) capNtfnPtr
        else some s).map (⟨.null_cap, .null_cap⟩, ·)
    | .reply_cap .. | .null_cap | .domain_cap => some (⟨.null_cap, .null_cap⟩, s)
    | _ =>
      -- "finalise_cap: failed to finalise immediately."
      if exposed then none
      else
        match capability with
        | .cnode_cap _ _ capCNodeRadix capCNodePtr =>
          if final then some (⟨zombie_new (2 ^ capCNodeRadix) capCNodeRadix capCNodePtr, .null_cap⟩, s)
          else some (⟨.null_cap, .null_cap⟩, s)
        | .thread_cap capTCBPtr =>
          if final then do
            let cte_ptr := tcb_cte_slot capTCBPtr TCB_CTABLE
            let s := safe_unbind_notification s capTCBPtr
            let s ← tcb_t.cancel_ipc s capTCBPtr
            let s := suspend s capTCBPtr
            return (⟨zombie_new TCB_CNODE_ENTRIES ZOMBIE_TYPE_ZOMBIE_TCB cte_ptr, .null_cap⟩, s)
          else some (⟨.null_cap, .null_cap⟩, s)
        | .zombie_cap .. => some (⟨capability, .null_cap⟩, s)
        | .irq_handler_cap capIRQ =>
          if final then do
            let s ← deleting_irq_handler fuel s g capIRQ
            return (⟨.null_cap, capability⟩, s)
          else some (⟨.null_cap, .null_cap⟩, s)
        | _ => some (⟨.null_cap, .null_cap⟩, s)

/-- `post_cap_deletion`: deleting the last IRQ handler cap makes the IRQ
inactive. -/
def post_cap_deletion (capability : cap) (g : interrupt_state) : interrupt_state :=
  match capability with
  | .irq_handler_cap capIRQ => set_irq_state_by_index .IRQInactive capIRQ g
  | _ => g

/-- `cte_t::set_empty(cleanup_info)`: unlink and clear the slot, then
clean up after the cap. A slot already empty is left as it is. -/
def cte_t.set_empty (s : KernelState) (g : interrupt_state) (slot : Nat) (cleanup_info : cap) :
    KernelState × interrupt_state :=
  if (s.ctes slot).capability.get_tag ≠ cap_null_cap then
    ({ s with ctes := Rel4Kernel.set_empty slot s.ctes }, post_cap_deletion cleanup_info g)
  else (s, g)

/-! ## The deletion (`cte.rs`) -/

/-- `finaliseSlot_ret`. -/
structure finaliseSlot_ret where
  status : exception_t
  success : Bool
  cleanupInfo : cap
  deriving DecidableEq, Repr

variable (preempt : Nat → Bool)

mutual

/-- `cte_t::delete_all(exposed)`: finalise the slot's cap, then empty the
slot if the caller sees it or finalising got to the end. -/
def cte_t.delete_all : Nat → KernelState → interrupt_state → Nat → Bool →
    Option (exception_t × KernelState × interrupt_state)
  | 0, _, _, _, _ => none
  | fuel + 1, s, g, slot, exposed => do
    let (fs_ret, s, g) ← cte_t.finalise fuel s g slot exposed
    if fs_ret.status ≠ .EXCEPTION_NONE then return (fs_ret.status, s, g)
    if exposed || fs_ret.success then
      let (s, g) := cte_t.set_empty s g slot fs_ret.cleanupInfo
      return (.EXCEPTION_NONE, s, g)
    return (.EXCEPTION_NONE, s, g)

/-- `cte_t::finalise(immediate)`: the loop that finalises the slot's cap
until what is left can be removed, reducing a zombie a slot at a time. -/
def cte_t.finalise : Nat → KernelState → interrupt_state → Nat → Bool →
    Option (finaliseSlot_ret × KernelState × interrupt_state)
  | 0, _, _, _, _ => none
  | fuel + 1, s, g, slot, immediate =>
    if (s.ctes slot).capability.get_tag = cap_null_cap then
      some (⟨.EXCEPTION_NONE, true, .null_cap⟩, s, g)
    else do
      let (fc_ret, s) ← finalise_cap' fuel s g (s.ctes slot).capability (is_final_cap s.ctes slot) false
      if ← cap_removable fc_ret.remainder slot then
        return (⟨.EXCEPTION_NONE, true, fc_ret.cleanupInfo⟩, s, g)
      let s := { s with ctes := set_cap s.ctes slot fc_ret.remainder }
      if !immediate && cap_cyclic_zombie fc_ret.remainder slot then
        return (⟨.EXCEPTION_NONE, false, fc_ret.cleanupInfo⟩, s, g)
      let (status, s, g) ← cte_t.reduce_zombie fuel s g slot immediate
      if status ≠ .EXCEPTION_NONE then return (⟨status, false, .null_cap⟩, s, g)
      if preempt fuel then return (⟨.EXCEPTION_PREEMTED, false, .null_cap⟩, s, g)
      cte_t.finalise fuel s g slot immediate

/-- `cte_t::reduce_zombie(immediate)`: delete the last slot the zombie
names and count it off, or, when not immediate, swap the zombie into the
first slot it names. -/
def cte_t.reduce_zombie : Nat → KernelState → interrupt_state → Nat → Bool →
    Option (exception_t × KernelState × interrupt_state)
  | 0, _, _, _, _ => none
  | fuel + 1, s, g, slot, immediate =>
    match (s.ctes slot).capability with
    | .zombie_cap capZombieID capZombieType =>
      let ptr := zombie_ptr capZombieID capZombieType
      let n := zombie_number capZombieID capZombieType
      if n = 0 then none
      else if immediate then do
        let end_slot := ptr + (n - 1) * CTE_SIZE
        let (status, s, g) ← cte_t.delete_all fuel s g end_slot false
        if status ≠ .EXCEPTION_NONE then return (status, s, g)
        match (s.ctes slot).capability with
        | .null_cap => return (.EXCEPTION_NONE, s, g)
        | .zombie_cap capZombieID2 capZombieType2 =>
          if ptr = zombie_ptr capZombieID2 capZombieType2 ∧
              zombie_number capZombieID2 capZombieType2 = n ∧ capZombieType2 = capZombieType then
            if (s.ctes end_slot).capability.get_tag ≠ cap_null_cap then none
            else
              let c := cap.zombie_cap (zombie_set_number capZombieID2 capZombieType2 (n - 1)) capZombieType2
              return (.EXCEPTION_NONE, { s with ctes := set_cap s.ctes slot c }, g)
          else if zombie_ptr capZombieID2 capZombieType2 = slot ∧ ptr ≠ slot then
            return (.EXCEPTION_NONE, s, g)
          else none
        | _ => none
      else if ptr = slot then none
      else
        let ctes := cte_swap (s.ctes ptr).capability ptr (s.ctes slot).capability slot s.ctes
        return (.EXCEPTION_NONE, { s with ctes := ctes }, g)
    | _ => none

end

/-- `cte_t::revoke`: delete the slot after `slot` in the tree while it is a
child of `slot`. Each turn of the loop lowers the fuel, as each deletion
does. -/
def cte_t.revoke : Nat → KernelState → interrupt_state → Nat →
    Option (exception_t × KernelState × interrupt_state)
  | 0, _, _, _ => none
  | fuel + 1, s, g, slot =>
    let next := (s.ctes slot).cteMDBNode.mdbNext
    if next = 0 then some (.EXCEPTION_NONE, s, g)
    else do
      if !(← is_mdb_parent_of s.ctes slot next) then return (.EXCEPTION_NONE, s, g)
      let (status, s, g) ← cte_t.delete_all preempt fuel s g next true
      if status ≠ .EXCEPTION_NONE then return (status, s, g)
      if preempt fuel then return (.EXCEPTION_PREEMTED, s, g)
      cte_t.revoke fuel s g slot

/-! ## The two invocations (`invoke_cnode.rs`) -/

/-- `invoke_cnode_revoke`. -/
def invoke_cnode_revoke (fuel : Nat) (s : KernelState) (g : interrupt_state) (dest_slot : Nat) :
    Option (exception_t × KernelState × interrupt_state) :=
  cte_t.revoke preempt fuel (set_thread_state s s.ksCurThread ThreadStateRestart) g dest_slot

/-- `invoke_cnode_delete`. -/
def invoke_cnode_delete (fuel : Nat) (s : KernelState) (g : interrupt_state) (dest_slot : Nat) :
    Option (exception_t × KernelState × interrupt_state) :=
  cte_t.delete_all preempt fuel (set_thread_state s s.ksCurThread ThreadStateRestart) g dest_slot true

/-- `cte_t::is_long_running_delete`: the slot holds the last cap to a
thread or a CNode, or a zombie that is the last of its kind. -/
def cte_t.is_long_running_delete (ctes : Nat → cte_t) (slot : Nat) : Bool :=
  if (ctes slot).capability.get_tag = cap_null_cap ∨ !is_final_cap ctes slot then false
  else
    match (ctes slot).capability with
    | .thread_cap .. | .zombie_cap .. | .cnode_cap .. => true
    | _ => false

/-! ## One turn of a revoke, and the finalisation of the exposed slot -/

section Ends

variable {preempt}

/-- **One turn of `revoke`**: it stops at the end of the tree or at a slot
that is no child of `slot`, or it deletes the child after `slot` and then
returns the delete's failure, is preempted, or goes round again. -/
theorem cte_t.revoke_succ {fuel slot : Nat} {s : KernelState} {g : interrupt_state}
    {r : exception_t × KernelState × interrupt_state} (h : cte_t.revoke preempt (fuel + 1) s g slot = some r) :
    ensure_no_children s.ctes slot = some false ∧ r = (.EXCEPTION_NONE, s, g) ∨
    ∃ st s1 g1, (s.ctes slot).cteMDBNode.mdbNext ≠ 0 ∧
      cte_t.delete_all preempt fuel s g (s.ctes slot).cteMDBNode.mdbNext true = some (st, s1, g1) ∧
      (st ≠ .EXCEPTION_NONE ∧ r = (st, s1, g1) ∨ r = (.EXCEPTION_PREEMTED, s1, g1) ∨
        cte_t.revoke preempt fuel s1 g1 slot = some r) := by
  by_cases hnext : (s.ctes slot).cteMDBNode.mdbNext = 0
  · -- the end of the tree
    simp only [cte_t.revoke, hnext, if_true, Option.some.injEq] at h
    exact .inl ⟨by simp [ensure_no_children, hnext], h.symm⟩
  simp only [cte_t.revoke, hnext, if_false, Option.bind_eq_bind, Option.bind_eq_some_iff] at h
  obtain ⟨parent, hparent, h⟩ := h
  cases parent
  · -- the next slot is no child
    simp only [Bool.not_false, if_true, Option.pure_def, Option.some.injEq] at h
    exact .inl ⟨by simp [ensure_no_children, hnext, hparent], h.symm⟩
  simp only [Bool.not_true, Bool.false_eq_true, if_false, Option.bind_eq_some_iff] at h
  obtain ⟨⟨st, s1, g1⟩, hdel, h⟩ := h
  refine .inr ⟨st, s1, g1, hnext, hdel, ?_⟩
  dsimp only at h
  split_ifs at h with hst
  · exact .inl ⟨hst, (Option.some.inj h).symm⟩
  · exact .inr (.inl (Option.some.inj h).symm)
  · exact .inr (.inr h)

end Ends

/-! ## Deleting never moves the IRQ node -/

section IrqNode

@[simp] theorem post_cap_deletion_irq_node_ptr (c : cap) (g : interrupt_state) :
    (post_cap_deletion c g).int_state_irq_node_ptr = g.int_state_irq_node_ptr := by
  unfold post_cap_deletion
  split <;> rfl

@[simp] theorem cte_t.set_empty_irq_node_ptr (s : KernelState) (g : interrupt_state) (slot : Nat) (c : cap) :
    (cte_t.set_empty s g slot c).2.int_state_irq_node_ptr = g.int_state_irq_node_ptr := by
  unfold cte_t.set_empty
  split <;> simp

variable {preempt}

/-- **Deleting writes IRQ states only, never where the handler slots are.**
By induction on the fuel, for the three functions at once: each passes on
the interrupt state its callee returns, and `set_empty` changes one IRQ's
state. -/
theorem delete_irq_node_ptr (fuel : Nat) :
    (∀ s g slot exposed r, cte_t.delete_all preempt fuel s g slot exposed = some r →
      r.2.2.int_state_irq_node_ptr = g.int_state_irq_node_ptr) ∧
    (∀ s g slot immediate r, cte_t.finalise preempt fuel s g slot immediate = some r →
      r.2.2.int_state_irq_node_ptr = g.int_state_irq_node_ptr) ∧
    (∀ s g slot immediate r, cte_t.reduce_zombie preempt fuel s g slot immediate = some r →
      r.2.2.int_state_irq_node_ptr = g.int_state_irq_node_ptr) := by
  induction fuel with
  | zero => exact ⟨by simp [cte_t.delete_all], by simp [cte_t.finalise], by simp [cte_t.reduce_zombie]⟩
  | succ fuel ih =>
    obtain ⟨hdel, hfin, hred⟩ := ih
    refine ⟨?_, ?_, ?_⟩
    · intro s g slot exposed r h
      simp only [cte_t.delete_all, Option.bind_eq_bind, Option.bind_eq_some_iff] at h
      obtain ⟨⟨fs, s1, g1⟩, hf, h⟩ := h
      have h1 := hfin _ _ _ _ _ hf
      dsimp only at h h1
      split_ifs at h <;> simp only [Option.pure_def, Option.some.injEq] at h <;> subst h <;>
        simpa using h1
    · intro s g slot immediate r h
      by_cases hnull : (s.ctes slot).capability.get_tag = cap_null_cap
      · simp only [cte_t.finalise, hnull, if_true, Option.some.injEq] at h
        subst h
        rfl
      simp only [cte_t.finalise, hnull, if_false, Option.bind_eq_bind, Option.bind_eq_some_iff] at h
      obtain ⟨⟨fc, s2⟩, -, rem, -, h⟩ := h
      dsimp only at h
      -- every way out returns the interrupt state the reduction left, or goes round again
      split_ifs at h
      · simp only [Option.pure_def, Option.some.injEq] at h
        subst h
        rfl
      · simp only [Option.pure_def, Option.some.injEq] at h
        subst h
        rfl
      all_goals
        obtain ⟨⟨st, s3, g3⟩, hr, h⟩ := Option.bind_eq_some_iff.mp h
        have h3 := hred _ _ _ _ _ hr
        dsimp only at h h3
        split_ifs at h
      all_goals first
        | (simp only [Option.pure_def, Option.some.injEq] at h; subst h; exact h3)
        | exact (hfin _ _ _ _ _ h).trans h3
    · intro s g slot immediate r h
      simp only [cte_t.reduce_zombie] at h
      split at h
      · split_ifs at h
        · simp only [Option.bind_eq_bind, Option.bind_eq_some_iff] at h
          obtain ⟨⟨st, s3, g3⟩, hd, h⟩ := h
          have h3 := hdel _ _ _ _ _ hd
          dsimp only at h h3
          -- every way out returns the interrupt state the delete left
          split_ifs at h
          all_goals (try split at h)
          all_goals (try split_ifs at h)
          all_goals first
            | (simp only [Option.pure_def, Option.some.injEq] at h; subst h; exact h3)
            | cases h
        · simp only [Option.pure_def, Option.some.injEq] at h
          subst h
          rfl
      · cases h

/-- No revoke moves the IRQ node either. -/
theorem revoke_irq_node_ptr {fuel slot : Nat} {s s' : KernelState} {g g' : interrupt_state}
    {st : exception_t} (h : cte_t.revoke preempt fuel s g slot = some (st, s', g')) :
    g'.int_state_irq_node_ptr = g.int_state_irq_node_ptr := by
  induction fuel generalizing s g with
  | zero => simp [cte_t.revoke] at h
  | succ fuel ih =>
    rcases cte_t.revoke_succ h with ⟨-, hr⟩ | ⟨st1, s1, g1, -, hdel, hr⟩
    · simp only [Prod.mk.injEq] at hr
      rw [hr.2.2]
    have h1 := (delete_irq_node_ptr fuel).1 _ _ _ _ _ hdel
    rcases hr with ⟨-, hr⟩ | hr | hr
    · simp only [Prod.mk.injEq] at hr
      rw [hr.2.2]
      exact h1
    · simp only [Prod.mk.injEq] at hr
      rw [hr.2.2]
      exact h1
    · exact (ih hr).trans h1

end IrqNode

/-! ## Deleting at once keeps the slots well formed -/

section AtOnce

theorem notification.safe_unbind_tcb_ctes (s : KernelState) (ntfn : Nat) :
    (notification.safe_unbind_tcb s ntfn).ctes = s.ctes := by
  unfold notification.safe_unbind_tcb
  dsimp only
  split <;> rfl

theorem safe_unbind_notification_ctes (s : KernelState) (tcb : Nat) :
    (safe_unbind_notification s tcb).ctes = s.ctes := by
  unfold safe_unbind_notification
  dsimp only
  split <;> rfl

/-- The interrupt model's `finalise_cap` stores no slot. -/
theorem finalise_cap_ctes {fuel : Nat} {s s1 : KernelState} {c : cap} {final : Bool}
    (h : finalise_cap fuel s c final = some s1) : s1.ctes = s.ctes := by
  unfold finalise_cap at h
  split at h
  · cases h
    rfl
  · split at h
    · split at h
      · exact cancel_all_ipc_ctes h
      · cases h
        rfl
    · split at h
      · rw [cacncel_all_signal_ctes h, notification.safe_unbind_tcb_ctes]
      · cases h
        rfl
    all_goals first | (cases h; rfl) | cases h

/-- Deleting the cap of an IRQ's slot empties that slot and no other. -/
theorem empties_of_deleting_irq_handler {fuel irq : Nat} {s s1 : KernelState} {g : interrupt_state}
    (hg : g.int_state_irq_node_ptr ≠ 0) (h : deleting_irq_handler fuel s g irq = some s1) :
    empties s.ctes s1.ctes := by
  unfold deleting_irq_handler cte_t.delete_one at h
  split at h
  · obtain ⟨s2, hf, h⟩ := Option.bind_eq_some_iff.1 h
    cases h
    rw [← finalise_cap_ctes hf]
    exact .single (by simp [get_irq_handler_slot, hg])
  · cases h
    exact .refl

/-- Finalising a cap empties slots and stores no other: the caller slot of a
thread whose IPC is cancelled, or the slot of an IRQ whose last handler cap
goes. -/
theorem empties_of_finalise_cap' {fuel : Nat} {s s1 : KernelState} {g : interrupt_state} {c : cap}
    {final exposed : Bool} {fc : FinaliseCapRet} (hg : g.int_state_irq_node_ptr ≠ 0)
    (h : finalise_cap' fuel s g c final exposed = some (fc, s1)) : empties s.ctes s1.ctes := by
  unfold finalise_cap' at h
  split at h
  · cases h
    exact .refl
  · split at h
    · obtain ⟨s2, hc, h⟩ := Option.map_eq_some_iff.1 h
      cases h
      split at hc
      · exact .of_eq (cancel_all_ipc_ctes hc)
      · cases hc
        exact .refl
    · obtain ⟨s2, hc, h⟩ := Option.map_eq_some_iff.1 h
      cases h
      split at hc
      · exact .of_eq (by rw [cacncel_all_signal_ctes hc, notification.safe_unbind_tcb_ctes])
      · cases hc
        exact .refl
    case h_6 =>
      split at h
      · cases h
      · split at h
        case h_2 =>
          -- the last cap to a thread: its IPC is cancelled and it is suspended
          split at h
          · obtain ⟨s2, hc, h⟩ := Option.bind_eq_some_iff.1 h
            cases h
            have he := empties_of_tcb_cancel_ipc hc
            rw [safe_unbind_notification_ctes] at he
            simpa [suspend_ctes] using he
          · cases h
            exact .refl
        case h_4 =>
          -- the last IRQ handler cap: the IRQ's slot is emptied
          split at h
          · obtain ⟨s2, hc, h⟩ := Option.bind_eq_some_iff.1 h
            cases h
            exact empties_of_deleting_irq_handler hg hc
          · cases h
            exact .refl
        all_goals first | (cases h; exact .refl) | (split at h <;> cases h <;> exact .refl)
    all_goals cases h; exact .refl

/-- Finalising a cap leaves nothing behind, unless it is a zombie or the
last cap to a CNode or a thread. -/
theorem finalise_cap'_remainder {fuel : Nat} {s s1 : KernelState} {g : interrupt_state} {c : cap}
    {final exposed : Bool} {fc : FinaliseCapRet} (hz : c.get_tag ≠ cap_zombie_cap)
    (hf : final = true → c.get_tag ≠ cap_cnode_cap ∧ c.get_tag ≠ cap_thread_cap)
    (h : finalise_cap' fuel s g c final exposed = some (fc, s1)) : fc.remainder = .null_cap := by
  unfold finalise_cap' at h
  split at h
  · cases h
    rfl
  · split at h
    case h_6 =>
      split at h
      · cases h
      · split at h
        · split at h
          · exact absurd ‹_› (by simpa [cap.get_tag] using (hf ‹_›).1)
          · cases h
            rfl
        · split at h
          · exact absurd ‹_› (by simpa [cap.get_tag] using (hf ‹_›).2)
          · cases h
            rfl
        · exact (hz rfl).elim
        · split at h
          · obtain ⟨_, -, h⟩ := Option.bind_eq_some_iff.1 h
            cases h
            rfl
          · cases h
            rfl
        · cases h
          rfl
    all_goals first
      | (obtain ⟨_, -, h⟩ := Option.map_eq_some_iff.1 h; cases h; rfl)
      | (cases h; rfl)

/-- A slot that is not a long-running delete holds no last cap to a CNode
or a thread. -/
theorem cte_t.not_long_running {ctes : Nat → cte_t} {slot : Nat}
    (hl : cte_t.is_long_running_delete ctes slot = false) (hn : (ctes slot).capability.get_tag ≠ cap_null_cap)
    (hf : is_final_cap ctes slot = true) :
    (ctes slot).capability.get_tag ≠ cap_cnode_cap ∧ (ctes slot).capability.get_tag ≠ cap_thread_cap := by
  unfold cte_t.is_long_running_delete at hl
  rw [if_neg (by simp [hn, hf])] at hl
  cases hc : (ctes slot).capability <;> simp_all [cap.get_tag]

/-- Emptying a slot through `cte_t::set_empty` is emptying it. -/
theorem cte_t.set_empty_empties (s : KernelState) (g : interrupt_state) {slot : Nat} (hs : slot ≠ 0) (c : cap) :
    empties s.ctes (cte_t.set_empty s g slot c).1.ctes := by
  unfold cte_t.set_empty
  split
  · exact .single hs
  · exact .refl

variable {preempt}

/-- Finalising a cap that is not a long-running delete, and not a zombie,
gets to the end in one turn: it empties slots and stores no other. -/
theorem empties_of_finalise {fuel slot : Nat} {immediate : Bool} {s s1 : KernelState}
    {g g1 : interrupt_state} {fs : finaliseSlot_ret} (hg : g.int_state_irq_node_ptr ≠ 0)
    (hz : (s.ctes slot).capability.get_tag ≠ cap_zombie_cap)
    (hl : cte_t.is_long_running_delete s.ctes slot = false)
    (h : cte_t.finalise preempt fuel s g slot immediate = some (fs, s1, g1)) : empties s.ctes s1.ctes := by
  cases fuel with
  | zero => simp [cte_t.finalise] at h
  | succ fuel =>
    by_cases hnull : (s.ctes slot).capability.get_tag = cap_null_cap
    · simp only [cte_t.finalise, hnull, if_true, Option.some.injEq, Prod.mk.injEq] at h
      obtain ⟨-, rfl, -⟩ := h
      exact .refl
    · simp only [cte_t.finalise, hnull, if_false, Option.bind_eq_bind, Option.bind_eq_some_iff] at h
      obtain ⟨⟨fc, s2⟩, hfc, h⟩ := h
      have hrem : fc.remainder = .null_cap :=
        finalise_cap'_remainder hz (cte_t.not_long_running hl hnull) hfc
      -- a null remainder is removable: the loop ends at once
      simp only [hrem, cap_removable, Option.some.injEq,
        exists_eq_left', if_true, Option.pure_def, Prod.mk.injEq] at h
      obtain ⟨-, rfl, -⟩ := h
      exact empties_of_finalise_cap' hg hfc

/-- A delete of a cap that is not a long-running delete, and not a zombie,
writes no slot but emptied ones. -/
theorem empties_of_delete_all {fuel slot : Nat} {exposed : Bool} {s s' : KernelState} {g g' : interrupt_state}
    {st : exception_t} (hg : g.int_state_irq_node_ptr ≠ 0) (hs : slot ≠ 0)
    (hz : (s.ctes slot).capability.get_tag ≠ cap_zombie_cap)
    (hl : cte_t.is_long_running_delete s.ctes slot = false)
    (h : cte_t.delete_all preempt fuel s g slot exposed = some (st, s', g')) : empties s.ctes s'.ctes := by
  cases fuel with
  | zero => simp [cte_t.delete_all] at h
  | succ fuel =>
    simp only [cte_t.delete_all, Option.bind_eq_bind, Option.bind_eq_some_iff] at h
    obtain ⟨⟨fs, s1, g1⟩, hfin, h⟩ := h
    have he := empties_of_finalise hg hz hl hfin
    dsimp only at h
    split_ifs at h <;> simp only [Option.pure_def, Option.some.injEq, Prod.mk.injEq] at h <;>
      obtain ⟨-, rfl, -⟩ := h
    · exact he
    · exact he.trans (cte_t.set_empty_empties s1 g1 hs fs.cleanupInfo)
    · exact he

/-- **Deleting at once keeps the slots well formed.** -/
theorem delete_all_wf {fuel slot : Nat} {exposed : Bool} {s s' : KernelState} {g g' : interrupt_state}
    {st : exception_t} (hwf : cspace_wf s.ctes) (hg : g.int_state_irq_node_ptr ≠ 0) (hs : slot ≠ 0)
    (hz : (s.ctes slot).capability.get_tag ≠ cap_zombie_cap)
    (hl : cte_t.is_long_running_delete s.ctes slot = false)
    (h : cte_t.delete_all preempt fuel s g slot exposed = some (st, s', g')) : cspace_wf s'.ctes :=
  hwf.of_empties (empties_of_delete_all hg hs hz hl h)

end AtOnce

/-! ## Revoking keeps the slots well formed -/

section Revoke

variable {preempt}

/-- A cap that no deletion turns into a zombie, however many copies of it
there are: not a CNode, thread or zombie cap. -/
def cap.deleted_at_once (c : cap) : Prop :=
  c.get_tag ≠ cap_cnode_cap ∧ c.get_tag ≠ cap_thread_cap ∧ c.get_tag ≠ cap_zombie_cap

instance (c : cap) : Decidable c.deleted_at_once := by
  unfold cap.deleted_at_once
  infer_instance

theorem cap.deleted_at_once_null : cap.null_cap.deleted_at_once := by decide

theorem cte_t.is_long_running_delete_of_at_once {ctes : Nat → cte_t} {slot : Nat}
    (h : (ctes slot).capability.deleted_at_once) : cte_t.is_long_running_delete ctes slot = false := by
  obtain ⟨hc, ht, hz⟩ := h
  unfold cte_t.is_long_running_delete
  split
  · rfl
  · split <;> simp_all [cap.get_tag]

/-- **A revoke keeps the slots well formed** when every cap after the
revoked slot in the tree's list is deleted at once. By induction on the
turns of the loop: each deletes the next slot, which only empties slots, so
the caps after `slot` in the next turn are among those of this one, or
empty. -/
theorem revoke_wf {fuel slot : Nat} {s s' : KernelState} {g g' : interrupt_state} {st : exception_t}
    (hwf : cspace_wf s.ctes) (hg : g.int_state_irq_node_ptr ≠ 0) (hs : slot ≠ 0)
    (hat : ∀ q, Follows (mdb_next s.ctes) 0 slot q → (cap_of s.ctes q).deleted_at_once)
    (h : cte_t.revoke preempt fuel s g slot = some (st, s', g')) : cspace_wf s'.ctes := by
  induction fuel generalizing s g with
  | zero => simp [cte_t.revoke] at h
  | succ fuel ih =>
    rcases cte_t.revoke_succ h with ⟨-, hr⟩ | ⟨st1, s1, g1, hnext, hdel, hr⟩
    · simp only [Prod.mk.injEq] at hr
      obtain ⟨-, rfl, -⟩ := hr
      exact hwf
    -- the slot after `slot` goes at once: the delete only empties slots
    have hat₁ := hat _ (.single ⟨hs, hnext, rfl⟩)
    have he := empties_of_delete_all hg hnext hat₁.2.2 (cte_t.is_long_running_delete_of_at_once hat₁) hdel
    have hwf₁ := hwf.of_empties he
    rcases hr with ⟨-, hr⟩ | hr | hr
    · simp only [Prod.mk.injEq] at hr
      obtain ⟨-, rfl, -⟩ := hr
      exact hwf₁
    · simp only [Prod.mk.injEq] at hr
      obtain ⟨-, rfl, -⟩ := hr
      exact hwf₁
    -- the next turn sees fewer slots after `slot`, each with its cap or none
    refine ih hwf₁ (by rw [(delete_irq_node_ptr fuel).1 _ _ _ _ _ hdel]; exact hg) (fun q hq => ?_) hr
    rcases he.cap_of_eq q with hcq | hcq <;> rw [hcq]
    · exact hat q (he.follows hwf hq)
    · exact cap.deleted_at_once_null

end Revoke

end Rel4Kernel
