/-
The capability slots over every run of the kernel (non-MCS): the IPC
operations, with the messages and caps they hand over, the CNode, untyped and
IRQ invocations the decoders accept, and the interrupts the kernel takes.

`kernel_step` is one of them, on the kernel state and the interrupt state.
Each keeps `kernel_wf`: the slots are well formed (`cspace_wf`), and the IRQ
node, whose slots the handler caps go to, is not at address 0; none of them
moves the IRQ node. By induction over the run both hold in every state a run
reaches (`kernel_wf_of_reachable`): no slot then lies further down its own
list of the derivation tree, and every lookup ends at a slot.

A step carries what its decoder leaves to the rest of the kernel. A CNode
invocation is `safe` (`Rel4Kernel.Syscall.DecodeCNode` shows a delete that
is not, and what it does). A retype runs on an untyped cap whose region is
aligned, above address 0 and at a word address. `SetIRQHandler` takes its cap
from a slot that holds one and is not the handler slot: the decoder refuses
only a notification cap without the send right, and with an empty slot the
handler slot is linked into the tree without a cap
(`set_irq_handler_links_empty_slot`).
-/
import Rel4Kernel.Syscall.DecodeCNode
import Rel4Kernel.IPC.Endpoint

set_option autoImplicit false

namespace Rel4Kernel

open Function ThreadState cap_tag ObjectType PointerChain

/-! ## Storing a cap -/

namespace cspace_wf

variable {ctes : Nat → cte_t} (hwf : cspace_wf ctes)
include hwf

/-- Overwriting the cap of a slot with a cap keeps the slots well formed:
the links stay, and only empty slots need to be unlinked. -/
theorem of_set_cap {p : Nat} {c : cap} (hc : c ≠ .null_cap) (hptr : c.cnode_ptr ≠ some 0) :
    cspace_wf (set_cap ctes p c) := by
  refine ⟨mdb_wf.of_chains ?_ ?_ (hwf.mdb.null_unlinked_of fun q _ hqc => .inl ?_), ?_⟩
  · rw [mdb_next_set_cap, mdb_prev_set_cap]
    exact hwf.mdb.linked
  · rw [mdb_next_set_cap]
    exact hwf.mdb.next_terminates
  · have hqp : q ≠ p := by
      rintro rfl
      rw [cap_of_set_cap, update_self] at hqc
      exact hc hqc
    exact set_cap_of_ne ctes c hqp
  · rw [cap_of_set_cap]
    exact cnode_ptr_ne_update hwf.cnode_ptr_ne hptr p

/-- `insert_new_cap` of a cap into an empty slot, below a parent that holds
a cap, keeps the slots well formed. -/
theorem of_insert_new_cap {parent slot : Nat} {c : cap} (hparent : parent ≠ 0) (hslot : slot ≠ 0)
    (hc : c ≠ .null_cap) (hpc : cap_of ctes parent ≠ .null_cap) (hsc : cap_of ctes slot = .null_cap)
    (hptr : c.cnode_ptr ≠ some 0) : cspace_wf (insert_new_cap parent slot c ctes) := by
  refine ⟨insert_new_cap_mdb_wf hwf.mdb hparent hslot hc hpc hsc, ?_⟩
  rw [cap_of_insert_new_cap]
  exact cnode_ptr_ne_update hwf.cnode_ptr_ne hptr slot

end cspace_wf

/-! ## A retype -/

section Retype

/-- Every object has a cap. -/
theorem create_object_ne_null (obj_type : ObjectType) (region_base user_size device_mem : Nat) :
    create_object obj_type region_base user_size device_mem ≠ .null_cap := by
  cases obj_type <;> simp [create_object]

/-- The only cap of a new object that names a CNode is a new CNode's, and it
names the object. -/
theorem create_object_cnode_ptr {region_base : Nat} (hb : region_base ≠ 0) (obj_type : ObjectType)
    (user_size device_mem : Nat) : (create_object obj_type region_base user_size device_mem).cnode_ptr ≠ some 0 := by
  cases obj_type <;> simp [create_object, cap.cnode_ptr, hb]

variable {obj_type : ObjectType} {parent dest_cnode dest_offset region_base user_size device_mem : Nat}

/-- **`create_new_objects` keeps the slots well formed**, for a parent that
holds a cap, a window of empty slots of a CNode above address 0, and objects
above address 0. By induction on the window: each cap goes into the next
empty slot, right after the parent. -/
theorem create_new_objects_wf {ctes : Nat → cte_t} (hwf : cspace_wf ctes) (hparent : parent ≠ 0)
    (hpc : cap_of ctes parent ≠ .null_cap) (hdest : dest_cnode ≠ 0) {n : Nat}
    (hnull : ∀ i < n, cap_of ctes (dest_cnode + (dest_offset + i) * CTE_SIZE) = .null_cap)
    (hbase : ∀ i < n, wadd region_base (wshl i (obj_type.get_object_size user_size)) ≠ 0) :
    cspace_wf (create_new_objects obj_type parent dest_cnode dest_offset n region_base user_size device_mem
      ctes) := by
  induction n with
  | zero => exact hwf
  | succ n ih =>
    -- the parent holds a cap, so it is not in the window
    have hpw : ∀ i < n, parent ≠ dest_cnode + (dest_offset + i) * CTE_SIZE :=
      fun i hi he => hpc (he ▸ hnull i (by omega))
    have hlast : ∀ i < n,
        dest_cnode + (dest_offset + n) * CTE_SIZE ≠ dest_cnode + (dest_offset + i) * CTE_SIZE := by
      intro i hi
      rw [CTE_SIZE]
      omega
    rw [create_new_objects_succ]
    refine (ih (fun i hi => hnull i (by omega)) (fun i hi => hbase i (by omega))).of_insert_new_cap hparent
      (by rw [CTE_SIZE]; omega) (create_object_ne_null _ _ _ _) ?_ ?_
      (create_object_cnode_ptr (hbase n (by omega)) _ _ _)
    · rw [cap_of_create_new_objects_of_ne hpw]
      exact hpc
    · rw [cap_of_create_new_objects_of_ne hlast]
      exact hnull n (by omega)

/-- **A retype keeps the slots well formed**, preempted or not, when the
source slot is outside the window of empty slots it fills: the untyped cap
written back is a cap, and the new caps go below it. -/
theorem invoke_untyped_retype_wf {preempt : Nat → Bool} {s : KernelState}
    {src_slot capFreeIndex capIsDevice capBlockSize capPtr : Nat} {reset : Bool} {retype_base : Nat}
    {new_type : ObjectType} {user_size dest_length : Nat} (hwf : cspace_wf s.ctes) (hsrc : src_slot ≠ 0)
    (hdest : dest_cnode ≠ 0)
    (hnull : ∀ i < dest_length, cap_of s.ctes (dest_cnode + (dest_offset + i) * CTE_SIZE) = .null_cap)
    (hq : ∀ i < dest_length, src_slot ≠ dest_cnode + (dest_offset + i) * CTE_SIZE)
    (hbase : ∀ i < dest_length, wadd retype_base (wshl i (new_type.get_object_size user_size)) ≠ 0) :
    cspace_wf (invoke_untyped_retype preempt s src_slot capFreeIndex capIsDevice capBlockSize capPtr reset
      retype_base new_type user_size dest_cnode dest_offset dest_length device_mem).2.ctes := by
  have hset : ∀ (ctes : Nat → cte_t) (idx : Nat), cspace_wf ctes →
      cspace_wf (set_cap ctes src_slot (.untyped_cap idx capIsDevice capBlockSize capPtr)) :=
    fun _ _ h => h.of_set_cap (by simp) (by simp [cap.cnode_ptr])
  unfold invoke_untyped_retype
  obtain ⟨status, idx, hreset⟩ : ∃ status idx,
      (if reset then reset_untyped_cap preempt capFreeIndex capIsDevice capBlockSize
        else (.EXCEPTION_NONE, capFreeIndex)) = (status, idx) := ⟨_, _, rfl⟩
  rw [hreset]
  dsimp only
  split
  · -- a preempted reset only writes the cap back
    exact hset _ _ hwf
  · rw [create_new_tcbs_ctes]
    refine create_new_objects_wf (hset _ _ (hset _ _ hwf)) hsrc (by simp) hdest (fun i hi => ?_) hbase
    rw [cap_of_set_cap, update_of_ne (hq i hi).symm, cap_of_set_cap, update_of_ne (hq i hi).symm]
    exact hnull i hi

/-- The CNode `get_target_cnode` finds is named by the cap of a slot, so it
is not at address 0. -/
theorem get_target_cnode_ptr_ne_zero {ctes : Nat → cte_t} (hptr : ∀ q, (cap_of ctes q).cnode_ptr ≠ some 0)
    {root node_index node_depth capCNodeRadix capCNodePtr : Nat}
    (h : get_target_cnode ctes root node_index node_depth = some (.ok (capCNodeRadix, capCNodePtr))) :
    capCNodePtr ≠ 0 := by
  -- the cap the CNode comes from is the cap of the root or of the slot found
  obtain ⟨q, hq⟩ : ∃ q, ∃ g gs, (ctes q).capability = .cnode_cap g gs capCNodeRadix capCNodePtr := by
    unfold get_target_cnode at h
    split_ifs at h
    · simp only [pure, Option.bind_eq_bind, Option.bind_some] at h
      split at h
      · cases h
      · rename_i g gs r p heq
        simp only [Option.some.injEq, Except.ok.injEq, Prod.mk.injEq] at h
        obtain ⟨rfl, rfl⟩ := h
        exact ⟨root, g, gs, Except.ok.inj heq⟩
      · cases h
    · cases hl : lookup_slot_for_cnode_op ctes false (ctes root).capability node_index node_depth with
      | none => simp [hl] at h
      | some v =>
        cases v with
        | error e => simp [hl] at h
        | ok slot =>
          simp only [hl, pure, Option.bind_eq_bind, Option.bind_some] at h
          split at h
          · cases h
          · rename_i g gs r p heq
            simp only [Option.some.injEq, Except.ok.injEq, Prod.mk.injEq] at h
            obtain ⟨rfl, rfl⟩ := h
            exact ⟨slot, g, gs, Except.ok.inj heq⟩
          · cases h
  obtain ⟨g, gs, hcap⟩ := hq
  intro h0
  apply hptr q
  simp [cap_of, hcap, cap.cnode_ptr, h0]

/-- **A retype the decoder accepts keeps the slots well formed**, for an
untyped cap whose region is aligned, above address 0 and at a word address,
with its free index inside it: the window is empty and lies in a CNode a
slot names, and every object lies in the region. -/
theorem decode_untyed_invocation_wf {preempt : Nat → Bool} {s s' : KernelState} {inv_label length : Nat}
    {current_extra_caps : List Nat} {args : Nat → Nat} {slot capFreeIndex capIsDevice capBlockSize capPtr : Nat}
    {st : exception_t} (hwf : cspace_wf s.ctes) (hs : slot ≠ 0)
    (hslot : cap_of s.ctes slot = .untyped_cap capFreeIndex capIsDevice capBlockSize capPtr)
    (hB : capBlockSize ≤ MAX_UNTYPED_BITS) (halign : 2 ^ capBlockSize ∣ capPtr)
    (hfree : FREE_INDEX_TO_OFFSET capFreeIndex ≤ 2 ^ capBlockSize)
    (htop : capPtr < 2 ^ WORD_BITS) (hptr : 0 < capPtr)
    (h : decode_untyed_invocation preempt s inv_label length current_extra_caps args slot capFreeIndex
      capIsDevice capBlockSize capPtr = some (.ok (st, s'))) :
    cspace_wf s'.ctes := by
  obtain ⟨root, new_type, capCNodeRadix, capCNodePtr, children, -, -, -, hsize, hcheck, hg, hcnode, -, hcap,
    hr⟩ := decode_untyed_invocation_ok h
  obtain ⟨hn, hnull⟩ := check_cnode_slot_ok hcnode
  -- the retype starts at the free index, or at the base of a reset region
  have hoff : FREE_INDEX_TO_OFFSET (if children then capFreeIndex else 0) ≤ 2 ^ capBlockSize := by
    cases children
    · simp [FREE_INDEX_TO_OFFSET, wshl]
    · exact hfree
  obtain ⟨hbase, hobj, -⟩ := retype_arith hB halign htop hoff (get_object_size_ge hcheck) hsize hn hcap
  rw [GET_FREE_REF, hbase] at hr
  obtain rfl : s' = _ := congrArg Prod.snd hr
  refine invoke_untyped_retype_wf (by simpa using hwf) hs (get_target_cnode_ptr_ne_zero hwf.cnode_ptr_ne hg)
    (fun i hi => ?_) (fun i hi heq => ?_) (fun i hi => ?_)
  · rw [set_thread_state_ctes]
    exact hnull i hi
  · -- the source slot holds the untyped cap, the window no cap
    have hempty := hnull i hi
    rw [← heq] at hempty
    simp [cap_of, hempty] at hslot
  · rw [hobj i hi]
    omega

end Retype

/-! ## The IRQ invocations and the interrupts -/

section Irq

theorem timer_tick_ctes (s : KernelState) : (timer_tick s).ctes = s.ctes := by
  unfold timer_tick
  dsimp only
  split_ifs <;> simp [sched_append, reschedule_required_ctes]

/-- A deletion stores no slot but the one it empties. -/
theorem cte_t.delete_one_cap_of_ne {fuel p q : Nat} {s s' : KernelState} (h : cte_t.delete_one fuel s p = some s')
    (hq : q ≠ p) : cap_of s'.ctes q = cap_of s.ctes q := by
  unfold cte_t.delete_one at h
  split at h
  · obtain ⟨s1, hf, h⟩ := Option.bind_eq_some_iff.1 h
    cases h
    rw [cap_of_set_empty, finalise_cap_ctes hf]
    split <;> simp [hq]
  · cases h
    rfl

/-- **`invoke_irq_control` keeps the slots well formed** and the IRQ node
where it is: the handler cap goes into an empty slot, below the control cap. -/
theorem invoke_irq_control_wf {s s' : KernelState} {g g' : interrupt_state} {irq handler_slot control_slot : Nat}
    (hwf : cspace_wf s.ctes) (hh : handler_slot ≠ 0) (hc : control_slot ≠ 0)
    (hcc : cap_of s.ctes control_slot ≠ .null_cap)
    (h : invoke_irq_control s g irq handler_slot control_slot = some (s', g')) :
    cspace_wf s'.ctes ∧ g'.int_state_irq_node_ptr = g.int_state_irq_node_ptr := by
  simp only [invoke_irq_control, Option.bind_eq_bind, Option.bind_eq_some_iff] at h
  obtain ⟨ctes, hins, hr⟩ := h
  cases hr
  exact ⟨hwf.of_cte_insert hins hc hh (by simp) hcc (by simp [cap.cnode_ptr]), rfl⟩

/-- What `decode_irq_control_invocation` runs when it succeeds, for either
label that issues a handler cap: the caller is set to restart, and the cap
goes into the slot a lookup from the first extra cap found. -/
theorem decode_irq_control_invocation_ok {check_irq : Nat → Except syscall_error Unit}
    {IRQIssueIRQHandlerTrigger label length : Nat} {s s' : KernelState} {g g' : interrupt_state}
    {current_extra_caps : List Nat} {args : Nat → Nat} {src_slot : Nat}
    (h : decode_irq_control_invocation check_irq IRQIssueIRQHandlerTrigger s g label length current_extra_caps args
      src_slot = some (.ok (s', g'))) :
    ∃ root index depth dest, current_extra_caps[0]? = some root ∧
      lookup_slot_for_cnode_op s.ctes false (s.ctes root).capability index depth = some (.ok dest) ∧
      invoke_irq_control (set_thread_state s s.ksCurThread ThreadStateRestart) g (args 0) dest src_slot =
        some (s', g') := by
  unfold decode_irq_control_invocation at h
  split at h
  · -- `IRQIssueIRQHandler`, which also wants the slot empty
    split at h
    · cases h
    rename_i root hroot
    split at h
    · cases h
    dsimp only at h
    split at h
    · cases h
    split at h
    · cases h
    cases hl : lookup_slot_for_cnode_op s.ctes false (s.ctes root).capability (args 1) (args 2) with
    | none => simp [hl] at h
    | some v =>
    cases v with
    | error e => simp [hl] at h
    | ok dest =>
    simp only [hl, Option.bind_eq_bind, Option.bind_some] at h
    split at h
    · cases h
    simp only [Option.bind_eq_some_iff, pure, Option.some.injEq, Except.ok.injEq] at h
    obtain ⟨r, hr, rfl⟩ := h
    exact ⟨root, _, _, dest, hroot, hl, hr⟩
  · -- the architecture's `IRQIssueIRQHandlerTrigger`
    unfold arch_decode_irq_control_invocation at h
    split at h
    · split at h
      · cases h
      rename_i root hroot
      split at h
      · cases h
      dsimp only at h
      split at h
      · cases h
      split at h
      · cases h
      cases hl : lookup_slot_for_cnode_op s.ctes false (s.ctes root).capability (args 2) (args 3) with
      | none => simp [hl] at h
      | some v =>
      cases v with
      | error e => simp [hl] at h
      | ok dest =>
      simp only [hl, Option.bind_eq_bind, Option.bind_some, Option.bind_eq_some_iff, pure, Option.some.injEq,
        Except.ok.injEq] at h
      obtain ⟨r, hr, rfl⟩ := h
      exact ⟨root, _, _, dest, hroot, hl, hr⟩
    · cases h
/-- **An IRQ control invocation the decoder accepts keeps the slots well
formed** and the IRQ node where it is. -/
theorem decode_irq_control_invocation_wf {check_irq : Nat → Except syscall_error Unit}
    {IRQIssueIRQHandlerTrigger label length : Nat} {s s' : KernelState} {g g' : interrupt_state}
    {current_extra_caps : List Nat} {args : Nat → Nat} {src_slot : Nat} (hwf : cspace_wf s.ctes)
    (hsrc : src_slot ≠ 0) (hsc : cap_of s.ctes src_slot ≠ .null_cap)
    (h : decode_irq_control_invocation check_irq IRQIssueIRQHandlerTrigger s g label length current_extra_caps args
      src_slot = some (.ok (s', g'))) :
    cspace_wf s'.ctes ∧ g'.int_state_irq_node_ptr = g.int_state_irq_node_ptr := by
  obtain ⟨root, index, depth, dest, -, hl, hinv⟩ := decode_irq_control_invocation_ok h
  have hdest : dest ≠ 0 := lookup_slot_for_cnode_op_ne_zero hwf.cnode_ptr_ne (hwf.cnode_ptr_ne root) hl
  exact invoke_irq_control_wf (by simpa using hwf) hdest hsrc (by simpa using hsc) hinv

/-- **An IRQ handler invocation the decoder accepts keeps the slots well
formed**, when the cap `SetIRQHandler` installs comes from a slot that holds
one and is not the handler slot: the handler slot is emptied, and the cap
copied into it below its own slot. -/
theorem decode_irq_handler_invocation_wf {fuel label irq : Nat} {s s' : KernelState} {g : interrupt_state}
    {current_extra_caps : List Nat} (hwf : cspace_wf s.ctes) (hg : g.int_state_irq_node_ptr ≠ 0)
    (hslot : ∀ slot, current_extra_caps[0]? = some slot →
      slot ≠ 0 ∧ slot ≠ get_irq_handler_slot g.int_state_irq_node_ptr irq ∧ cap_of s.ctes slot ≠ .null_cap)
    (h : decode_irq_handler_invocation fuel s g label irq current_extra_caps = some (.ok s')) :
    cspace_wf s'.ctes := by
  have hwf0 : cspace_wf (set_thread_state s s.ksCurThread ThreadStateRestart).ctes := by simpa using hwf
  unfold decode_irq_handler_invocation at h
  split at h
  · -- `IRQAckIRQ`
    cases h
    exact hwf0
  split at h
  · -- `IRQSetIRQHandler`
    split at h
    · cases h
    rename_i slot hs
    obtain ⟨hs0, hsi, hsc⟩ := hslot slot hs
    dsimp only at h
    split at h
    · cases h
    obtain ⟨s1, hrun, he⟩ := Option.map_eq_some_iff.1 h
    cases he
    simp only [invoke_set_irq_handler, Option.bind_eq_bind, Option.bind_eq_some_iff] at hrun
    obtain ⟨s2, hdel, ctes, hins, hr⟩ := hrun
    cases hr
    -- the deletion leaves the cap to copy where it was
    have hwf2 : cspace_wf s2.ctes := hwf0.of_empties (empties_of_deleting_irq_handler hg hdel)
    have hsc2 : cap_of s2.ctes slot ≠ .null_cap := by
      rw [cte_t.delete_one_cap_of_ne hdel hsi, set_thread_state_ctes]
      exact hsc
    exact hwf2.of_cte_insert hins hs0 (by simp [get_irq_handler_slot, hg]) hsc hsc2 (hwf.cnode_ptr_ne slot)
  split at h
  · -- `IRQClearIRQHandler`
    obtain ⟨s1, hdel, he⟩ := Option.map_eq_some_iff.1 h
    cases he
    exact hwf0.of_empties (empties_of_deleting_irq_handler hg hdel)
  · cases h

/-- **Taking an interrupt keeps the slots well formed**: it signals a
notification or ticks the timer, and neither stores a slot but the caller
slots `send_signal` may empty. -/
theorem handle_interrput_wf {MAX_IRQ irq : Nat} {s s' : KernelState} {g : interrupt_state}
    (hwf : cspace_wf s.ctes) (h : handle_interrput MAX_IRQ s g irq = some s') : cspace_wf s'.ctes := by
  unfold handle_interrput at h
  split at h
  · cases h
    exact hwf
  split at h
  · cases h
    exact hwf
  · -- a signal to the handler's notification
    split at h
    · split at h
      · exact send_signal_wf hwf h
      · cases h
        exact hwf
    · cases h
      exact hwf
  · cases h
    rw [timer_tick_ctes]
    exact hwf
  · cases h
    exact hwf

/-- `SetIRQHandler` with a cap other than a notification cap without the
send right is `invoke_set_irq_handler` of that cap. -/
theorem decode_irq_handler_invocation_set_eq {fuel irq slot : Nat} {s : KernelState} {g : interrupt_state}
    {c : cap} (hc : cap_of s.ctes slot = c) (hsend : ∀ b r p, c ≠ .notification_cap b r 0 p) :
    decode_irq_handler_invocation fuel s g IRQSetIRQHandler irq [slot] =
      (invoke_set_irq_handler fuel (set_thread_state s s.ksCurThread ThreadStateRestart) g irq c slot).map .ok := by
  simp only [decode_irq_handler_invocation]
  rw [if_neg (by decide), if_pos trivial]
  simp only [List.getElem?_cons_zero]
  split
  · rename_i b r p heq
    exact absurd (hc.symm.trans heq) (hsend b r p)
  · rw [← hc]
    rfl

end Irq

/-! ## `SetIRQHandler` with an empty slot

`lookup_extra_caps` looks up slots, not caps, so an extra cap may name an
empty slot. `SetIRQHandler` refuses only a notification cap that cannot
send, so it copies the null cap of such a slot into the handler slot:
`cte_insert` links the handler slot below the empty slot, and neither holds
a cap. The empty slot then fails `cte_insert`'s assertion that a
destination is unlinked, and every copy, mint or move into it panics. -/

/-- **`SetIRQHandler` links an empty slot into the tree.** For every state
and every empty slot other than the IRQ's handler slot, an invocation with
that slot as its extra cap that returns leaves the slot without a cap but
with the handler slot as its successor, so that the tree is no longer well
formed; and it does return whenever the handler slot is empty. -/
theorem set_irq_handler_links_empty_slot {fuel irq slot : Nat} {s : KernelState} {g : interrupt_state}
    (hg : g.int_state_irq_node_ptr ≠ 0) (hs0 : slot ≠ 0)
    (hsi : slot ≠ get_irq_handler_slot g.int_state_irq_node_ptr irq) (hnull : cap_of s.ctes slot = .null_cap) :
    (∀ s', decode_irq_handler_invocation fuel s g IRQSetIRQHandler irq [slot] = some (.ok s') →
      cap_of s'.ctes slot = .null_cap ∧ mdb_next s'.ctes slot = get_irq_handler_slot g.int_state_irq_node_ptr irq ∧
        ¬ mdb_wf s'.ctes) ∧
    (s.ctes (get_irq_handler_slot g.int_state_irq_node_ptr irq) = {} →
      ∃ s', decode_irq_handler_invocation fuel s g IRQSetIRQHandler irq [slot] = some (.ok s')) := by
  have hset : decode_irq_handler_invocation fuel s g IRQSetIRQHandler irq [slot] =
      (invoke_set_irq_handler fuel (set_thread_state s s.ksCurThread ThreadStateRestart) g irq .null_cap slot).map
        .ok :=
    decode_irq_handler_invocation_set_eq hnull (fun _ _ _ => cap.noConfusion)
  have hctes : (set_thread_state s s.ksCurThread ThreadStateRestart).ctes = s.ctes :=
    set_thread_state_ctes s s.ksCurThread ThreadStateRestart
  have hh0 : get_irq_handler_slot g.int_state_irq_node_ptr irq ≠ 0 := by simp [get_irq_handler_slot, hg]
  constructor
  · intro s' h
    rw [hset] at h
    obtain ⟨s1, hrun, he⟩ := Option.map_eq_some_iff.1 h
    cases he
    simp only [invoke_set_irq_handler, Option.bind_eq_bind, Option.bind_eq_some_iff] at hrun
    obtain ⟨s2, hdel, ctes, hins, hr⟩ := hrun
    cases hr
    -- emptying the handler slot leaves the other slot empty, and the null
    -- cap marks no untyped cap full
    have hnull2 : cap_of s2.ctes slot = .null_cap := by
      rw [cte_t.delete_one_cap_of_ne hdel hsi, hctes, hnull]
    obtain ⟨-, -, -, ctes', hfull, hcap, hnext, -⟩ := cte_insert_spec hins
    rw [hnull2, set_untyped_cap_as_full_of_not_untyped _ (by decide)] at hfull
    cases hfull
    have hcap' : cap_of ctes slot = .null_cap := by
      rw [hcap, update_of_ne hsi, hnull2]
    have hnext' : mdb_next ctes slot = get_irq_handler_slot g.int_state_irq_node_ptr irq := by
      rw [hnext, update_self]
    refine ⟨hcap', hnext', fun hwf => hh0 ?_⟩
    -- in a well-formed tree an empty slot has no successor
    rw [← hnext']
    exact (hwf.unlinked_of_null hs0 hcap').1
  · intro hempty
    obtain ⟨r, hins, -⟩ := cte_insert_self hnull hempty
    have hdel : cte_t.delete_one fuel (set_thread_state s s.ksCurThread ThreadStateRestart)
        (get_irq_handler_slot g.int_state_irq_node_ptr irq) = some (set_thread_state s s.ksCurThread ThreadStateRestart) :=
      cte_t.delete_one_of_null (by rw [hctes, hempty])
    refine ⟨{ set_thread_state s s.ksCurThread ThreadStateRestart with ctes := r }, ?_⟩
    rw [hset]
    simp only [invoke_set_irq_handler, hdel, Option.bind_eq_bind, Option.bind_some, hctes, hins]
    rfl

theorem set_irq_handler_links_empty_slot_300 :
    ∃ s', decode_irq_handler_invocation 0 { ctes := irqBugCtes } { int_state_irq_node_ptr := 0x10000 }
        IRQSetIRQHandler 1 [0x300] = some (.ok s') ∧
      mdb_next s'.ctes 0x300 = get_irq_handler_slot 0x10000 1 ∧ ¬ mdb_wf s'.ctes := by
  obtain ⟨hrun, hret⟩ := @set_irq_handler_links_empty_slot 0 1 0x300 { ctes := irqBugCtes }
    { int_state_irq_node_ptr := 0x10000 } (by decide) (by decide) (by decide) (by decide)
  obtain ⟨s', hs'⟩ := hret (by decide)
  exact ⟨s', hs', (hrun s' hs').2⟩

/-- **`SetIRQHandler` with an empty slot breaks the tree, and a later copy
into that slot panics.** From the well-formed slots `irqBugCtes`, a CNode Copy
into the empty slot `0x300` succeeds. A `SetIRQHandler` of IRQ 1 whose extra
cap is that slot succeeds too, and leaves `0x300` without a cap but with a
successor, the handler slot; the same copy then panics. -/
theorem set_irq_handler_of_empty_slot_breaks_copy :
    cspace_wf irqBugCtes ∧
      (∃ r, decode_cnode_invocation (fun _ => false) 0 { ctes := irqBugCtes } { int_state_irq_node_ptr := 0x10000 }
        CNodeCopy 5 (.cnode_cap 0 0 5 0x100) [0x200] copyToSlot16Args = some (.ok r)) ∧
      ∃ s', decode_irq_handler_invocation 0 { ctes := irqBugCtes } { int_state_irq_node_ptr := 0x10000 }
          IRQSetIRQHandler 1 [0x300] = some (.ok s') ∧
        cap_of s'.ctes 0x300 = .null_cap ∧ mdb_next s'.ctes 0x300 = get_irq_handler_slot 0x10000 1 ∧
        ¬ mdb_wf s'.ctes ∧
        decode_cnode_invocation (fun _ => false) 0 s' { int_state_irq_node_ptr := 0x10000 } CNodeCopy 5
          (.cnode_cap 0 0 5 0x100) [0x200] copyToSlot16Args = none := by
  refine ⟨irqBugCtes_wf, ?_, ?_⟩
  · have hcopy : (decode_cnode_invocation (fun _ => false) 0 { ctes := irqBugCtes }
        { int_state_irq_node_ptr := 0x10000 } CNodeCopy 5 (.cnode_cap 0 0 5 0x100) [0x200]
        copyToSlot16Args).map (Except.map fun r => r.1) = some (.ok .EXCEPTION_NONE) := by
      decide +kernel
    obtain ⟨r, hr, -⟩ := exists_of_map_ok hcopy
    exact ⟨r, hr⟩
  · -- the handler invocation, evaluated on the empty slot and on the copy after it
    have hset : (decode_irq_handler_invocation 0 { ctes := irqBugCtes } { int_state_irq_node_ptr := 0x10000 }
        IRQSetIRQHandler 1 [0x300]).map (Except.map fun s' => (cap_of s'.ctes 0x300, mdb_next s'.ctes 0x300,
          (decode_cnode_invocation (fun _ => false) 0 s' { int_state_irq_node_ptr := 0x10000 } CNodeCopy 5
            (.cnode_cap 0 0 5 0x100) [0x200] copyToSlot16Args).isNone)) =
        some (.ok (.null_cap, get_irq_handler_slot 0x10000 1, true)) := by
      decide +kernel
    obtain ⟨s', hs', he⟩ := exists_of_map_ok hset
    simp only [Prod.mk.injEq, Option.isNone_iff_eq_none] at he
    obtain ⟨hcap, hnext, hcopy⟩ := he
    refine ⟨s', hs', hcap, hnext, fun hwf => ?_, hcopy⟩
    -- an empty slot has no successor in a well-formed tree
    have h0 := (hwf.unlinked_of_null (by decide) hcap).1
    rw [hnext] at h0
    exact absurd h0 (by decide)

/-! ## Runs of the kernel -/

/-- One step of the kernel on its state and interrupt state: an IPC
operation of the queue model, a send, receive or reply that hands a message
over, on any IPC buffers, a CNode invocation that is `safe`, a retype, an
IRQ control or IRQ handler invocation, or an interrupt, each with what it
asks of the slots it reads. -/
inductive kernel_step : KernelState × interrupt_state → KernelState × interrupt_state → Prop
  | ipc {s s' : KernelState} {g : interrupt_state} : ipc_step s s' → kernel_step (s, g) (s', g)
  | msg {s s' : ipc_state} {g : interrupt_state} (op : msg_op) (fuel : Nat) :
      op.run fuel s = some s' → kernel_step (s.toKernelState, g) (s'.toKernelState, g)
  | cnode {s s' : KernelState} {g g' : interrupt_state} (inv : cnode_invocation) (preempt : Nat → Bool)
      (fuel : Nat) (st : exception_t) :
      inv.valid s.ctes → inv.safe s.ctes → inv.perform preempt fuel s g = some (.ok (st, s', g')) →
      kernel_step (s, g) (s', g')
  | untyped {s s' : KernelState} {g : interrupt_state} (preempt : Nat → Bool) (inv_label length : Nat)
      (current_extra_caps : List Nat) (args : Nat → Nat) (slot capFreeIndex capIsDevice capBlockSize capPtr : Nat)
      (st : exception_t) :
      slot ≠ 0 → cap_of s.ctes slot = .untyped_cap capFreeIndex capIsDevice capBlockSize capPtr →
      capBlockSize ≤ MAX_UNTYPED_BITS → 2 ^ capBlockSize ∣ capPtr →
      FREE_INDEX_TO_OFFSET capFreeIndex ≤ 2 ^ capBlockSize → capPtr < 2 ^ WORD_BITS →
      0 < capPtr →
      decode_untyed_invocation preempt s inv_label length current_extra_caps args slot capFreeIndex capIsDevice
        capBlockSize capPtr = some (.ok (st, s')) →
      kernel_step (s, g) (s', g)
  | irq_control {s s' : KernelState} {g g' : interrupt_state} (check_irq : Nat → Except syscall_error Unit)
      (IRQIssueIRQHandlerTrigger label length : Nat) (current_extra_caps : List Nat) (args : Nat → Nat)
      (src_slot : Nat) :
      src_slot ≠ 0 → cap_of s.ctes src_slot ≠ .null_cap →
      decode_irq_control_invocation check_irq IRQIssueIRQHandlerTrigger s g label length current_extra_caps args
        src_slot = some (.ok (s', g')) →
      kernel_step (s, g) (s', g')
  | irq_handler {s s' : KernelState} {g : interrupt_state} (fuel label irq : Nat) (current_extra_caps : List Nat) :
      (∀ slot, current_extra_caps[0]? = some slot →
        slot ≠ 0 ∧ slot ≠ get_irq_handler_slot g.int_state_irq_node_ptr irq ∧
          cap_of s.ctes slot ≠ .null_cap) →
      decode_irq_handler_invocation fuel s g label irq current_extra_caps = some (.ok s') →
      kernel_step (s, g) (s', g)
  | interrupt {s s' : KernelState} {g : interrupt_state} (MAX_IRQ irq : Nat) :
      handle_interrput MAX_IRQ s g irq = some s' → kernel_step (s, g) (s', g)

/-- What every step keeps: the slots are well formed, and the IRQ node is
not at address 0. -/
structure kernel_wf (x : KernelState × interrupt_state) : Prop where
  cspace : cspace_wf x.1.ctes
  irq_node_ne : x.2.int_state_irq_node_ptr ≠ 0

/-- **Step lemma**: every step keeps `kernel_wf`, and leaves the IRQ node
where it is. -/
theorem kernel_step.wf {x y : KernelState × interrupt_state} (hx : kernel_wf x) (h : kernel_step x y) :
    kernel_wf y ∧ y.2.int_state_irq_node_ptr = x.2.int_state_irq_node_ptr := by
  cases h with
  | ipc hs =>
    obtain ⟨op, fuel, -, hrun⟩ := hs
    exact ⟨⟨ipc_op.run_cspace_wf hx.cspace hrun, hx.irq_node_ne⟩, rfl⟩
  | msg op fuel hr => exact ⟨⟨op.run_wf hx.cspace hr, hx.irq_node_ne⟩, rfl⟩
  | cnode inv preempt fuel st hv hsafe hp =>
    have hirq := cnode_invocation.perform_irq_node_ptr hp
    exact ⟨⟨cnode_invocation.perform_wf hx.cspace hx.irq_node_ne hv hsafe hp, hirq ▸ hx.irq_node_ne⟩, hirq⟩
  | untyped _ _ _ _ _ _ _ _ _ _ _ hs hslot hB halign hfree htop hptr hd =>
    exact ⟨⟨decode_untyed_invocation_wf hx.cspace hs hslot hB halign hfree htop hptr hd, hx.irq_node_ne⟩, rfl⟩
  | irq_control _ _ _ _ _ _ _ hsrc hsc hd =>
    obtain ⟨hwf, hirq⟩ := decode_irq_control_invocation_wf hx.cspace hsrc hsc hd
    exact ⟨⟨hwf, hirq ▸ hx.irq_node_ne⟩, hirq⟩
  | irq_handler _ _ _ _ hslot hd =>
    exact ⟨⟨decode_irq_handler_invocation_wf hx.cspace hx.irq_node_ne hslot hd, hx.irq_node_ne⟩, rfl⟩
  | interrupt _ _ hd => exact ⟨⟨handle_interrput_wf hx.cspace hd, hx.irq_node_ne⟩, rfl⟩

/-- **Run lemma**: `kernel_wf` holds in every state a run reaches from a
state that has it, with the IRQ node where it started. -/
theorem kernel_wf_of_reachable {x₀ x : KernelState × interrupt_state} (h0 : kernel_wf x₀)
    (hr : Relation.ReflTransGen kernel_step x₀ x) :
    kernel_wf x ∧ x.2.int_state_irq_node_ptr = x₀.2.int_state_irq_node_ptr := by
  induction hr with
  | refl => exact ⟨h0, rfl⟩
  | tail _ hst ih =>
    obtain ⟨hwf, hirq⟩ := kernel_step.wf ih.1 hst
    exact ⟨hwf, hirq.trans ih.2⟩

/-- **The slots of every reachable state are safe to use.** From a state
with well-formed slots and an IRQ node above address 0, every run leaves the
slots well formed and the IRQ node where it was; no slot lies further down
its own list of the derivation tree; and every lookup through the cap of a
slot ends at a slot above address 0. -/
theorem kernel_reachable_cspace_safe {x₀ x : KernelState × interrupt_state} (h0 : kernel_wf x₀)
    (hr : Relation.ReflTransGen kernel_step x₀ x) :
    cspace_wf x.1.ctes ∧ x.2.int_state_irq_node_ptr = x₀.2.int_state_irq_node_ptr ∧
      (∀ p, ¬ Follows (mdb_next x.1.ctes) 0 p p) ∧
      ∀ q is_source index depth slot,
        lookup_slot_for_cnode_op x.1.ctes is_source (cap_of x.1.ctes q) index depth = some (.ok slot) →
          slot ≠ 0 := by
  obtain ⟨hwf, hirq⟩ := kernel_wf_of_reachable h0 hr
  refine ⟨hwf.cspace, hirq, Terminates.not_follows_self hwf.cspace.mdb.next_terminates, ?_⟩
  intro q is_source index depth slot hl
  exact lookup_slot_for_cnode_op_ne_zero hwf.cspace.cnode_ptr_ne (hwf.cspace.cnode_ptr_ne q) hl

theorem kernel_reachable_cspace_safe_after_copy :
    ∃ x, Relation.ReflTransGen kernel_step ({ ctes := irqBugCtes }, { int_state_irq_node_ptr := 0x10000 }) x ∧
      cap_of x.1.ctes 0x300 = .endpoint_cap 0 1 1 1 1 0x3000 ∧
      cspace_wf x.1.ctes ∧ x.2.int_state_irq_node_ptr = 0x10000 ∧ (∀ p, ¬ Follows (mdb_next x.1.ctes) 0 p p) ∧
      ∀ q is_source index depth slot,
        lookup_slot_for_cnode_op x.1.ctes is_source (cap_of x.1.ctes q) index depth = some (.ok slot) →
          slot ≠ 0 := by
  -- one step: the copy of the endpoint cap into the empty slot
  have hrun : ((cnode_invocation.copy 0x100 0x300 (seL4_CapRights.of_word 0xF)).perform (fun _ => false) 0
      { ctes := irqBugCtes } { int_state_irq_node_ptr := 0x10000 }).map
      (Except.map fun r => cap_of r.2.1.ctes 0x300) = some (.ok (.endpoint_cap 0 1 1 1 1 0x3000)) := by
    decide +kernel
  obtain ⟨⟨st, s', g'⟩, hp, hcap⟩ := exists_of_map_ok hrun
  have hstep : Relation.ReflTransGen kernel_step ({ ctes := irqBugCtes }, { int_state_irq_node_ptr := 0x10000 })
      (s', g') := .single (.cnode (.copy 0x100 0x300 (seL4_CapRights.of_word 0xF)) _ _ st (by decide) trivial hp)
  exact ⟨(s', g'), hstep, hcap, kernel_reachable_cspace_safe ⟨irqBugCtes_wf, by decide⟩ hstep⟩

end Rel4Kernel
