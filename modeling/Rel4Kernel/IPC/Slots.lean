/-
What the IPC operations do to the capability slots (`endpoint.rs`,
`notification.rs`, `tcb.rs`), non-MCS.

Most of them store no slot at all. Cancelling the IPC of a thread that waits
for a reply empties the caller slot below its master reply cap
(`delete_one`), and a call inserts a reply cap into the receiver's caller
slot (`setup_caller_cap`). Emptying a slot and inserting a reply cap below a
master reply cap both keep the slots well formed, so every operation of
`ipc_op` does (`ipc_op.run_cspace_wf`), and the slots stay well formed over
every run of them (`cspace_wf_of_ipc_reachable`).
-/
import Rel4Kernel.CSpace.MdbPreserve
import Rel4Kernel.IPC.IpcInvariant

set_option autoImplicit false

namespace Rel4Kernel

open ThreadState

/-! ## Stores that miss the slots -/

section Frame

variable (s : KernelState) (t : Nat)

theorem reschedule_required_ctes : (reschedule_required s).ctes = s.ctes := by
  unfold reschedule_required
  split <;> simp [sched_enqueue]

theorem schedule_tcb_ctes : (schedule_tcb s t).ctes = s.ctes := by
  unfold schedule_tcb
  split
  · exact reschedule_required_ctes s
  · rfl

theorem possible_switch_to_ctes : (possible_switch_to s t).ctes = s.ctes := by
  unfold possible_switch_to
  split_ifs <;> simp [sched_enqueue, reschedule_required_ctes]

theorem remove_from_bigmap_ctes (dom prio : Nat) : (remove_from_bigmap s dom prio).ctes = s.ctes := by
  unfold remove_from_bigmap
  dsimp only
  split <;> rfl

theorem sched_dequeue_ctes : (sched_dequeue s t).ctes = s.ctes := by
  unfold sched_dequeue
  dsimp only
  split
  · split <;> simp [remove_from_bigmap_ctes, set_tcbQueued]
  · rfl

theorem suspend_ctes : (suspend s t).ctes = s.ctes := by
  simp [suspend, sched_dequeue_ctes]

theorem ep_dequeue_at_ctes (ep : Nat) : (ep_dequeue_at s ep t).ctes = s.ctes := by
  unfold ep_dequeue_at
  dsimp only
  split <;> rfl

theorem ntfn_dequeue_at_ctes (ntfn : Nat) : (ntfn_dequeue_at s ntfn t).ctes = s.ctes := by
  unfold ntfn_dequeue_at
  dsimp only
  split <;> rfl

end Frame

/-- A loop over a queue whose every turn restarts a thread stores no slot. -/
theorem walk_cancel_all_step_ctes {fuel p : Nat} {s s' : KernelState}
    (hw : HeapList.walk 0 cancel_all_step fuel s p = some s') : s'.ctes = s.ctes :=
  HeapList.walk_inv (fun x : KernelState => x.ctes = s.ctes)
    (fun x a hI => by simp [cancel_all_step, sched_enqueue, hI]) rfl hw

theorem cancel_all_ipc_ctes {fuel ep : Nat} {s s' : KernelState}
    (h : cancel_all_ipc fuel s ep = some s') : s'.ctes = s.ctes := by
  unfold cancel_all_ipc at h
  split at h
  · cases h
    rfl
  · obtain ⟨s1, hw, rfl⟩ := Option.map_eq_some_iff.1 h
    simpa [reschedule_required_ctes] using walk_cancel_all_step_ctes hw

theorem cacncel_all_signal_ctes {fuel ntfn : Nat} {s s' : KernelState}
    (h : cacncel_all_signal fuel s ntfn = some s') : s'.ctes = s.ctes := by
  unfold cacncel_all_signal at h
  split at h
  · obtain ⟨s1, hw, rfl⟩ := Option.map_eq_some_iff.1 h
    simpa [reschedule_required_ctes] using walk_cancel_all_step_ctes hw
  · cases h
    rfl

theorem cancel_badged_sends_ctes {fuel ep badge : Nat} {s s' : KernelState}
    (h : cancel_badged_sends fuel s ep badge = some s') : s'.ctes = s.ctes := by
  unfold cancel_badged_sends at h
  split at h
  · cases h
    rfl
  · cases h
    rfl
  · dsimp only at h
    obtain ⟨sq, hw, rfl⟩ := Option.map_eq_some_iff.1 h
    -- every turn of the loop keeps the slots, whether or not it restarts the sender
    have hsq : sq.1.ctes = s.ctes :=
      HeapList.walk_inv (fun sq : KernelState × tcb_queue_t => sq.1.ctes = s.ctes)
        (fun sq a hI => by
          obtain ⟨s1, q⟩ := sq
          by_cases hb : (s1.tcbs a).tcbState.blockingIPCBadge = badge
          · rw [cancel_badged_sends_step_of_eq badge s1 q hb]
            simpa [cancel_all_step, sched_enqueue] using hI
          · rw [cancel_badged_sends_step_of_ne badge s1 q hb]
            exact hI)
        rfl hw
    split <;> simp [reschedule_required_ctes, hsq]

/-! ## Emptying the caller slot -/

/-- No slot of a thread's block but the first is at address 0. -/
theorem tcb_cte_slot_ne_zero {i : Nat} (hi : i ≠ 0) (t : Nat) : tcb_cte_slot t i ≠ 0 := by
  unfold tcb_cte_slot CTE_SIZE
  omega

/-- IPC's `delete_one` empties the slot, if it holds a reply cap. -/
theorem empties_of_delete_one {s s' : KernelState} {slot : Nat} (hs : slot ≠ 0)
    (h : delete_one s slot = some s') : empties s.ctes s'.ctes := by
  unfold delete_one at h
  split at h
  · cases h
    exact .refl
  · cases h
    exact .single hs
  · cases h

/-- `tcb_t::cancel_ipc` writes no slot, but empties the caller slot of a
thread that waits for a reply. -/
theorem empties_of_tcb_cancel_ipc {s s' : KernelState} {t : Nat} (h : tcb_t.cancel_ipc s t = some s') :
    empties s.ctes s'.ctes := by
  unfold tcb_t.cancel_ipc at h
  dsimp only at h
  -- blocked on a send or a receive, on a notification, on a reply, or on nothing
  split at h
  · split at h
    · cases h
    · cases h
      exact .of_eq (by simp [endpoint.cancel_ipc, ep_dequeue_at_ctes])
  · split at h
    · cases h
    · cases h
      exact .of_eq (by simp [endpoint.cancel_ipc, ep_dequeue_at_ctes])
  · cases h
    exact .of_eq (by simp [notification.cancel_signal, ntfn_dequeue_at_ctes])
  · split at h
    · simpa using empties_of_delete_one ‹_› h
    · cases h
      exact .refl
  · cases h
    exact .refl

/-! ## Every operation keeps the slots well formed -/

section Keep

variable {s s' : KernelState} (hwf : cspace_wf s.ctes)
include hwf

/-- A call puts a reply cap into the receiver's caller slot, right below the
sender's master reply cap. -/
theorem setup_caller_cap_wf {receiver sender : Nat} {can_grant : Bool}
    (h : setup_caller_cap s receiver sender can_grant = some s') : cspace_wf s'.ctes := by
  unfold setup_caller_cap at h
  dsimp only at h
  split at h
  · rename_i hreply
    split at h
    · obtain ⟨ctes, hins, rfl⟩ := Option.map_eq_some_iff.1 h
      simp only [set_thread_state_ctes] at hins hreply
      exact hwf.of_cte_insert hins (tcb_cte_slot_ne_zero (by decide) _) (tcb_cte_slot_ne_zero (by decide) _)
        (by simp) (by simp [cap_of, hreply]) (by simp [cap.cnode_ptr])
    · cases h
  · cases h

theorem send_ipc_wf {ep src_thread badge : Nat} {blocking do_call can_grant can_grant_reply : Bool}
    (h : send_ipc s ep src_thread blocking do_call can_grant badge can_grant_reply = some s') :
    cspace_wf s'.ctes := by
  unfold send_ipc at h
  split at h
  case h_3 =>
    -- a receiver waits: it is woken, and a call also gives it a reply cap
    dsimp only at h
    split at h
    · cases h
    · split at h
      · split at h
        · exact setup_caller_cap_wf (by simpa [possible_switch_to_ctes, ep_dequeue_at_ctes] using hwf) h
        · cases h
          simpa [possible_switch_to_ctes, ep_dequeue_at_ctes] using hwf
      · cases h
        simpa [possible_switch_to_ctes, ep_dequeue_at_ctes] using hwf
  -- no receiver: the sender blocks, or gives up
  all_goals
    split at h
    · cases h
      simpa [ep_append_at, schedule_tcb_ctes] using hwf
    · cases h
      exact hwf

theorem receive_ipc_wf {ep thread : Nat} {is_blocking grant : Bool}
    (h : receive_ipc s ep thread is_blocking grant = some s') : cspace_wf s'.ctes := by
  have hc : (complete_signal s thread).2.ctes = s.ctes := by
    unfold complete_signal
    dsimp only
    split <;> rfl
  unfold receive_ipc at h
  dsimp only at h
  split at h
  · -- a pending signal is taken instead
    cases h
    simpa [hc] using hwf
  · split at h
    case h_3 =>
      -- a sender waits: it is woken, and a call gives the receiver a reply cap
      split at h
      · cases h
      · split at h
        · split at h
          · exact setup_caller_cap_wf (by simpa [ep_dequeue_at_ctes, hc] using hwf) h
          · cases h
            simpa [ep_dequeue_at_ctes, hc] using hwf
        · cases h
          simpa [possible_switch_to_ctes, ep_dequeue_at_ctes, hc] using hwf
    -- no sender: the receiver blocks, or gives up
    all_goals
      split at h
      · cases h
        simpa [ep_append_at, hc] using hwf
      · cases h
        simpa [set_register, hc] using hwf

theorem send_signal_wf {ntfn badge : Nat} (h : send_signal s ntfn badge = some s') :
    cspace_wf s'.ctes := by
  unfold send_signal at h
  split at h
  · -- idle: a bound thread waiting to receive is woken, its IPC cancelled
    dsimp only at h
    split at h
    · obtain ⟨s1, hc, rfl⟩ := Option.map_eq_some_iff.1 h
      simpa [possible_switch_to_ctes, set_register] using hwf.of_empties (empties_of_tcb_cancel_ipc hc)
    · cases h
      simpa [notification.active] using hwf
  · -- waiting: the first waiter is woken
    dsimp only at h
    split at h
    · cases h
    · cases h
      simpa [possible_switch_to_ctes, set_register, ntfn_dequeue_at_ctes] using hwf
  · cases h
    simpa using hwf

theorem receive_signal_wf {ntfn recv_thread : Nat} {is_blocking : Bool} :
    cspace_wf (receive_signal s ntfn recv_thread is_blocking).ctes := by
  unfold receive_signal
  split
  case h_3 => simpa [set_register] using hwf
  all_goals
    split
    · simpa [ntfn_append_at] using hwf
    · simpa [set_register] using hwf

/-- **Step lemma**: every IPC operation keeps the slots well formed. -/
theorem ipc_op.run_cspace_wf {fuel : Nat} {op : ipc_op} (hr : op.run fuel s = some s') :
    cspace_wf s'.ctes := by
  cases op <;> simp only [ipc_op.run, Option.some.injEq] at hr
  case send_ipc => exact send_ipc_wf hwf hr
  case receive_ipc => exact receive_ipc_wf hwf hr
  case cancel_ipc => exact hr ▸ by simpa [endpoint.cancel_ipc, ep_dequeue_at_ctes] using hwf
  case tcb_cancel_ipc => exact hwf.of_empties (empties_of_tcb_cancel_ipc hr)
  case cancel_all_ipc => exact cancel_all_ipc_ctes hr ▸ hwf
  case cancel_badged_sends => exact cancel_badged_sends_ctes hr ▸ hwf
  case send_signal => exact send_signal_wf hwf hr
  case receive_signal => exact hr ▸ receive_signal_wf hwf
  case cancel_signal => exact hr ▸ by simpa [notification.cancel_signal, ntfn_dequeue_at_ctes] using hwf
  case cacncel_all_signal => exact cacncel_all_signal_ctes hr ▸ hwf

end Keep

end Rel4Kernel
