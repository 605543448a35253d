/-
The IPC queue invariant along every run of the endpoint and notification
operations.

`QueueInvariant` states the invariant `ipc_inv` and the moves that keep it.
Here each operation of `endpoint.rs` and `notification.rs` is taken apart into
those moves: a thread is unlinked from a queue and held, then given a run
state that no queue reads and released; or a thread that waits on nothing is
held, given a blocked state and linked at the back of a queue. The
scheduler's writes in between touch no queue. The loops of `cancel_all_ipc`,
`cacncel_all_signal` and `cancel_badged_sends` go by `HeapList.walk_spec`,
with the threads not yet visited held.

`reorder_ep` exists in the MCS build only and is not part of the modelled
configuration.
-/
import Rel4Kernel.IPC.QueueInvariant

namespace Rel4Kernel

open HeapList Function ThreadState

/-! ## What the writes to one thread keep -/

section Threads

variable {s : KernelState} {t : Nat}

theorem set_thread_state_ipc_view_of_ne {a : Nat} (ha : a ≠ t) (st : ThreadState) :
    ((set_thread_state s t st).tcbs a).ipc_view = (s.tcbs a).ipc_view := by
  rw [set_thread_state, tcb_t.ipc_view_eq_of_dequeued ((sched_only_schedule_tcb _ t).tcbs a)]
  simp [set_tsType, ha]

theorem set_thread_state_blockingObject (st : ThreadState) (a : Nat) :
    ((set_thread_state s t st).tcbs a).tcbState.blockingObject =
      (s.tcbs a).tcbState.blockingObject := by
  rw [set_thread_state, tcb_t.blockingObject_eq_of_dequeued ((sched_only_schedule_tcb _ t).tcbs a)]
  by_cases ha : a = t
  · subst ha; simp [set_tsType]
  · simp [set_tsType, ha]

end Threads

/-! ## The empty state -/

/-- A state with every queue empty and no thread waiting has the invariant. -/
theorem ipc_inv_of_empty {s : KernelState}
    (heps : ∀ e, (s.eps e).state = .Idle ∧ (s.eps e).get_queue = ⟨0, 0⟩)
    (hntfns : ∀ n, (s.ntfns n).state ≠ .Waiting ∧ (s.ntfns n).get_queue = ⟨0, 0⟩)
    (ht : ∀ t, (s.tcbs t).tcbState.tsType.is_ipc_queued = false) : ipc_inv s := by
  refine ⟨fun _ => [], ⟨⟨fun o => ?_, fun o t _ => iff_of_false List.not_mem_nil (not_waits_on (ht t) o),
    fun _ h => absurd h List.not_mem_nil⟩, ⟨fun e => iff_of_true (heps e).1 rfl,
    fun _ _ h => absurd h List.not_mem_nil, fun n => iff_of_false (hntfns n).1 (by simp)⟩⟩⟩
  cases o with
  | ep e => unfold EpQueue; rw [KernelState.queue_of, (heps e).2]; exact Queue.empty
  | ntfn n => unfold EpQueue; rw [KernelState.queue_of, (hntfns n).2]; exact Queue.empty

theorem ipc_inv_init : ipc_inv ({} : KernelState) :=
  ipc_inv_of_empty (fun _ => ⟨rfl, rfl⟩) (fun _ => ⟨nofun, rfl⟩) (fun _ => rfl)

/-! ## Taking a thread off its queue -/

section Cancel

variable {s s' : KernelState} {t : Nat}

theorem ipc_inv_endpoint_cancel_ipc (h : ipc_inv s) {e : Nat} (hw : waits_on s (.ep e) t) :
    ipc_inv (endpoint.cancel_ipc s e t) := by
  obtain ⟨Q, hQ⟩ := h
  obtain ⟨l, r, hlr⟩ := List.append_of_mem ((hQ.mem (.ep e) t List.not_mem_nil).mpr hw)
  exact ⟨_, (hQ.unlink_ep hlr).release_as rfl⟩

theorem ipc_inv_cancel_signal (h : ipc_inv s) {n : Nat} (hw : waits_on s (.ntfn n) t) :
    ipc_inv (notification.cancel_signal s n t) := by
  obtain ⟨Q, hQ⟩ := h
  obtain ⟨l, r, hlr⟩ := List.append_of_mem ((hQ.mem (.ntfn n) t List.not_mem_nil).mpr hw)
  exact ⟨_, (hQ.unlink_ntfn hlr).release_as rfl⟩

theorem delete_one_tcbs {slot : Nat} (hr : delete_one s slot = some s') : s'.tcbs = s.tcbs := by
  unfold delete_one at hr
  split at hr <;> cases hr <;> rfl

theorem ipc_inv_delete_one (h : ipc_inv s) {slot : Nat} (hr : delete_one s slot = some s') :
    ipc_inv s' := by
  obtain ⟨Q, hQ⟩ := h
  unfold delete_one at hr
  split at hr
  · cases hr; exact ⟨Q, hQ⟩
  · cases hr; exact ⟨Q, hQ.with_ctes _⟩
  · cases hr

theorem ipc_inv_tcb_cancel_ipc (h : ipc_inv s) (hr : tcb_t.cancel_ipc s t = some s') :
    ipc_inv s' := by
  unfold tcb_t.cancel_ipc at hr
  split at hr
  case h_1 hst | h_2 hst =>
    dsimp only at hr
    split at hr
    · cases hr
    · cases hr
      simp only [tcb_t.get_state] at hst
      exact ipc_inv_endpoint_cancel_ipc h ⟨by simp [tcb_t.ipc_view, hst], rfl⟩
  case h_3 hst =>
    cases hr
    exact ipc_inv_cancel_signal h ⟨hst, rfl⟩
  case h_4 =>
    obtain ⟨Q, hQ⟩ := h
    -- the fault is no part of what the queues read
    have h1 : ipc_inv (s.modifyTcb t fun tcb => { tcb with tcbFault := .seL4_Fault_NullFault }) :=
      ⟨Q, hQ.modify_tcb (fun _ => rfl) rfl rfl⟩
    dsimp only at hr
    split at hr
    · exact ipc_inv_delete_one h1 hr
    · cases hr; exact h1
  case h_5 =>
    cases hr; exact h

/-- After `tcb_t::cancel_ipc` the thread waits on nothing. -/
theorem tcb_cancel_ipc_not_queued (hr : tcb_t.cancel_ipc s t = some s') :
    (s'.tcbs t).tcbState.tsType.is_ipc_queued = false := by
  unfold tcb_t.cancel_ipc at hr
  split at hr
  case h_1 | h_2 =>
    dsimp only at hr
    split at hr
    · cases hr
    · cases hr
      rw [endpoint.cancel_ipc, set_thread_state_tsType]; rfl
  case h_3 =>
    cases hr
    rw [notification.cancel_signal, set_thread_state_tsType]; rfl
  case h_4 hst =>
    dsimp only at hr
    have hts : ((s.modifyTcb t fun tcb => { tcb with tcbFault := .seL4_Fault_NullFault }).tcbs t).tcbState.tsType =
        ThreadStateBlockedOnReply := by
      simpa [tcb_t.get_state] using hst
    split at hr
    · rw [delete_one_tcbs hr, hts]; rfl
    · cases hr; rw [hts]; rfl
  case h_5 h1 h2 h3 h4 =>
    cases hr
    simp only [tcb_t.get_state] at h1 h2 h3 h4
    cases hts : (s.tcbs t).tcbState.tsType <;> simp_all [ThreadState.is_ipc_queued]

end Cancel

/-! ## Sending and receiving -/

section Transfer

variable {s s' : KernelState}

@[simp] theorem complete_signal_eps (t : Nat) : (complete_signal s t).2.eps = s.eps := by
  unfold complete_signal; dsimp only; split <;> rfl

@[simp] theorem complete_signal_tsType (t a : Nat) :
    ((complete_signal s t).2.tcbs a).tcbState.tsType = (s.tcbs a).tcbState.tsType := by
  unfold complete_signal; dsimp only; split
  · by_cases ha : a = t
    · subst ha; simp
    · simp [ha]
  · rfl

theorem ipc_inv_complete_signal (h : ipc_inv s) (t : Nat) : ipc_inv (complete_signal s t).2 := by
  obtain ⟨Q, hQ⟩ := h
  unfold complete_signal
  dsimp only
  split <;> dsimp only
  · next hc =>
    -- an active notification and an idle one both have an empty queue
    exact ⟨Q, (hQ.modify_tcb (fun _ => rfl) rfl rfl).modify_ntfn rfl (by simp [hc.2])⟩
  · exact ⟨Q, hQ⟩

/-- The held sender waits for the reply and is released. -/
theorem ipc_queues.release_setup_caller_cap {D : List Nat} {Q : ipc_obj → List Nat} {sender receiver : Nat}
    {can_grant : Bool} (h : ipc_queues (sender :: D) s Q)
    (hr : setup_caller_cap s receiver sender can_grant = some s') : ipc_queues D s' Q := by
  have h1 := h.release_as (show ThreadStateBlockedOnReply.is_ipc_queued = false from rfl)
  unfold setup_caller_cap at hr
  dsimp only at hr
  split at hr
  · split at hr
    · obtain ⟨ctes, -, rfl⟩ := Option.map_eq_some_iff.mp hr
      exact h1.with_ctes ctes
    · cases hr
  · cases hr

theorem ipc_inv_send_ipc (h : ipc_inv s) {ep src_thread : Nat} (hsrc0 : src_thread ≠ 0)
    (hsrc : (s.tcbs src_thread).tcbState.tsType.is_ipc_queued = false)
    {blocking do_call can_grant can_grant_reply : Bool} {badge : Nat}
    (hr : send_ipc s ep src_thread blocking do_call can_grant badge can_grant_reply = some s') :
    ipc_inv s' := by
  obtain ⟨Q, hQ⟩ := h
  have hoff := hQ.not_mem_of_not_queued hsrc
  unfold send_ipc at hr
  split at hr
  case h_1 hst | h_2 hst =>
    split at hr
    · -- blocking: the sender, held, is written and linked at the back
      cases hr
      refine ⟨_, ipc_queues.link_ep (Q := Q) ?_ hsrc0 List.not_mem_nil ?_ (.inl ⟨rfl, ?_, ?_⟩)⟩
      · exact ((hQ.hold hoff).modify_tcb (fun h => absurd List.mem_cons_self h) rfl rfl).of_sched_only
          (sched_only_schedule_tcb _ _)
      · refine (waits_on_congr (tcb_t.ipc_view_eq_of_dequeued ((sched_only_schedule_tcb _ _).tcbs _))
          _).mpr ?_
        simp [waits_on, ipc_obj.holds, tcb_t.ipc_view]
      · exact (tcb_t.tsType_eq_of_dequeued ((sched_only_schedule_tcb _ _).tcbs _)).trans (by simp)
      · rw [(sched_only_schedule_tcb _ _).eps]; simp [hst]
    · cases hr; exact ⟨Q, hQ⟩
  case h_3 hst =>
    dsimp only at hr
    split at hr
    · cases hr
    · -- a receiver waits: the head of the queue is taken off and runs
      next hd =>
      obtain ⟨r, hr'⟩ : ∃ r, Q (.ep ep) = (s.eps ep).get_queue.head :: r := hQ.eq_head_cons hd
      have h1 := hQ.unlink_ep (l := []) hr'
      have h2 := (h1.release_as (show ThreadStateRunning.is_ipc_queued = false from rfl)).of_sched_only
        (sched_only_possible_switch_to _ (s.eps ep).get_queue.head)
      -- the sender was on no queue, and still is on none
      have hoff2 := not_mem_update_of_subset hoff (fun a ha => hr' ▸ List.mem_cons_of_mem _ ha)
      split at hr
      · split at hr
        · exact ⟨_, (h2.hold hoff2).release_setup_caller_cap hr⟩
        · cases hr; exact ⟨_, (h2.hold hoff2).release_as rfl⟩
      · cases hr; exact ⟨_, h2⟩

theorem ipc_inv_receive_ipc (h : ipc_inv s) {ep thread : Nat} (ht0 : thread ≠ 0)
    (hth : (s.tcbs thread).tcbState.tsType.is_ipc_queued = false) {is_blocking grant : Bool}
    (hr : receive_ipc s ep thread is_blocking grant = some s') : ipc_inv s' := by
  unfold receive_ipc at hr
  dsimp only at hr
  split at hr
  · cases hr; exact ipc_inv_complete_signal h thread
  -- no signal was pending; the signal side has been written all the same
  obtain ⟨Q, hQ⟩ := ipc_inv_complete_signal h thread
  have hth1 : ((complete_signal s thread).2.tcbs thread).tcbState.tsType.is_ipc_queued = false := by
    rw [complete_signal_tsType]; exact hth
  have heps := complete_signal_eps (s := s) thread
  generalize (complete_signal s thread).2 = s1 at hQ hth1 heps hr
  split at hr
  case h_1 hst | h_2 hst =>
    split at hr
    · -- blocking: the receiver, held, is written and linked at the back
      cases hr
      refine ⟨_, ipc_queues.link_ep (Q := Q) ?_ ht0 List.not_mem_nil ?_ (.inr ⟨rfl, ?_, ?_⟩)⟩
      · exact ((hQ.hold_idle hth1).modify_tcb (fun h => absurd List.mem_cons_self h) rfl rfl
          ).set_thread_state_of_held List.mem_cons_self _
      · exact ⟨.inr (set_thread_state_tsType _ _ _), (set_thread_state_blockingObject _ _).trans
          (by simp)⟩
      · exact set_thread_state_tsType _ _ _
      · simp [hst]
    · cases hr; exact ⟨Q, hQ.modify_tcb (fun _ => rfl) rfl rfl⟩
  case h_3 hst =>
    split at hr
    · cases hr
    · -- a sender waits: the head of the queue is taken off
      next hne =>
      have hd : (s1.eps ep).get_queue.head ≠ 0 := by simpa [tcb_queue_t.empty] using hne
      obtain ⟨r, hr'⟩ : ∃ r, Q (.ep ep) = (s1.eps ep).get_queue.head :: r := hQ.eq_head_cons hd
      have h1 := hQ.unlink_ep (l := []) hr'
      split at hr
      · split at hr
        · exact ⟨_, h1.release_setup_caller_cap hr⟩
        · cases hr; exact ⟨_, h1.release_as rfl⟩
      · cases hr
        exact ⟨_, (h1.release_as rfl).of_sched_only (sched_only_possible_switch_to _ _)⟩

end Transfer

/-! ## Signals -/

section Signal

variable {s s' : KernelState}

theorem ipc_inv_send_signal (h : ipc_inv s) {ntfn badge : Nat}
    (hr : send_signal s ntfn badge = some s') : ipc_inv s' := by
  unfold send_signal at hr
  split at hr
  case h_1 hst =>
    dsimp only at hr
    split at hr
    · -- the bound thread waits to receive: its receive is cancelled, and it runs
      obtain ⟨s1, hs1, rfl⟩ := Option.map_eq_some_iff.mp hr
      obtain ⟨Q, hQ⟩ := ipc_inv_tcb_cancel_ipc h hs1
      have h2 := hQ.set_thread_state_of_not_queued (tcb_cancel_ipc_not_queued hs1)
        (show ThreadStateRunning.is_ipc_queued = false from rfl)
      exact ⟨Q, (h2.modify_tcb (fun _ => rfl) rfl rfl).of_sched_only
        (sched_only_possible_switch_to _ _)⟩
    · -- an idle notification becomes active; its queue stays empty
      cases hr
      obtain ⟨Q, hQ⟩ := h
      exact ⟨Q, hQ.modify_ntfn rfl (by simp [hst])⟩
  case h_2 hst =>
    dsimp only at hr
    split at hr
    · cases hr
    · next hd =>
      obtain ⟨Q, hQ⟩ := h
      obtain ⟨r, hr'⟩ : ∃ r, Q (.ntfn ntfn) = (s.ntfns ntfn).get_queue.head :: r := hQ.eq_head_cons hd
      cases hr
      exact ⟨_, (((hQ.unlink_ntfn (l := []) hr').release_as rfl).modify_tcb (fun _ => rfl) rfl rfl
        ).of_sched_only (sched_only_possible_switch_to _ _)⟩
  case h_3 hst =>
    cases hr
    obtain ⟨Q, hQ⟩ := h
    exact ⟨Q, hQ.modify_ntfn rfl Iff.rfl⟩

theorem ipc_inv_receive_signal (h : ipc_inv s) {ntfn recv_thread : Nat} (ht0 : recv_thread ≠ 0)
    (ht : (s.tcbs recv_thread).tcbState.tsType.is_ipc_queued = false) (is_blocking : Bool) :
    ipc_inv (receive_signal s ntfn recv_thread is_blocking) := by
  obtain ⟨Q, hQ⟩ := h
  unfold receive_signal
  split
  case h_1 | h_2 =>
    split
    · -- blocking: the receiver, held, is written and linked at the back
      refine ⟨_, ipc_queues.link_ntfn (Q := Q) ?_ ht0 List.not_mem_nil ?_⟩
      · exact ((hQ.hold_idle ht).modify_tcb (fun h => absurd List.mem_cons_self h) rfl rfl
          ).set_thread_state_of_held List.mem_cons_self _
      · exact ⟨set_thread_state_tsType _ _ _, (set_thread_state_blockingObject _ _).trans (by simp)⟩
    · exact ⟨Q, hQ.modify_tcb (fun _ => rfl) rfl rfl⟩
  case h_3 hst =>
    exact ⟨Q, (hQ.modify_tcb (fun _ => rfl) rfl rfl).modify_ntfn rfl (by simp [hst])⟩

/-- A thread waiting to receive waits on a queue that is not idle, so
`tcb_t::cancel_ipc` passes its `assert_ne!`. -/
theorem tcb_cancel_ipc_of_receive (h : ipc_inv s) {t : Nat}
    (hst : (s.tcbs t).get_state = ThreadStateBlockedOnReceive) :
    tcb_t.cancel_ipc s t = some (endpoint.cancel_ipc s (s.tcbs t).tcbState.blockingObject t) := by
  obtain ⟨Q, hQ⟩ := h
  have hw : waits_on s (.ep (s.tcbs t).tcbState.blockingObject) t := ⟨.inr hst, rfl⟩
  have hne : Q (.ep (s.tcbs t).tcbState.blockingObject) ≠ [] :=
    List.ne_nil_of_mem ((hQ.mem _ t List.not_mem_nil).mpr hw)
  unfold tcb_t.cancel_ipc
  rw [hst]
  dsimp only
  rw [if_neg (mt (hQ.ep_idle _).mp hne)]

/-- **`send_signal` does not panic** on a state with the invariant: a waiting
notification has a thread at the head of its queue, and the bound thread that
waits to receive waits on an endpoint that is not idle. -/
theorem send_signal_some (h : ipc_inv s) (ntfn badge : Nat) :
    ∃ s', send_signal s ntfn badge = some s' := by
  unfold send_signal
  split
  case h_1 =>
    dsimp only
    split
    · next hc => rw [tcb_cancel_ipc_of_receive h hc.2]; exact ⟨_, rfl⟩
    · exact ⟨_, rfl⟩
  case h_2 hst =>
    obtain ⟨Q, hQ⟩ := h
    have hd : (s.ntfns ntfn).get_queue.head ≠ 0 := (hQ.ntfn_waiting_iff_head ntfn).mp hst
    dsimp only
    rw [if_neg hd]
    exact ⟨_, rfl⟩
  case h_3 => exact ⟨_, rfl⟩

theorem send_signal_some_to_waiter :
    ∃ s', send_signal (receive_signal {} 0x3000 0x2000 true) 0x3000 5 = some s' :=
  send_signal_some (ipc_inv_receive_signal ipc_inv_init (by decide) rfl true) 0x3000 5

end Signal

/-! ## Emptying a queue -/

section CancelAll

variable {s s' : KernelState} {Q : ipc_obj → List Nat}

/-- One turn of the loop writes no EP link. -/
theorem cancel_all_step_epNext (s : KernelState) (a : Nat) :
    epNext (cancel_all_step s a).1.tcbs = epNext s.tcbs :=
  (sched_only_sched_enqueue _ a).epNext_eq.trans (set_thread_state_epNext s a _)

theorem cancel_all_step_epPrev (s : KernelState) (a : Nat) :
    epPrev (cancel_all_step s a).1.tcbs = epPrev s.tcbs :=
  (sched_only_sched_enqueue _ a).epPrev_eq.trans (set_thread_state_epPrev s a _)

theorem cancel_all_step_ipc_view_of_ne {a b : Nat} (hb : b ≠ a) :
    ((cancel_all_step s a).1.tcbs b).ipc_view = (s.tcbs b).ipc_view :=
  (tcb_t.ipc_view_eq_of_dequeued ((sched_only_sched_enqueue _ a).tcbs b)).trans
    (set_thread_state_ipc_view_of_ne hb _)

/-- What the loop of `cancel_all_ipc` and `cacncel_all_signal` keeps, with
`ys` the threads still to visit: they are held, and linked in order. -/
def cancel_all_inv (Q : ipc_obj → List Nat) (s : KernelState) (ys : List Nat) : Prop :=
  ipc_queues ys s Q ∧ ∃ p, Seg (epNext s.tcbs) (epPrev s.tcbs) p ys 0

/-- **One turn** restarts the first held thread and moves to its successor. -/
theorem cancel_all_step_spec (s : KernelState) (a : Nat) (ys : List Nat)
    (h : cancel_all_inv Q s (a :: ys)) :
    (cancel_all_step s a).2 = ys.head?.getD 0 ∧ cancel_all_inv Q (cancel_all_step s a).1 ys := by
  obtain ⟨hQ, p, hseg⟩ := h
  obtain ⟨-, hnext, hseg'⟩ := (seg_cons _ _ p a 0 ys).mp hseg
  refine ⟨?_, (hQ.release_as rfl).of_sched_only (sched_only_sched_enqueue _ a), a, ?_⟩
  · show epNext (cancel_all_step s a).1.tcbs a = _
    rw [cancel_all_step_epNext]; exact hnext
  · rw [cancel_all_step_epNext, cancel_all_step_epPrev]; exact hseg'

/-- **The loop** over the held threads of a detached queue releases them all. -/
theorem cancel_all_walk {xs : List Nat} (h : cancel_all_inv Q s xs) (hnil : 0 ∉ xs) {fuel : Nat}
    (hw : walk 0 cancel_all_step fuel s (xs.head?.getD 0) = some s') : ipc_queues [] s' Q :=
  (walk_spec (cancel_all_inv Q) cancel_all_step_spec hnil h hw).1

/-- `cancel_all_ipc` starts its loop from the detached queue of `ep`, whose
members it holds. -/
theorem cancel_all_inv_detach_ep (hQ : ipc_queues [] s Q) (ep : Nat) :
    cancel_all_inv (update Q (.ep ep) [])
      (s.modifyEp ep fun e => { e with state := .Idle, epQueue_head := 0, epQueue_tail := 0 })
      (Q (.ep ep)) :=
  ⟨(hQ.detach_ep ep).congr_D (by simp), 0, (hQ.queue (.ep ep)).seg⟩

theorem cancel_all_inv_detach_ntfn (hQ : ipc_queues [] s Q) (ntfn : Nat) :
    cancel_all_inv (update Q (.ntfn ntfn) [])
      (s.modifyNtfn ntfn fun n =>
        { n with state := .Idle, ntfnQueue_head := 0, ntfnQueue_tail := 0 })
      (Q (.ntfn ntfn)) :=
  ⟨(hQ.detach_ntfn ntfn).congr_D (by simp), 0, (hQ.queue (.ntfn ntfn)).seg⟩

theorem ipc_inv_cancel_all_ipc (h : ipc_inv s) {fuel ep : Nat}
    (hr : cancel_all_ipc fuel s ep = some s') : ipc_inv s' := by
  obtain ⟨Q, hQ⟩ := h
  unfold cancel_all_ipc at hr
  split at hr
  · cases hr; exact ⟨Q, hQ⟩
  · dsimp only at hr
    obtain ⟨s2, hw, rfl⟩ := Option.map_eq_some_iff.mp hr
    have hq := hQ.queue (.ep ep)
    -- the loop starts at the head of the queue it detached
    rw [show (s.eps ep).epQueue_head = (Q (.ep ep)).head?.getD 0 from hq.head_eq] at hw
    exact ⟨_, (cancel_all_walk (cancel_all_inv_detach_ep hQ ep) hq.nil_not_mem hw).of_sched_only
      (sched_only_reschedule_required _)⟩

/-- **`cancel_all_ipc` restarts the queue in order, one turn a thread.** The
queue of `ep` is the list `xs` of threads linked from its head; with fuel for
as many turns as `xs` has threads the loop restarts them in that order and
`cancel_all_ipc` returns, and with less it runs out. -/
theorem cancel_all_ipc_some (h : ipc_inv s) (ep : Nat) :
    ∃ xs : List Nat, EpQueue s.tcbs (s.eps ep).get_queue xs ∧ ∀ fuel,
      cancel_all_ipc fuel s ep =
        if xs.length ≤ fuel then
          some (if (s.eps ep).state = .Idle then s
            else reschedule_required (xs.foldl (fun s t => (cancel_all_step s t).1)
              (s.modifyEp ep fun e => { e with state := .Idle, epQueue_head := 0, epQueue_tail := 0 })))
        else none := by
  obtain ⟨Q, hQ⟩ := h
  have hq := hQ.queue (.ep ep)
  refine ⟨Q (.ep ep), hq, fun fuel => ?_⟩
  unfold cancel_all_ipc
  split
  · next hidle =>
    -- an idle endpoint has no queue to walk
    rw [(hQ.ep_idle ep).mp hidle]
    simp [hidle]
  · next hidle =>
    dsimp only
    rw [show (s.eps ep).epQueue_head = (Q (.ep ep)).head?.getD 0 from hq.head_eq,
      walk_eq_foldl (cancel_all_inv _) cancel_all_step_spec hq.nil_not_mem fuel (cancel_all_inv_detach_ep hQ ep)]
    split <;> simp [hidle]

/-- A loop that returns exactly when its fuel covers `xs` has `n + 1`
members when `n` turns run out and `n + 1` do not. -/
theorem length_eq_of_fuel {β : Type} {xs : List Nat} {run : Nat → Option β} {r : β}
    (hrun : ∀ fuel, run fuel = if xs.length ≤ fuel then some r else none) {n : Nat}
    (hnone : (run n).isNone = true) (hsome : (run (n + 1)).isSome = true) : xs.length = n + 1 := by
  have hlt : ¬ xs.length ≤ n := fun hle => by simp [hrun n, hle] at hnone
  have hle : xs.length ≤ n + 1 := by
    by_contra hgt
    simp [hrun (n + 1), hgt] at hsome
  omega

/-- Two threads that wait to receive on the endpoint at `0x10`, one after
the other. -/
def two_receivers : KernelState :=
  (receive_ipc ((receive_ipc {} 0x10 0x2000 true false).getD {}) 0x10 0x3000 true false).getD {}

theorem cancel_all_ipc_two_receivers :
    ∃ xs : List Nat, EpQueue two_receivers.tcbs (two_receivers.eps 0x10).get_queue xs ∧ xs.length = 2 := by
  have h1 : ipc_inv ((receive_ipc {} 0x10 0x2000 true false).getD {}) :=
    ipc_inv_receive_ipc ipc_inv_init (by decide) rfl (show receive_ipc {} 0x10 0x2000 true false = some _ from rfl)
  have h2 : ipc_inv two_receivers :=
    ipc_inv_receive_ipc h1 (by decide) rfl
      (show receive_ipc ((receive_ipc {} 0x10 0x2000 true false).getD {}) 0x10 0x3000 true false = some _ from rfl)
  obtain ⟨xs, hq, hrun⟩ := cancel_all_ipc_some h2 0x10
  -- one turn is not enough, two are
  exact ⟨xs, hq, length_eq_of_fuel hrun (by decide) (by decide)⟩

theorem ipc_inv_cacncel_all_signal (h : ipc_inv s) {fuel ntfn : Nat}
    (hr : cacncel_all_signal fuel s ntfn = some s') : ipc_inv s' := by
  obtain ⟨Q, hQ⟩ := h
  unfold cacncel_all_signal at hr
  split at hr
  · dsimp only at hr
    obtain ⟨s2, hw, rfl⟩ := Option.map_eq_some_iff.mp hr
    have hq := hQ.queue (.ntfn ntfn)
    rw [show (s.ntfns ntfn).ntfnQueue_head = (Q (.ntfn ntfn)).head?.getD 0 from hq.head_eq] at hw
    exact ⟨_, (cancel_all_walk (cancel_all_inv_detach_ntfn hQ ntfn) hq.nil_not_mem hw).of_sched_only
      (sched_only_reschedule_required _)⟩
  · cases hr; exact ⟨Q, hQ⟩

/-- **`cacncel_all_signal` restarts the waiters in order, one turn a
thread.** The queue of `ntfn` is the list `xs` of threads linked from its
head; with fuel for as many turns as `xs` has threads the loop restarts them
in that order and `cacncel_all_signal` returns, and with less it runs out. -/
theorem cacncel_all_signal_some (h : ipc_inv s) (ntfn : Nat) :
    ∃ xs : List Nat, EpQueue s.tcbs (s.ntfns ntfn).get_queue xs ∧ ∀ fuel,
      cacncel_all_signal fuel s ntfn =
        if xs.length ≤ fuel then
          some (if (s.ntfns ntfn).state = .Waiting then
            reschedule_required (xs.foldl (fun s t => (cancel_all_step s t).1)
              (s.modifyNtfn ntfn fun n => { n with state := .Idle, ntfnQueue_head := 0, ntfnQueue_tail := 0 }))
            else s)
        else none := by
  obtain ⟨Q, hQ⟩ := h
  have hq := hQ.queue (.ntfn ntfn)
  refine ⟨Q (.ntfn ntfn), hq, fun fuel => ?_⟩
  unfold cacncel_all_signal
  split
  · next hw =>
    dsimp only
    rw [show (s.ntfns ntfn).ntfnQueue_head = (Q (.ntfn ntfn)).head?.getD 0 from hq.head_eq,
      walk_eq_foldl (cancel_all_inv _) cancel_all_step_spec hq.nil_not_mem fuel
        (cancel_all_inv_detach_ntfn hQ ntfn)]
    split <;> simp [hw]
  · next hw =>
    -- a notification that is not waiting has no queue to walk
    rw [not_not.mp (mt (hQ.ntfn_waiting ntfn).mpr hw)]
    simp [hw]

/-- Two threads that wait on the notification at `0x3000`, one after the
other. -/
def two_waiters : KernelState :=
  receive_signal (receive_signal {} 0x3000 0x2000 true) 0x3000 0x4000 true

theorem cacncel_all_signal_two_waiters :
    ∃ xs : List Nat, EpQueue two_waiters.tcbs (two_waiters.ntfns 0x3000).get_queue xs ∧ xs.length = 2 := by
  have h2 : ipc_inv two_waiters :=
    ipc_inv_receive_signal (ipc_inv_receive_signal ipc_inv_init (by decide) rfl true) (by decide) rfl true
  obtain ⟨xs, hq, hrun⟩ := cacncel_all_signal_some h2 0x3000
  -- one turn is not enough, two are
  exact ⟨xs, hq, length_eq_of_fuel hrun (by decide) (by decide)⟩

end CancelAll

/-! ## Restarting the senders with one badge -/

section Badged

variable {s s' : KernelState} {Q : ipc_obj → List Nat} {ep badge : Nat}

/-- What the loop of `cancel_badged_sends` keeps, with `ys` the senders still
to visit: the senders kept so far and those still to visit are held, form the
detached queue, and wait to send on `ep`, which stays idle. -/
def badged_inv (Q : ipc_obj → List Nat) (ep : Nat) (sq : KernelState × tcb_queue_t)
    (ys : List Nat) : Prop :=
  ∃ kept, ipc_queues (kept ++ ys) sq.1 Q ∧ EpQueue sq.1.tcbs sq.2 (kept ++ ys) ∧
    (∀ b ∈ kept ++ ys, waits_on sq.1 (.ep ep) b ∧
      (sq.1.tcbs b).tcbState.tsType = ThreadStateBlockedOnSend) ∧
    (sq.1.eps ep).state = .Idle

/-- A sender with the badge is restarted and unlinked from the detached queue;
the others are kept. -/
theorem cancel_badged_sends_step_spec (sq : KernelState × tcb_queue_t) (a : Nat) (ys : List Nat)
    (h : badged_inv Q ep sq (a :: ys)) :
    (cancel_badged_sends_step badge sq a).2 = ys.head?.getD 0 ∧
      badged_inv Q ep (cancel_badged_sends_step badge sq a).1 ys := by
  obtain ⟨s, q⟩ := sq
  obtain ⟨kept, hQ, hq, hw, hidle⟩ := h
  have hnext : (s.tcbs a).tcbEPNext = ys.head?.getD 0 := (Queue.links_of_split hq).2
  -- restarting the sender writes no EP link
  have hq3 : EpQueue (cancel_all_step s a).1.tcbs q (kept ++ a :: ys) := by
    unfold EpQueue; rw [cancel_all_step_epNext, cancel_all_step_epPrev]; exact hq
  by_cases hbadge : (s.tcbs a).tcbState.blockingIPCBadge = badge
  · rw [cancel_badged_sends_step_of_eq badge s q hbadge]
    refine ⟨hnext, kept, ?_, tcb_queue_t.ep_dequeue_queue hq3, fun b hb => ?_, ?_⟩
    · -- the sender leaves the held list; the surgery writes the links of held threads only
      have hQ' : ipc_queues (a :: (kept ++ ys)) s Q := hQ.congr_D fun t => by simp [or_left_comm]
      have h3 : ipc_queues (kept ++ ys) (cancel_all_step s a).1 Q :=
        (hQ'.release_as rfl).of_sched_only (sched_only_sched_enqueue _ a)
      refine h3.frame (fun b _ => ?_) (fun o b hb => ?_) (fun o b hb => ?_) rfl rfl
      · simp only [tcb_t.ipc_view, tcb_queue_t.ep_dequeue_tcbState]
      · exact (tcb_queue_t.ep_dequeue_links_of_not_mem hq3 (h3.detached b · o hb)).1
      · exact (tcb_queue_t.ep_dequeue_links_of_not_mem hq3 (h3.detached b · o hb)).2
    · -- the others keep what the queues read of them
      have hba : b ≠ a := fun e => (List.nodup_middle.mp hq.nodup).notMem (e ▸ hb)
      have hv : ((q.ep_dequeue (cancel_all_step s a).1.tcbs a).2 b).ipc_view = (s.tcbs b).ipc_view := by
        rw [← cancel_all_step_ipc_view_of_ne hba]
        simp only [tcb_t.ipc_view, tcb_queue_t.ep_dequeue_tcbState]
      have hb' := hw b (((List.sublist_cons_self a ys).append_left kept).subset hb)
      refine ⟨(waits_on_congr ?_ _).mpr hb'.1, ?_⟩
      · exact hv
      · exact (congrArg Prod.fst hv).trans hb'.2
    · show ((cancel_all_step s a).1.eps ep).state = .Idle
      simpa [cancel_all_step, (sched_only_sched_enqueue _ a).eps] using hidle
  · rw [cancel_badged_sends_step_of_ne badge s q hbadge]
    exact ⟨hnext, kept ++ [a], by simpa using hQ, by simpa using hq, by simpa using hw, hidle⟩

theorem badged_walk {sq sq' : KernelState × tcb_queue_t} {xs : List Nat} (h : badged_inv Q ep sq xs)
    (hnil : 0 ∉ xs) {fuel : Nat}
    (hw : walk 0 (cancel_badged_sends_step badge) fuel sq (xs.head?.getD 0) = some sq') :
    badged_inv Q ep sq' [] :=
  walk_spec (badged_inv Q ep) cancel_badged_sends_step_spec hnil h hw

/-- The loop starts from the detached queue of a sending endpoint, all of whose
members are held. -/
theorem badged_inv_detach (hQ : ipc_queues [] s Q) (hst : (s.eps ep).state = .Send) :
    badged_inv (update Q (.ep ep) []) ep
      (s.modifyEp ep fun e => { e with state := .Idle, epQueue_head := 0, epQueue_tail := 0 },
        (s.eps ep).get_queue) (Q (.ep ep)) := by
  refine ⟨[], (hQ.detach_ep ep).congr_D (by simp), hQ.queue (.ep ep), fun b hb => ?_, by simp⟩
  have hsend := (hQ.ep_members ep b hb).resolve_right fun hr => by simp [hst] at hr
  exact ⟨(hQ.mem _ b List.not_mem_nil).mp hb, hsend.2⟩

theorem ipc_inv_cancel_badged_sends (h : ipc_inv s) {fuel : Nat}
    (hr : cancel_badged_sends fuel s ep badge = some s') : ipc_inv s' := by
  obtain ⟨Q, hQ⟩ := h
  unfold cancel_badged_sends at hr
  split at hr
  case h_1 | h_2 => cases hr; exact ⟨Q, hQ⟩
  case h_3 hst =>
    dsimp only at hr
    obtain ⟨⟨s2, q2⟩, hw, rfl⟩ := Option.map_eq_some_iff.mp hr
    have hq := hQ.queue (.ep ep)
    rw [show (s.eps ep).get_queue.head = (Q (.ep ep)).head?.getD 0 from hq.head_eq] at hw
    obtain ⟨kept, hk, hkq, hkw, hidle⟩ := badged_walk (badged_inv_detach hQ hst) hq.nil_not_mem hw
    simp only [List.append_nil] at hk hkq hkw
    dsimp only at hidle
    -- the kept senders become the queue again, and the endpoint sends when there are any
    refine ⟨update (update Q (.ep ep) []) (.ep ep) kept,
      ipc_queues.of_sched_only ?_ (sched_only_reschedule_required _)⟩
    dsimp only
    have hne : q2.head ≠ 0 ↔ kept ≠ [] := not_congr hkq.eq_nil_iff
    split
    · next hh =>
      exact ipc_queues.attach_ep hk (update_self _ _ _) hkw rfl (fun p hp => by simp [hp]) rfl
        (by simpa [endpoint.get_queue, endpoint.set_queue] using hkq) (by simp [hne.mp hh])
    · next hh =>
      exact ipc_queues.attach_ep hk (update_self _ _ _) hkw rfl (fun p hp => by simp [hp]) rfl
        (by simpa using hkq) (by simp [not_not.mp (mt hne.mpr hh), hidle])

/-- **`cancel_badged_sends` visits the senders in order, one turn a
thread.** The queue of `ep` is the list `xs` of threads linked from its
head. On a sending endpoint the loop, which reads each sender's successor
before it unlinks the sender, is the fold of one turn over `xs` in order
when the fuel covers `xs`, and runs out when it does not; so
`cancel_badged_sends` returns exactly when the endpoint does not send or the
fuel covers its queue. -/
theorem cancel_badged_sends_some (h : ipc_inv s) (ep badge : Nat) :
    ∃ xs : List Nat, EpQueue s.tcbs (s.eps ep).get_queue xs ∧
      ((s.eps ep).state = .Send → ∀ fuel,
        walk 0 (cancel_badged_sends_step badge) fuel
            (s.modifyEp ep fun e => { e with state := .Idle, epQueue_head := 0, epQueue_tail := 0 },
              (s.eps ep).get_queue) (s.eps ep).get_queue.head =
          if xs.length ≤ fuel then
            some (xs.foldl (fun sq t => (cancel_badged_sends_step badge sq t).1)
              (s.modifyEp ep fun e => { e with state := .Idle, epQueue_head := 0, epQueue_tail := 0 },
                (s.eps ep).get_queue))
          else none) ∧
      ∀ fuel, (∃ s', cancel_badged_sends fuel s ep badge = some s') ↔
        ((s.eps ep).state = .Send → xs.length ≤ fuel) := by
  obtain ⟨Q, hQ⟩ := h
  have hq := hQ.queue (.ep ep)
  have hwalk : (s.eps ep).state = .Send → ∀ fuel,
      walk 0 (cancel_badged_sends_step badge) fuel
          (s.modifyEp ep fun e => { e with state := .Idle, epQueue_head := 0, epQueue_tail := 0 },
            (s.eps ep).get_queue) (s.eps ep).get_queue.head =
        if (Q (.ep ep)).length ≤ fuel then
          some ((Q (.ep ep)).foldl (fun sq t => (cancel_badged_sends_step badge sq t).1)
            (s.modifyEp ep fun e => { e with state := .Idle, epQueue_head := 0, epQueue_tail := 0 },
              (s.eps ep).get_queue))
        else none := by
    intro hst fuel
    rw [show (s.eps ep).get_queue.head = (Q (.ep ep)).head?.getD 0 from hq.head_eq]
    exact walk_eq_foldl (badged_inv _ ep) cancel_badged_sends_step_spec hq.nil_not_mem fuel
      (badged_inv_detach hQ hst)
  refine ⟨Q (.ep ep), hq, hwalk, fun fuel => ?_⟩
  unfold cancel_badged_sends
  split
  case h_1 hst | h_2 hst => simp [hst]
  case h_3 hst =>
    dsimp only
    rw [hwalk hst fuel]
    split <;> simp [hst, *]

/-- Two threads that wait to send on the endpoint at `0x10`, with badges 7
and 9. -/
def two_senders : KernelState :=
  (send_ipc ((send_ipc {} 0x10 0x2000 true false false 7 false).getD {}) 0x10 0x3000 true false false 9
    false).getD {}

theorem cancel_badged_sends_two_senders :
    ∃ xs : List Nat, EpQueue two_senders.tcbs (two_senders.eps 0x10).get_queue xs ∧ xs.length = 2 := by
  have h1 : ipc_inv ((send_ipc {} 0x10 0x2000 true false false 7 false).getD {}) :=
    ipc_inv_send_ipc ipc_inv_init (by decide) rfl
      (show send_ipc {} 0x10 0x2000 true false false 7 false = some _ from rfl)
  have h2 : ipc_inv two_senders :=
    ipc_inv_send_ipc h1 (by decide) rfl
      (show send_ipc ((send_ipc {} 0x10 0x2000 true false false 7 false).getD {}) 0x10 0x3000 true false false 9
        false = some _ from rfl)
  obtain ⟨xs, hq, -, hrun⟩ := cancel_badged_sends_some h2 0x10 7
  have hsend : (two_senders.eps 0x10).state = .Send := by decide
  -- one turn is not enough, two are
  have hlt : ¬ xs.length ≤ 1 := fun hle => by
    obtain ⟨s', hs'⟩ := (hrun 1).mpr fun _ => hle
    have hnone : (cancel_badged_sends 1 two_senders 0x10 7).isNone = true := by decide
    simp [hs'] at hnone
  have hle : xs.length ≤ 2 := (hrun 2).mp (Option.isSome_iff_exists.mp (by decide)) hsend
  exact ⟨xs, hq, by omega⟩

end Badged

/-! ## Every run of the operations -/

/-- The operations of `endpoint.rs` and `notification.rs` on the queues, with
their arguments. -/
inductive ipc_op where
  | send_ipc (ep src_thread : Nat) (blocking do_call can_grant : Bool) (badge : Nat)
      (can_grant_reply : Bool)
  | receive_ipc (ep thread : Nat) (is_blocking grant : Bool)
  | cancel_ipc (ep tcb : Nat)
  | tcb_cancel_ipc (t : Nat)
  | cancel_all_ipc (ep : Nat)
  | cancel_badged_sends (ep badge : Nat)
  | send_signal (ntfn badge : Nat)
  | receive_signal (ntfn recv_thread : Nat) (is_blocking : Bool)
  | cancel_signal (ntfn tcb : Nat)
  | cacncel_all_signal (ntfn : Nat)
  deriving DecidableEq, Repr

namespace ipc_op

/-- The operation on a state; a loop over a queue runs at most `fuel` turns. -/
def run (fuel : Nat) : ipc_op → KernelState → Option KernelState
  | .send_ipc ep src blocking do_call can_grant badge can_grant_reply, s =>
    Rel4Kernel.send_ipc s ep src blocking do_call can_grant badge can_grant_reply
  | .receive_ipc ep thread is_blocking grant, s => Rel4Kernel.receive_ipc s ep thread is_blocking grant
  | .cancel_ipc ep tcb, s => some (endpoint.cancel_ipc s ep tcb)
  | .tcb_cancel_ipc t, s => tcb_t.cancel_ipc s t
  | .cancel_all_ipc ep, s => Rel4Kernel.cancel_all_ipc fuel s ep
  | .cancel_badged_sends ep badge, s => Rel4Kernel.cancel_badged_sends fuel s ep badge
  | .send_signal ntfn badge, s => Rel4Kernel.send_signal s ntfn badge
  | .receive_signal ntfn t is_blocking, s => some (Rel4Kernel.receive_signal s ntfn t is_blocking)
  | .cancel_signal ntfn tcb, s => some (notification.cancel_signal s ntfn tcb)
  | .cacncel_all_signal ntfn, s => Rel4Kernel.cacncel_all_signal fuel s ntfn

/-- What the callers establish: a thread that sends or receives is not null
and waits on nothing, as the current thread does; a thread is cancelled from
the object it waits on, as `tcb_t::cancel_ipc` finds it. -/
def pre (s : KernelState) : ipc_op → Bool
  | .send_ipc _ src .. => src != 0 && !(s.tcbs src).tcbState.tsType.is_ipc_queued
  | .receive_ipc _ thread .. => thread != 0 && !(s.tcbs thread).tcbState.tsType.is_ipc_queued
  | .cancel_ipc ep tcb => decide (waits_on s (.ep ep) tcb)
  | .receive_signal _ t _ => t != 0 && !(s.tcbs t).tcbState.tsType.is_ipc_queued
  | .cancel_signal ntfn tcb => decide (waits_on s (.ntfn ntfn) tcb)
  | _ => true

/-- **Step lemma**: every operation keeps the invariant. -/
theorem run_ipc_inv {s s' : KernelState} (h : ipc_inv s) {fuel : Nat} {op : ipc_op}
    (hpre : op.pre s = true) (hr : op.run fuel s = some s') : ipc_inv s' := by
  cases op <;> simp only [pre, run, Bool.and_eq_true, bne_iff_ne, ne_eq, Bool.not_eq_eq_eq_not,
    Bool.not_true, decide_eq_true_eq, Option.some.injEq] at hpre hr
  case send_ipc => exact ipc_inv_send_ipc h hpre.1 hpre.2 hr
  case receive_ipc => exact ipc_inv_receive_ipc h hpre.1 hpre.2 hr
  case cancel_ipc => exact hr ▸ ipc_inv_endpoint_cancel_ipc h hpre
  case tcb_cancel_ipc => exact ipc_inv_tcb_cancel_ipc h hr
  case cancel_all_ipc => exact ipc_inv_cancel_all_ipc h hr
  case cancel_badged_sends => exact ipc_inv_cancel_badged_sends h hr
  case send_signal => exact ipc_inv_send_signal h hr
  case receive_signal => exact hr ▸ ipc_inv_receive_signal h hpre.1 hpre.2 _
  case cancel_signal => exact hr ▸ ipc_inv_cancel_signal h hpre
  case cacncel_all_signal => exact ipc_inv_cacncel_all_signal h hr

end ipc_op

/-- One IPC operation, called as its callers call it. -/
def ipc_step (s s' : KernelState) : Prop :=
  ∃ (op : ipc_op) (fuel : Nat), op.pre s = true ∧ op.run fuel s = some s'

end Rel4Kernel
