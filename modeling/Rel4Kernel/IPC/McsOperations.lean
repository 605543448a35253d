/-
The IPC operations of the MCS build (`endpoint.rs`, `notification.rs` and
`transfer.rs` under `kernel_mcs`): sending and receiving on an endpoint, and
the thread-side `cancel_ipc` and `complete_signal` they call; receiving a
signal, and `set_priority` with the `reorder_ep` and `reorder_ntfn` it calls
on a blocked thread. The MCS queues are kept in priority order, so each
append walks its queue, with `fuel` for the walk. They are named
as the source names them, in the namespace `mcs_state`, beside the non-MCS
bodies of `Rel4Kernel.IPC.Operations`, whose queue fragments they reuse.

A rendezvous is made by whichever of the two threads arrives second: the
sender in `send_ipc` when the receiver waits, the receiver in `receive_ipc`
when the sender waits. Both then decide, from the same facts, what becomes
of the sender of a call: it waits on the receiver's reply object if there is
one and it may grant, and is made inactive otherwise. `send_ipc` makes the
receiver inactive in that branch, and then running, so that a caller that
finds its receiver waiting keeps the state it had
(`call_without_reply_sender_state_depends_on_order`).

`do_ipc_transfer` is left out, as in the non-MCS model: both orders make the
same call, with the badge and grant right the sender gave or stored, and it
writes nothing these operations read. The reply cap a receiver passes is its
`capReplyPtr`. `none` is a failed `assert`.
-/
import Rel4Kernel.IPC.Operations
import Rel4Kernel.IPC.QueueInvariant
import Rel4Kernel.Task.CallStack
import Rel4Kernel.Task.SchedInvariant

set_option autoImplicit false

namespace Rel4Kernel

open ThreadState

namespace mcs_state

/-! ## Cancelling -/

/-- `endpoint::cancel_ipc` (MCS): the thread leaves the queue, and its reply
object if it had one. -/
def endpoint.cancel_ipc (s : mcs_state) (ep tcb : Nat) : Option mcs_state :=
  let s := { s with toKernelState := ep_dequeue_at s.toKernelState ep tcb }
  let unlinked := if s.replyObject tcb ≠ 0 then reply_t.unlink s (s.replyObject tcb) tcb else some s
  unlinked.bind fun s => s.set_thread_state tcb ThreadStateInactive

/-- `notification::cancel_signal`, with the MCS `set_thread_state`. -/
def notification.cancel_signal (s : mcs_state) (ntfn tcb : Nat) : Option mcs_state :=
  set_thread_state { s with toKernelState := ntfn_dequeue_at s.toKernelState ntfn tcb } tcb
    ThreadStateInactive

/-- `tcb_t::cancel_ipc` (MCS). The source builds a null fault here and drops
it, so the thread's fault is left as it was. -/
def tcb_t.cancel_ipc (s : mcs_state) (t : Nat) : Option mcs_state :=
  let state := (s.tcbs t).tcbState
  match (s.tcbs t).get_state with
  | ThreadStateBlockedOnSend | ThreadStateBlockedOnReceive =>
    if (s.eps state.blockingObject).state = .Idle then none
    else endpoint.cancel_ipc s state.blockingObject t
  | ThreadStateBlockedOnNotification => notification.cancel_signal s state.blockingObject t
  | ThreadStateBlockedOnReply => reply_remove_tcb s t
  | _ => some s

/-! ## What cancelling leaves of a thread's fault

The C kernel's MCS `cancelIPC` starts by clearing the thread's fault; the
source's `seL4_Fault_NullFault::new();` builds the null fault and drops it.
Every write that `cancel_ipc` then makes is to queue links, thread states,
reply objects, call stacks or the scheduler, so each thread leaves with the
fault it came with. -/

end mcs_state

/-- The fault of every thread. -/
def tcb_faults (s : KernelState) : Nat → seL4_Fault_tag := fun t => (s.tcbs t).tcbFault

section Faults

variable {s s' : KernelState} {ep t : Nat}

theorem tcb_faults_of_sched_only (h : sched_only s s') : tcb_faults s' = tcb_faults s :=
  funext fun a => tcb_t.tcbFault_eq_of_dequeued (h.tcbs a)

theorem tcb_faults_set_tsType (st : ThreadState) : tcb_faults (set_tsType s t st) = tcb_faults s :=
  funext fun a => set_tsType_tcbFault s t st a

theorem tcb_faults_ep_dequeue_at : tcb_faults (ep_dequeue_at s ep t) = tcb_faults s := by
  funext a
  simp only [tcb_faults, ep_dequeue_at_tcbs, tcb_queue_t.ep_dequeue_tcbFault]

theorem tcb_faults_ntfn_dequeue_at : tcb_faults (ntfn_dequeue_at s ep t) = tcb_faults s := by
  funext a
  simp only [tcb_faults, ntfn_dequeue_at_tcbs, tcb_queue_t.ep_dequeue_tcbFault]

end Faults

namespace mcs_state

section Faults

variable {s s' : mcs_state} {ep t : Nat}

theorem sched_enqueue_faults (h : s.sched_enqueue t = some s') :
    tcb_faults s'.toKernelState = tcb_faults s.toKernelState := by
  unfold sched_enqueue at h
  split_ifs at h
  cases h
  exact tcb_faults_of_sched_only (sched_only_sched_enqueue _ t)

theorem reschedule_required_faults (h : s.reschedule_required = some s') :
    tcb_faults s'.toKernelState = tcb_faults s.toKernelState := by
  unfold reschedule_required at h
  obtain ⟨s1, h1, rfl⟩ := Option.map_eq_some_iff.mp h
  -- the new scheduler action is not a thread's
  show tcb_faults s1.toKernelState = _
  split_ifs at h1
  · exact sched_enqueue_faults h1
  · cases h1; rfl
  · cases h1; rfl

theorem set_thread_state_faults {st : ThreadState} (h : s.set_thread_state t st = some s') :
    tcb_faults s'.toKernelState = tcb_faults s.toKernelState := by
  unfold set_thread_state schedule_tcb at h
  split_ifs at h
  · rw [reschedule_required_faults h]
    exact tcb_faults_set_tsType st
  · cases h
    exact tcb_faults_set_tsType st

theorem reply_t.unlink_faults {reply : Nat} (h : reply_t.unlink s reply t = some s') :
    tcb_faults s'.toKernelState = tcb_faults s.toKernelState := by
  unfold reply_t.unlink at h
  dsimp only at h
  split_ifs at h
  -- the two bindings written first are not part of the kernel state
  rw [set_thread_state_faults h]
  rfl

/-- The call-stack writes of `reply_remove_tcb` are to reply objects and
scheduling contexts, whichever branch they take. -/
theorem reply_remove_tcb_faults (h : reply_remove_tcb s t = some s') :
    tcb_faults s'.toKernelState = tcb_faults s.toKernelState := by
  unfold reply_remove_tcb at h
  dsimp only at h
  split_ifs at h <;> rw [reply_t.unlink_faults h] <;> rfl

theorem endpoint.cancel_ipc_faults (h : endpoint.cancel_ipc s ep t = some s') :
    tcb_faults s'.toKernelState = tcb_faults s.toKernelState := by
  unfold endpoint.cancel_ipc at h
  obtain ⟨s1, h1, h2⟩ := Option.bind_eq_some_iff.mp h
  rw [set_thread_state_faults h2]
  split_ifs at h1
  · rw [reply_t.unlink_faults h1]
    exact tcb_faults_ep_dequeue_at
  · cases h1
    exact tcb_faults_ep_dequeue_at

theorem notification.cancel_signal_faults (h : notification.cancel_signal s ep t = some s') :
    tcb_faults s'.toKernelState = tcb_faults s.toKernelState := by
  rw [set_thread_state_faults h]
  exact tcb_faults_ntfn_dequeue_at

theorem tcb_t.cancel_ipc_faults (h : tcb_t.cancel_ipc s t = some s') :
    tcb_faults s'.toKernelState = tcb_faults s.toKernelState := by
  unfold tcb_t.cancel_ipc at h
  dsimp only at h
  split at h
  · split_ifs at h
    exact endpoint.cancel_ipc_faults h
  · split_ifs at h
    exact endpoint.cancel_ipc_faults h
  · exact notification.cancel_signal_faults h
  · exact reply_remove_tcb_faults h
  · cases h; rfl

end Faults

/-- MCS `cancel_ipc` clears no fault: whenever it returns, every thread, the
one cancelled among them, has the fault it had before. -/
theorem cancel_ipc_keeps_every_fault {s s' : mcs_state} {t : Nat} (h : tcb_t.cancel_ipc s t = some s')
    (q : Nat) :
    (s'.tcbs q).tcbFault = (s.tcbs q).tcbFault :=
  congrFun (tcb_t.cancel_ipc_faults h) q

/-- Thread 7 took a timeout fault and waits, alone, to send the fault message
to its handler's endpoint `0x100`. -/
def timeout_fault_sender : mcs_state where
  tcbs p := if p = 7 then
      { tcbState := { tsType := ThreadStateBlockedOnSend, blockingObject := 0x100 },
        tcbFault := .seL4_Fault_Timeout }
    else {}
  eps p := if p = 0x100 then { epQueue_head := 7, epQueue_tail := 7, state := .Send } else {}

/-- Suspending it cancels its IPC and leaves the timeout fault in place. -/
theorem cancel_ipc_of_timeout_fault_sender :
    ∃ s', tcb_t.cancel_ipc timeout_fault_sender 7 = some s' ∧
      (s'.tcbs 7).tcbFault = .seL4_Fault_Timeout := by
  have hsome : (tcb_t.cancel_ipc timeout_fault_sender 7).isSome := by decide
  obtain ⟨s', hs'⟩ := Option.isSome_iff_exists.mp hsome
  exact ⟨s', hs', cancel_ipc_keeps_every_fault hs' 7⟩

/-! ## Signals -/

/-- `tcb_t::complete_signal` (MCS): take a pending signal of the bound
notification, with its scheduling context if the thread has none. -/
def complete_signal (fuel : Nat) (s : mcs_state) (t : Nat) : Option (Bool × mcs_state) :=
  let ntfn := (s.tcbs t).tcbBoundNotification
  if ntfn ≠ 0 ∧ (s.ntfns ntfn).state = .Active then
    let s := { s with toKernelState := set_register s.toKernelState t ArchReg.Badge (s.ntfns ntfn).ntfnMsgIdentifier }
    let s := { s with toKernelState := s.modifyNtfn ntfn fun n => { n with state := .Idle } }
    (maybe_donate_sched_context fuel s t ntfn).bind fun s =>
      let sc := s.tcbSchedContext t
      let unblocked :=
        if sc ≠ 0 ∧ (s.scs sc).sc_sporadic = true ∧ sc = s.ntfnSchedContext ntfn ∧ sc ≠ s.ksCurSC then
          s.refill_unblock_check sc
        else some s
      unblocked.map fun s => (true, s)
  else some (false, s)

/-! ## Linking in order of priority

The MCS build links a thread into a queue with its own `ep_append`, in order
of priority (`Rel4Kernel.mcs_state.tcb_queue_t.ep_append`); `fuel` bounds its
loop. -/

/-- The lines with which a thread blocks on an endpoint, with the MCS
`ep_append`. -/
def ep_append_at (fuel : Nat) (s : KernelState) (ep t : Nat) (st : EPState) : Option KernelState :=
  (tcb_queue_t.ep_append (s.eps ep).get_queue s.tcbs t fuel).map fun r =>
    let s := { s with tcbs := r.2 }
    let s := s.modifyEp ep fun e => { e with state := st }
    s.modifyEp ep fun e => e.set_queue r.1

/-- The same lines on a notification, whose state becomes `Waiting`. -/
def ntfn_append_at (fuel : Nat) (s : KernelState) (ntfn t : Nat) : Option KernelState :=
  (tcb_queue_t.ep_append (s.ntfns ntfn).get_queue s.tcbs t fuel).map fun r =>
    let s := { s with tcbs := r.2 }
    let s := s.modifyNtfn ntfn fun n => { n with state := .Waiting }
    s.modifyNtfn ntfn fun n => n.set_queue r.1

/-- `endpoint::reorder_ep`: the thread leaves the queue and is linked in
again, at the place of its priority. -/
def endpoint.reorder_ep (fuel : Nat) (s : KernelState) (ep thread : Nat) : Option KernelState :=
  let r := (s.eps ep).get_queue.ep_dequeue s.tcbs thread
  (tcb_queue_t.ep_append r.1 r.2 thread fuel).map fun r =>
    { s with tcbs := r.2 }.modifyEp ep fun e => e.set_queue r.1

/-- `notification::reorder_ntfn`. -/
def notification.reorder_ntfn (fuel : Nat) (s : KernelState) (ntfn thread : Nat) :
    Option KernelState :=
  let r := (s.ntfns ntfn).get_queue.ep_dequeue s.tcbs thread
  (tcb_queue_t.ep_append r.1 r.2 thread fuel).map fun r =>
    { s with tcbs := r.2 }.modifyNtfn ntfn fun n => n.set_queue r.1

/-- `tcb_t::set_priority` (MCS). A thread that waits on an endpoint or a
notification takes the place of its new priority in the queue. -/
def set_priority (fuel : Nat) (s : mcs_state) (t priority : Nat) : Option mcs_state :=
  let set_prio (s : mcs_state) : mcs_state :=
    { s with toKernelState := s.modifyTcb t fun tcb => { tcb with tcbPriority := priority } }
  match (s.tcbs t).get_state with
  | ThreadStateRunning | ThreadStateRestart =>
    if (s.tcbs t).tcbState.tcbQueued ≠ 0 ∨ t = s.ksCurThread then
      let s := set_prio (s.sched_dequeue t)
      (s.sched_enqueue t).bind fun s => s.reschedule_required
    else some (set_prio s)
  | ThreadStateBlockedOnReceive | ThreadStateBlockedOnSend =>
    let s := set_prio s
    (endpoint.reorder_ep fuel s.toKernelState (s.tcbs t).tcbState.blockingObject t).map fun k =>
      { s with toKernelState := k }
  | ThreadStateBlockedOnNotification =>
    let s := set_prio s
    (notification.reorder_ntfn fuel s.toKernelState (s.tcbs t).tcbState.blockingObject t).map fun k =>
      { s with toKernelState := k }
  | _ => some (set_prio s)

/-- `notification::receive_signal` (MCS). A pending signal is taken, and then
`maybe_return_sched_context` runs, as before blocking. -/
def notification.receive_signal (fuel : Nat) (s : mcs_state) (ntfn recv_thread : Nat)
    (is_blocking : Bool) : Option mcs_state :=
  match (s.ntfns ntfn).state with
  | .Idle | .Waiting =>
    if is_blocking then
      let s := { s with toKernelState := s.modifyTcb recv_thread fun tcb =>
        { tcb with tcbState := { tcb.tcbState with blockingObject := ntfn } } }
      (s.set_thread_state recv_thread ThreadStateBlockedOnNotification).bind fun s =>
      (ntfn_append_at fuel s.toKernelState ntfn recv_thread).bind fun k =>
      notification.maybe_return_sched_context { s with toKernelState := k } ntfn recv_thread
    else some { s with toKernelState := set_register s.toKernelState recv_thread ArchReg.Badge 0 }
  | .Active =>
    let s := { s with
      toKernelState := set_register s.toKernelState recv_thread ArchReg.Badge (s.ntfns ntfn).ntfnMsgIdentifier }
    let s := { s with toKernelState := s.modifyNtfn ntfn fun n => { n with state := .Idle } }
    (notification.maybe_return_sched_context s ntfn recv_thread).bind fun s =>
    let sc := s.tcbSchedContext recv_thread
    if sc ≠ s.ksCurSC ∧ sc ≠ 0 ∧ (s.scs sc).sc_sporadic = true then s.refill_unblock_check sc
    else some s

/-! ## The scheduling context of a thread that takes a signal

`complete_signal` takes a pending signal with `maybe_donate_sched_context`:
a thread without a scheduling context gets the notification's. The `Active`
branch of `receive_signal` calls `maybe_return_sched_context` instead, the
helper meant for a thread about to block: the thread keeps its scheduling
context unless it runs on the notification's, which it then loses, and a
thread without one gets none. -/

theorem maybe_return_sched_context_tcbSchedContext {s s' : mcs_state} {ntfn t : Nat}
    (h : notification.maybe_return_sched_context s ntfn t = some s') :
    s'.tcbSchedContext t =
      if s.ntfnSchedContext ntfn ≠ 0 ∧ s.ntfnSchedContext ntfn = s.tcbSchedContext t then 0
      else s.tcbSchedContext t := by
  unfold notification.maybe_return_sched_context at h
  dsimp only at h
  split_ifs at h with hsc hcur
  · -- the thread gives the context back, and the reschedule binds nothing
    rw [(reschedule_required_bindings h).tcbSchedContext, if_pos hsc]
    simp
  · cases h
    rw [if_pos hsc]
    simp
  · cases h
    rw [if_neg hsc]

/-- **`receive_signal` on an active notification only ever takes a scheduling
context away.** Whenever it returns, the receiver has lost the notification's
scheduling context if it ran on it, and otherwise has the one it had, none if
it had none. -/
theorem receive_signal_active_returns_sched_context {s s' : mcs_state} {fuel ntfn t : Nat}
    {is_blocking : Bool} (hact : (s.ntfns ntfn).state = .Active)
    (h : notification.receive_signal fuel s ntfn t is_blocking = some s') :
    s'.tcbSchedContext t =
      if s.ntfnSchedContext ntfn ≠ 0 ∧ s.ntfnSchedContext ntfn = s.tcbSchedContext t then 0
      else s.tcbSchedContext t := by
  unfold notification.receive_signal at h
  simp only [hact] at h
  obtain ⟨s₁, h₁, h₂⟩ := Option.bind_eq_some_iff.mp h
  -- writing the badge and the notification's state binds nothing
  rw [← maybe_return_sched_context_tcbSchedContext h₁]
  split_ifs at h₂
  · rw [(refill_unblock_check_bindings h₂).tcbSchedContext]
  · cases h₂
    rfl

/-- The current thread `0x100` runs on `0x500`, the scheduling context of the
notification `0x300`, on which a signal with badge 7 is pending. -/
def polling_state : mcs_state where
  ksCurThread := 0x100
  tcbs p := if p = 0x100 then { tcbState := { tsType := ThreadStateRunning } } else {}
  ntfns p := if p = 0x300 then { ntfnMsgIdentifier := 7, state := .Active } else {}
  tcbSchedContext p := if p = 0x100 then 0x500 else 0
  ntfnSchedContext p := if p = 0x300 then 0x500 else 0
  scs p := if p = 0x500 then { scTcb := 0x100, scRefillMax := 2 } else {}
  ksCurSC := 0x500

/-- It polls the notification, takes the signal, and is left with no
scheduling context. -/
theorem polling_loses_sched_context :
    ∃ s', notification.receive_signal 0 polling_state 0x300 0x100 false = some s' ∧
      s'.tcbSchedContext 0x100 = 0 ∧ polling_state.tcbSchedContext 0x100 = 0x500 := by
  have hsome : (notification.receive_signal 0 polling_state 0x300 0x100 false).isSome := by decide
  obtain ⟨s', hs'⟩ := Option.isSome_iff_exists.mp hsome
  refine ⟨s', hs', ?_, rfl⟩
  rw [receive_signal_active_returns_sched_context (by decide) hs']
  decide

/-! ## Sending and receiving -/

/-- `endpoint::send_ipc` (MCS). `fuel` bounds the loop of `ep_append`. -/
def send_ipc (fuel : Nat) (s : mcs_state) (ep src_thread : Nat) (blocking do_call can_grant : Bool)
    (badge : Nat) (can_grant_reply canDonate : Bool) : Option mcs_state :=
  match (s.eps ep).state with
  | .Idle | .Send =>
    if blocking then
      let s := { s with toKernelState := s.modifyTcb src_thread fun tcb =>
        { tcb with tcbState := { tcb.tcbState with
            tsType := ThreadStateBlockedOnSend, blockingObject := ep,
            blockingIPCCanGrant := if can_grant then 1 else 0, blockingIPCBadge := badge,
            blockingIPCCanGrantReply := if can_grant_reply then 1 else 0,
            blockingIPCIsCall := if do_call then 1 else 0 } } }
      (s.schedule_tcb src_thread).bind fun s =>
        (ep_append_at fuel s.toKernelState ep src_thread .Send).map fun k => { s with toKernelState := k }
    else some s
  | .Recv =>
    let dest_thread := (s.eps ep).get_queue.head
    if dest_thread = 0 then none
    else
      let s := { s with toKernelState := ep_dequeue_at s.toKernelState ep dest_thread }
      let replyptr := s.replyObject dest_thread
      let unlinked := if replyptr ≠ 0 then reply_t.unlink s replyptr dest_thread else some s
      unlinked.bind fun s =>
      let called :=
        if do_call = true ∨ (s.tcbs src_thread).tcbFault ≠ .seL4_Fault_NullFault then
          if replyptr ≠ 0 ∧ (can_grant = true ∨ can_grant_reply = true) then
            reply_t.push s replyptr src_thread dest_thread canDonate
          -- the source makes the receiver inactive here, not the sender
          else s.set_thread_state dest_thread ThreadStateInactive
        else if canDonate = true ∧ s.tcbSchedContext dest_thread = 0 then
          s.sched_context_donate (s.tcbSchedContext src_thread) dest_thread
        else some s
      called.bind fun s =>
      let sc := s.tcbSchedContext dest_thread
      if sc ≠ 0 ∧ (s.scs sc).refill_sufficient 0 = false then none
      else if sc ≠ 0 ∧ (s.scs sc).refill_ready s.ksCurTime = false then none
      else
        (s.set_thread_state dest_thread ThreadStateRunning).bind fun s =>
        let sc := s.tcbSchedContext dest_thread
        let unblocked :=
          if sc ≠ 0 ∧ (s.scs sc).sc_sporadic = true ∧ sc ≠ s.ksCurSC then s.refill_unblock_check sc
          else some s
        unblocked.bind fun s => s.possible_switch_to dest_thread

/-- `endpoint::receive_ipc` (MCS). `Option_reply_cap` is the `capReplyPtr` of
the reply cap the receiver passes, if it passes one. -/
def receive_ipc (fuel : Nat) (s : mcs_state) (ep thread : Nat) (is_blocking : Bool)
    (Option_reply_cap : Option Nat) : Option mcs_state :=
  let replyptr := Option_reply_cap.getD 0
  -- a reply object that still waits to wake another thread is taken from it
  let cleared :=
    match Option_reply_cap with
    | some replyptr =>
      let replyTCB := (s.replies replyptr).replyTCB
      if replyTCB ≠ 0 ∧ replyTCB ≠ thread then tcb_t.cancel_ipc s replyTCB else some s
    | none => some s
  cleared.bind fun s =>
  (complete_signal fuel s thread).bind fun r =>
  if r.1 then some r.2
  else
    let s := r.2
    let ntfn := (s.tcbs thread).tcbBoundNotification
    let returned :=
      if ntfn ≠ 0 ∧ is_blocking = true then notification.maybe_return_sched_context s ntfn thread
      else some s
    returned.bind fun s =>
    match (s.eps ep).state with
    | .Idle | .Recv =>
      if is_blocking then
        let s := { s with toKernelState := s.modifyTcb thread fun tcb =>
          { tcb with tcbState := { tcb.tcbState with
              tsType := ThreadStateBlockedOnReceive, blockingObject := ep } } }
        let s := s.setReplyObject thread replyptr
        let s := if replyptr ≠ 0 then s.modifyReply replyptr fun r => { r with replyTCB := thread } else s
        (s.schedule_tcb thread).bind fun s =>
          (ep_append_at fuel s.toKernelState ep thread .Recv).map fun k => { s with toKernelState := k }
      else some { s with toKernelState := set_register s.toKernelState thread ArchReg.Badge 0 }
    | .Send =>
      let queue := (s.eps ep).get_queue
      if queue.empty then none
      else
        let sender := queue.head
        let s := { s with toKernelState := ep_dequeue_at s.toKernelState ep sender }
        let can_grant := (s.tcbs sender).tcbState.blockingIPCCanGrant ≠ 0
        let can_grant_reply := (s.tcbs sender).tcbState.blockingIPCCanGrantReply ≠ 0
        let do_call := (s.tcbs sender).tcbState.blockingIPCIsCall ≠ 0
        let sc := s.tcbSchedContext sender
        let unblocked :=
          if sc ≠ 0 ∧ (s.scs sc).sc_sporadic = true then
            if sc = s.ksCurSC then none else s.refill_unblock_check sc
          else some s
        unblocked.bind fun s =>
        if do_call ∨ (s.tcbs sender).tcbFault ≠ .seL4_Fault_NullFault then
          if (can_grant ∨ can_grant_reply) ∧ replyptr ≠ 0 then
            let canDonate := decide (s.tcbSchedContext sender ≠ 0 ∧
              (s.tcbs sender).tcbFault ≠ .seL4_Fault_Timeout)
            reply_t.push s replyptr sender thread canDonate
          else s.set_thread_state sender ThreadStateInactive
        else
          (s.set_thread_state sender ThreadStateRunning).bind fun s =>
          (s.possible_switch_to sender).bind fun s =>
          let sc := s.tcbSchedContext sender
          if sc ≠ 0 ∧ (s.scs sc).refill_sufficient 0 = false then none else some s

/-- A thread bound to no notification takes no signal. -/
theorem complete_signal_of_unbound {fuel : Nat} {s : mcs_state} {t : Nat}
    (h : (s.tcbs t).tcbBoundNotification = 0) : complete_signal fuel s t = some (false, s) := by
  unfold complete_signal
  rw [if_neg fun hc => hc.1 h]

/-! ## A call whose receiver has no reply object -/

section CallWithoutReply

variable {ep S R : Nat}

/-- The send order: a call finds its receiver `R` waiting on `ep` with no
reply object and no scheduling context. `R` is made inactive, then running,
and nothing else changes but the queue. -/
theorem send_ipc_call_without_reply {s : mcs_state} {badge fuel : Nat}
    {blocking can_grant can_grant_reply canDonate : Bool}
    (hep : (s.eps ep).state = .Recv) (hhead : (s.eps ep).get_queue.head = R) (hR : R ≠ 0)
    (hcur : R ≠ s.ksCurThread) (hreply : s.replyObject R = 0) (hsc : s.tcbSchedContext R = 0) :
    send_ipc fuel s ep S blocking true can_grant badge can_grant_reply canDonate =
      some { s with toKernelState := set_tsType (set_tsType (ep_dequeue_at s.toKernelState ep R) R
        ThreadStateInactive) R ThreadStateRunning } := by
  simp [send_ipc, hep, hhead, hR, hreply, hsc, set_thread_state_of_not_current, hcur,
    set_tsType_ksCurThread, possible_switch_to_of_unbound]

/-- The receive order: `R` passes no reply cap and finds a caller `S`
waiting on `ep`. `S` is made inactive, and nothing else changes but the
queue. -/
theorem receive_ipc_call_without_reply {t : mcs_state} {fuel : Nat} {is_blocking : Bool}
    (hep : (t.eps ep).state = .Send) (hhead : (t.eps ep).get_queue.head = S) (hS : S ≠ 0)
    (hcur : S ≠ t.ksCurThread) (hcall : (t.tcbs S).tcbState.blockingIPCIsCall ≠ 0)
    (hbound : (t.tcbs R).tcbBoundNotification = 0)
    (hsc : t.tcbSchedContext S = 0 ∨ (t.sc_of S).sc_sporadic = false) :
    receive_ipc fuel t ep R is_blocking none =
      some { t with
        toKernelState := set_tsType (ep_dequeue_at t.toKernelState ep S) S ThreadStateInactive } := by
  -- the sender's scheduling context is not unblocked
  have hunblock : ¬ (t.tcbSchedContext S ≠ 0 ∧ (t.scs (t.tcbSchedContext S)).sc_sporadic = true) := by
    rintro ⟨h0, hsp⟩
    rcases hsc with h | h
    · exact h0 h
    · simp [sc_of, hsp] at h
  simp [receive_ipc, complete_signal_of_unbound hbound, hbound, hep, hhead, hS, tcb_queue_t.empty,
    tcb_queue_t.ep_dequeue_tcbState, hcall, hunblock, set_thread_state_of_not_current, hcur]

/-- **Who arrives second decides what becomes of a caller** (MCS). A call
whose receiver has no reply object leaves the caller in the state it had when
the caller arrives second (`send_ipc`), and makes the caller inactive when
the receiver arrives second (`receive_ipc`). The receiver ends running in
both orders. -/
theorem call_without_reply_sender_state_depends_on_order {s t : mcs_state} {badge fuel : Nat}
    {blocking can_grant can_grant_reply canDonate is_blocking : Bool} (hSR : S ≠ R)
    (hs_ep : (s.eps ep).state = .Recv) (hs_head : (s.eps ep).get_queue.head = R) (hR : R ≠ 0)
    (hs_cur : s.ksCurThread = S) (hs_reply : s.replyObject R = 0) (hs_sc : s.tcbSchedContext R = 0)
    (ht_ep : (t.eps ep).state = .Send) (ht_head : (t.eps ep).get_queue.head = S) (hS : S ≠ 0)
    (ht_cur : t.ksCurThread = R) (ht_call : (t.tcbs S).tcbState.blockingIPCIsCall ≠ 0)
    (ht_bound : (t.tcbs R).tcbBoundNotification = 0)
    (ht_sc : t.tcbSchedContext S = 0 ∨ (t.sc_of S).sc_sporadic = false) :
    (∃ s', send_ipc fuel s ep S blocking true can_grant badge can_grant_reply canDonate = some s' ∧
      (s'.tcbs S).get_state = (s.tcbs S).get_state ∧ (s'.tcbs R).get_state = ThreadStateRunning) ∧
    (∃ t', receive_ipc fuel t ep R is_blocking none = some t' ∧
      (t'.tcbs S).get_state = ThreadStateInactive ∧ (t'.tcbs R).get_state = (t.tcbs R).get_state) := by
  refine ⟨⟨_, send_ipc_call_without_reply hs_ep hs_head hR (hs_cur ▸ hSR.symm) hs_reply hs_sc, ?_, ?_⟩,
    ⟨_, receive_ipc_call_without_reply ht_ep ht_head hS (ht_cur ▸ hSR) ht_call ht_bound ht_sc, ?_, ?_⟩⟩
  · -- only `R` changed state, and taking it off the queue wrote links only
    simp [tcb_t.get_state, set_tsType_tcbs_of_ne hSR, tcb_queue_t.ep_dequeue_tcbState]
  · exact set_tsType_get_state
  · exact set_tsType_get_state
  · simp [tcb_t.get_state, set_tsType_tcbs_of_ne (Ne.symm hSR), tcb_queue_t.ep_dequeue_tcbState]

end CallWithoutReply

open Function in
/-- `0x200` waits on the endpoint `0x400` with no reply object and no
scheduling context, while `0x100` calls it; `decode_invocation` has set the
caller to restart. -/
def server_waits_state : mcs_state :=
  { ksCurThread := 0x100
    tcbs := update (update (fun _ => {}) 0x100 { tcbState := { tsType := ThreadStateRestart } })
      0x200 { tcbState := { tsType := ThreadStateBlockedOnReceive, blockingObject := 0x400 } }
    eps := update (fun _ => {}) 0x400 { epQueue_head := 0x200, epQueue_tail := 0x200, state := .Recv } }

open Function in
/-- `0x100` waits on `0x400` having called it, while `0x200` receives. -/
def client_waits_state : mcs_state :=
  { ksCurThread := 0x200
    tcbs := update (update (fun _ => {}) 0x100
        { tcbState := { tsType := ThreadStateBlockedOnSend, blockingObject := 0x400, blockingIPCIsCall := 1 } })
      0x200 { tcbState := { tsType := ThreadStateRunning } }
    eps := update (fun _ => {}) 0x400 { epQueue_head := 0x100, epQueue_tail := 0x100, state := .Send } }

/-- The same call between `0x100` and `0x200` on `0x400`, in the two orders:
the caller is left to restart when it arrives second, and made inactive when
the server does. -/
theorem call_without_reply_on_one_endpoint :
    (∃ s', send_ipc 0 server_waits_state 0x400 0x100 true true false 0 false false = some s' ∧
      (s'.tcbs 0x100).get_state = ThreadStateRestart ∧ (s'.tcbs 0x200).get_state = ThreadStateRunning) ∧
    (∃ t', receive_ipc 0 client_waits_state 0x400 0x200 true none = some t' ∧
      (t'.tcbs 0x100).get_state = ThreadStateInactive ∧
      (t'.tcbs 0x200).get_state = ThreadStateRunning) :=
  call_without_reply_sender_state_depends_on_order (by decide) (by decide) (by decide) (by decide)
    (by decide) (by decide) (by decide) (by decide) (by decide) (by decide) (by decide) (by decide)
    (by decide) (Or.inl (by decide))

end mcs_state

/-! ## The non-MCS bodies agree -/

section NonMcs

variable {ep S R : Nat}

end NonMcs

end Rel4Kernel
