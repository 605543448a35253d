/-
The IPC operations on endpoint and notification queues (`sel4_ipc`, non-MCS):
`endpoint.rs`, `notification.rs`, and from `transfer.rs` and `tcb.rs` the
thread-side `cancel_ipc`, `complete_signal` and `setup_caller_cap`.

A queue is read out of the object with `get_queue`, changed by
`ep_append`/`ep_dequeue` (`Rel4Kernel.Task.TcbQueue`) and written back with
`set_queue`, in the order the source does it. The three loops over a whole
queue (`cancel_all_ipc`, `cancel_badged_sends`, `cacncel_all_signal`) are the
library's `walk` from the queue's head, one `step` per turn; they take a
`fuel` bound and give `none` when it runs out.

`do_ipc_transfer` is left out: it copies the message registers, the IPC
buffer and the transferred caps, and writes nothing these operations read.
A thread's badge register is written where the source writes it. `none` is
a failed `assert` or `panic!`, and, in `delete_one`, a cap other than a reply
cap, whose finalisation this model does not follow.
-/
import Rel4Kernel.CSpace.Mdb
import Rel4Kernel.Task.Schedule

set_option autoImplicit false

namespace Rel4Kernel

open ThreadState HeapList

/-- `ArchReg::Badge.to_index()` on RISC-V. -/
def ArchReg.Badge : Nat := 9

/-- `tcbArch.set_register(reg, v)` of the thread at `t`. -/
def set_register (s : KernelState) (t reg v : Nat) : KernelState :=
  s.modifyTcb t fun tcb => { tcb with tcbArch := Function.update tcb.tcbArch reg v }

/-! ## Taking one thread off a queue, and putting one on -/

/-- The lines with which every site takes a thread off an endpoint's queue:
`let mut queue = self.get_queue(); queue.ep_dequeue(t);
self.set_queue(&queue); if queue.empty() { self.set_state(Idle) }`
(`queue.head == 0` in `cancel_ipc`, which is the same test). -/
def ep_dequeue_at (s : KernelState) (ep t : Nat) : KernelState :=
  let r := (s.eps ep).get_queue.ep_dequeue s.tcbs t
  let s := { s with tcbs := r.2 }
  let s := s.modifyEp ep fun e => e.set_queue r.1
  if r.1.empty then s.modifyEp ep fun e => { e with state := .Idle } else s

/-- The same lines on a notification's queue. -/
def ntfn_dequeue_at (s : KernelState) (ntfn t : Nat) : KernelState :=
  let r := (s.ntfns ntfn).get_queue.ep_dequeue s.tcbs t
  let s := { s with tcbs := r.2 }
  let s := s.modifyNtfn ntfn fun n => n.set_queue r.1
  if r.1.empty then s.modifyNtfn ntfn fun n => { n with state := .Idle } else s

/-- The lines with which a thread blocks on an endpoint:
`let mut queue = self.get_queue(); queue.ep_append(t); self.set_state(st);
self.set_queue(&queue)`. -/
def ep_append_at (s : KernelState) (ep t : Nat) (st : EPState) : KernelState :=
  let r := (s.eps ep).get_queue.ep_append s.tcbs t
  let s := { s with tcbs := r.2 }
  let s := s.modifyEp ep fun e => { e with state := st }
  s.modifyEp ep fun e => e.set_queue r.1

/-- The same lines on a notification, whose state becomes `Waiting`. -/
def ntfn_append_at (s : KernelState) (ntfn t : Nat) : KernelState :=
  let r := (s.ntfns ntfn).get_queue.ep_append s.tcbs t
  let s := { s with tcbs := r.2 }
  let s := s.modifyNtfn ntfn fun n => { n with state := .Waiting }
  s.modifyNtfn ntfn fun n => n.set_queue r.1

section Fragments

variable (s : KernelState) (ep t : Nat)

@[simp] theorem set_register_tcbs (reg v a : Nat) :
    (set_register s t reg v).tcbs a =
      if a = t then { s.tcbs t with tcbArch := Function.update (s.tcbs t).tcbArch reg v } else s.tcbs a :=
  KernelState.modifyTcb_tcbs _ _ a

@[simp] theorem set_register_eps (reg v : Nat) : (set_register s t reg v).eps = s.eps := rfl
@[simp] theorem set_register_ntfns (reg v : Nat) : (set_register s t reg v).ntfns = s.ntfns := rfl

@[simp] theorem ep_dequeue_at_tcbs :
    (ep_dequeue_at s ep t).tcbs = ((s.eps ep).get_queue.ep_dequeue s.tcbs t).2 := by
  unfold ep_dequeue_at; dsimp only; split <;> rfl

@[simp] theorem ep_dequeue_at_ntfns : (ep_dequeue_at s ep t).ntfns = s.ntfns := by
  unfold ep_dequeue_at; dsimp only; split <;> rfl

@[simp] theorem ep_dequeue_at_ksCurThread : (ep_dequeue_at s ep t).ksCurThread = s.ksCurThread := by
  unfold ep_dequeue_at; dsimp only; split <;> rfl

/-- The endpoint gets the new ends, and is idle when they are empty. -/
theorem ep_dequeue_at_eps (p : Nat) :
    (ep_dequeue_at s ep t).eps p =
      if p = ep then
        { (s.eps ep).set_queue ((s.eps ep).get_queue.ep_dequeue s.tcbs t).1 with
          state := if ((s.eps ep).get_queue.ep_dequeue s.tcbs t).1.empty then .Idle
            else (s.eps ep).state }
      else s.eps p := by
  unfold ep_dequeue_at
  dsimp only
  split <;> by_cases hp : p = ep <;> simp [KernelState.modifyEp, endpoint.set_queue, *]

@[simp] theorem ntfn_dequeue_at_tcbs :
    (ntfn_dequeue_at s ep t).tcbs = ((s.ntfns ep).get_queue.ep_dequeue s.tcbs t).2 := by
  unfold ntfn_dequeue_at; dsimp only; split <;> rfl

@[simp] theorem ntfn_dequeue_at_eps : (ntfn_dequeue_at s ep t).eps = s.eps := by
  unfold ntfn_dequeue_at; dsimp only; split <;> rfl

theorem ntfn_dequeue_at_ntfns (p : Nat) :
    (ntfn_dequeue_at s ep t).ntfns p =
      if p = ep then
        { (s.ntfns ep).set_queue ((s.ntfns ep).get_queue.ep_dequeue s.tcbs t).1 with
          state := if ((s.ntfns ep).get_queue.ep_dequeue s.tcbs t).1.empty then .Idle
            else (s.ntfns ep).state }
      else s.ntfns p := by
  unfold ntfn_dequeue_at
  dsimp only
  split <;> by_cases hp : p = ep <;> simp [notification.set_queue, *]

@[simp] theorem ep_append_at_tcbs (st : EPState) :
    (ep_append_at s ep t st).tcbs = ((s.eps ep).get_queue.ep_append s.tcbs t).2 := rfl

@[simp] theorem ep_append_at_ntfns (st : EPState) : (ep_append_at s ep t st).ntfns = s.ntfns := rfl

theorem ep_append_at_eps (st : EPState) (p : Nat) :
    (ep_append_at s ep t st).eps p =
      if p = ep then { (s.eps ep).set_queue ((s.eps ep).get_queue.ep_append s.tcbs t).1 with state := st }
      else s.eps p := by
  by_cases hp : p = ep <;> simp [ep_append_at, KernelState.modifyEp, hp, endpoint.set_queue]

@[simp] theorem ntfn_append_at_tcbs :
    (ntfn_append_at s ep t).tcbs = ((s.ntfns ep).get_queue.ep_append s.tcbs t).2 := rfl

@[simp] theorem ntfn_append_at_eps : (ntfn_append_at s ep t).eps = s.eps := rfl

theorem ntfn_append_at_ntfns (p : Nat) :
    (ntfn_append_at s ep t).ntfns p =
      if p = ep then
        { (s.ntfns ep).set_queue ((s.ntfns ep).get_queue.ep_append s.tcbs t).1 with state := .Waiting }
      else s.ntfns p := by
  by_cases hp : p = ep <;> simp [ntfn_append_at, hp, notification.set_queue]

/-! The endpoint or notification that a fragment writes, one field at a time. -/

@[simp] theorem ep_dequeue_at_get_queue :
    ((ep_dequeue_at s ep t).eps ep).get_queue = ((s.eps ep).get_queue.ep_dequeue s.tcbs t).1 := by
  rw [ep_dequeue_at_eps, if_pos rfl]; rfl

@[simp] theorem ep_dequeue_at_state :
    ((ep_dequeue_at s ep t).eps ep).state =
      if ((s.eps ep).get_queue.ep_dequeue s.tcbs t).1.empty then .Idle else (s.eps ep).state := by
  rw [ep_dequeue_at_eps, if_pos rfl]

theorem ep_dequeue_at_eps_of_ne {p : Nat} (hp : p ≠ ep) : (ep_dequeue_at s ep t).eps p = s.eps p := by
  rw [ep_dequeue_at_eps, if_neg hp]

@[simp] theorem ntfn_dequeue_at_get_queue :
    ((ntfn_dequeue_at s ep t).ntfns ep).get_queue = ((s.ntfns ep).get_queue.ep_dequeue s.tcbs t).1 := by
  rw [ntfn_dequeue_at_ntfns, if_pos rfl]; rfl

@[simp] theorem ntfn_dequeue_at_state :
    ((ntfn_dequeue_at s ep t).ntfns ep).state =
      if ((s.ntfns ep).get_queue.ep_dequeue s.tcbs t).1.empty then .Idle else (s.ntfns ep).state := by
  rw [ntfn_dequeue_at_ntfns, if_pos rfl]

theorem ntfn_dequeue_at_ntfns_of_ne {p : Nat} (hp : p ≠ ep) :
    (ntfn_dequeue_at s ep t).ntfns p = s.ntfns p := by
  rw [ntfn_dequeue_at_ntfns, if_neg hp]

@[simp] theorem ep_append_at_get_queue (st : EPState) :
    ((ep_append_at s ep t st).eps ep).get_queue = ((s.eps ep).get_queue.ep_append s.tcbs t).1 := by
  rw [ep_append_at_eps, if_pos rfl]; rfl

@[simp] theorem ep_append_at_state (st : EPState) : ((ep_append_at s ep t st).eps ep).state = st := by
  rw [ep_append_at_eps, if_pos rfl]

theorem ep_append_at_eps_of_ne (st : EPState) {p : Nat} (hp : p ≠ ep) :
    (ep_append_at s ep t st).eps p = s.eps p := by
  rw [ep_append_at_eps, if_neg hp]

@[simp] theorem ntfn_append_at_get_queue :
    ((ntfn_append_at s ep t).ntfns ep).get_queue = ((s.ntfns ep).get_queue.ep_append s.tcbs t).1 := by
  rw [ntfn_append_at_ntfns, if_pos rfl]; rfl

@[simp] theorem ntfn_append_at_state : ((ntfn_append_at s ep t).ntfns ep).state = .Waiting := by
  rw [ntfn_append_at_ntfns, if_pos rfl]

theorem ntfn_append_at_ntfns_of_ne {p : Nat} (hp : p ≠ ep) :
    (ntfn_append_at s ep t).ntfns p = s.ntfns p := by
  rw [ntfn_append_at_ntfns, if_neg hp]

end Fragments

/-- `endpoint::cancel_ipc`: take `tcb` out of the queue of `ep` and make it
inactive. -/
def endpoint.cancel_ipc (s : KernelState) (ep tcb : Nat) : KernelState :=
  set_thread_state (ep_dequeue_at s ep tcb) tcb ThreadStateInactive

/-- `notification::cancel_signal`. -/
def notification.cancel_signal (s : KernelState) (ntfn tcb : Nat) : KernelState :=
  set_thread_state (ntfn_dequeue_at s ntfn tcb) tcb ThreadStateInactive

/-! ## Emptying a whole queue -/

/-- One turn of the loops of `cancel_all_ipc` and `cacncel_all_signal`
(non-MCS): restart the thread and queue it to run; the next thread is its
`tcbEPNext`, read afterwards. -/
def cancel_all_step (s : KernelState) (thread : Nat) : KernelState × Nat :=
  let s := set_thread_state s thread ThreadStateRestart
  let s := sched_enqueue s thread
  (s, (s.tcbs thread).tcbEPNext)

/-- `endpoint::cancel_all_ipc`: detach the whole queue, restart every thread
on it, and reschedule. -/
def cancel_all_ipc (fuel : Nat) (s : KernelState) (ep : Nat) : Option KernelState :=
  match (s.eps ep).state with
  | .Idle => some s
  | _ =>
    let op_thread := (s.eps ep).epQueue_head
    let s := s.modifyEp ep fun e => { e with state := .Idle, epQueue_head := 0, epQueue_tail := 0 }
    (walk 0 cancel_all_step fuel s op_thread).map reschedule_required

/-- One turn of `cancel_badged_sends`'s loop, over the state and the detached
queue: the next thread is read first; a sender with the badge is restarted,
queued to run and unlinked. -/
def cancel_badged_sends_step (badge : Nat) (sq : KernelState × tcb_queue_t) (thread : Nat) :
    (KernelState × tcb_queue_t) × Nat :=
  let s := sq.1
  let queue := sq.2
  let thread_ptr := (s.tcbs thread).tcbEPNext
  if (s.tcbs thread).tcbState.blockingIPCBadge = badge then
    let s := set_thread_state s thread ThreadStateRestart
    let s := sched_enqueue s thread
    let r := queue.ep_dequeue s.tcbs thread
    (({ s with tcbs := r.2 }, r.1), thread_ptr)
  else ((s, queue), thread_ptr)

/-- A sender with the badge goes through `cancel_all_step`'s restart, and is
unlinked from the local queue. -/
theorem cancel_badged_sends_step_of_eq (badge : Nat) (s : KernelState) (q : tcb_queue_t) {a : Nat}
    (hb : (s.tcbs a).tcbState.blockingIPCBadge = badge) :
    cancel_badged_sends_step badge (s, q) a =
      (({ (cancel_all_step s a).1 with tcbs := (q.ep_dequeue (cancel_all_step s a).1.tcbs a).2 },
        (q.ep_dequeue (cancel_all_step s a).1.tcbs a).1), (s.tcbs a).tcbEPNext) := by
  simp only [cancel_badged_sends_step, if_pos hb]; rfl

theorem cancel_badged_sends_step_of_ne (badge : Nat) (s : KernelState) (q : tcb_queue_t) {a : Nat}
    (hb : (s.tcbs a).tcbState.blockingIPCBadge ≠ badge) :
    cancel_badged_sends_step badge (s, q) a = ((s, q), (s.tcbs a).tcbEPNext) := by
  simp only [cancel_badged_sends_step, if_neg hb]

/-- `endpoint::cancel_badged_sends`: restart the senders with `badge` and put
the others back. -/
def cancel_badged_sends (fuel : Nat) (s : KernelState) (ep badge : Nat) : Option KernelState :=
  match (s.eps ep).state with
  | .Idle | .Recv => some s
  | .Send =>
    let queue := (s.eps ep).get_queue
    let s := s.modifyEp ep fun e => { e with state := .Idle, epQueue_head := 0, epQueue_tail := 0 }
    (walk 0 (cancel_badged_sends_step badge) fuel (s, queue) queue.head).map fun sq =>
      let s := sq.1.modifyEp ep fun e => e.set_queue sq.2
      let s := if sq.2.head ≠ 0 then s.modifyEp ep fun e => { e with state := .Send } else s
      reschedule_required s

/-- `notification::cacncel_all_signal` (non-MCS). -/
def cacncel_all_signal (fuel : Nat) (s : KernelState) (ntfn : Nat) : Option KernelState :=
  if (s.ntfns ntfn).state = .Waiting then
    let op_thread := (s.ntfns ntfn).ntfnQueue_head
    let s := s.modifyNtfn ntfn fun n =>
      { n with state := .Idle, ntfnQueue_head := 0, ntfnQueue_tail := 0 }
    (walk 0 cancel_all_step fuel s op_thread).map reschedule_required
  else some s

/-! ## The thread side -/

/-- `cte_t::delete_one`, on the one slot `cancel_ipc` calls it on: the caller
slot below a thread's master reply cap, which `setup_caller_cap` fills with a
reply cap. Finalising a reply cap does nothing in the non-MCS build and
leaves a null remainder, so the slot is emptied. -/
def delete_one (s : KernelState) (slot : Nat) : Option KernelState :=
  match (s.ctes slot).capability with
  | .null_cap => some s
  | .reply_cap .. => some { s with ctes := set_empty slot s.ctes }
  | _ => none

/-- `tcb_t::cancel_ipc` (non-MCS): take the thread off whatever it waits on. -/
def tcb_t.cancel_ipc (s : KernelState) (t : Nat) : Option KernelState :=
  let state := (s.tcbs t).tcbState
  match (s.tcbs t).get_state with
  | ThreadStateBlockedOnSend | ThreadStateBlockedOnReceive =>
    if (s.eps state.blockingObject).state = .Idle then none
    else some (endpoint.cancel_ipc s state.blockingObject t)
  | ThreadStateBlockedOnNotification => some (notification.cancel_signal s state.blockingObject t)
  | ThreadStateBlockedOnReply =>
    let s := s.modifyTcb t fun tcb => { tcb with tcbFault := .seL4_Fault_NullFault }
    let caller_slot_ptr := (s.ctes (tcb_cte_slot t TCB_REPLY)).cteMDBNode.mdbNext
    if caller_slot_ptr ≠ 0 then delete_one s caller_slot_ptr else some s
  | _ => some s

/-- `tcb_t::complete_signal` (non-MCS): take a pending signal of the bound
notification. -/
def complete_signal (s : KernelState) (t : Nat) : Bool × KernelState :=
  let ntfn := (s.tcbs t).tcbBoundNotification
  if ntfn ≠ 0 ∧ (s.ntfns ntfn).state = .Active then
    let s := set_register s t ArchReg.Badge (s.ntfns ntfn).ntfnMsgIdentifier
    (true, s.modifyNtfn ntfn fun n => { n with state := .Idle })
  else (false, s)

/-- `tcb_t::setup_caller_cap` (non-MCS): the sender waits for the reply, and
a reply cap to it goes into the receiver's caller slot, below the sender's
master reply cap. -/
def setup_caller_cap (s : KernelState) (receiver sender : Nat) (can_grant : Bool) :
    Option KernelState :=
  let s := set_thread_state s sender ThreadStateBlockedOnReply
  let reply_slot := tcb_cte_slot sender TCB_REPLY
  let caller_slot := tcb_cte_slot receiver TCB_CALLER
  match (s.ctes reply_slot).capability with
  | .reply_cap capTCBPtr capReplyCanGrant capReplyMaster =>
    if capReplyMaster = 1 ∧ capReplyCanGrant = 1 ∧ capTCBPtr = sender ∧
        (s.ctes caller_slot).capability.get_tag = .cap_null_cap then
      (cte_insert (.reply_cap sender (if can_grant then 1 else 0) 0) reply_slot caller_slot
        s.ctes).map fun ctes => { s with ctes := ctes }
    else none
  | _ => none

/-! ## Sending and receiving -/

/-- `endpoint::send_ipc` (non-MCS). -/
def send_ipc (s : KernelState) (ep src_thread : Nat) (blocking do_call can_grant : Bool)
    (badge : Nat) (can_grant_reply : Bool) : Option KernelState :=
  match (s.eps ep).state with
  | .Idle | .Send =>
    if blocking then
      let s := s.modifyTcb src_thread fun tcb =>
        { tcb with tcbState := { tcb.tcbState with
            tsType := ThreadStateBlockedOnSend, blockingObject := ep,
            blockingIPCCanGrant := if can_grant then 1 else 0, blockingIPCBadge := badge,
            blockingIPCCanGrantReply := if can_grant_reply then 1 else 0,
            blockingIPCIsCall := if do_call then 1 else 0 } }
      let s := schedule_tcb s src_thread
      some (ep_append_at s ep src_thread .Send)
    else some s
  | .Recv =>
    let dest_thread := (s.eps ep).get_queue.head
    if dest_thread = 0 then none
    else
      let s := ep_dequeue_at s ep dest_thread
      let reply_can_grant := (s.tcbs dest_thread).tcbState.blockingIPCCanGrant ≠ 0
      let s := set_thread_state s dest_thread ThreadStateRunning
      let s := possible_switch_to s dest_thread
      if do_call then
        if can_grant || can_grant_reply then setup_caller_cap s dest_thread src_thread reply_can_grant
        else some (set_thread_state s src_thread ThreadStateInactive)
      else some s

/-- `endpoint::receive_ipc` (non-MCS). -/
def receive_ipc (s : KernelState) (ep thread : Nat) (is_blocking grant : Bool) :
    Option KernelState :=
  let r := complete_signal s thread
  if r.1 then some r.2
  else
    let s := r.2
    match (s.eps ep).state with
    | .Idle | .Recv =>
      if is_blocking then
        let s := s.modifyTcb thread fun tcb =>
          { tcb with tcbState := { tcb.tcbState with
              blockingObject := ep, blockingIPCCanGrant := if grant then 1 else 0 } }
        let s := set_thread_state s thread ThreadStateBlockedOnReceive
        some (ep_append_at s ep thread .Recv)
      else some (set_register s thread ArchReg.Badge 0)
    | .Send =>
      let queue := (s.eps ep).get_queue
      if queue.empty then none
      else
        let sender := queue.head
        let s := ep_dequeue_at s ep sender
        let can_grant := (s.tcbs sender).tcbState.blockingIPCCanGrant ≠ 0
        let can_grant_reply := (s.tcbs sender).tcbState.blockingIPCCanGrantReply ≠ 0
        let do_call := (s.tcbs sender).tcbState.blockingIPCIsCall ≠ 0
        if do_call then
          if can_grant || can_grant_reply then setup_caller_cap s thread sender grant
          else some (set_thread_state s sender ThreadStateInactive)
        else
          let s := set_thread_state s sender ThreadStateRunning
          some (possible_switch_to s sender)

/-- `notification::active`. -/
def notification.active (s : KernelState) (ntfn badge : Nat) : KernelState :=
  s.modifyNtfn ntfn fun n => { n with state := .Active, ntfnMsgIdentifier := badge }

/-- `notification::send_signal` (non-MCS). -/
def send_signal (s : KernelState) (ntfn badge : Nat) : Option KernelState :=
  match (s.ntfns ntfn).state with
  | .Idle =>
    let tcb := (s.ntfns ntfn).ntfnBoundTCB
    if tcb ≠ 0 ∧ (s.tcbs tcb).get_state = ThreadStateBlockedOnReceive then
      (tcb_t.cancel_ipc s tcb).map fun s =>
        let s := set_thread_state s tcb ThreadStateRunning
        let s := set_register s tcb ArchReg.Badge badge
        possible_switch_to s tcb
    else some (notification.active s ntfn badge)
  | .Waiting =>
    let dest := (s.ntfns ntfn).get_queue.head
    if dest = 0 then none
    else
      let s := ntfn_dequeue_at s ntfn dest
      let s := set_thread_state s dest ThreadStateRunning
      let s := set_register s dest ArchReg.Badge badge
      some (possible_switch_to s dest)
  | .Active =>
    some (s.modifyNtfn ntfn fun n => { n with ntfnMsgIdentifier := n.ntfnMsgIdentifier ||| badge })

/-- `notification::receive_signal` (non-MCS). -/
def receive_signal (s : KernelState) (ntfn recv_thread : Nat) (is_blocking : Bool) : KernelState :=
  match (s.ntfns ntfn).state with
  | .Idle | .Waiting =>
    if is_blocking then
      let s := s.modifyTcb recv_thread fun tcb =>
        { tcb with tcbState := { tcb.tcbState with blockingObject := ntfn } }
      let s := set_thread_state s recv_thread ThreadStateBlockedOnNotification
      ntfn_append_at s ntfn recv_thread
    else set_register s recv_thread ArchReg.Badge 0
  | .Active =>
    let s := set_register s recv_thread ArchReg.Badge (s.ntfns ntfn).ntfnMsgIdentifier
    s.modifyNtfn ntfn fun n => { n with state := .Idle }

end Rel4Kernel
