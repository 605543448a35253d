/-
The endpoint operations with their message (`sel4_ipc/src/endpoint.rs`,
non-MCS), and the reply to a call (`sel4_ipc/src/transfer.rs`,
`kernel/src/syscall/mod.rs`).

The queue model of `Operations` leaves the message out. Here the thread that
finds a partner waiting on the endpoint hands its message over with
`do_ipc_transfer`, after the partner leaves the queue and before it is woken;
with no partner waiting nothing is handed over, and the operation is the
queue model's. `do_reply` answers a call: the replier's message, or the
answer to the caller's fault, goes to the caller, and the reply cap of the
call is deleted.

A transfer writes registers, IPC buffers and at most one empty slot
(`writes_msg`), none of which the queue invariant reads, so every run of these
operations, of the other IPC operations and of user writes to the IPC buffers
keeps both the slots well formed and the queue invariant
(`msg_reachable_wf`). A send that hands a cap to a receiver whose receive slot
holds one panics (`send_ipc_panics_of_full_receive_slot`).
-/
import Rel4Kernel.IPC.Transfer

set_option autoImplicit false

namespace Rel4Kernel

open ThreadState

/-! ## The operations -/

/-- `s` with the kernel state `k`: a step of the kernel model taken on the
state with the user memory beside it. -/
def ipc_state.with_kernel (s : ipc_state) (k : KernelState) : ipc_state := { s with toKernelState := k }

@[simp] theorem ipc_state.with_kernel_toKernelState (s : ipc_state) (k : KernelState) :
    (s.with_kernel k).toKernelState = k := rfl

/-- `endpoint::send_ipc` (non-MCS). A receiver waiting on the endpoint is
taken off its queue, gets the message, and is woken; a call then waits for
the reply. With no receiver waiting the sender blocks or gives up, as in the
queue model. -/
def endpoint.send_ipc (s : ipc_state) (ep src_thread : Nat) (blocking do_call can_grant : Bool) (badge : Nat)
    (can_grant_reply : Bool) : Option ipc_state :=
  match (s.eps ep).state with
  | .Recv =>
    let dest_thread := (s.eps ep).get_queue.head
    if dest_thread = 0 then none
    else do
      let s := s.with_kernel (ep_dequeue_at s.toKernelState ep dest_thread)
      let s ← tcb_t.do_ipc_transfer s src_thread dest_thread (some ep) badge can_grant
      let reply_can_grant := (s.tcbs dest_thread).tcbState.blockingIPCCanGrant ≠ 0
      let k := possible_switch_to (set_thread_state s.toKernelState dest_thread ThreadStateRunning) dest_thread
      if do_call then
        if can_grant || can_grant_reply then (setup_caller_cap k dest_thread src_thread reply_can_grant).map s.with_kernel
        else pure (s.with_kernel (set_thread_state k src_thread ThreadStateInactive))
      else pure (s.with_kernel k)
  | _ => (Rel4Kernel.send_ipc s.toKernelState ep src_thread blocking do_call can_grant badge can_grant_reply).map s.with_kernel

/-- `endpoint::receive_ipc` (non-MCS). A sender waiting on the endpoint is
taken off its queue and its message, with the badge, grant and call bits it
blocked with, is handed over. A pending signal, or no sender, leaves it to
the queue model. -/
def endpoint.receive_ipc (s : ipc_state) (ep thread : Nat) (is_blocking grant : Bool) : Option ipc_state :=
  let r := complete_signal s.toKernelState thread
  match r.1, (r.2.eps ep).state with
  | false, .Send =>
    let queue := (r.2.eps ep).get_queue
    if queue.empty then none
    else do
      let sender := queue.head
      let s := s.with_kernel (ep_dequeue_at r.2 ep sender)
      let badge := (s.tcbs sender).tcbState.blockingIPCBadge
      let can_grant := (s.tcbs sender).tcbState.blockingIPCCanGrant ≠ 0
      let can_grant_reply := (s.tcbs sender).tcbState.blockingIPCCanGrantReply ≠ 0
      let s ← tcb_t.do_ipc_transfer s sender thread (some ep) badge can_grant
      let do_call := (s.tcbs sender).tcbState.blockingIPCIsCall ≠ 0
      if do_call then
        if can_grant || can_grant_reply then (setup_caller_cap s.toKernelState thread sender grant).map s.with_kernel
        else pure (s.with_kernel (set_thread_state s.toKernelState sender ThreadStateInactive))
      else pure (s.with_kernel (possible_switch_to (set_thread_state s.toKernelState sender ThreadStateRunning) sender))
  | _, _ => (Rel4Kernel.receive_ipc s.toKernelState ep thread is_blocking grant).map s.with_kernel

/-- `tcb_t::do_reply` (non-MCS) of the replier to the receiver, which waits
for the reply; its assertion panics otherwise. Without a fault the reply is
an IPC transfer; to a fault it is read back into the receiver's registers,
and says whether the receiver restarts. The reply cap in `slot` is deleted. -/
def tcb_t.do_reply (fuel : Nat) (s : ipc_state) (replier receiver slot : Nat) (grant : Bool) :
    Option ipc_state := do
  if (s.tcbs receiver).get_state ≠ ThreadStateBlockedOnReply then none
  else if (s.tcbs receiver).tcbFault = .seL4_Fault_NullFault then do
    let s ← tcb_t.do_ipc_transfer s replier receiver none 0 grant
    let k ← cte_t.delete_one fuel s.toKernelState slot
    pure (s.with_kernel (possible_switch_to (set_thread_state k receiver ThreadStateRunning) receiver))
  else do
    let k ← cte_t.delete_one fuel s.toKernelState slot
    let (s, restart) ← tcb_t.do_fault_reply_transfer (s.with_kernel k) replier receiver
    let k := s.modifyTcb receiver fun tcb => { tcb with tcbFault := .seL4_Fault_NullFault }
    if restart then pure (s.with_kernel (possible_switch_to (set_thread_state k receiver ThreadStateRestart) receiver))
    else pure (s.with_kernel (set_thread_state k receiver ThreadStateInactive))

/-- `handle_reply` (non-MCS): the current thread answers the call whose
reply cap sits in its caller slot. A master reply cap, or no reply cap,
leaves nothing to do. -/
def handle_reply (fuel : Nat) (s : ipc_state) : Option ipc_state :=
  let current_thread := s.ksCurThread
  let caller_slot := tcb_cte_slot current_thread TCB_CALLER
  match (s.ctes caller_slot).capability with
  | .reply_cap capTCBPtr capReplyCanGrant capReplyMaster =>
    if capReplyMaster ≠ 0 then some s
    else tcb_t.do_reply fuel s current_thread capTCBPtr caller_slot (capReplyCanGrant ≠ 0)
  | _ => some s

/-! ## The slots -/

/-- A deletion empties the slot it deletes from, and stores no other. -/
theorem empties_of_cte_delete_one {fuel slot : Nat} {s s' : KernelState} (hs : slot ≠ 0)
    (h : cte_t.delete_one fuel s slot = some s') : empties s.ctes s'.ctes := by
  unfold cte_t.delete_one at h
  split at h
  · obtain ⟨s₁, hf, h⟩ := Option.bind_eq_some_iff.1 h
    cases h
    rw [← finalise_cap_ctes hf]
    exact .single hs
  · cases h
    exact .refl

theorem complete_signal_ctes (s : KernelState) (t : Nat) : (complete_signal s t).2.ctes = s.ctes := by
  unfold complete_signal
  dsimp only
  split <;> rfl

section Slots

variable {s s' : ipc_state} (hwf : cspace_wf s.ctes)
include hwf

theorem endpoint.send_ipc_wf {ep src_thread badge : Nat} {blocking do_call can_grant can_grant_reply : Bool}
    (h : endpoint.send_ipc s ep src_thread blocking do_call can_grant badge can_grant_reply = some s') :
    cspace_wf s'.ctes := by
  unfold endpoint.send_ipc at h
  split at h
  · -- a receiver waits: it gets the message, and a call gives it a reply cap
    dsimp only at h
    split at h
    · cases h
    obtain ⟨s₁, ht, h⟩ := Option.bind_eq_some_iff.1 h
    have h1 : cspace_wf s₁.ctes := do_ipc_transfer_wf (by simpa [ep_dequeue_at_ctes] using hwf) ht
    split at h
    · split at h
      · obtain ⟨k, hk, rfl⟩ := Option.map_eq_some_iff.1 h
        exact setup_caller_cap_wf (by simpa [possible_switch_to_ctes] using h1) hk
      · cases h
        simpa [possible_switch_to_ctes] using h1
    · cases h
      simpa [possible_switch_to_ctes] using h1
  · obtain ⟨k, hk, rfl⟩ := Option.map_eq_some_iff.1 h
    exact send_ipc_wf hwf hk

theorem endpoint.receive_ipc_wf {ep thread : Nat} {is_blocking grant : Bool}
    (h : endpoint.receive_ipc s ep thread is_blocking grant = some s') : cspace_wf s'.ctes := by
  unfold endpoint.receive_ipc at h
  dsimp only at h
  split at h
  · -- no signal was pending, and a sender waits: its message is handed over
    split at h
    · cases h
    obtain ⟨s₁, ht, h⟩ := Option.bind_eq_some_iff.1 h
    have h1 : cspace_wf s₁.ctes :=
      do_ipc_transfer_wf (by simpa [ep_dequeue_at_ctes, complete_signal_ctes] using hwf) ht
    split at h
    · split at h
      · obtain ⟨k, hk, rfl⟩ := Option.map_eq_some_iff.1 h
        exact setup_caller_cap_wf h1 hk
      · cases h
        simpa using h1
    · cases h
      simpa [possible_switch_to_ctes] using h1
  · obtain ⟨k, hk, rfl⟩ := Option.map_eq_some_iff.1 h
    exact receive_ipc_wf hwf hk

theorem tcb_t.do_reply_wf {fuel replier receiver slot : Nat} {grant : Bool} (hs : slot ≠ 0)
    (h : tcb_t.do_reply fuel s replier receiver slot grant = some s') : cspace_wf s'.ctes := by
  unfold tcb_t.do_reply at h
  split at h
  · cases h
  split at h
  · -- a reply message: the transfer, then the deletion of the reply cap
    obtain ⟨s₁, ht, h⟩ := Option.bind_eq_some_iff.1 h
    obtain ⟨k, hk, h⟩ := Option.bind_eq_some_iff.1 h
    cases h
    have h1 := (do_ipc_transfer_wf hwf ht).of_empties (empties_of_cte_delete_one hs hk)
    simpa [possible_switch_to_ctes] using h1
  · -- the answer to a fault: the deletion, then the reply read back
    obtain ⟨k, hk, h⟩ := Option.bind_eq_some_iff.1 h
    obtain ⟨⟨s₁, restart⟩, hf, h⟩ := Option.bind_eq_some_iff.1 h
    have h1 : cspace_wf s₁.ctes := by
      rw [(tcb_t.do_fault_reply_transfer_regs_only hf).2]
      exact hwf.of_empties (empties_of_cte_delete_one hs hk)
    dsimp only at h
    split at h <;> cases h <;> simpa [possible_switch_to_ctes] using h1

theorem handle_reply_wf {fuel : Nat} (h : handle_reply fuel s = some s') : cspace_wf s'.ctes := by
  unfold handle_reply at h
  dsimp only at h
  split at h
  · split at h
    · cases h
      exact hwf
    · exact tcb_t.do_reply_wf hwf (tcb_cte_slot_ne_zero (by decide) _) h
  · cases h
    exact hwf

end Slots

/-! ## The queues -/

/-- **Frame of a transfer.** What writes registers and slots alone keeps the
queue invariant. -/
theorem ipc_queues.of_writes_msg {D : List Nat} {k k' : KernelState} {Q : ipc_obj → List Nat}
    (h : ipc_queues D k Q) (hw : writes_msg k k') : ipc_queues D k' Q :=
  h.frame (fun a _ => congrArg (fun k => (k.tcbs a).ipc_view) hw)
    (fun _ a _ => congrArg (fun k => (k.tcbs a).tcbEPNext) hw)
    (fun _ a _ => congrArg (fun k => (k.tcbs a).tcbEPPrev) hw)
    (by have he := congrArg KernelState.eps hw; exact he) (by have he := congrArg KernelState.ntfns hw; exact he)

/-- The deletion of a reply cap writes slots alone. -/
theorem ipc_queues.of_delete_one {D : List Nat} {k k' : KernelState} {Q : ipc_obj → List Nat}
    (h : ipc_queues D k Q) {slot : Nat} (hr : delete_one k slot = some k') : ipc_queues D k' Q := by
  unfold delete_one at hr
  split at hr
  · cases hr
    exact h
  · cases hr
    exact h.with_ctes _
  · cases hr

section Queues

variable {s s' : ipc_state}

theorem ipc_inv_endpoint_send_ipc (h : ipc_inv s.toKernelState) {ep src_thread : Nat} (hsrc0 : src_thread ≠ 0)
    (hsrc : (s.tcbs src_thread).tcbState.tsType.is_ipc_queued = false)
    {blocking do_call can_grant can_grant_reply : Bool} {badge : Nat}
    (hr : endpoint.send_ipc s ep src_thread blocking do_call can_grant badge can_grant_reply = some s') :
    ipc_inv s'.toKernelState := by
  unfold endpoint.send_ipc at hr
  split at hr
  · dsimp only at hr
    split at hr
    · cases hr
    -- a receiver waits: the head of the queue is taken off, gets the message and runs
    next hd =>
    obtain ⟨Q, hQ⟩ := h
    obtain ⟨r, hr'⟩ : ∃ r, Q (.ep ep) = (s.eps ep).get_queue.head :: r := hQ.eq_head_cons hd
    obtain ⟨s₁, ht, hr⟩ := Option.bind_eq_some_iff.1 hr
    have h1 := (hQ.unlink_ep (l := []) hr').of_writes_msg (tcb_t.do_ipc_transfer_writes_msg ht)
    have h2 := (h1.release_as (show ThreadStateRunning.is_ipc_queued = false from rfl)).of_sched_only
      (sched_only_possible_switch_to _ (s.eps ep).get_queue.head)
    -- the sender was on no queue, and still is on none
    have hoff := not_mem_update_of_subset (hQ.not_mem_of_not_queued hsrc)
      (fun a ha => hr' ▸ List.mem_cons_of_mem _ ha)
    split at hr
    · split at hr
      · obtain ⟨k, hk, rfl⟩ := Option.map_eq_some_iff.1 hr
        exact ⟨_, (h2.hold hoff).release_setup_caller_cap hk⟩
      · cases hr
        exact ⟨_, (h2.hold hoff).release_as rfl⟩
    · cases hr
      exact ⟨_, h2⟩
  · obtain ⟨k, hk, rfl⟩ := Option.map_eq_some_iff.1 hr
    exact ipc_inv_send_ipc h hsrc0 hsrc hk

theorem ipc_inv_endpoint_receive_ipc (h : ipc_inv s.toKernelState) {ep thread : Nat} (ht0 : thread ≠ 0)
    (hth : (s.tcbs thread).tcbState.tsType.is_ipc_queued = false) {is_blocking grant : Bool}
    (hr : endpoint.receive_ipc s ep thread is_blocking grant = some s') : ipc_inv s'.toKernelState := by
  unfold endpoint.receive_ipc at hr
  dsimp only at hr
  split at hr
  · split at hr
    · cases hr
    -- no signal was pending, and a sender waits: the head of the queue is taken off
    next hne =>
    obtain ⟨Q, hQ⟩ := ipc_inv_complete_signal h thread
    have hd : ((complete_signal s.toKernelState thread).2.eps ep).get_queue.head ≠ 0 := by
      simpa [tcb_queue_t.empty] using hne
    obtain ⟨r, hr'⟩ : ∃ r, Q (.ep ep) = ((complete_signal s.toKernelState thread).2.eps ep).get_queue.head :: r :=
      hQ.eq_head_cons hd
    obtain ⟨s₁, ht, hr⟩ := Option.bind_eq_some_iff.1 hr
    have h1 := (hQ.unlink_ep (l := []) hr').of_writes_msg (tcb_t.do_ipc_transfer_writes_msg ht)
    split at hr
    · split at hr
      · obtain ⟨k, hk, rfl⟩ := Option.map_eq_some_iff.1 hr
        exact ⟨_, h1.release_setup_caller_cap hk⟩
      · cases hr
        exact ⟨_, h1.release_as rfl⟩
    · cases hr
      exact ⟨_, (h1.release_as rfl).of_sched_only (sched_only_possible_switch_to _ _)⟩
  · obtain ⟨k, hk, rfl⟩ := Option.map_eq_some_iff.1 hr
    exact ipc_inv_receive_ipc h ht0 hth hk

/-- The reply to a thread that waits for it, with the reply cap in `slot`. -/
theorem ipc_inv_do_reply (h : ipc_inv s.toKernelState) {fuel replier receiver slot : Nat} {grant : Bool}
    (hslot : ∃ t g m, cap_of s.ctes slot = .reply_cap t g m)
    (hr : tcb_t.do_reply fuel s replier receiver slot grant = some s') : ipc_inv s'.toKernelState := by
  unfold tcb_t.do_reply at hr
  split at hr
  · cases hr
  next hst =>
  -- the receiver waits for the reply, on no queue: it is held until its new state
  obtain ⟨Q, hQ⟩ := h
  have h0 := hQ.hold_idle (t := receiver) (by simp only [tcb_t.get_state, not_not] at hst; rw [hst]; rfl)
  obtain ⟨t, g, m, hcap⟩ := hslot
  split at hr
  · obtain ⟨s₁, ht, hr⟩ := Option.bind_eq_some_iff.1 hr
    obtain ⟨k, hk, hr⟩ := Option.bind_eq_some_iff.1 hr
    cases hr
    -- the transfer leaves the reply cap, whose deletion empties its slot alone
    have hcap₁ : cap_of s₁.ctes slot = .reply_cap t g m :=
      (tcb_t.do_ipc_transfer_cap_of ht (by simp [hcap]) (by simp [hcap, cap.get_tag])).trans hcap
    rw [cte_t.delete_one_eq_delete_one (.inr ⟨t, g, m, hcap₁⟩)] at hk
    have h1 := (h0.of_writes_msg (tcb_t.do_ipc_transfer_writes_msg ht)).of_delete_one hk
    exact ⟨Q, (h1.release_as rfl).of_sched_only (sched_only_possible_switch_to _ _)⟩
  · obtain ⟨k, hk, hr⟩ := Option.bind_eq_some_iff.1 hr
    obtain ⟨⟨s₁, restart⟩, hf, hr⟩ := Option.bind_eq_some_iff.1 hr
    rw [cte_t.delete_one_eq_delete_one (.inr ⟨t, g, m, hcap⟩)] at hk
    -- the fault is cleared, which no queue reads
    have h1 := ((h0.of_delete_one hk).of_writes_msg (tcb_t.do_fault_reply_transfer_regs_only hf).1).modify_tcb
      (t := receiver) (f := fun tcb => { tcb with tcbFault := .seL4_Fault_NullFault }) (fun _ => rfl) rfl rfl
    dsimp only at hr
    split at hr <;> cases hr
    · exact ⟨Q, (h1.release_as rfl).of_sched_only (sched_only_possible_switch_to _ _)⟩
    · exact ⟨Q, h1.release_as rfl⟩

theorem ipc_inv_handle_reply (h : ipc_inv s.toKernelState) {fuel : Nat} (hr : handle_reply fuel s = some s') :
    ipc_inv s'.toKernelState := by
  unfold handle_reply at hr
  dsimp only at hr
  split at hr
  · next hcap =>
    split at hr
    · cases hr
      exact h
    · exact ipc_inv_do_reply h ⟨_, _, _, hcap⟩ hr
  · cases hr
    exact h

end Queues

/-! ## Every run -/

/-- The operations that hand a message over, with their arguments. -/
inductive msg_op where
  | send_ipc (ep src_thread : Nat) (blocking do_call can_grant : Bool) (badge : Nat) (can_grant_reply : Bool)
  | receive_ipc (ep thread : Nat) (is_blocking grant : Bool)
  | handle_reply
  deriving DecidableEq, Repr

namespace msg_op

/-- The operation on a state; a deletion runs its loops for at most `fuel`
turns. -/
def run (fuel : Nat) : msg_op → ipc_state → Option ipc_state
  | .send_ipc ep src blocking do_call can_grant badge can_grant_reply, s =>
    endpoint.send_ipc s ep src blocking do_call can_grant badge can_grant_reply
  | .receive_ipc ep thread is_blocking grant, s => endpoint.receive_ipc s ep thread is_blocking grant
  | .handle_reply, s => Rel4Kernel.handle_reply fuel s

/-- What the callers establish: a thread that sends or receives is not null
and waits on nothing, as the current thread does. -/
def pre (s : ipc_state) : msg_op → Bool
  | .send_ipc _ src .. => src != 0 && !(s.tcbs src).tcbState.tsType.is_ipc_queued
  | .receive_ipc _ thread .. => thread != 0 && !(s.tcbs thread).tcbState.tsType.is_ipc_queued
  | .handle_reply => true

/-- **Step lemma for the slots**: every operation keeps them well formed. -/
theorem run_wf {s s' : ipc_state} {fuel : Nat} {op : msg_op} (hwf : cspace_wf s.ctes)
    (hr : op.run fuel s = some s') : cspace_wf s'.ctes := by
  cases op with
  | send_ipc => exact endpoint.send_ipc_wf hwf hr
  | receive_ipc => exact endpoint.receive_ipc_wf hwf hr
  | handle_reply => exact handle_reply_wf hwf hr

/-- **Step lemma for the queues**: every operation, called as its callers
call it, keeps the queue invariant. -/
theorem run_ipc_inv {s s' : ipc_state} {fuel : Nat} {op : msg_op} (h : ipc_inv s.toKernelState)
    (hpre : op.pre s = true) (hr : op.run fuel s = some s') : ipc_inv s'.toKernelState := by
  cases op <;> simp only [pre, Bool.and_eq_true, bne_iff_ne, ne_eq, Bool.not_eq_eq_eq_not, Bool.not_true]
    at hpre
  case send_ipc => exact ipc_inv_endpoint_send_ipc h hpre.1 hpre.2 hr
  case receive_ipc => exact ipc_inv_endpoint_receive_ipc h hpre.1 hpre.2 hr
  case handle_reply => exact ipc_inv_handle_reply h hr

end msg_op

/-- The operations of the queue model that hand no message over: all but
the send and the receive, whose full form is a `msg_op`. -/
def ipc_op.without_msg : ipc_op → Bool
  | .send_ipc .. | .receive_ipc .. => false
  | _ => true

/-- One step of the IPC with its messages: an operation that hands a message
over, one of the queue model that hands none, or the user at work, writing
registers and its IPC buffers. -/
inductive msg_step : ipc_state → ipc_state → Prop
  | msg {s s' : ipc_state} (op : msg_op) (fuel : Nat) : op.pre s = true → op.run fuel s = some s' → msg_step s s'
  | queue {s : ipc_state} {k : KernelState} (op : ipc_op) (fuel : Nat) : op.without_msg = true →
      op.pre s.toKernelState = true → op.run fuel s.toKernelState = some k → msg_step s (s.with_kernel k)
  | user {s s' : ipc_state} : regs_only s.toKernelState s'.toKernelState → msg_step s s'

/-- What every step keeps: well-formed slots and the queue invariant. -/
structure msg_wf (s : ipc_state) : Prop where
  cspace : cspace_wf s.ctes
  queues : ipc_inv s.toKernelState

/-- **Step lemma**: every step keeps `msg_wf`. -/
theorem msg_step.wf {s s' : ipc_state} (hs : msg_wf s) (h : msg_step s s') : msg_wf s' := by
  cases h with
  | msg op fuel hpre hr => exact ⟨op.run_wf hs.cspace hr, op.run_ipc_inv hs.queues hpre hr⟩
  | queue op fuel _ hpre hr => exact ⟨op.run_cspace_wf hs.cspace hr, op.run_ipc_inv hs.queues hpre hr⟩
  | user hregs =>
    obtain ⟨Q, hQ⟩ := hs.queues
    exact ⟨hregs.2 ▸ hs.cspace, Q, hQ.of_writes_msg hregs.1⟩

/-- **Every run of the IPC, with its messages, keeps the slots well formed
and the queues sound.** From a state with well-formed slots and the queue
invariant, every interleaving of sends and receives that hand messages and
caps over, replies to calls and to faults, the other operations on the
queues, and the user writing registers and IPC buffers, reaches only states
with both. -/
theorem msg_reachable_wf {s₀ s : ipc_state} (h0 : msg_wf s₀) (hr : Relation.ReflTransGen msg_step s₀ s) :
    msg_wf s := by
  induction hr with
  | refl => exact h0
  | tail _ hst ih => exact msg_step.wf ih hst

/-- The two threads of `grantState`, neither waiting, with their slots
unlinked. -/
theorem grantState_msg_wf : msg_wf (grantState false) where
  cspace := cspace_wf_of_unlinked (fun p => by simp only [grantState]; split_ifs <;> rfl)
    fun p => by simp only [cap_of, grantState]; split_ifs <;> simp [cap.cnode_ptr]
  queues := ipc_inv_of_empty (fun _ => ⟨rfl, rfl⟩) (fun _ => ⟨nofun, rfl⟩)
    fun t => by simp only [grantState]; split_ifs <;> rfl

/-- From `grantState`, the receiver blocks on the endpoint at `0x3000` and
the sender's send hands the message and its extra cap, the notification cap
of slot 1, over into the receive slot. -/
theorem msg_reachable_wf_after_grant :
    ∃ s, Relation.ReflTransGen msg_step (grantState false) s ∧
      cap_of s.ctes 0x50060 = .notification_cap 5 1 1 0x6000 ∧ msg_wf s := by
  have hrun : (endpoint.receive_ipc (grantState false) 0x3000 0x20000 true true).bind (fun s1 =>
      (endpoint.send_ipc s1 0x3000 0x10000 true false true 9 false).map fun s2 =>
        ((msg_op.send_ipc 0x3000 0x10000 true false true 9 false).pre s1, cap_of s2.ctes 0x50060)) =
      some (true, .notification_cap 5 1 1 0x6000) := by
    decide +kernel
  obtain ⟨s1, hrecv, h⟩ := Option.bind_eq_some_iff.1 hrun
  obtain ⟨s2, hsend, he⟩ := Option.map_eq_some_iff.1 h
  simp only [Prod.mk.injEq] at he
  obtain ⟨hpre, hcap⟩ := he
  have hr : Relation.ReflTransGen msg_step (grantState false) s2 :=
    .tail (.single (.msg (.receive_ipc 0x3000 0x20000 true true) 0 (by decide) hrecv))
      (.msg (.send_ipc 0x3000 0x10000 true false true 9 false) 0 hpre hsend)
  exact ⟨s2, hr, hcap, msg_reachable_wf grantState_msg_wf hr⟩

/-! ## A send to a full receive slot -/

/-- `grantState` with the receiver waiting on the endpoint at `0x3000`. -/
def grantRecvState (full : Bool) : ipc_state :=
  { grantState full with
    eps := fun p => if p = 0x3000 then { epQueue_head := 0x20000, epQueue_tail := 0x20000, state := .Recv } else {} }

/-- **A send that hands a cap to a receive slot that holds one panics.**
For every state in which a receiver waits on the endpoint, and the sender,
with no fault and the right to grant, has a first extra cap that
`set_transfer_caps` hands over as a cap while the receiver's receive slot
holds a cap, the send reaches the assertion of `cte_insert` and panics.
`getReceiveSlots` would have found no receive slot, and the message would
have gone without the cap. -/
theorem send_ipc_panics_of_full_receive_slot {s : ipc_state} {ep sender receiver badge slot buffer dest : Nat}
    {blocking do_call can_grant_reply : Bool} {rest : List Nat} {dc : deriveCap_ret}
    (hrecv : (s.eps ep).state = .Recv) (hhead : (s.eps ep).get_queue.head = receiver) (hr0 : receiver ≠ 0)
    (hfault : (s.tcbs sender).tcbFault = .seL4_Fault_NullFault)
    (hextra : tcb_t.lookup_extra_caps s sender = some (some (slot :: rest)))
    (hbuf : tcb_t.lookup_mut_ipc_buffer s receiver true = some (some buffer))
    (hdest : tcb_t.get_receive_slot s receiver = some (some dest)) (hfull : cap_of s.ctes dest ≠ .null_cap)
    (hslot : slot ≠ 0) (hwrap : (cap_of s.ctes slot).unwrapped_badge (some ep) = none)
    (hdc : cte_t.derive_cap s.ctes slot (cap_of s.ctes slot) = some dc) (hok : dc.status = .EXCEPTION_NONE)
    (hnull : dc.capability ≠ .null_cap) :
    endpoint.send_ipc s ep sender blocking do_call true badge can_grant_reply = none := by
  -- taking the receiver off the queue writes nothing the transfer reads
  have hsame : same_lookups s (s.with_kernel (ep_dequeue_at s.toKernelState ep receiver)) :=
    ⟨ep_dequeue_at_ctes s.toKernelState receiver ep, rfl, fun _ => rfl, fun _ => rfl, fun _ => rfl⟩
  have hregs : ((s.with_kernel (ep_dequeue_at s.toKernelState ep receiver)).tcbs sender).tcbArch =
      (s.tcbs sender).tcbArch := by
    have hunlinked := congrArg tcb_t.tcbArch
      (@tcb_queue_t.ep_dequeue_ep_unlinked s.tcbs (s.eps ep).get_queue receiver sender)
    simp only [ipc_state.with_kernel_toKernelState, ep_dequeue_at_tcbs]
    exact hunlinked
  have hfault₁ : ((s.with_kernel (ep_dequeue_at s.toKernelState ep receiver)).tcbs sender).tcbFault =
      .seL4_Fault_NullFault := by
    simp only [ipc_state.with_kernel_toKernelState, ep_dequeue_at_tcbs, tcb_queue_t.ep_dequeue_tcbFault]
    exact hfault
  have hnone : tcb_t.do_ipc_transfer (s.with_kernel (ep_dequeue_at s.toKernelState ep receiver)) sender receiver
      (some ep) badge true = none := by
    unfold tcb_t.do_ipc_transfer
    rw [if_pos hfault₁]
    exact do_normal_transfer_panics_of_full_receive_slot ((hsame.lookup_extra_caps rfl hregs).trans hextra)
      ((hsame.lookup_mut_ipc_buffer _ _).trans hbuf) ((hsame.get_receive_slot _).trans hdest)
      (by rw [hsame.ctes]; exact hfull) hslot (by rw [hsame.ctes]; exact hwrap) (by rw [hsame.ctes]; exact hdc) hok
      hnull
  unfold endpoint.send_ipc
  split
  · dsimp only
    rw [hhead, if_neg hr0]
    simp only [Option.bind_eq_bind, hnone, Option.bind_none]
  · rename_i hne
    exact absurd hrecv hne

/-- With the receive slot empty the notification cap arrives in it; with an
endpoint cap there, the same send panics. -/
theorem send_ipc_panics_of_full_receive_slot_grant :
    (endpoint.send_ipc (grantRecvState false) 0x3000 0x10000 true false true 9 false).map
        (fun s => cap_of s.ctes 0x50060) = some (.notification_cap 5 1 1 0x6000) ∧
      endpoint.send_ipc (grantRecvState true) 0x3000 0x10000 true false true 9 false = none :=
  ⟨by decide +kernel, @send_ipc_panics_of_full_receive_slot (grantRecvState true) 0x3000 0x10000 0x20000 9 0x40020
    0x90000 0x50060 true false false [] ⟨.EXCEPTION_NONE, .notification_cap 5 1 1 0x6000⟩ (by decide) rfl
    (by decide) rfl (by decide +kernel) (by decide +kernel) (by decide +kernel) (by decide) (by decide) (by decide)
    (by decide) rfl (by decide)⟩

end Rel4Kernel
