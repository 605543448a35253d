/-
`kernel::fastpath`: the IPC fast paths of the non-MCS, non-SMP build, and the
capability lookup they share.

Each fast path first runs a list of checks, touching nothing; a failed check
hands the system call to `slowpath`. Past the checks it commits: it performs
the whole IPC with a handful of direct stores and returns to the new current
thread through `fastpath_restore`. `fastpath_outcome` records which of the two
happened, with the state the commit left and the two words it returns.

`lookup_fp` walks guarded CNodes in a loop that only stops when the bits run
out or a slot holds something other than a CNode cap. Every CNode has a radix
of at least one bit, so the loop runs at most `WORD_BITS` times; the model
gives it that many rounds and answers `none` if they were not enough.
-/
import Rel4Kernel.Task.Scheduler
import Rel4Kernel.Task.TcbQueue

set_option autoImplicit false

namespace Rel4Kernel

open ThreadState

/-! ## The message-info word -/

/-- `seL4_MessageInfo::get_length`: field `length`, bits `0 .. 7`. -/
def seL4_MessageInfo.get_length (w : Nat) : Nat := w % 2 ^ SEL4_MSG_LENGTH_BITS

/-- `seL4_MessageInfo::set_capsUnwrapped` followed by `to_word`: field
`capsUnwrapped` is bits `9 .. 12`. -/
def seL4_MessageInfo.set_capsUnwrapped (w v : Nat) : Nat :=
  w - ((w >>> 9) % 2 ^ 3) <<< 9 + (v % 2 ^ 3) <<< 9

/-- `fastpath_mi_check`: more than four message registers, or any extra cap. -/
def fastpath_mi_check (msgInfo : Nat) : Bool :=
  msgInfo % 2 ^ (SEL4_MSG_LENGTH_BITS + SEL4_MSG_EXTRA_CAP_BITS) > 4

/-! ## Capability lookup -/

/-- The rounds of `lookup_fp`'s loop from a CNode cap on, at most `fuel` of
them; `bits` is the number of address bits already consumed. -/
def lookup_fp_loop (ctes : Nat → cte_t) (cptr : Nat) :
    Nat → Nat → Nat → Nat → Nat → Nat → Option cap
  | 0, _, _, _, _, _ => none
  | fuel + 1, capGuard, guardBits, radixBits, capCNodePtr, bits =>
    let cptr2 := wshl cptr bits
    if guardBits ≠ 0 ∧ wshr cptr2 (WORD_BITS - guardBits) ≠ capGuard then some .null_cap
    else
      let radix := wshr (wshl cptr2 guardBits) (WORD_BITS - radixBits)
      let capability := (ctes (capCNodePtr + radix * CTE_SIZE)).capability
      let bits := bits + guardBits + radixBits
      -- leaving the loop: more bits than the word has is a failed lookup
      let found := if bits > WORD_BITS then cap.null_cap else capability
      match capability with
      | .cnode_cap g gs r p =>
        if bits < WORD_BITS then lookup_fp_loop ctes cptr fuel g gs r p bits else some found
      | _ => some found

/-- `lookup_fp`: the cap that `cptr` names in the CSpace rooted at `c`, or
`cap_null_cap` where the lookup fails. -/
def lookup_fp (ctes : Nat → cte_t) (c : cap) (cptr : Nat) : Option cap :=
  match c with
  | .cnode_cap capGuard guardBits radixBits capCNodePtr =>
    lookup_fp_loop ctes cptr WORD_BITS capGuard guardBits radixBits capCNodePtr 0
  | _ => some .null_cap

/-! ## Pieces of the commit -/

/-- `isValidVTableRoot_fp`: a mapped page-table cap. -/
def isValidVTableRoot_fp (c : cap) : Bool :=
  match c with
  | .page_table_cap _ _ capPTIsMapped _ => capPTIsMapped != 0
  | _ => false

/-- `fastpath_copy_mrs`: the first `length` message registers of `src`. -/
def fastpath_copy_mrs (length : Nat) (src dest : tcb_t) : tcb_t :=
  { dest with tcbArch := copy_range dest.tcbArch src.tcbArch MSG_REGISTER_0 (MSG_REGISTER_0 + length) }

/-- `switch_to_thread_fp`: install the thread's address space and make it
current. -/
def switch_to_thread_fp (s : KernelState) (thread vroot stored_hw_asid : Nat) : KernelState :=
  { s with vspaceRoot := (vroot, stored_hw_asid), ksCurThread := thread }

@[simp] theorem switch_to_thread_fp_tcbs (s : KernelState) (thread vroot asid : Nat) :
    (switch_to_thread_fp s thread vroot asid).tcbs = s.tcbs := rfl

@[simp] theorem switch_to_thread_fp_eps (s : KernelState) (thread vroot asid : Nat) :
    (switch_to_thread_fp s thread vroot asid).eps = s.eps := rfl

@[simp] theorem switch_to_thread_fp_ctes (s : KernelState) (thread vroot asid : Nat) :
    (switch_to_thread_fp s thread vroot asid).ctes = s.ctes := rfl

/-- How a fast path ends: handed to the slow path before any store, or
committed and returning to the user with `fastpath_restore(badge, msgInfo, _)`
from the state it left. -/
inductive fastpath_outcome where
  | slowpath
  | restore (s : KernelState) (badge msgInfo : Nat)

/-! ## `fastpath_call` -/

/-- The stores `fastpath_call` makes past its checks: `dest` leaves the front
of the endpoint queue, `cur` blocks on the reply, the reply cap goes into
`dest`'s caller slot after `cur`'s master reply cap, and `dest` runs with the
message. Every read of `dest` goes to the heap again, as the `&mut` accesses
do. -/
def fastpath_call_commit (s : KernelState)
    (cur destPtr capEPPtr length capPTBasePtr capPTMappedASID : Nat) : KernelState :=
  let s := s.modifyEp capEPPtr fun ep => { ep with epQueue_head := (s.tcbs destPtr).tcbEPNext }
  let s :=
    if (s.tcbs destPtr).tcbEPNext ≠ 0 then
      s.modifyTcb (s.tcbs destPtr).tcbEPNext fun t => { t with tcbEPNext := 0 }
    else s.modifyEp capEPPtr fun ep => { ep with epQueue_tail := 0, state := .Idle }
  let s := s.modifyTcb cur fun t =>
    { t with tcbState := t.tcbState.set_word0 0 ThreadStateBlockedOnReply }
  let reply_slot := tcb_cte_slot cur TCB_REPLY
  let caller_slot := tcb_cte_slot destPtr TCB_CALLER
  let reply_can_grant := (s.tcbs destPtr).tcbState.blockingIPCCanGrant
  let s := s.modifyCte caller_slot fun c => { c with capability := .reply_cap cur reply_can_grant 0 }
  let s := s.modifyCte caller_slot fun c =>
    { c with cteMDBNode := { c.cteMDBNode with mdbPrev := reply_slot } }
  let s := s.modifyCte reply_slot fun c =>
    { c with cteMDBNode := c.cteMDBNode.mset_mdbNext_mdbRevocable_mdbFirstBadged caller_slot 1 1 }
  let s := s.modifyTcb destPtr fun t => fastpath_copy_mrs length (s.tcbs cur) t
  let s := s.modifyTcb destPtr fun t =>
    { t with tcbState := t.tcbState.set_word0 0 ThreadStateRunning }
  switch_to_thread_fp s destPtr capPTBasePtr capPTMappedASID

/-- `fastpath_call` (non-MCS, non-SMP). -/
def fastpath_call (s : KernelState) (cptr msgInfo : Nat) : Option fastpath_outcome := do
  let cur := s.ksCurThread
  let current := s.tcbs cur
  let length := seL4_MessageInfo.get_length msgInfo
  if fastpath_mi_check msgInfo ∨ current.tcbFault ≠ .seL4_Fault_NullFault then
    return .slowpath
  let lookup_fp_ret ← lookup_fp s.ctes (s.ctes (tcb_cte_slot cur TCB_CTABLE)).capability cptr
  let .endpoint_cap capEPBadge capCanGrantReply capCanGrant _ capCanSend capEPPtr := lookup_fp_ret
    | return .slowpath
  if capCanSend = 0 then return .slowpath
  if (s.eps capEPPtr).state ≠ .Recv then return .slowpath
  let destPtr := (s.eps capEPPtr).epQueue_head
  let vtable := (s.ctes (tcb_cte_slot destPtr TCB_VTABLE)).capability
  if !isValidVTableRoot_fp vtable then return .slowpath
  -- never the fallback: `isValidVTableRoot_fp` checked the tag
  let .page_table_cap capPTMappedASID capPTBasePtr _ _ := vtable | return .slowpath
  let dest := s.tcbs destPtr
  if dest.tcbPriority < current.tcbPriority ∧ !is_highest_prio s 0 dest.tcbPriority then
    return .slowpath
  if capCanGrant = 0 ∧ capCanGrantReply = 0 then return .slowpath
  return .restore (fastpath_call_commit s cur destPtr capEPPtr length capPTBasePtr capPTMappedASID)
    capEPBadge (seL4_MessageInfo.set_capsUnwrapped msgInfo 0)

/-- **What a committed `fastpath_call` did**: every check passed, and the
state is the commit's at the endpoint the looked-up cap names. -/
theorem fastpath_call_eq_restore {s s' : KernelState} {cptr msgInfo badge mi : Nat}
    (h : fastpath_call s cptr msgInfo = some (.restore s' badge mi)) :
    ∃ capCanGrantReply capCanGrant capCanReceive capCanSend capEPPtr capPTMappedASID capPTBasePtr
      capPTIsMapped capPTMappedAddress,
      fastpath_mi_check msgInfo = false ∧ (s.tcbs s.ksCurThread).tcbFault = .seL4_Fault_NullFault ∧
      lookup_fp s.ctes (s.ctes (tcb_cte_slot s.ksCurThread TCB_CTABLE)).capability cptr =
        some (.endpoint_cap badge capCanGrantReply capCanGrant capCanReceive capCanSend capEPPtr) ∧
      capCanSend ≠ 0 ∧ (s.eps capEPPtr).state = .Recv ∧
      (s.ctes (tcb_cte_slot (s.eps capEPPtr).epQueue_head TCB_VTABLE)).capability =
        .page_table_cap capPTMappedASID capPTBasePtr capPTIsMapped capPTMappedAddress ∧
      capPTIsMapped ≠ 0 ∧
      ((s.tcbs (s.eps capEPPtr).epQueue_head).tcbPriority < (s.tcbs s.ksCurThread).tcbPriority →
        is_highest_prio s 0 (s.tcbs (s.eps capEPPtr).epQueue_head).tcbPriority) ∧
      (capCanGrant ≠ 0 ∨ capCanGrantReply ≠ 0) ∧
      s' = fastpath_call_commit s s.ksCurThread (s.eps capEPPtr).epQueue_head capEPPtr
        (seL4_MessageInfo.get_length msgInfo) capPTBasePtr capPTMappedASID ∧
      mi = seL4_MessageInfo.set_capsUnwrapped msgInfo 0 := by
  simp only [fastpath_call, Option.bind_eq_bind] at h
  -- every failed check returns `slowpath`, which `h` rules out
  split at h
  · simp at h
  rename_i hchk
  rw [Option.bind_eq_some_iff] at h
  obtain ⟨c, hl, h⟩ := h
  split at h
  case h_2 => simp at h
  rename_i capEPBadge capCanGrantReply capCanGrant capCanReceive capCanSend capEPPtr
  split at h
  · simp at h
  rename_i hsnd
  split at h
  · simp at h
  rename_i hst
  split at h
  · simp at h
  rename_i hvt
  split at h
  case h_2 => simp at h
  rename_i capPTMappedASID capPTBasePtr capPTIsMapped capPTMappedAddress hvtable
  split at h
  · simp at h
  rename_i hprio
  split at h
  · simp at h
  rename_i hgrant
  obtain ⟨rfl, rfl, rfl⟩ := h
  simp only [Bool.not_eq_true, not_or, ne_eq, Decidable.not_not] at hchk hst
  refine ⟨_, _, _, _, _, _, _, _, _, hchk.1, hchk.2, hl, hsnd, hst, hvtable, ?_, ?_, ?_, rfl, rfl⟩
  · simpa [isValidVTableRoot_fp, hvtable] using hvt
  · intro hlt
    simpa [hlt] using hprio
  · omega

section CallCommit

variable (s : KernelState) (cur destPtr capEPPtr length capPTBasePtr capPTMappedASID : Nat)

/-- The commit never writes a backward EP link. -/
theorem fastpath_call_commit_epPrev :
    epPrev (fastpath_call_commit s cur destPtr capEPPtr length capPTBasePtr capPTMappedASID).tcbs =
      epPrev s.tcbs := by
  by_cases h : (s.tcbs destPtr).tcbEPNext = 0 <;>
    simp [fastpath_call_commit, fastpath_copy_mrs, h]

theorem fastpath_call_commit_eps :
    (fastpath_call_commit s cur destPtr capEPPtr length capPTBasePtr capPTMappedASID).eps capEPPtr =
      if (s.tcbs destPtr).tcbEPNext ≠ 0 then
        { s.eps capEPPtr with epQueue_head := (s.tcbs destPtr).tcbEPNext }
      else { s.eps capEPPtr with epQueue_head := 0, epQueue_tail := 0, state := .Idle } := by
  by_cases h : (s.tcbs destPtr).tcbEPNext = 0 <;> simp [fastpath_call_commit, h]

end CallCommit

/-- **`fastpath_call` breaks a queue of two or more waiters.** Where the slow
path's `ep_dequeue` clears the backward link of the thread that becomes the
head, the fast path clears its forward link: the new head still points back
at `dest`, and the endpoint no longer holds a queue. -/
theorem fastpath_call_breaks_ep_queue {s s' : KernelState} {cptr msgInfo badge mi : Nat}
    {capCanGrantReply capCanGrant capCanReceive capCanSend e d b : Nat} {rest : List Nat}
    (hlookup : lookup_fp s.ctes (s.ctes (tcb_cte_slot s.ksCurThread TCB_CTABLE)).capability cptr =
      some (.endpoint_cap badge capCanGrantReply capCanGrant capCanReceive capCanSend e))
    (hq : EpQueue s.tcbs (s.eps e).get_queue (d :: b :: rest))
    (hf : fastpath_call s cptr msgInfo = some (.restore s' badge mi)) :
    (((s.eps e).get_queue.ep_dequeue s.tcbs d).2 b).tcbEPPrev = 0 ∧
      (s'.eps e).epQueue_head = b ∧ (s'.tcbs b).tcbEPPrev = d ∧
      ∀ xs, ¬ EpQueue s'.tcbs (s'.eps e).get_queue xs := by
  obtain ⟨_, _, _, _, e', asid, base, _, _, -, -, hl, -, -, -, -, -, -, rfl, -⟩ :=
    fastpath_call_eq_restore hf
  -- the fast path looked up the same cap, so it went through `e`
  obtain rfl : e = e' := by
    rw [hlookup] at hl
    cases hl
    rfl
  have hhead : (s.eps e).epQueue_head = d := hq.head_eq
  obtain ⟨hpd, hnd, hpb, -⟩ := hq.seg
  simp only [List.head?_cons, Option.getD_some, epNext_apply, epPrev_apply] at hpd hnd hpb
  have hd0 : d ≠ 0 := hq.mem_ne_nil (by simp)
  have hb0 : b ≠ 0 := hq.mem_ne_nil (by simp)
  have hnew : (fastpath_call_commit s s.ksCurThread d e (seL4_MessageInfo.get_length msgInfo)
      base asid).eps e = { s.eps e with epQueue_head := b } := by
    rw [fastpath_call_commit_eps, hnd, if_pos hb0]
  refine ⟨?_, ?_, ?_, ?_⟩
  · -- the slow path: `b` takes `d`'s backward link, which is the null pointer
    have hself : (s.tcbs d).tcbEPPrev ≠ d := by rw [hpd]; exact hd0.symm
    rw [← epPrev_apply, tcb_queue_t.ep_dequeue_epPrev hself]
    simp [hnd, hb0, hpd]
  · rw [hhead, hnew]
  · rw [hhead, ← epPrev_apply, fastpath_call_commit_epPrev, epPrev_apply, hpb]
  · intro xs hq'
    rw [hhead, hnew] at hq'
    have hxs : xs ≠ [] := fun h => hb0 (hq'.eq_nil_iff.mpr h)
    have h0 := hq'.prev_head hxs
    simp only [endpoint.get_queue, epPrev_apply] at h0
    rw [← epPrev_apply, fastpath_call_commit_epPrev, epPrev_apply, hpb] at h0
    exact hd0 h0

/-- Two threads wait to receive on the endpoint at `0x100`: `0x2200` at the
head, `0x3200` behind it. The caller `0x1200` holds, at index `5` of its
one-level CSpace (guard size 58, radix 6), a cap that may send and grant to the
endpoint, and the head's address space is a mapped page table. -/
def twoWaiterState : KernelState where
  tcbs := fun p =>
    if p = 0x2200 then { tcbEPNext := 0x3200 }
    else if p = 0x3200 then { tcbEPPrev := 0x2200 }
    else {}
  eps := fun p =>
    if p = 0x100 then { epQueue_head := 0x2200, epQueue_tail := 0x3200, state := .Recv } else {}
  ctes := fun p =>
    if p = 0x1000 then { capability := .cnode_cap 0 58 6 0x8000 }
    else if p = 0x80A0 then { capability := .endpoint_cap 7 0 1 1 1 0x100 }
    else if p = 0x2020 then { capability := .page_table_cap 1 0x9000 1 0 }
    else {}
  ksCurThread := 0x1200

theorem fastpath_call_two_waiters :
    ∃ s' mi, fastpath_call twoWaiterState 5 0 = some (.restore s' 7 mi) ∧
      (((twoWaiterState.eps 0x100).get_queue.ep_dequeue twoWaiterState.tcbs 0x2200).2
        0x3200).tcbEPPrev = 0 ∧
      (s'.eps 0x100).epQueue_head = 0x3200 ∧ (s'.tcbs 0x3200).tcbEPPrev = 0x2200 ∧
      ∀ xs, ¬ EpQueue s'.tcbs (s'.eps 0x100).get_queue xs := by
  have hq : EpQueue twoWaiterState.tcbs (twoWaiterState.eps 0x100).get_queue [0x2200, 0x3200] :=
    ⟨⟨rfl, rfl, rfl, rfl, trivial⟩, by decide, by decide, rfl, rfl⟩
  have hf : fastpath_call twoWaiterState 5 0 = some (.restore _ 7 _) := rfl
  exact ⟨_, _, hf, fastpath_call_breaks_ep_queue rfl hq hf⟩

/-! ## `fastpath_reply_recv` -/

/-- The stores `fastpath_reply_recv` makes past its checks: `cur` blocks
receiving on the endpoint at the back of its queue, the caller cap is deleted
(its CDT parent, the master reply slot, loses its only child), and the caller
runs with the message. -/
def fastpath_reply_recv_commit (s : KernelState)
    (cur capEPPtr capCanGrant callerPtr length capPTBasePtr capPTMappedASID : Nat) : KernelState :=
  let caller_slot := tcb_cte_slot cur TCB_CALLER
  let s := s.modifyTcb cur fun t =>
    { t with tcbState := { t.tcbState.set_word0 capEPPtr ThreadStateBlockedOnReceive with
        blockingIPCCanGrant := capCanGrant } }
  let tail := (s.eps capEPPtr).epQueue_tail
  let s :=
    if tail ≠ 0 then
      let s := s.modifyTcb tail fun t => { t with tcbEPNext := cur }
      s.modifyTcb cur fun t => { t with tcbEPPrev := tail, tcbEPNext := 0 }
    else
      let s := s.modifyTcb cur fun t => { t with tcbEPPrev := 0, tcbEPNext := 0 }
      s.modifyEp capEPPtr fun ep => { ep with epQueue_head := cur }
  let s := s.modifyEp capEPPtr fun ep => ep.mset_epQueue_tail_state cur .Recv
  let node := (s.ctes caller_slot).cteMDBNode.mdbPrev
  let s := s.modifyCte node fun c =>
    { c with cteMDBNode := c.cteMDBNode.mset_mdbNext_mdbRevocable_mdbFirstBadged 0 1 1 }
  let s := s.modifyCte caller_slot fun _ => { capability := .null_cap, cteMDBNode := {} }
  let s := s.modifyTcb callerPtr fun t => fastpath_copy_mrs length (s.tcbs cur) t
  let s := s.modifyTcb callerPtr fun t =>
    { t with tcbState := t.tcbState.set_word0 0 ThreadStateRunning }
  switch_to_thread_fp s callerPtr capPTBasePtr capPTMappedASID

/-- `fastpath_reply_recv` (non-MCS, non-SMP). -/
def fastpath_reply_recv (s : KernelState) (cptr msgInfo : Nat) : Option fastpath_outcome := do
  let cur := s.ksCurThread
  let current := s.tcbs cur
  let length := seL4_MessageInfo.get_length msgInfo
  if fastpath_mi_check msgInfo ∨ current.tcbFault ≠ .seL4_Fault_NullFault then
    return .slowpath
  let lookup_fp_ret ← lookup_fp s.ctes (s.ctes (tcb_cte_slot cur TCB_CTABLE)).capability cptr
  let .endpoint_cap _ _ capCanGrant _ capCanSend capEPPtr := lookup_fp_ret
    | return .slowpath
  if capCanSend = 0 then return .slowpath
  if current.tcbBoundNotification ≠ 0 ∧
      (s.ntfns current.tcbBoundNotification).state = .Active then
    return .slowpath
  if (s.eps capEPPtr).state = .Send then return .slowpath
  let .reply_cap callerPtr _ _ := (s.ctes (tcb_cte_slot cur TCB_CALLER)).capability
    | return .slowpath
  let caller := s.tcbs callerPtr
  if caller.tcbFault ≠ .seL4_Fault_NullFault then return .slowpath
  let vtable := (s.ctes (tcb_cte_slot callerPtr TCB_VTABLE)).capability
  if !isValidVTableRoot_fp vtable then return .slowpath
  -- never the fallback: `isValidVTableRoot_fp` checked the tag
  let .page_table_cap capPTMappedASID capPTBasePtr _ _ := vtable | return .slowpath
  if !is_highest_prio s 0 caller.tcbPriority then return .slowpath
  return .restore
    (fastpath_reply_recv_commit s cur capEPPtr capCanGrant callerPtr length capPTBasePtr
      capPTMappedASID)
    0 (seL4_MessageInfo.set_capsUnwrapped msgInfo 0)

/-- The current thread `0x1200` has a reply cap to its caller `0x2200`, whose
address space is a mapped page table, and at index `5` of its CSpace a cap to
the idle endpoint at `0x100` that may send and grant but not receive. -/
def replyRecvState : KernelState where
  ctes := fun p =>
    if p = 0x1000 then { capability := .cnode_cap 0 58 6 0x8000 }
    else if p = 0x80A0 then { capability := .endpoint_cap 0 0 1 0 1 0x100 }
    else if p = 0x1060 then { capability := .reply_cap 0x2200 1 0, cteMDBNode := { mdbPrev := 0x2040 } }
    else if p = 0x2040 then { capability := .reply_cap 0x2200 1 1, cteMDBNode := { mdbNext := 0x1060 } }
    else if p = 0x2020 then { capability := .page_table_cap 1 0x9000 1 0 }
    else {}
  ksCurThread := 0x1200

/-- `fastpath_reply_recv` blocks the current thread receiving on an endpoint
its cap gives it no right to receive from; `handle_recv` raises a cap fault
there instead. -/
theorem fastpath_reply_recv_without_receive_right :
    lookup_fp replyRecvState.ctes (replyRecvState.ctes (tcb_cte_slot 0x1200 TCB_CTABLE)).capability
        5 = some (.endpoint_cap 0 0 1 0 1 0x100) ∧
      ∃ s' mi, fastpath_reply_recv replyRecvState 5 0 = some (.restore s' 0 mi) ∧
        (s'.tcbs 0x1200).tcbState.tsType = ThreadStateBlockedOnReceive ∧
        (s'.tcbs 0x1200).tcbState.blockingObject = 0x100 ∧ (s'.eps 0x100).state = .Recv ∧
        (s'.eps 0x100).epQueue_head = 0x1200 :=
  ⟨rfl, _, _, rfl, rfl, rfl, rfl, rfl⟩

end Rel4Kernel
