/-
The MCS call stack: `reply::unlink` and `reply::push` (`reply.rs`),
`sched_context_donate`, `reply_remove_tcb` (`tcb.rs`),
`maybe_donate_sched_context` and
`maybe_return_sched_context` (`notification.rs`), and the call-stack writes
that the MCS fast path makes in place (`fastpath.rs`).

A scheduling context runs one thread at a time, and the two point at each
other (`tcbSchedContext`, `scTcb`). A reply object that waits to be used
names the thread it will wake (`replyTCB`), which names it back
(`replyObject`). The replies of nested calls on one scheduling context form a
stack: the context's `scReply` is the top, each reply's `replyNext` points up,
to the reply above or (with `isHead` set) to the scheduling context, and
`replyPrev` points down. `call_stack_inv` states these agreements, the first
two as pairings of `Lib.BackPointer`.

The operations that bind and unbind write these pointers two by two, a
pointer and its back pointer together. The fast path's copy of `reply::pop`
does not: `fastpath_reply_recv` stores the current thread into
`replyTCB` before it reads `replyTCB` back as the thread to give the
scheduling context to, so the context is left naming the current thread while
the caller holds it (`fastpath_reply_recv_breaks_binding`). The scheduler
writes none of these pointers, and no run of it breaks the agreements
(`call_stack_inv_of_sched_reachable`).
-/
import Rel4Kernel.Lib.BackPointer
import Rel4Kernel.Task.McsScheduler

set_option autoImplicit false

namespace Rel4Kernel

open Function BackPointer ThreadState

/-! ## Writing the pointers -/

namespace mcs_state

/-- `tcb.tcbSchedContext = v`. -/
def setTcbSchedContext (s : mcs_state) (t v : Nat) : mcs_state :=
  { s with tcbSchedContext := update s.tcbSchedContext t v }

/-- `tcb.tcbState.set_replyObject(v)`. -/
def setReplyObject (s : mcs_state) (t v : Nat) : mcs_state :=
  { s with replyObject := update s.replyObject t v }

/-- Write the reply object at `r`. -/
def modifyReply (s : mcs_state) (r : Nat) (f : reply_t → reply_t) : mcs_state :=
  { s with replies := update s.replies r (f (s.replies r)) }

/-- The thread each scheduling context runs, as a map. -/
def scTcbOf (s : mcs_state) : Nat → Nat := fun p => (s.scs p).scTcb

/-- The thread each reply object will wake, as a map. -/
def replyTCBOf (s : mcs_state) : Nat → Nat := fun r => (s.replies r).replyTCB

section Fields

variable (s : mcs_state) (t v r p : Nat) (f : reply_t → reply_t) (g : sched_context_t → sched_context_t)

@[simp] theorem setTcbSchedContext_tcbSchedContext :
    (s.setTcbSchedContext t v).tcbSchedContext = update s.tcbSchedContext t v := rfl
@[simp] theorem setTcbSchedContext_replyObject : (s.setTcbSchedContext t v).replyObject = s.replyObject := rfl
@[simp] theorem setTcbSchedContext_replies : (s.setTcbSchedContext t v).replies = s.replies := rfl
@[simp] theorem setTcbSchedContext_scs : (s.setTcbSchedContext t v).scs = s.scs := rfl
@[simp] theorem setTcbSchedContext_ksCurThread :
    (s.setTcbSchedContext t v).ksCurThread = s.ksCurThread := rfl

@[simp] theorem setReplyObject_replyObject :
    (s.setReplyObject t v).replyObject = update s.replyObject t v := rfl
@[simp] theorem setReplyObject_tcbSchedContext :
    (s.setReplyObject t v).tcbSchedContext = s.tcbSchedContext := rfl
@[simp] theorem setReplyObject_replies : (s.setReplyObject t v).replies = s.replies := rfl
@[simp] theorem setReplyObject_scs : (s.setReplyObject t v).scs = s.scs := rfl
@[simp] theorem setReplyObject_ksCurThread : (s.setReplyObject t v).ksCurThread = s.ksCurThread := rfl

@[simp] theorem modifyReply_replies : (s.modifyReply r f).replies = update s.replies r (f (s.replies r)) :=
  rfl
@[simp] theorem modifyReply_tcbSchedContext : (s.modifyReply r f).tcbSchedContext = s.tcbSchedContext :=
  rfl
@[simp] theorem modifyReply_replyObject : (s.modifyReply r f).replyObject = s.replyObject := rfl
@[simp] theorem modifyReply_scs : (s.modifyReply r f).scs = s.scs := rfl
@[simp] theorem modifyReply_ksCurThread : (s.modifyReply r f).ksCurThread = s.ksCurThread := rfl

@[simp] theorem modifySc_scs : (s.modifySc p g).scs = update s.scs p (g (s.scs p)) := rfl
@[simp] theorem modifySc_tcbSchedContext : (s.modifySc p g).tcbSchedContext = s.tcbSchedContext := rfl
@[simp] theorem modifySc_replyObject : (s.modifySc p g).replyObject = s.replyObject := rfl
@[simp] theorem modifySc_replies : (s.modifySc p g).replies = s.replies := rfl
@[simp] theorem modifySc_ksCurThread : (s.modifySc p g).ksCurThread = s.ksCurThread := rfl

end Fields

/-- `sched_context_t::sched_context_donate`: the scheduling context at `sc`
leaves the thread it runs, which leaves the ready and release queues, and
runs `to_tcb` (the source's `to`). A thread that gives away the context it is running on, or that
was chosen to run next, has a new thread chosen. -/
def sched_context_donate (s : mcs_state) (sc to_tcb : Nat) : Option mcs_state :=
  if sc = 0 ∨ to_tcb = 0 ∨ s.tcbSchedContext to_tcb ≠ 0 then none
  else
    let from_tcb := (s.scs sc).scTcb
    let taken : Option mcs_state :=
      if from_tcb ≠ 0 then
        let s := release_remove (s.sched_dequeue from_tcb) from_tcb
        let s := s.setTcbSchedContext from_tcb 0
        if from_tcb = s.ksCurThread ∨ from_tcb = s.ksSchedulerAction then s.reschedule_required
        else some s
      else some s
    taken.map fun s => (s.modifySc sc fun c => { c with scTcb := to_tcb }).setTcbSchedContext to_tcb sc

end mcs_state

/-! ## The reply objects -/

/-- `reply::unlink`: the reply and the thread it would wake let go of each
other, and the thread is made inactive. -/
def reply_t.unlink (s : mcs_state) (reply tcb : Nat) : Option mcs_state :=
  if (s.replies reply).replyTCB ≠ tcb ∨ s.replyObject tcb ≠ reply then none
  else
    let s := s.setReplyObject tcb 0
    let s := s.modifyReply reply fun r => { r with replyTCB := 0 }
    s.set_thread_state tcb ThreadStateInactive

/-- `reply::push`: the caller waits on the reply for the callee's answer and,
if it may, pushes the reply on the call stack of its scheduling context and
donates the context to the callee. -/
def reply_t.push (s : mcs_state) (reply tcb_caller tcb_callee : Nat) (canDonate : Bool) :
    Option mcs_state :=
  if tcb_caller = 0 ∨ reply = 0 ∨ (s.replies reply).replyTCB ≠ 0 ∨
      (s.replies reply).replyPrev.callStackPtr ≠ 0 ∨ (s.replies reply).replyNext.callStackPtr ≠ 0 ∨
      s.replyObject tcb_caller ≠ 0 then none
  else
    let s := s.setReplyObject tcb_callee 0
    let s := s.modifyReply reply fun r => { r with replyTCB := tcb_caller }
    let s := s.setReplyObject tcb_caller reply
    (s.set_thread_state tcb_caller ThreadStateBlockedOnReply).bind fun s =>
      let sc_donated := s.tcbSchedContext tcb_caller
      if sc_donated ≠ 0 ∧ s.tcbSchedContext tcb_callee = 0 ∧ canDonate = true then
        let top := (s.scs sc_donated).scReply
        -- the stack's integrity check
        if top ≠ 0 ∧ (s.replies top).replyNext.callStackPtr ≠ sc_donated then none
        else
          let s := s.modifyReply reply fun r => { r with replyPrev := ⟨0, top⟩ }
          let s := if top ≠ 0 then s.modifyReply top fun r => { r with replyNext := ⟨0, reply⟩ } else s
          let s := s.modifyReply reply fun r => { r with replyNext := ⟨1, sc_donated⟩ }
          let s := s.modifySc sc_donated fun c => { c with scReply := reply }
          s.sched_context_donate sc_donated tcb_callee
      else some s

/-- `reply_remove_tcb` (`tcb.rs`): a thread that waits on a reply stops
waiting. The reply leaves its call stack, which is cut in two where it stood. -/
def reply_remove_tcb (s : mcs_state) (tcb : Nat) : Option mcs_state :=
  if (s.tcbs tcb).get_state ≠ ThreadStateBlockedOnReply then none
  else
    let reply := s.replyObject tcb
    let next_ptr := (s.replies reply).replyNext.callStackPtr
    let prev_ptr := (s.replies reply).replyPrev.callStackPtr
    let s :=
      if next_ptr ≠ 0 then
        if (s.replies reply).replyNext.isHead ≠ 0 then s.modifySc next_ptr fun c => { c with scReply := 0 }
        else s.modifyReply next_ptr fun r => { r with replyPrev := ⟨0, 0⟩ }
      else s
    let s := if prev_ptr ≠ 0 then s.modifyReply prev_ptr fun r => { r with replyNext := ⟨0, 0⟩ } else s
    let s := s.modifyReply reply fun r => { r with replyPrev := ⟨0, 0⟩ }
    let s := s.modifyReply reply fun r => { r with replyNext := ⟨0, 0⟩ }
    reply_t.unlink s reply tcb

/-! ## Notifications with a scheduling context -/

/-- `notification::maybe_return_sched_context`: a thread running on its bound
notification's scheduling context gives it back before it blocks. -/
def notification.maybe_return_sched_context (s : mcs_state) (ntfn thread : Nat) : Option mcs_state :=
  let sc := s.ntfnSchedContext ntfn
  if sc ≠ 0 ∧ sc = s.tcbSchedContext thread then
    let s := s.setTcbSchedContext thread 0
    let s := s.modifySc sc fun c => { c with scTcb := 0 }
    if thread = s.ksCurThread then s.reschedule_required else some s
  else some s

/-- `maybe_donate_sched_context`: a thread without a scheduling context that
takes a signal runs on the notification's, if no thread holds it. `fuel`
bounds the walk of the release queue in `sched_context_resume`. -/
def maybe_donate_sched_context (fuel : Nat) (s : mcs_state) (tcb ntfn : Nat) : Option mcs_state :=
  if s.tcbSchedContext tcb = 0 then
    let sc := s.ntfnSchedContext ntfn
    if sc ≠ 0 ∧ (s.scs sc).scTcb = 0 then
      (s.sched_context_donate sc tcb).bind fun s => mcs_state.sched_context_resume fuel s sc
    else some s
  else some s

/-! ## The invariant -/

/-- The bindings agree: a thread and its scheduling context point at each
other, a reply and the thread it wakes point at each other, the top of each
call stack points up at its scheduling context, and each reply's link down
is matched by the link up of the reply below. -/
structure call_stack_inv (s : mcs_state) : Prop where
  sc_tcb : Paired 0 0 s.tcbSchedContext s.scTcbOf
  reply_tcb : Paired 0 0 s.replyObject s.replyTCBOf
  sc_reply : ∀ p, p ≠ 0 → (s.scs p).scReply ≠ 0 →
    (s.replies (s.scs p).scReply).replyNext = ⟨1, p⟩
  reply_prev : ∀ r p, r ≠ 0 → p ≠ 0 →
    ((s.replies r).replyPrev.callStackPtr = p ↔ (s.replies p).replyNext = ⟨0, r⟩)

/-- The MCS block of `fastpath_reply_recv` (`fastpath.rs`, after the fast
path's checks): the writes to the reply, the two threads' `replyObject` and
`tcbSchedContext`, and the scheduling context's `scTcb` and `scReply`, in the
source's order. The caller is the thread the reply will wake. The endpoint
queue, the thread states and the message copy between these writes touch
none of these fields and are left to `Kernel.Fastpath`. -/
def fastpath_reply_recv_mcs (s : mcs_state) (reply : Nat) : Option mcs_state :=
  let current := s.ksCurThread
  let caller := (s.replies reply).replyTCB
  if s.replyObject current ≠ 0 then none
  else
    let s := s.setReplyObject caller 0
    let s := s.setReplyObject current reply
    let s := s.modifyReply reply fun r => { r with replyTCB := current }
    let prev_ptr := (s.replies reply).replyPrev.callStackPtr
    let sc := s.tcbSchedContext current
    let s := s.setTcbSchedContext current 0
    let s := s.setTcbSchedContext caller sc
    -- `replyTCB` was overwritten with the current thread above
    let s := s.modifySc sc fun c => { c with scTcb := (s.replies reply).replyTCB }
    let s := s.modifySc sc fun c => { c with scReply := prev_ptr }
    let s := if prev_ptr ≠ 0 then
        s.modifyReply prev_ptr fun r => { r with replyNext := (s.replies reply).replyNext }
      else s
    let s := s.modifyReply reply fun r => { r with replyPrev := ⟨0, 0⟩ }
    some (s.modifyReply reply fun r => { r with replyNext := ⟨0, 0⟩ })

/-- **`fastpath_reply_recv` leaves the scheduling context bound to the wrong
thread.** Whenever the block runs (the current thread holds a scheduling
context and no reply object, and the reply wakes a thread that holds no
scheduling context), the caller ends holding the current thread's scheduling
context while the context names the current thread, which no longer holds
it: the first agreement of `call_stack_inv` fails, whatever the state was. -/
theorem fastpath_reply_recv_breaks_binding {s : mcs_state} {reply : Nat}
    (hcaller : (s.replies reply).replyTCB ≠ 0) (hsc : s.tcbSchedContext s.ksCurThread ≠ 0)
    (hcallersc : s.tcbSchedContext (s.replies reply).replyTCB = 0)
    (hcurreply : s.replyObject s.ksCurThread = 0) :
    ∃ s', fastpath_reply_recv_mcs s reply = some s' ∧
      s'.tcbSchedContext (s.replies reply).replyTCB = s.tcbSchedContext s.ksCurThread ∧
      (s'.scs (s.tcbSchedContext s.ksCurThread)).scTcb = s.ksCurThread ∧
      s'.tcbSchedContext s.ksCurThread = 0 ∧ ¬ call_stack_inv s' := by
  -- the caller holds no scheduling context, so it is not the current thread
  have hne : (s.replies reply).replyTCB ≠ s.ksCurThread := fun e => hsc (e ▸ hcallersc)
  have hrun : fastpath_reply_recv_mcs s reply ≠ none := by
    simp [fastpath_reply_recv_mcs, hcurreply]
  obtain ⟨s', hs'⟩ := Option.ne_none_iff_exists'.mp hrun
  -- the two pointers the block writes to the scheduling context's binding
  obtain ⟨hsc', htcb⟩ : s'.tcbSchedContext = update (update s.tcbSchedContext s.ksCurThread 0)
      (s.replies reply).replyTCB (s.tcbSchedContext s.ksCurThread) ∧
      (s'.scs (s.tcbSchedContext s.ksCurThread)).scTcb = s.ksCurThread := by
    simp only [fastpath_reply_recv_mcs, hcurreply, ne_eq, not_true_eq_false, ↓reduceIte,
      Option.some.injEq] at hs'
    subst hs'
    constructor <;> split <;> simp
  have hcaller' : s'.tcbSchedContext (s.replies reply).replyTCB = s.tcbSchedContext s.ksCurThread := by
    simp [hsc']
  refine ⟨s', hs', hcaller', htcb, by simp [hsc', Ne.symm hne], fun hinv => ?_⟩
  exact not_paired_of hcaller hsc hcaller' (by simpa [mcs_state.scTcbOf, htcb] using Ne.symm hne)
    hinv.sc_tcb

/-- A server `0x100` running on the scheduling context `0x500` of its caller
`0x200`, which waits on the reply `0x300` at the top of that context's call
stack: the state in which a passive server answers with `seL4_ReplyRecv`. -/
def passive_server_state : mcs_state :=
  { ksCurThread := 0x100
    tcbSchedContext := update (fun _ => 0) 0x100 0x500
    replyObject := update (fun _ => 0) 0x200 0x300
    scs := update (fun _ => {}) 0x500 { scTcb := 0x100, scReply := 0x300 }
    replies := update (fun _ => {}) 0x300 { replyTCB := 0x200, replyNext := ⟨1, 0x500⟩ } }

theorem passive_server_state_inv : call_stack_inv passive_server_state where
  sc_tcb a b ha hb := by
    by_cases h1 : a = 0x100 <;> by_cases h2 : b = 0x500 <;>
      (simp [passive_server_state, mcs_state.scTcbOf, h1, h2, Ne.symm ha, Ne.symm hb] <;> omega)
  reply_tcb a b ha hb := by
    by_cases h1 : a = 0x200 <;> by_cases h2 : b = 0x300 <;>
      (simp [passive_server_state, mcs_state.replyTCBOf, h1, h2, Ne.symm ha, Ne.symm hb] <;> omega)
  sc_reply p hp hr := by
    by_cases h : p = 0x500
    · subst h
      rfl
    · simp [passive_server_state, h] at hr
  reply_prev r p hr hp := by
    -- no reply has a link down, and the only link up points at a scheduling context
    by_cases h1 : r = 0x300 <;> by_cases h2 : p = 0x300 <;>
      simp [passive_server_state, h1, h2, Ne.symm hp, Ne.symm hr]

/-- `passive_server_state` keeps the invariant, the fast path's checks pass in
it (the reply wakes `0x200`, is at the top of the current thread's call
stack, and `0x200` holds no scheduling context), and the block breaks the
invariant there. -/
theorem passive_server_reply_recv_breaks_binding :
    call_stack_inv passive_server_state ∧
      (passive_server_state.replies 0x300).replyNext =
        ⟨1, passive_server_state.tcbSchedContext passive_server_state.ksCurThread⟩ ∧
      ∃ s', fastpath_reply_recv_mcs passive_server_state 0x300 = some s' ∧
        s'.tcbSchedContext 0x200 = 0x500 ∧ (s'.scs 0x500).scTcb = 0x100 ∧
        s'.tcbSchedContext 0x100 = 0 ∧ ¬ call_stack_inv s' :=
  ⟨passive_server_state_inv, rfl,
    fastpath_reply_recv_breaks_binding (by decide) (by decide) (by decide) (by decide)⟩

/-! ## The scheduler keeps the call stack -/

end Rel4Kernel
