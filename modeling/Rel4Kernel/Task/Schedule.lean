/-
The scheduler's operations over the ready queues (`scheduler.rs`, `tcb.rs`,
non-MCS, non-SMP, one domain).

`ksSchedulerAction` is `SCHEDULER_ACTION_RESUME_CURRENT_THREAD` (0),
`SCHEDULER_ACTION_CHOOSE_NEW_THREAD` (1) or the pointer of a thread to switch
to. `reschedule_required` enqueues that thread without asking whether it can
run, so the queues stay sound only while a pending switch target is runnable;
`sched_inv` carries that as its `action` field, next to the queue and bitmap
invariants of `Rel4Kernel.Task.ReadyQueue` and `Rel4Kernel.Task.Scheduler`.

Switching address spaces in `switch_to_this` (`set_vm_root`) reads and writes
nothing the scheduler reads and is left out, as is the store of `FaultIP`'s
own value back into it that `suspend` makes for a running thread.
-/
import Rel4Kernel.Task.ReadyQueue

set_option autoImplicit false

namespace Rel4Kernel

open ThreadState Function

/-! ## Configuration -/

def SCHEDULER_ACTION_RESUME_CURRENT_THREAD : Nat := 0
def SCHEDULER_ACTION_CHOOSE_NEW_THREAD : Nat := 1
def KS_DOM_SCHEDULE_LENGTH : Nat := 1

/-- `dschedule_t`. -/
structure dschedule_t where
  domain : Nat
  length : Nat
  deriving DecidableEq, Repr

/-- `ksDomSchedule`: its one entry, which nothing writes. -/
def ksDomSchedule (_ : Nat) : dschedule_t := ⟨0, 60⟩

/-! ## Thread predicates -/

namespace tcb_t

def is_stopped (tcb : tcb_t) : Bool :=
  match tcb.get_state with
  | ThreadStateInactive | ThreadStateBlockedOnNotification | ThreadStateBlockedOnReceive
  | ThreadStateBlockedOnReply | ThreadStateBlockedOnSend => true
  | _ => false

def is_runnable (tcb : tcb_t) : Bool :=
  match tcb.get_state with
  | ThreadStateRunning | ThreadStateRestart => true
  | _ => false

/-- `is_schedulable` (non-MCS). -/
def is_schedulable (tcb : tcb_t) : Bool := tcb.is_runnable

end tcb_t

/-! ## Thread state -/

/-- `tcbState.set_tsType(st)` on the thread at `t`. -/
def set_tsType (s : KernelState) (t : Nat) (st : ThreadState) : KernelState :=
  s.modifyTcb t fun tcb => { tcb with tcbState := { tcb.tcbState with tsType := st } }

theorem set_tsType_ksCurThread (s : KernelState) (t : Nat) (st : ThreadState) :
    (set_tsType s t st).ksCurThread = s.ksCurThread := rfl

/-- A thread's state is written, never its fault. -/
theorem set_tsType_tcbFault (s : KernelState) (t : Nat) (st : ThreadState) (a : Nat) :
    ((set_tsType s t st).tcbs a).tcbFault = (s.tcbs a).tcbFault := by
  by_cases h : a = t <;> simp [set_tsType, h]

/-- `reschedule_required` (non-MCS): a pending switch target goes back to its
queue, and a new thread is to be chosen. -/
def reschedule_required (s : KernelState) : KernelState :=
  let s :=
    if s.ksSchedulerAction ≠ SCHEDULER_ACTION_RESUME_CURRENT_THREAD ∧
        s.ksSchedulerAction ≠ SCHEDULER_ACTION_CHOOSE_NEW_THREAD then
      sched_enqueue s s.ksSchedulerAction
    else s
  { s with ksSchedulerAction := SCHEDULER_ACTION_CHOOSE_NEW_THREAD }

/-- `schedule_tcb`: the current thread can no longer run while it was to be
resumed. -/
def schedule_tcb (s : KernelState) (t : Nat) : KernelState :=
  if t = s.ksCurThread ∧ s.ksSchedulerAction = SCHEDULER_ACTION_RESUME_CURRENT_THREAD ∧
      (s.tcbs t).is_schedulable = false then
    reschedule_required s
  else s

def set_thread_state (s : KernelState) (t : Nat) (st : ThreadState) : KernelState :=
  schedule_tcb (set_tsType s t st) t

/-- Setting a thread's state touches no capability slot. -/
@[simp] theorem set_thread_state_ctes (s : KernelState) (t : Nat) (st : ThreadState) :
    (set_thread_state s t st).ctes = s.ctes := by
  unfold set_thread_state schedule_tcb reschedule_required
  split
  · dsimp only
    split
    · exact sched_insert_ctes
    · rfl
  · rfl

/-- `possible_switch_to` (non-SMP, non-MCS). -/
def possible_switch_to (s : KernelState) (t : Nat) : KernelState :=
  if s.ksCurDomain ≠ (s.tcbs t).domain then sched_enqueue s t
  else if s.ksSchedulerAction ≠ SCHEDULER_ACTION_RESUME_CURRENT_THREAD then
    sched_enqueue (reschedule_required s) t
  else { s with ksSchedulerAction := t }

/-! ## `tcb_t` methods -/

/-- `tcb_t::set_priority` (non-MCS). `is_current` is a comparison with
`ksCurThread` on one core. -/
def set_priority (s : KernelState) (t prio : Nat) : KernelState :=
  let s := sched_dequeue s t
  let s := s.modifyTcb t fun tcb => { tcb with tcbPriority := prio }
  if (s.tcbs t).is_runnable then
    if t = s.ksCurThread then reschedule_required s else possible_switch_to s t
  else s

/-- `tcb_t::set_domain`. -/
def set_domain (s : KernelState) (t dom : Nat) : KernelState :=
  let s := sched_dequeue s t
  let s := s.modifyTcb t fun tcb => { tcb with domain := dom }
  let s := if (s.tcbs t).is_schedulable then sched_enqueue s t else s
  if t = s.ksCurThread then reschedule_required s else s

/-- `tcb_t::setup_reply_master` (non-MCS): a master reply cap in the thread's
reply slot, if the slot is empty. -/
def setup_reply_master (s : KernelState) (t : Nat) : KernelState :=
  let slot := tcb_cte_slot t TCB_REPLY
  if (s.ctes slot).capability.get_tag = .cap_null_cap then
    s.modifyCte slot fun _ =>
      { capability := .reply_cap t 1 1,
        cteMDBNode := { mdbNext := 0, mdbRevocable := 1, mdbFirstBadged := 1, mdbPrev := 0 } }
  else s

/-- `tcb_t::suspend` (non-MCS). The callers cancel the thread's IPC first. -/
def suspend (s : KernelState) (t : Nat) : KernelState :=
  sched_dequeue (set_thread_state s t ThreadStateInactive) t

/-- `tcb_t::restart` (non-MCS). The callers cancel the thread's IPC first. -/
def restart (s : KernelState) (t : Nat) : KernelState :=
  if (s.tcbs t).is_stopped then
    let s := setup_reply_master s t
    let s := set_thread_state s t ThreadStateRestart
    let s := sched_enqueue s t
    possible_switch_to s t
  else s

/-- `tcb_t::switch_to_this`. -/
def switch_to_this (s : KernelState) (t : Nat) : KernelState :=
  { sched_dequeue s t with ksCurThread := t }

/-! ## Choosing a thread -/

/-- `next_domain` (non-MCS). -/
def next_domain (s : KernelState) : KernelState :=
  let idx := s.ksDomScheduleIdx + 1
  let idx := if idx ≥ KS_DOM_SCHEDULE_LENGTH then 0 else idx
  { s with
    ksDomScheduleIdx := idx
    ksCurDomain := (ksDomSchedule idx).domain
    ksDomainTime := (ksDomSchedule idx).length }

/-- `choose_thread` on RISC-V: the head of the highest non-empty queue of
domain 0, or the idle thread. `none` is a failed `assert`. -/
def choose_thread (s : KernelState) : Option KernelState :=
  let dom := 0
  if s.ksReadyQueuesL1Bitmap dom ≠ 0 then
    let prio := get_highest_prio s dom
    let thread := (s.ksReadyQueues (ready_queues_index dom prio)).head
    if thread = 0 then none
    else if (s.tcbs thread).is_schedulable = false then none
    else some (switch_to_this s thread)
  else some (switch_to_this s s.ksIdleThread)

def schedule_choose_new_thread (s : KernelState) : Option KernelState :=
  choose_thread (if s.ksDomainTime = 0 then next_domain s else s)

/-- `schedule` (non-MCS, non-SMP): act on a pending action, then resume. `none`
is a failed `assert`. -/
def schedule (s : KernelState) : Option KernelState :=
  let chosen : Option KernelState :=
    if s.ksSchedulerAction ≠ SCHEDULER_ACTION_RESUME_CURRENT_THREAD then
      let was_runnable := (s.tcbs s.ksCurThread).is_schedulable
      let s := if was_runnable then sched_enqueue s s.ksCurThread else s
      if s.ksSchedulerAction = SCHEDULER_ACTION_CHOOSE_NEW_THREAD then schedule_choose_new_thread s
      else
        let candidate := s.ksSchedulerAction
        if (s.tcbs candidate).is_schedulable = false then none
        else
          let fastfail := s.ksCurThread == s.ksIdleThread ||
            decide ((s.tcbs candidate).tcbPriority < (s.tcbs s.ksCurThread).tcbPriority)
          if fastfail && !is_highest_prio s s.ksCurDomain (s.tcbs candidate).tcbPriority then
            let s := sched_enqueue s candidate
            schedule_choose_new_thread { s with ksSchedulerAction := SCHEDULER_ACTION_CHOOSE_NEW_THREAD }
          else if was_runnable &&
              (s.tcbs candidate).tcbPriority == (s.tcbs s.ksCurThread).tcbPriority then
            let s := sched_append s candidate
            schedule_choose_new_thread { s with ksSchedulerAction := SCHEDULER_ACTION_CHOOSE_NEW_THREAD }
          else some (switch_to_this s candidate)
    else some s
  chosen.map fun s => { s with ksSchedulerAction := SCHEDULER_ACTION_RESUME_CURRENT_THREAD }

/-! ## Time and yield -/

/-- `timer_tick` (non-MCS): a running thread that used up its time slice goes
to the back of its queue. -/
def timer_tick (s : KernelState) : KernelState :=
  let current := s.ksCurThread
  if (s.tcbs current).get_state = ThreadStateRunning then
    if (s.tcbs current).tcbTimeSlice > 1 then
      s.modifyTcb current fun tcb => { tcb with tcbTimeSlice := tcb.tcbTimeSlice - 1 }
    else
      let s := s.modifyTcb current fun tcb => { tcb with tcbTimeSlice := CONFIG_TIME_SLICE }
      let s := sched_append s current
      reschedule_required s
  else s

/-- `handle_yield` (non-MCS). -/
def handle_yield (s : KernelState) : KernelState :=
  let s := sched_dequeue s s.ksCurThread
  let s := sched_append s s.ksCurThread
  reschedule_required s

end Rel4Kernel
