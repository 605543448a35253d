/-
The thread invocations `Suspend` and `Resume` (`invoke_tcb.rs`), and the
return to user level of a restarted thread (`activateThread`, `scheduler.rs`),
non-MCS, on RISC-V.

A thread resumes where its `FaultIP` register says: `restart` makes it
`Restart`, and `activateThread` copies `FaultIP` into `NextIP` when the thread
is next the current one. For a thread that was running, the instruction to go
on with is in `NextIP`, and `suspend` is meant to copy it into `FaultIP` first
(the C kernel's `updateRestartPC`). The source writes `FaultIP`'s own value
back into it instead (`tcb.rs`), a store that changes nothing and that
`Rel4Kernel.suspend` leaves out. A running thread that
is suspended and resumed therefore continues at its `FaultIP`, the last
instruction that trapped, and not where it was
(`suspend_resume_returns_to_fault_ip`).

The other operations on the way write queue links, thread states, capability
slots and the scheduler's globals: `tcb_regs` and its lemmas say that none of
them writes a register.
-/
import Rel4Kernel.IPC.QueueInvariant

set_option autoImplicit false

namespace Rel4Kernel

open ThreadState

/-- `ArchReg::FaultIP.to_index()` on RISC-V. -/
def ArchReg.FaultIP : Nat := 33

/-- `ArchReg::NextIP.to_index()` on RISC-V. -/
def ArchReg.NextIP : Nat := 34

/-! ## The invocations -/

/-- `invoke_tcb_suspend`. -/
def invoke_tcb_suspend (s : KernelState) (thread : Nat) : Option KernelState :=
  (tcb_t.cancel_ipc s thread).map fun s => suspend s thread

/-- `invoke_tcb_resume`. -/
def invoke_tcb_resume (s : KernelState) (thread : Nat) : Option KernelState :=
  let cancelled := if (s.tcbs thread).is_stopped then tcb_t.cancel_ipc s thread else some s
  cancelled.map fun s => restart s thread

/-- `activateThread` (non-MCS): a restarted current thread continues at its
`FaultIP`, and runs. `none` is the `panic!` for a blocked current thread. -/
def activateThread (s : KernelState) : Option KernelState :=
  let thread := s.ksCurThread
  match (s.tcbs thread).get_state with
  | ThreadStateRunning | ThreadStateIdleThreadState => some s
  | ThreadStateRestart =>
    let pc := (s.tcbs thread).tcbArch ArchReg.FaultIP
    let s := set_register s thread ArchReg.NextIP pc
    some (set_thread_state s thread ThreadStateRunning)
  | _ => none

/-! ## What the scheduler and a change of state leave of a thread -/

/-- A thread without its ready-queue links and its thread state: what the
scheduler's writes and a change of state leave of it. -/
def tcb_t.kept (tcb : tcb_t) : tcb_t := { tcb.dequeued with tcbState := {} }

section Kept

variable {s s' : KernelState} {t : Nat}

theorem kept_of_sched_only (h : sched_only s s') (a : Nat) : (s'.tcbs a).kept = (s.tcbs a).kept := by
  unfold tcb_t.kept
  rw [h.tcbs a]

theorem kept_set_thread_state (st : ThreadState) (a : Nat) :
    ((set_thread_state s t st).tcbs a).kept = (s.tcbs a).kept := by
  rw [set_thread_state, kept_of_sched_only (sched_only_schedule_tcb _ t)]
  by_cases ha : a = t <;> simp [tcb_t.kept, tcb_t.dequeued, set_tsType, ha]

theorem kept_setup_reply_master (a : Nat) : ((setup_reply_master s t).tcbs a).kept = (s.tcbs a).kept := by
  unfold setup_reply_master
  dsimp only
  split <;> rfl

theorem kept_suspend (a : Nat) : ((suspend s t).tcbs a).kept = (s.tcbs a).kept := by
  rw [suspend, kept_of_sched_only (sched_only_sched_dequeue _ t), kept_set_thread_state]

theorem kept_restart (a : Nat) : ((restart s t).tcbs a).kept = (s.tcbs a).kept := by
  unfold restart
  split
  · dsimp only
    rw [kept_of_sched_only (sched_only_possible_switch_to _ t),
      kept_of_sched_only (sched_only_sched_enqueue _ t), kept_set_thread_state, kept_setup_reply_master]
  · rfl

theorem kept_switch_to_this (a : Nat) : ((switch_to_this s t).tcbs a).kept = (s.tcbs a).kept :=
  kept_of_sched_only (sched_only_sched_dequeue s t) a

end Kept

/-! ## Who writes registers -/

/-- The register file of every thread. -/
def tcb_regs (s : KernelState) : Nat → Nat → Nat := fun t => (s.tcbs t).tcbArch

section Registers

variable {s s' : KernelState} {t : Nat}

theorem tcb_regs_set_thread_state (st : ThreadState) :
    tcb_regs (set_thread_state s t st) = tcb_regs s :=
  funext fun a => (congrArg tcb_t.tcbArch (kept_set_thread_state st a) :)

theorem tcb_regs_suspend : tcb_regs (suspend s t) = tcb_regs s :=
  funext fun a => (congrArg tcb_t.tcbArch (kept_suspend a) :)

theorem tcb_regs_restart : tcb_regs (restart s t) = tcb_regs s :=
  funext fun a => (congrArg tcb_t.tcbArch (kept_restart a) :)

theorem tcb_regs_switch_to_this : tcb_regs (switch_to_this s t) = tcb_regs s :=
  funext fun a => (congrArg tcb_t.tcbArch (kept_switch_to_this a) :)

end Registers

/-! ## The thread's state along the way -/

section States

variable {s : KernelState} {t : Nat}

/-- A thread that waits on nothing has no IPC to cancel. -/
theorem tcb_t.cancel_ipc_of_not_waiting
    (h : (s.tcbs t).get_state = ThreadStateRunning ∨ (s.tcbs t).get_state = ThreadStateInactive) :
    tcb_t.cancel_ipc s t = some s := by
  rcases h with h | h <;> simp [tcb_t.cancel_ipc, h]

theorem suspend_get_state : ((suspend s t).tcbs t).get_state = ThreadStateInactive := by
  rw [suspend, tcb_t.get_state, tcb_t.tsType_eq_of_dequeued ((sched_only_sched_dequeue _ t).tcbs t)]
  exact set_thread_state_tsType s t _

theorem restart_get_state (h : (s.tcbs t).is_stopped = true) :
    ((restart s t).tcbs t).get_state = ThreadStateRestart := by
  unfold restart
  rw [if_pos h]
  dsimp only
  rw [tcb_t.get_state, tcb_t.tsType_eq_of_dequeued ((sched_only_possible_switch_to _ t).tcbs t),
    tcb_t.tsType_eq_of_dequeued ((sched_only_sched_enqueue _ t).tcbs t)]
  exact set_thread_state_tsType _ t _

theorem switch_to_this_get_state (a : Nat) :
    ((switch_to_this s t).tcbs a).get_state = (s.tcbs a).get_state :=
  tcb_t.tsType_eq_of_dequeued ((sched_only_sched_dequeue s t).tcbs a)

theorem activateThread_of_restart (h : (s.tcbs s.ksCurThread).get_state = ThreadStateRestart) :
    activateThread s = some (set_thread_state (set_register s s.ksCurThread ArchReg.NextIP
      ((s.tcbs s.ksCurThread).tcbArch ArchReg.FaultIP)) s.ksCurThread ThreadStateRunning) := by
  unfold activateThread
  simp only [h]

end States

/-! ## Suspending and resuming a running thread -/

/-- A running thread is suspended and resumed, and later, when it is chosen to
run (`switch_to_this`), `activateThread` sends it back to user level: it runs
again, and of all its registers only `NextIP` has changed, to what `FaultIP`
held before it was suspended. -/
theorem suspend_resume_returns_to_fault_ip {s : KernelState} {t : Nat}
    (hrun : (s.tcbs t).get_state = ThreadStateRunning) :
    ∃ s₁ s₂ s₃, invoke_tcb_suspend s t = some s₁ ∧ invoke_tcb_resume s₁ t = some s₂ ∧
      activateThread (switch_to_this s₂ t) = some s₃ ∧
      (s₃.tcbs t).get_state = ThreadStateRunning ∧
      (s₃.tcbs t).tcbArch =
        Function.update (s.tcbs t).tcbArch ArchReg.NextIP ((s.tcbs t).tcbArch ArchReg.FaultIP) := by
  have h₁ : invoke_tcb_suspend s t = some (suspend s t) := by
    rw [invoke_tcb_suspend, tcb_t.cancel_ipc_of_not_waiting (.inl hrun)]
    rfl
  have hstop : ((suspend s t).tcbs t).is_stopped = true := by
    simp [tcb_t.is_stopped, suspend_get_state]
  have h₂ : invoke_tcb_resume (suspend s t) t = some (restart (suspend s t) t) := by
    rw [invoke_tcb_resume, if_pos hstop, tcb_t.cancel_ipc_of_not_waiting (.inr suspend_get_state)]
    rfl
  set s₃ := switch_to_this (restart (suspend s t) t) t
  have hcur : s₃.ksCurThread = t := rfl
  have hrestart : (s₃.tcbs t).get_state = ThreadStateRestart := by
    rw [switch_to_this_get_state]
    exact restart_get_state hstop
  -- every step before `activateThread` keeps the thread's registers
  have hregs : (s₃.tcbs t).tcbArch = (s.tcbs t).tcbArch :=
    calc (s₃.tcbs t).tcbArch
      _ = tcb_regs (restart (suspend s t) t) t := congrFun tcb_regs_switch_to_this t
      _ = tcb_regs (suspend s t) t := congrFun tcb_regs_restart t
      _ = (s.tcbs t).tcbArch := congrFun tcb_regs_suspend t
  refine ⟨_, _, _, h₁, h₂, activateThread_of_restart (hcur ▸ hrestart), ?_, ?_⟩
  · rw [hcur]
    exact set_thread_state_tsType _ t _
  · rw [hcur]
    calc _ = tcb_regs (set_register s₃ t ArchReg.NextIP ((s₃.tcbs t).tcbArch ArchReg.FaultIP)) t :=
          congrFun (tcb_regs_set_thread_state ThreadStateRunning) t
      _ = _ := by simp only [tcb_regs, set_register_tcbs, ↓reduceIte, hregs]

/-- Thread 7 runs on after a system call: the call trapped at `0x1000`, and
the thread goes on at `0x1004`. -/
def completed_syscall : KernelState where
  tcbs p := if p = 7 then
      { tcbState := { tsType := ThreadStateRunning },
        tcbArch := fun r =>
          if r = ArchReg.FaultIP then 0x1000 else if r = ArchReg.NextIP then 0x1004 else 0 }
    else {}

/-- Suspended and resumed, it makes the system call again. -/
theorem suspend_resume_after_syscall :
    ∃ s₁ s₂ s₃, invoke_tcb_suspend completed_syscall 7 = some s₁ ∧
      invoke_tcb_resume s₁ 7 = some s₂ ∧ activateThread (switch_to_this s₂ 7) = some s₃ ∧
      (s₃.tcbs 7).tcbArch ArchReg.NextIP = 0x1000 ∧
      (completed_syscall.tcbs 7).tcbArch ArchReg.NextIP = 0x1004 := by
  obtain ⟨s₁, s₂, s₃, h₁, h₂, h₃, -, hregs⟩ :=
    @suspend_resume_returns_to_fault_ip completed_syscall 7 rfl
  refine ⟨s₁, s₂, s₃, h₁, h₂, h₃, ?_, rfl⟩
  rw [hregs, Function.update_self]
  rfl

end Rel4Kernel
