/-
Round-robin time slices in the build without MCS: `timer_tick`
(`scheduler.rs`), from a thread's creation by a retype (`create_object`,
`invoke_untyped.rs`) to its first tick.

`timer_tick` counts the running current thread's `tcbTimeSlice` down while it
is above 1; at 1 or below it writes `CONFIG_TIME_SLICE` back, appends the
thread to its ready queue and asks for a new thread. A thread with `n + 1`
ticks left therefore runs `n` ticks and loses the processor on tick `n + 1`
(`timer_tick_iterate`, `timer_tick_expires_at`), and every slice after the
first lasts `CONFIG_TIME_SLICE` ticks.

The first slice is what the thread is created with. `create_object` writes
`CONFIG_TIME_SLICE` into a new thread only under
`#[cfg(feature = "kernel_mcs")]`; in this build the thread keeps the 0 of
its cleared memory. Resumed, chosen and activated, it loses the processor
on its first tick (`retyped_thread_preempted_on_first_tick`): nothing on the
way writes a time slice (`tcb_t.kept`).
-/
import Rel4Kernel.Syscall.Untyped
import Rel4Kernel.Syscall.InvokeTcb

set_option autoImplicit false

namespace Rel4Kernel

open ThreadState ObjectType

/-! ## One tick, and a run of ticks -/

section Tick

variable {s : KernelState}

/-- With more than one tick left, a tick only counts down. -/
theorem timer_tick_of_lt (hrun : (s.tcbs s.ksCurThread).get_state = ThreadStateRunning)
    (h : 1 < (s.tcbs s.ksCurThread).tcbTimeSlice) :
    timer_tick s = s.modifyTcb s.ksCurThread fun tcb => { tcb with tcbTimeSlice := tcb.tcbTimeSlice - 1 } := by
  simp only [timer_tick, hrun, if_pos h, if_true]

/-- With at most one tick left, a tick ends the slice: a new one, the thread
at the back of its ready queue, and a new thread to be chosen. -/
theorem timer_tick_of_le (hrun : (s.tcbs s.ksCurThread).get_state = ThreadStateRunning)
    (h : (s.tcbs s.ksCurThread).tcbTimeSlice ≤ 1) :
    timer_tick s = reschedule_required (sched_append (s.modifyTcb s.ksCurThread fun tcb =>
      { tcb with tcbTimeSlice := CONFIG_TIME_SLICE }) s.ksCurThread) := by
  simp only [timer_tick, hrun, if_neg (Nat.not_lt.mpr h), if_true]

theorem modifyTcb_modifyTcb (t : Nat) (f g : tcb_t → tcb_t) :
    (s.modifyTcb t f).modifyTcb t g = s.modifyTcb t fun tcb => g (f tcb) := by
  simp [KernelState.modifyTcb]

theorem modifyTcb_time_slice_self (t : Nat) :
    (s.modifyTcb t fun tcb => { tcb with tcbTimeSlice := (s.tcbs t).tcbTimeSlice }) = s := by
  simp [KernelState.modifyTcb]

/-- **Run lemma**: `k` ticks of a running thread with more than `k` ticks left
count its slice down by `k`, and write nothing else. -/
theorem timer_tick_iterate (hrun : (s.tcbs s.ksCurThread).get_state = ThreadStateRunning) {n k : Nat}
    (hslice : (s.tcbs s.ksCurThread).tcbTimeSlice = n + 1) (hk : k ≤ n) :
    timer_tick^[k] s = s.modifyTcb s.ksCurThread fun tcb => { tcb with tcbTimeSlice := n + 1 - k } := by
  induction k with
  | zero => rw [Function.iterate_zero_apply, Nat.sub_zero, ← hslice, modifyTcb_time_slice_self]
  | succ k ih =>
    -- the state after `k` ticks: the same thread, still running, `n + 1 - k > 1` ticks left
    set s' := s.modifyTcb s.ksCurThread fun tcb => { tcb with tcbTimeSlice := n + 1 - k }
    have hcur : s'.ksCurThread = s.ksCurThread := rfl
    have hrun' : (s'.tcbs s'.ksCurThread).get_state = ThreadStateRunning := by
      simpa [s', KernelState.modifyTcb, tcb_t.get_state] using hrun
    have hleft : (s'.tcbs s'.ksCurThread).tcbTimeSlice = n + 1 - k := by
      simp [s', KernelState.modifyTcb]
    rw [Function.iterate_succ_apply', ih (by omega), timer_tick_of_lt hrun' (by omega), hcur,
      modifyTcb_modifyTcb]
    -- `n + 1 - k - 1` is `n + 1 - (k + 1)` by the definition of subtraction
    rfl

/-- **A thread with `n + 1` ticks left loses the processor on tick `n + 1`,
and not before**: the first `n` ticks count its slice down and write nothing
else, and tick `n + 1` gives it a new slice, puts it at the back of its
ready queue and asks for a new thread. -/
theorem timer_tick_expires_at (hrun : (s.tcbs s.ksCurThread).get_state = ThreadStateRunning) {n : Nat}
    (hslice : (s.tcbs s.ksCurThread).tcbTimeSlice = n + 1) :
    (∀ k ≤ n, timer_tick^[k] s = s.modifyTcb s.ksCurThread fun tcb => { tcb with tcbTimeSlice := n + 1 - k }) ∧
      timer_tick^[n + 1] s = reschedule_required (sched_append (s.modifyTcb s.ksCurThread fun tcb =>
        { tcb with tcbTimeSlice := CONFIG_TIME_SLICE }) s.ksCurThread) := by
  refine ⟨fun k hk => timer_tick_iterate hrun hslice hk, ?_⟩
  -- after `n` ticks one is left
  set s' := s.modifyTcb s.ksCurThread fun tcb => { tcb with tcbTimeSlice := n + 1 - n }
  have hrun' : (s'.tcbs s'.ksCurThread).get_state = ThreadStateRunning := by
    simpa [s', KernelState.modifyTcb, tcb_t.get_state] using hrun
  have hleft : (s'.tcbs s'.ksCurThread).tcbTimeSlice ≤ 1 := by
    simp [s', KernelState.modifyTcb]
  rw [Function.iterate_succ_apply', timer_tick_iterate hrun hslice le_rfl, timer_tick_of_le hrun' hleft]
  simp only [s', KernelState.modifyTcb_ksCurThread, modifyTcb_modifyTcb]

/-- The thread `0x100`, running with three ticks left. -/
def three_ticks_left : KernelState :=
  { ksCurThread := 0x100,
    tcbs := fun t => if t = 0x100 then { tcbState := { tsType := ThreadStateRunning }, tcbTimeSlice := 3 } else {} }

theorem timer_tick_expires_at_third_tick :
    timer_tick^[3] three_ticks_left = reschedule_required (sched_append (three_ticks_left.modifyTcb 0x100
      fun tcb => { tcb with tcbTimeSlice := CONFIG_TIME_SLICE }) 0x100) :=
  (@timer_tick_expires_at three_ticks_left (by decide) 2 rfl).2

end Tick

/-! ## A new thread -/

/-- The thread `create_object` writes: cleared but for the default
registers, with the current domain. -/
theorem create_tcb_object_tcbs (s : KernelState) (region_base q : Nat) :
    (create_tcb_object s region_base).tcbs q =
      if q = region_base + TCB_OFFSET then { tcbArch := ArchTCB.default, domain := s.ksCurDomain } else s.tcbs q := by
  simp [create_tcb_object, Function.update_apply]

section NewTcbs

variable {dest_length region_base user_size : Nat}

/-- The fold of `create_new_tcbs` over its first `n` objects. -/
theorem create_new_tcbs_succ (n : Nat) (s : KernelState) :
    create_new_tcbs TCBObject (n + 1) region_base user_size s =
      create_tcb_object (create_new_tcbs TCBObject n region_base user_size s)
        (wadd region_base (wshl n (TCBObject.get_object_size user_size))) := by
  simp only [create_new_tcbs, List.range_succ, List.foldl_append, List.foldl_cons, List.foldl_nil]

theorem create_new_tcbs_ksCurDomain (n : Nat) (s : KernelState) :
    (create_new_tcbs TCBObject n region_base user_size s).ksCurDomain = s.ksCurDomain := by
  induction n with
  | zero => rfl
  | succ n ih => rw [create_new_tcbs_succ, ← ih]; rfl

/-- Every thread of the window is the cleared one with the default
registers, in the current domain. -/
theorem create_new_tcbs_of_lt {i : Nat} (hi : i < dest_length) (s : KernelState) :
    (create_new_tcbs TCBObject dest_length region_base user_size s).tcbs
        (wadd region_base (wshl i (TCBObject.get_object_size user_size)) + TCB_OFFSET) =
      { tcbArch := ArchTCB.default, domain := s.ksCurDomain } := by
  induction dest_length with
  | zero => omega
  | succ n ih =>
    rw [create_new_tcbs_succ, create_tcb_object_tcbs, create_new_tcbs_ksCurDomain]
    split
    · rfl
    · -- object `n` lies elsewhere, so `i` is one of the first `n`
      have hin : i ≠ n := fun e => by simp_all
      exact ih (by omega)

end NewTcbs

/-- A retype of `TCBObject`s that is not preempted leaves each new thread
cleared but for the default registers, in the current domain. -/
theorem invoke_untyped_retype_new_tcb {preempt : Nat → Bool} {s : KernelState}
    {src_slot capFreeIndex capIsDevice capBlockSize capPtr : Nat} {reset : Bool}
    {retype_base user_size dest_cnode dest_offset dest_length device_mem : Nat}
    (h : (invoke_untyped_retype preempt s src_slot capFreeIndex capIsDevice capBlockSize capPtr reset retype_base
      TCBObject user_size dest_cnode dest_offset dest_length device_mem).1 = .EXCEPTION_NONE)
    {i : Nat} (hi : i < dest_length) :
    (invoke_untyped_retype preempt s src_slot capFreeIndex capIsDevice capBlockSize capPtr reset retype_base
        TCBObject user_size dest_cnode dest_offset dest_length device_mem).2.tcbs
        (wadd retype_base (wshl i (TCBObject.get_object_size user_size)) + TCB_OFFSET) =
      { tcbArch := ArchTCB.default, domain := s.ksCurDomain } := by
  unfold invoke_untyped_retype at h ⊢
  obtain ⟨status, idx, hreset⟩ : ∃ status idx,
      (if reset then reset_untyped_cap preempt capFreeIndex capIsDevice capBlockSize
        else (.EXCEPTION_NONE, capFreeIndex)) = (status, idx) := ⟨_, _, rfl⟩
  rw [hreset] at h ⊢
  dsimp only at h ⊢
  split
  · -- a preempted reset is the only way out before the objects
    rw [if_pos ‹_›] at h
    exact absurd h ‹_›
  · exact create_new_tcbs_of_lt hi _

/-! ## From the retype to the first tick -/

section Path

variable {s : KernelState} {t : Nat}

theorem set_thread_state_ksCurThread (st : ThreadState) :
    (set_thread_state s t st).ksCurThread = s.ksCurThread := by
  unfold set_thread_state schedule_tcb reschedule_required
  dsimp only
  split
  · split <;> simp [sched_enqueue, set_tsType_ksCurThread]
  · rfl

theorem tcbTimeSlice_eq_of_kept {a b : tcb_t} (h : a.kept = b.kept) : a.tcbTimeSlice = b.tcbTimeSlice :=
  (congrArg tcb_t.tcbTimeSlice h :)

end Path

/-- In this build a thread made by a retype starts with no time slice; once
resumed, chosen and running, it loses the processor on its first tick, and
not on its `CONFIG_TIME_SLICE`-th. -/
theorem retyped_thread_preempted_on_first_tick {preempt : Nat → Bool} {s : KernelState}
    {src_slot capFreeIndex capIsDevice capBlockSize capPtr : Nat} {reset : Bool}
    {retype_base user_size dest_cnode dest_offset dest_length device_mem : Nat}
    (h : (invoke_untyped_retype preempt s src_slot capFreeIndex capIsDevice capBlockSize capPtr reset retype_base
      TCBObject user_size dest_cnode dest_offset dest_length device_mem).1 = .EXCEPTION_NONE)
    {t : Nat} (ht : ∃ i < dest_length, t = wadd retype_base (wshl i (TCBObject.get_object_size user_size)) + TCB_OFFSET) :
    let s₀ := (invoke_untyped_retype preempt s src_slot capFreeIndex capIsDevice capBlockSize capPtr reset
      retype_base TCBObject user_size dest_cnode dest_offset dest_length device_mem).2
    (s₀.tcbs t).tcbTimeSlice = 0 ∧
      ∃ s₁ s₂, invoke_tcb_resume s₀ t = some s₁ ∧ activateThread (switch_to_this s₁ t) = some s₂ ∧
        s₂.ksCurThread = t ∧ (s₂.tcbs t).get_state = ThreadStateRunning ∧
        timer_tick s₂ = reschedule_required (sched_append (s₂.modifyTcb t fun tcb =>
          { tcb with tcbTimeSlice := CONFIG_TIME_SLICE }) t) := by
  intro s₀
  have hnew : s₀.tcbs t = { tcbArch := ArchTCB.default, domain := s.ksCurDomain } := by
    obtain ⟨i, hi, rfl⟩ := ht
    exact invoke_untyped_retype_new_tcb h hi
  have hstop : (s₀.tcbs t).is_stopped = true := by
    simp [s₀, hnew, tcb_t.is_stopped, tcb_t.get_state]
  have hinactive : (s₀.tcbs t).get_state = ThreadStateInactive := by
    simp [s₀, hnew, tcb_t.get_state]
  have h₁ : invoke_tcb_resume s₀ t = some (restart s₀ t) := by
    rw [invoke_tcb_resume, if_pos hstop, tcb_t.cancel_ipc_of_not_waiting (.inr hinactive)]
    rfl
  set s₃ := switch_to_this (restart s₀ t) t
  have hcur : s₃.ksCurThread = t := rfl
  have hrestart : (s₃.tcbs t).get_state = ThreadStateRestart := by
    rw [switch_to_this_get_state]
    exact restart_get_state hstop
  set s₂ := set_thread_state (set_register s₃ t ArchReg.NextIP ((s₃.tcbs t).tcbArch ArchReg.FaultIP)) t
    ThreadStateRunning
  have h₂ : activateThread s₃ = some s₂ := by
    rw [activateThread_of_restart (hcur ▸ hrestart), hcur]
  have hcur₂ : s₂.ksCurThread = t := by
    rw [set_thread_state_ksCurThread]
    exact hcur
  have hrun : (s₂.tcbs t).get_state = ThreadStateRunning := set_thread_state_tsType _ t _
  -- nothing on the way writes a time slice
  have hslice : (s₂.tcbs t).tcbTimeSlice = 0 :=
    calc (s₂.tcbs t).tcbTimeSlice
      _ = ((set_register s₃ t ArchReg.NextIP ((s₃.tcbs t).tcbArch ArchReg.FaultIP)).tcbs t).tcbTimeSlice :=
          tcbTimeSlice_eq_of_kept (kept_set_thread_state _ t)
      _ = (s₃.tcbs t).tcbTimeSlice := by simp [set_register_tcbs]
      _ = ((restart s₀ t).tcbs t).tcbTimeSlice := tcbTimeSlice_eq_of_kept (kept_switch_to_this t)
      _ = (s₀.tcbs t).tcbTimeSlice := tcbTimeSlice_eq_of_kept (kept_restart t)
      _ = 0 := by simp [s₀, hnew]
  refine ⟨by simp [s₀, hnew], _, _, h₁, h₂, hcur₂, hrun, ?_⟩
  rw [← hcur₂] at hrun hslice ⊢
  exact timer_tick_of_le hrun (by omega)

/-- One thread retyped out of an untyped of `2 ^ 12` bytes at `0x8000_0000`
that has no children yet, into slot 0 of the CNode at `0x1000`. -/
def retype_one_thread : exception_t × KernelState :=
  invoke_untyped_retype (fun _ => false) {} 0x2000 0 0 12 0x8000_0000 false 0x8000_0000 TCBObject 0 0x1000 0 1 0

/-- The new thread loses the processor on its first tick. -/
theorem one_new_thread_preempted_on_first_tick :
    (retype_one_thread.2.tcbs (0x8000_0000 + TCB_OFFSET)).tcbTimeSlice = 0 ∧
      ∃ s₁ s₂, invoke_tcb_resume retype_one_thread.2 (0x8000_0000 + TCB_OFFSET) = some s₁ ∧
        activateThread (switch_to_this s₁ (0x8000_0000 + TCB_OFFSET)) = some s₂ ∧
        s₂.ksCurThread = 0x8000_0000 + TCB_OFFSET ∧
        (s₂.tcbs (0x8000_0000 + TCB_OFFSET)).get_state = ThreadStateRunning ∧
        timer_tick s₂ = reschedule_required (sched_append (s₂.modifyTcb (0x8000_0000 + TCB_OFFSET) fun tcb =>
          { tcb with tcbTimeSlice := CONFIG_TIME_SLICE }) (0x8000_0000 + TCB_OFFSET)) :=
  retyped_thread_preempted_on_first_tick rfl ⟨0, by decide, by decide⟩

end Rel4Kernel
