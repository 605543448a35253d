/-
The objects of the MCS kernel (`sched_context.rs`, `reply.rs`, the MCS
fields of `tcb.rs`): scheduling contexts with their ring of refills, reply
objects, and the state the MCS build adds to the kernel.

A scheduling context is followed in memory by an array of `refill_t`, used
as a ring between `scRefillHead` and `scRefillTail` of `scRefillMax`
entries; here the array is a function of the index, read and written
through `refill_index` as the source does through raw pointers.

`mcs_state` extends the non-MCS state with the MCS fields of each thread,
kept as maps beside `tcbs` (`tcbSchedContext`, `tcbYieldTo`, the
`tcbInReleaseQueue` and `replyObject` fields of the thread state), the
`ntfnSchedContext` field of each notification, the scheduling contexts and
reply objects, and the MCS globals. The timer
constants are those of the RISC-V spike platform (10 ticks a microsecond).
-/
import Rel4Kernel.Object.Structures

set_option autoImplicit false

namespace Rel4Kernel

/-! ## Time -/

/-- `get_kernel_wcet_ticks()`: `us_to_ticks(10)` at 10 ticks a microsecond. -/
def get_kernel_wcet_ticks : Nat := 100

/-- `CONFIG_KERNEL_WCET_SCALE`. -/
def CONFIG_KERNEL_WCET_SCALE : Nat := 1

/-- `min_budget()`. -/
def min_budget : Nat := 2 * get_kernel_wcet_ticks * CONFIG_KERNEL_WCET_SCALE

/-- `MIN_REFILLS`. -/
def MIN_REFILLS : Nat := 2

/-! ## Scheduling contexts -/

/-- `refill_t`. -/
structure refill_t where
  rTime : Nat := 0
  rAmount : Nat := 0
  deriving DecidableEq, Repr

/-- `sched_context_t` without SMP (no `scCore`), with the refills that follow
it in memory, by index. -/
structure sched_context_t where
  scPeriod : Nat := 0
  scConsumed : Nat := 0
  scTcb : Nat := 0
  scReply : Nat := 0
  scNotification : Nat := 0
  scBadge : Nat := 0
  scYieldFrom : Nat := 0
  scRefillMax : Nat := 0
  scRefillHead : Nat := 0
  scRefillTail : Nat := 0
  scSporadic : Bool := false
  refills : Nat → refill_t := fun _ => {}

namespace sched_context_t

/-- `refill_index`. -/
def refill_index (sc : sched_context_t) (index : Nat) : refill_t := sc.refills index

/-- `refill_head`. -/
def refill_head (sc : sched_context_t) : refill_t := sc.refill_index sc.scRefillHead

/-- `refill_tail`. -/
def refill_tail (sc : sched_context_t) : refill_t := sc.refill_index sc.scRefillTail

/-- `is_round_robin`. -/
def is_round_robin (sc : sched_context_t) : Bool := sc.scPeriod == 0

/-- `sc_active`. -/
def sc_active (sc : sched_context_t) : Bool := sc.scRefillMax > 0

/-- `refill_ready`, at the time `ksCurTime`. -/
def refill_ready (sc : sched_context_t) (ksCurTime : Nat) : Bool :=
  sc.refill_head.rTime ≤ ksCurTime + get_kernel_wcet_ticks

/-- `refill_capacity`. -/
def refill_capacity (sc : sched_context_t) (usage : Nat) : Nat :=
  if usage > sc.refill_head.rAmount then 0 else sc.refill_head.rAmount - usage

/-- `refill_sufficient`. -/
def refill_sufficient (sc : sched_context_t) (usage : Nat) : Bool :=
  sc.refill_capacity usage ≥ min_budget

/-- `sc_sporadic`. -/
def sc_sporadic (sc : sched_context_t) : Bool := sc.sc_active && sc.scSporadic

/-! ### The refill ring -/

/-- `refill_next`: the index after `index`, wrapping at `scRefillMax`. -/
def refill_next (sc : sched_context_t) (index : Nat) : Nat :=
  if index = sc.scRefillMax - 1 then 0 else index + 1

/-- `refill_size`: the refills from head to tail, wrapping. -/
def refill_size (sc : sched_context_t) : Nat :=
  if sc.scRefillHead ≤ sc.scRefillTail then sc.scRefillTail - sc.scRefillHead + 1
  else sc.scRefillTail + 1 + (sc.scRefillMax - sc.scRefillHead)

/-- `refill_full`. -/
def refill_full (sc : sched_context_t) : Bool := sc.refill_size == sc.scRefillMax

/-- `refill_single`. -/
def refill_single (sc : sched_context_t) : Bool := sc.scRefillHead == sc.scRefillTail

/-- Write the refill at `index`, as the source does through `refill_index`. -/
def set_refill (sc : sched_context_t) (index : Nat) (r : refill_t) : sched_context_t :=
  { sc with refills := Function.update sc.refills index r }

/-- `refill_pop_head`: move the head on and give the refill it left, which
stays in the array. -/
def refill_pop_head (sc : sched_context_t) : Option (sched_context_t × refill_t) :=
  if sc.refill_single then none
  else
    let prev_size := sc.refill_size
    let refill_res := sc.refill_head
    let sc := { sc with scRefillHead := sc.refill_next sc.scRefillHead }
    if prev_size ≠ sc.refill_size + 1 then none
    else if sc.scRefillHead < sc.scRefillMax then some (sc, refill_res)
    else none

/-- `refill_head_overlapping`: the head refill runs into the next one. -/
def refill_head_overlapping (sc : sched_context_t) : Bool :=
  if !sc.refill_single then
    let amount := sc.refill_head.rAmount
    let tail := sc.refill_head.rTime + amount
    (sc.refill_index (sc.refill_next sc.scRefillHead)).rTime ≤ tail
  else false

/-- The loop of `refill_unblock_check`: merge the head into the next refill
while they overlap. `fuel` bounds the loop. -/
def merge_overlapping : Nat → sched_context_t → Option sched_context_t
  | 0, _ => none
  | fuel + 1, sc =>
    if sc.refill_head_overlapping then do
      let (sc, old_head) ← sc.refill_pop_head
      let head := sc.refill_head
      let sc := sc.set_refill sc.scRefillHead
        { head with rTime := old_head.rTime, rAmount := head.rAmount + old_head.rAmount }
      merge_overlapping fuel sc
    else some sc

theorem refill_pop_head_eq_some {sc sc' : sched_context_t} {r : refill_t}
    (h : sc.refill_pop_head = some (sc', r)) :
    sc' = { sc with scRefillHead := sc.refill_next sc.scRefillHead } ∧ r = sc.refill_head := by
  unfold refill_pop_head at h
  dsimp only at h
  -- three assertions, then the one result
  split at h
  · cases h
  split at h
  · cases h
  split at h
  · cases h
    exact ⟨rfl, rfl⟩
  · cases h

/-- The merge moves the head and writes refills, nothing else. -/
theorem merge_overlapping_eq_some {fuel : Nat} {sc sc' : sched_context_t}
    (h : sc.merge_overlapping fuel = some sc') :
    ∃ head refills, sc' = { sc with scRefillHead := head, refills := refills } := by
  -- induction on the turns left
  induction fuel generalizing sc with
  | zero => simp [merge_overlapping] at h
  | succ n ih =>
    unfold merge_overlapping at h
    split at h
    · obtain ⟨⟨sc1, old⟩, hpop, h⟩ := Option.bind_eq_some_iff.mp h
      obtain ⟨rfl, -⟩ := refill_pop_head_eq_some hpop
      obtain ⟨head, refills, rfl⟩ := ih h
      exact ⟨head, refills, rfl⟩
    · cases h
      exact ⟨_, _, rfl⟩

end sched_context_t

/-! ## Reply objects -/

/-- The `call_stack` block: a pointer, to a reply or, at the head of a call
stack, to a scheduling context. -/
structure call_stack where
  isHead : Nat := 0
  callStackPtr : Nat := 0
  deriving DecidableEq, Repr

/-- `reply_t`. -/
structure reply_t where
  replyTCB : Nat := 0
  replyPrev : call_stack := {}
  replyNext : call_stack := {}
  deriving DecidableEq, Repr

/-! ## The MCS kernel state -/

/-- The kernel state of the MCS build, without SMP. -/
structure mcs_state extends KernelState where
  tcbSchedContext : Nat → Nat := fun _ => 0
  tcbYieldTo : Nat → Nat := fun _ => 0
  tcbInReleaseQueue : Nat → Nat := fun _ => 0
  replyObject : Nat → Nat := fun _ => 0
  ntfnSchedContext : Nat → Nat := fun _ => 0
  scs : Nat → sched_context_t := fun _ => {}
  replies : Nat → reply_t := fun _ => {}
  ksReleaseQueue : tcb_queue_t := ⟨0, 0⟩
  ksReprogram : Bool := false
  ksCurTime : Nat := 0
  ksConsumed : Nat := 0
  ksCurSC : Nat := 0
  ksIdleSC : Nat := 0

/-- `tcb_t::Ready_Time`: when the head refill of the thread's scheduling
context becomes available. -/
def Ready_Time (s : mcs_state) (t : Nat) : Nat := (s.scs (s.tcbSchedContext t)).refill_head.rTime

/-- `tcb_t::time_after`. -/
def time_after (s : mcs_state) (t new_time : Nat) : Bool := new_time ≥ Ready_Time s t

end Rel4Kernel
