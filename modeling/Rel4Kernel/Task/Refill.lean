/-
The refills of a sporadic server (`sched_context.rs`, `scheduler.rs`,
`invoke_sched.rs`, MCS): the ring of refills that follows a scheduling
context, the operations that write it, and the kernel operations that call
them: `charge_budget`, `commit_time` and the configuration by
`invoke_sched_control_configure_flags`.

Each refill is a window of `rAmount` ticks of budget that opens at `rTime`.
The ring is read as the list of refills from head to tail (`refill_list`,
through `Lib.Ring`), and every write is a list operation on it: popping the
head, appending a tail, rewriting the head or the tail. The lemmas here say
which; what the refills keep is `Task.RefillInvariant`'s.

`refill_budget_check` and the loop of `refill_unblock_check` run under
`fuel`; `Task.RefillInvariant` says how much is enough. Times are Nat: the
source's u64 ticks stay below `max_release_time`, which the loops check.
-/
import Rel4Kernel.Lib.Ring
import Rel4Kernel.Task.McsScheduler

set_option autoImplicit false

namespace Rel4Kernel

open Function

/-! ## Time on spike -/

/-- `UINT64_MAX`. -/
def UINT64_MAX : Nat := 0xFFFFFFFFFFFFFFFF

/-- `TICKS_IN_US`: a 10 MHz timer. -/
def TICKS_IN_US : Nat := 10

/-- `us_to_ticks`. -/
def us_to_ticks (us : Nat) : Nat := us * TICKS_IN_US

/-- `get_max_us_to_ticks`. -/
def get_max_us_to_ticks : Nat := UINT64_MAX / TICKS_IN_US

/-- `max_period_us`. -/
def max_period_us : Nat := get_max_us_to_ticks / 8

/-- `max_release_time`. -/
def max_release_time : Nat := UINT64_MAX - 5 * us_to_ticks max_period_us

namespace sched_context_t

/-! ## The ring as a list -/

/-- The refills from head to tail. -/
def refill_list (sc : sched_context_t) : List refill_t :=
  Ring.toList sc.refills sc.scRefillMax sc.scRefillHead sc.scRefillTail

/-- The loop of `refill_sum`, from `current` to the tail. `fuel` bounds it. -/
def refill_sum_loop (sc : sched_context_t) : Nat → Nat → Nat → Nat
  | 0, _, sum => sum
  | fuel + 1, current, sum =>
    if current ≠ sc.scRefillTail then
      let current := sc.refill_next current
      refill_sum_loop sc fuel current (sum + (sc.refill_index current).rAmount)
    else sum

/-- `refill_sum`, with the ring's length as the bound of its loop. -/
def refill_sum (sc : sched_context_t) : Nat :=
  sc.refill_sum_loop sc.scRefillMax sc.scRefillHead sc.refill_head.rAmount

/-! ## Writing the ring -/

/-- `refill_add_tail`. -/
def refill_add_tail (sc : sched_context_t) (rTime rAmount : Nat) : Option sched_context_t :=
  if ¬ sc.refill_size < sc.scRefillMax then none
  else
    let new_tail := sc.refill_next sc.scRefillTail
    let sc := { sc with scRefillTail := new_tail }
    let sc := sc.set_refill sc.scRefillTail { sc.refill_tail with rAmount := rAmount }
    let sc := sc.set_refill sc.scRefillTail { sc.refill_tail with rTime := rTime }
    if new_tail < sc.scRefillMax then some sc else none

/-- `maybe_add_empty_tail`: a round-robin context keeps a second, empty
refill. -/
def maybe_add_empty_tail (sc : sched_context_t) : Option sched_context_t :=
  if sc.is_round_robin then sc.refill_add_tail sc.refill_head.rTime 0 else some sc

/-- `refill_new`, at the time `ksCurTime`. -/
def refill_new (sc : sched_context_t) (max_refills budget period ksCurTime : Nat) :
    Option sched_context_t :=
  let sc := { sc with scPeriod := period, scRefillHead := 0, scRefillTail := 0, scRefillMax := max_refills }
  if budget < min_budget then none
  else
    let sc := sc.set_refill sc.scRefillHead { sc.refill_head with rAmount := budget }
    let sc := sc.set_refill sc.scRefillHead { sc.refill_head with rTime := ksCurTime }
    sc.maybe_add_empty_tail

/-- `refill_update`, at the time `ksCurTime`: the head is kept, moved to
slot 0 and to now if it is ready, and cut to the new budget or followed by
the rest of it a period later. -/
def refill_update (sc : sched_context_t) (new_period new_budget new_max_refills ksCurTime : Nat) :
    Option sched_context_t :=
  if sc.scRefillMax = 0 then none
  else
    let sc := sc.set_refill 0 { sc.refill_index 0 with rAmount := sc.refill_head.rAmount }
    let sc := sc.set_refill 0 { sc.refill_index 0 with rTime := sc.refill_head.rTime }
    let sc := { sc with scRefillHead := 0 }
    let sc := { sc with scRefillTail := sc.scRefillHead, scRefillMax := new_max_refills,
                        scPeriod := new_period }
    let sc := if sc.refill_ready ksCurTime then
        sc.set_refill sc.scRefillHead { sc.refill_head with rTime := ksCurTime }
      else sc
    if sc.refill_head.rAmount ≥ new_budget then
      (sc.set_refill sc.scRefillHead { sc.refill_head with rAmount := new_budget }).maybe_add_empty_tail
    else sc.refill_add_tail (sc.refill_head.rTime + new_period) (new_budget - sc.refill_head.rAmount)

/-- `schedule_used`: budget used now comes back at `new_rTime`, merged into
the tail if the tail reaches that far, in a new tail if there is room, and
else by moving the tail later. -/
def schedule_used (sc : sched_context_t) (new_rTime new_rAmount : Nat) : Option sched_context_t :=
  if sc.refill_tail.rTime + sc.refill_tail.rAmount ≥ new_rTime then
    some (sc.set_refill sc.scRefillTail { sc.refill_tail with rAmount := sc.refill_tail.rAmount + new_rAmount })
  else if !sc.refill_full then sc.refill_add_tail new_rTime new_rAmount
  else
    let sc := sc.set_refill sc.scRefillTail { sc.refill_tail with rTime := new_rTime - sc.refill_tail.rAmount }
    some (sc.set_refill sc.scRefillTail { sc.refill_tail with rAmount := sc.refill_tail.rAmount + new_rAmount })

/-! ## The ring as a list: one lemma per write -/

/-- The head and the tail are slots of the ring. -/
structure refill_ring (sc : sched_context_t) : Prop where
  head_lt : sc.scRefillHead < sc.scRefillMax
  tail_lt : sc.scRefillTail < sc.scRefillMax

section RingLemmas

variable {sc : sched_context_t}

@[simp] theorem set_refill_refills (i : Nat) (r : refill_t) :
    (sc.set_refill i r).refills = update sc.refills i r := rfl
@[simp] theorem set_refill_scRefillHead (i : Nat) (r : refill_t) :
    (sc.set_refill i r).scRefillHead = sc.scRefillHead := rfl
@[simp] theorem set_refill_scRefillTail (i : Nat) (r : refill_t) :
    (sc.set_refill i r).scRefillTail = sc.scRefillTail := rfl
@[simp] theorem set_refill_scRefillMax (i : Nat) (r : refill_t) :
    (sc.set_refill i r).scRefillMax = sc.scRefillMax := rfl
@[simp] theorem set_refill_scPeriod (i : Nat) (r : refill_t) :
    (sc.set_refill i r).scPeriod = sc.scPeriod := rfl

/-- A write to the head slot is the new head. -/
@[simp] theorem set_refill_refill_head (r : refill_t) : (sc.set_refill sc.scRefillHead r).refill_head = r := by
  simp [set_refill, refill_head, refill_index]

/-- A write to the tail slot is the new tail. -/
@[simp] theorem set_refill_refill_tail (r : refill_t) : (sc.set_refill sc.scRefillTail r).refill_tail = r := by
  simp [set_refill, refill_tail, refill_index]

/-- Of two writes to one slot the second stays. -/
@[simp] theorem set_refill_set_refill (i : Nat) (r r' : refill_t) :
    (sc.set_refill i r).set_refill i r' = sc.set_refill i r' := by
  simp [set_refill]

theorem refill_list_length : sc.refill_list.length = sc.refill_size := Ring.toList_length _

theorem refill_list_eq_cons : sc.refill_list = sc.refill_head :: sc.refill_list.tail := by
  rw [refill_list, Ring.toList_eq_cons]
  rfl

theorem refill_list_of_single (h : sc.scRefillHead = sc.scRefillTail) :
    sc.refill_list = [sc.refill_head] := by
  rw [refill_list, ← h, Ring.toList_self]
  rfl

/-- A write to a refill leaves the ring's ends where they are. -/
theorem refill_ring.set (hr : sc.refill_ring) (i : Nat) (r : refill_t) : (sc.set_refill i r).refill_ring :=
  ⟨hr.head_lt, hr.tail_lt⟩

variable (hr : sc.refill_ring)
include hr

theorem refill_list_eq_snoc : sc.refill_list = sc.refill_list.dropLast ++ [sc.refill_tail] := by
  rw [refill_list, Ring.toList_eq_snoc hr.head_lt hr.tail_lt, List.dropLast_concat]
  rfl

theorem refill_size_le : sc.refill_size ≤ sc.scRefillMax := Ring.size_le hr.head_lt hr.tail_lt

/-- Rewriting the head refill. -/
theorem refill_list_set_head (r : refill_t) :
    (sc.set_refill sc.scRefillHead r).refill_list = r :: sc.refill_list.tail :=
  Ring.toList_update_head hr.head_lt hr.tail_lt _ r

/-- Rewriting the tail refill. -/
theorem refill_list_set_tail (r : refill_t) :
    (sc.set_refill sc.scRefillTail r).refill_list = sc.refill_list.dropLast ++ [r] :=
  Ring.toList_update_tail hr.head_lt hr.tail_lt _ r

/-- **`refill_pop_head`** on a ring of more than one refill moves the head on
and gives the old head; its assertions hold. -/
theorem refill_pop_head_of_ne (hne : sc.scRefillHead ≠ sc.scRefillTail) :
    sc.refill_pop_head = some ({ sc with scRefillHead := sc.refill_next sc.scRefillHead }, sc.refill_head) := by
  have hsize : ({ sc with scRefillHead := sc.refill_next sc.scRefillHead } : sched_context_t).refill_size + 1 =
      sc.refill_size := Ring.size_next_head hr.head_lt hr.tail_lt hne
  have hlt : sc.refill_next sc.scRefillHead < sc.scRefillMax := Ring.next_lt hr.head_lt
  simp [refill_pop_head, refill_single, hne, hsize, hlt]

/-- The ring after the head moved on is the list without its first refill. -/
theorem refill_list_next_head (hne : sc.scRefillHead ≠ sc.scRefillTail) :
    ({ sc with scRefillHead := sc.refill_next sc.scRefillHead } : sched_context_t).refill_list =
      sc.refill_list.tail :=
  Ring.toList_next_head hr.head_lt hr.tail_lt _ hne

/-- Writing the slot the head left changes nothing of the ring. -/
theorem refill_list_next_head_set (hne : sc.scRefillHead ≠ sc.scRefillTail) (r : refill_t) :
    (({ sc with scRefillHead := sc.refill_next sc.scRefillHead } : sched_context_t).set_refill
      sc.scRefillHead r).refill_list = sc.refill_list.tail := by
  rw [← refill_list_next_head hr hne]
  exact Ring.toList_update_next_head hr.head_lt hr.tail_lt _ hne r

theorem refill_ring_next_head :
    ({ sc with scRefillHead := sc.refill_next sc.scRefillHead } : sched_context_t).refill_ring :=
  ⟨Ring.next_lt hr.head_lt, hr.tail_lt⟩

/-- **`refill_add_tail`** on a ring with room writes the slot after the tail
and moves the tail onto it. -/
theorem refill_add_tail_of_lt (hlt : sc.refill_size < sc.scRefillMax) (t a : Nat) :
    sc.refill_add_tail t a = some { sc with
      scRefillTail := sc.refill_next sc.scRefillTail
      refills := update sc.refills (sc.refill_next sc.scRefillTail) ⟨t, a⟩ } := by
  have hnext : sc.refill_next sc.scRefillTail < sc.scRefillMax := Ring.next_lt hr.tail_lt
  simp [refill_add_tail, hlt, hnext, set_refill, refill_tail, refill_index]

theorem refill_list_add_tail (hlt : sc.refill_size < sc.scRefillMax) (r : refill_t) :
    ({ sc with
      scRefillTail := sc.refill_next sc.scRefillTail
      refills := update sc.refills (sc.refill_next sc.scRefillTail) r } : sched_context_t).refill_list =
      sc.refill_list ++ [r] := by
  have happ := Ring.toList_next_tail hr.head_lt hr.tail_lt
    (update sc.refills (Ring.next sc.scRefillMax sc.scRefillTail) r) hlt
  rw [Ring.toList_update_next_tail hr.head_lt hr.tail_lt _ hlt, update_self] at happ
  exact happ

theorem refill_ring_add_tail (r : refill_t) :
    ({ sc with
      scRefillTail := sc.refill_next sc.scRefillTail
      refills := update sc.refills (sc.refill_next sc.scRefillTail) r } : sched_context_t).refill_ring :=
  ⟨hr.head_lt, Ring.next_lt hr.tail_lt⟩

end RingLemmas

end sched_context_t

/-! ## Charging a sporadic context -/

/-- The first loop of `refill_budget_check`: the refills the usage covers
whole are used, and come back a period later. -/
def charge_whole_refills : Nat → sched_context_t → Nat → Option (sched_context_t × Nat)
  | 0, _, _ => none
  | fuel + 1, sc, usage =>
    if sc.refill_head.rAmount ≤ usage ∧ sc.refill_head.rTime < max_release_time then
      let usage := usage - sc.refill_head.rAmount
      if sc.refill_single then
        charge_whole_refills fuel
          (sc.set_refill sc.scRefillHead { sc.refill_head with rTime := sc.refill_head.rTime + sc.scPeriod })
          usage
      else
        match sc.refill_pop_head with
        | none => none
        | some (sc', old_head) =>
          -- `(*old_head).rTime += scPeriod` writes the slot the head left
          let old_head := { old_head with rTime := old_head.rTime + sc.scPeriod }
          let sc' := sc'.set_refill sc.scRefillHead old_head
          (sc'.schedule_used old_head.rTime old_head.rAmount).bind fun sc =>
            charge_whole_refills fuel sc usage
    else some (sc, usage)

/-- The last loop of `refill_budget_check`: the head takes in the refills
after it until it holds `min_budget`, starting that much earlier. -/
def merge_up_to_min_budget : Nat → sched_context_t → Option sched_context_t
  | 0, _ => none
  | fuel + 1, sc =>
    if sc.refill_head.rAmount < min_budget then
      match sc.refill_pop_head with
      | none => none
      | some (sc, head) =>
        let sc := sc.set_refill sc.scRefillHead
          { sc.refill_head with rAmount := sc.refill_head.rAmount + head.rAmount }
        let sc := sc.set_refill sc.scRefillHead
          { sc.refill_head with rTime := sc.refill_head.rTime - head.rAmount }
        merge_up_to_min_budget fuel sc
    else some sc

/-- The middle of `refill_budget_check`: the part of the head the usage
covers comes back a period later, and the head starts that much later. -/
def charge_part_of_head (sc : sched_context_t) (usage : Nat) : Option sched_context_t :=
  if usage > 0 ∧ sc.refill_head.rTime < max_release_time then
    if sc.refill_head.rAmount ≤ usage then none
    else
      let new_rTime := sc.refill_head.rTime + sc.scPeriod
      let sc := sc.set_refill sc.scRefillHead
        { sc.refill_head with rAmount := sc.refill_head.rAmount - usage }
      let sc := sc.set_refill sc.scRefillHead
        { sc.refill_head with rTime := sc.refill_head.rTime + usage }
      sc.schedule_used new_rTime usage
  else some sc

/-- `refill_budget_check` on the scheduling context it charges: whole
refills, then the used part of the head, come back a period later, and the
head is topped up to `min_budget`. `fuel` bounds both loops. -/
def refill_budget_check (fuel : Nat) (sc : sched_context_t) (usage : Nat) : Option sched_context_t :=
  if sc.is_round_robin then none
  else do
    let (sc, usage) ← charge_whole_refills fuel sc usage
    let sc ← charge_part_of_head sc usage
    merge_up_to_min_budget fuel sc

namespace sched_context_t

/-- `charge_budget` on the current scheduling context: a round-robin one
takes its second refill back into the head, a sporadic one is charged by
`refill_budget_check`; either way the head must hold `min_budget` after. -/
def charge_budget (fuel : Nat) (sc : sched_context_t) (consumed : Nat) : Option sched_context_t := do
  let sc ← if sc.is_round_robin then
      if sc.refill_size ≠ MIN_REFILLS then none
      else
        let sc := sc.set_refill sc.scRefillHead
          { sc.refill_head with rAmount := sc.refill_head.rAmount + sc.refill_tail.rAmount }
        some (sc.set_refill sc.scRefillTail { sc.refill_tail with rAmount := 0 })
    else refill_budget_check fuel sc consumed
  if sc.refill_head.rAmount < min_budget then none
  else some { sc with scConsumed := sc.scConsumed + consumed }

/-- `commit_time` on the current scheduling context, which is active: the
time consumed moves from the head to the second refill of a round-robin
context, and charges a sporadic one by `refill_budget_check`. The head must
cover it with `min_budget` to spare and be ready, before and after. -/
def commit_time (fuel : Nat) (sc : sched_context_t) (ksConsumed ksCurTime : Nat) : Option sched_context_t :=
  let charged :=
    if ksConsumed > 0 then
      if !(sc.refill_sufficient ksConsumed && sc.refill_ready ksCurTime) then none
      else
        let sc? :=
          if sc.is_round_robin then
            if sc.refill_size ≠ MIN_REFILLS then none
            else
              let sc := sc.set_refill sc.scRefillHead
                { sc.refill_head with rAmount := sc.refill_head.rAmount - ksConsumed }
              some (sc.set_refill sc.scRefillTail
                { sc.refill_tail with rAmount := sc.refill_tail.rAmount + ksConsumed })
          else refill_budget_check fuel sc ksConsumed
        sc?.bind fun sc =>
          if sc.refill_sufficient 0 && sc.refill_ready ksCurTime then some sc else none
    else some sc
  charged.map fun sc => { sc with scConsumed := sc.scConsumed + ksConsumed }

/-- `SCHED_CONTEXT_SPORADIC`. -/
def SCHED_CONTEXT_SPORADIC : Nat := 1

/-- The writes of `invoke_sched_control_configure_flags` (without SMP) to the
scheduling context it configures: its badge, its sporadic flag and its
refills, new ones for a round-robin context (budget equal to the period) or
one that is not running, and the running ones updated otherwise. `runnable`
says whether the bound thread is runnable. Taking the thread off the queues
and billing its time first, and resuming it after, are the scheduler's. -/
def configure_flags (sc : sched_context_t) (budget period max_refills badge flags ksCurTime : Nat)
    (runnable : Bool) : Option sched_context_t := do
  let sc := { sc with scBadge := badge, scSporadic := flags &&& SCHED_CONTEXT_SPORADIC ≠ 0 }
  let sc ←
    if budget = period then sc.refill_new MIN_REFILLS budget 0 ksCurTime
    else if sc.scRefillMax > 0 ∧ sc.scTcb ≠ 0 ∧ runnable then
      sc.refill_update period budget max_refills ksCurTime
    else sc.refill_new max_refills budget period ksCurTime
  if sc.scRefillMax > 0 then some sc else none

end sched_context_t

namespace mcs_state

/-- `charge_budget`, on the scheduling context: the idle one is not charged,
and the time consumed is cleared. What follows for the current thread
(`endTimeslice`, C code outside the source) is not modelled. -/
def charge_budget (fuel : Nat) (s : mcs_state) (consumed : Nat) : Option mcs_state :=
  let charged :=
    if s.ksCurSC ≠ s.ksIdleSC then
      ((s.scs s.ksCurSC).charge_budget fuel consumed).map fun sc => { s with scs := update s.scs s.ksCurSC sc }
    else some s
  charged.map fun s => { s with ksConsumed := 0 }

/-- `commit_time`: the time consumed is billed to the current scheduling
context unless it is idle or inactive, and cleared. -/
def commit_time (fuel : Nat) (s : mcs_state) : Option mcs_state :=
  let sc := s.scs s.ksCurSC
  let charged :=
    if sc.scRefillMax ≠ 0 ∧ s.ksCurSC ≠ s.ksIdleSC then
      (sc.commit_time fuel s.ksConsumed s.ksCurTime).map fun sc => { s with scs := update s.scs s.ksCurSC sc }
    else some s
  charged.map fun s => { s with ksConsumed := 0 }

end mcs_state

end Rel4Kernel
