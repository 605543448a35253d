/-
The ready queues (`tcb.rs`, `tcb_queue.rs`, non-MCS, non-SMP): the queue
surgery of `tcb_queue_t` over the sched links, and `sched_enqueue`,
`sched_dequeue` and `sched_append`, which keep a queue, the thread's
`tcbQueued` bit and the bitmap in step.

`ksReadyQueues[ready_queues_index(d, p)]` threads through `tcbSchedNext` and
`tcbSchedPrev` the threads of domain `d` and priority `p` whose `tcbQueued`
bit is set. `prepend` writes neither link of the thread it adds when the
queue is empty, nor its backward link otherwise: it relies on an unqueued
thread having both links zero. `remove` restores that on each of its four
branches, the two that unlink an end writing only the link that is not zero
already.

`valid_queues` states all of this against an abstract list per domain and
priority, and `valid_queues.update` is the frame argument the three
operations share: an operation on one thread's queue leaves every other queue
alone.
-/
import Rel4Kernel.Lib.HeapList
import Rel4Kernel.Task.TcbQueue
import Rel4Kernel.Task.Scheduler

set_option autoImplicit false

namespace Rel4Kernel

open HeapList Function

/-! ## The sched links -/

/-- `convert_to_mut_type_ref::<tcb_t>(p).tcbSchedNext = v`. -/
def setSchedNext (tcbs : Nat → tcb_t) (p v : Nat) : Nat → tcb_t :=
  update tcbs p { tcbs p with tcbSchedNext := v }

/-- `convert_to_mut_type_ref::<tcb_t>(p).tcbSchedPrev = v`. -/
def setSchedPrev (tcbs : Nat → tcb_t) (p v : Nat) : Nat → tcb_t :=
  update tcbs p { tcbs p with tcbSchedPrev := v }

def schedNext (tcbs : Nat → tcb_t) : Nat → Nat := fun p => (tcbs p).tcbSchedNext

def schedPrev (tcbs : Nat → tcb_t) : Nat → Nat := fun p => (tcbs p).tcbSchedPrev

-- A write is stated field-wise, so that every other field of every thread
-- reads back unchanged by projection alone.
@[simp] theorem setSchedNext_apply (tcbs : Nat → tcb_t) (p v a : Nat) :
    setSchedNext tcbs p v a =
      { tcbs a with tcbSchedNext := if a = p then v else (tcbs a).tcbSchedNext } := by
  by_cases h : a = p
  · subst h; simp [setSchedNext]
  · simp [setSchedNext, h]

@[simp] theorem setSchedPrev_apply (tcbs : Nat → tcb_t) (p v a : Nat) :
    setSchedPrev tcbs p v a =
      { tcbs a with tcbSchedPrev := if a = p then v else (tcbs a).tcbSchedPrev } := by
  by_cases h : a = p
  · subst h; simp [setSchedPrev]
  · simp [setSchedPrev, h]

@[simp] theorem schedNext_apply (tcbs : Nat → tcb_t) (p : Nat) :
    schedNext tcbs p = (tcbs p).tcbSchedNext := rfl

@[simp] theorem schedPrev_apply (tcbs : Nat → tcb_t) (p : Nat) :
    schedPrev tcbs p = (tcbs p).tcbSchedPrev := rfl

/-- The heap threads `xs` through the sched links between the ends of `q`. -/
def SchedQueue (tcbs : Nat → tcb_t) (q : tcb_queue_t) (xs : List Nat) : Prop :=
  Queue (schedNext tcbs) (schedPrev tcbs) 0 q.head q.tail xs

/-! ## `tcb_queue_t` -/

namespace tcb_queue_t

/-- `tcb_queue_t::prepend`: link `t` at the front. -/
def prepend (q : tcb_queue_t) (tcbs : Nat → tcb_t) (t : Nat) : tcb_queue_t × (Nat → tcb_t) :=
  if q.empty then ({ head := t, tail := t }, tcbs)
  else
    let tcbs := setSchedNext tcbs t q.head
    let tcbs := setSchedPrev tcbs q.head t
    ({ q with head := t }, tcbs)

/-- `tcb_queue_t::remove`: unlink `t`, which the code tells apart as the only
member, the head, the tail or an inner member by comparing it with the ends. -/
def remove (q : tcb_queue_t) (tcbs : Nat → tcb_t) (t : Nat) : tcb_queue_t × (Nat → tcb_t) :=
  let before := (tcbs t).tcbSchedPrev
  let after := (tcbs t).tcbSchedNext
  if q.head = t ∧ q.tail = t then ({ head := 0, tail := 0 }, tcbs)
  else if q.head = t then
    let tcbs := setSchedPrev tcbs after 0
    let tcbs := setSchedNext tcbs t 0
    ({ q with head := after }, tcbs)
  else if q.tail = t then
    let tcbs := setSchedNext tcbs before 0
    let tcbs := setSchedPrev tcbs t 0
    ({ q with tail := before }, tcbs)
  else
    let tcbs := setSchedNext tcbs before after
    let tcbs := setSchedPrev tcbs after before
    let tcbs := setSchedPrev tcbs t 0
    let tcbs := setSchedNext tcbs t 0
    (q, tcbs)

/-- The surgery `tcb_t::sched_append` writes out in place: link `t` at the
back, writing both of its links. -/
def link_back (q : tcb_queue_t) (tcbs : Nat → tcb_t) (t : Nat) : tcb_queue_t × (Nat → tcb_t) :=
  let head := if q.head = 0 then t else q.head
  let tcbs := if q.head = 0 then tcbs else setSchedNext tcbs q.tail t
  let tcbs := setSchedPrev tcbs t q.tail
  let tcbs := setSchedNext tcbs t 0
  ({ head := head, tail := t }, tcbs)

end tcb_queue_t

/-- A thread as it is off every queue: links and `tcbQueued` bit cleared.
The queue operations change nothing of any thread that this forgets. -/
def tcb_t.dequeued (tcb : tcb_t) : tcb_t :=
  { tcb with tcbSchedNext := 0, tcbSchedPrev := 0, tcbState := { tcb.tcbState with tcbQueued := 0 } }

namespace tcb_t

variable {a b : tcb_t} (h : a.dequeued = b.dequeued)
include h

theorem domain_eq_of_dequeued : a.domain = b.domain := (congrArg tcb_t.domain h :)

theorem tcbPriority_eq_of_dequeued : a.tcbPriority = b.tcbPriority :=
  (congrArg tcb_t.tcbPriority h :)

theorem tsType_eq_of_dequeued : a.tcbState.tsType = b.tcbState.tsType :=
  (congrArg (·.tcbState.tsType) h :)

theorem tcbFault_eq_of_dequeued : a.tcbFault = b.tcbFault := (congrArg tcb_t.tcbFault h :)

end tcb_t

namespace tcb_queue_t

variable {tcbs : Nat → tcb_t} {q : tcb_queue_t} {t : Nat}

/-! ### `prepend` -/

theorem prepend_fst : (q.prepend tcbs t).1 = ⟨t, if q.head = 0 then t else q.tail⟩ := by
  unfold prepend empty
  by_cases h : q.head = 0 <;> simp [h]

theorem prepend_next (a : Nat) :
    ((q.prepend tcbs t).2 a).tcbSchedNext =
      if a = t ∧ q.head ≠ 0 then q.head else (tcbs a).tcbSchedNext := by
  unfold prepend empty
  by_cases h : q.head = 0 <;> by_cases ha : a = t <;> simp [h, ha]

theorem prepend_prev (a : Nat) :
    ((q.prepend tcbs t).2 a).tcbSchedPrev =
      if a = q.head ∧ q.head ≠ 0 then t else (tcbs a).tcbSchedPrev := by
  unfold prepend empty
  by_cases h : q.head = 0 <;> by_cases ha : a = q.head <;> simp [h, ha]

theorem prepend_dequeued (a : Nat) : ((q.prepend tcbs t).2 a).dequeued = (tcbs a).dequeued := by
  unfold prepend
  split <;> simp [tcb_t.dequeued]

theorem prepend_tcbState (a : Nat) : ((q.prepend tcbs t).2 a).tcbState = (tcbs a).tcbState := by
  unfold prepend
  split <;> simp

/-- **`prepend` links at the front** a thread that is not a member and whose
links are zero. -/
theorem prepend_queue {xs : List Nat} (hq : SchedQueue tcbs q xs) (ht : t ∉ xs) (ht0 : t ≠ 0)
    (hn : (tcbs t).tcbSchedNext = 0) (hp : (tcbs t).tcbSchedPrev = 0) :
    SchedQueue (q.prepend tcbs t).2 (q.prepend tcbs t).1 (t :: xs) := by
  have hhead : q.head = xs.head?.getD 0 := hq.head_eq
  have hmem : ∀ a ∈ xs, a ≠ t := fun a ha e => ht (e ▸ ha)
  have key := Queue.insert (schedNext (q.prepend tcbs t).2) (schedPrev (q.prepend tcbs t).2)
    (l := []) (r := xs) hq (by simpa using ht) ht0
  simp only [List.nil_append, List.getLast?_nil, Option.getD_none, ↓reduceIte, ne_eq,
    not_true_eq_false, IsEmpty.forall_iff, schedNext_apply, schedPrev_apply, prepend_next,
    prepend_prev, ← hhead] at key
  unfold SchedQueue
  rw [prepend_fst]
  by_cases he : q.head = 0
  · -- an empty queue: `t` becomes both ends, with the links it has
    have hx : xs = [] := hq.eq_nil_iff.mp he
    subst hx
    simpa [he, hn, hp] using key
  · have hx : xs ≠ [] := fun e => he (hq.eq_nil_iff.mpr e)
    have hht : q.head ≠ t := hmem _ (hq.head_mem hx)
    simp only [he, hx, ↓reduceIte] at key ⊢
    refine key (fun a ha _ => by simp [hmem a ha]) (fun a _ hne => by simp [hne]) trivial
      (fun _ => by simp) (by simp) (by simp [Ne.symm hht, hp])

/-! ### `remove` -/

theorem remove_dequeued (a : Nat) : ((q.remove tcbs t).2 a).dequeued = (tcbs a).dequeued := by
  unfold remove
  split
  · rfl
  · split
    · simp [tcb_t.dequeued]
    · split <;> simp [tcb_t.dequeued]

theorem remove_tcbState (a : Nat) : ((q.remove tcbs t).2 a).tcbState = (tcbs a).tcbState := by
  unfold remove
  split
  · rfl
  · split
    · simp
    · split <;> simp

section Remove

variable {l r : List Nat} (hq : SchedQueue tcbs q (l ++ t :: r))
include hq

/-- Which branch `remove` takes is read off the thread's own links. -/
private theorem remove_branches :
    (q.head = t ↔ (tcbs t).tcbSchedPrev = 0) ∧ (q.tail = t ↔ (tcbs t).tcbSchedNext = 0) ∧
      (tcbs t).tcbSchedPrev ≠ t ∧ (tcbs t).tcbSchedNext ≠ t :=
  ⟨(Queue.head_eq_iff hq).trans (Queue.prev_eq_nil_iff hq).symm,
    (Queue.tail_eq_iff hq).trans (Queue.next_eq_nil_iff hq).symm,
    Queue.prev_ne_self hq, Queue.next_ne_self hq⟩

theorem remove_fst :
    (q.remove tcbs t).1 =
      ⟨if (tcbs t).tcbSchedPrev = 0 then (tcbs t).tcbSchedNext else q.head,
        if (tcbs t).tcbSchedNext = 0 then (tcbs t).tcbSchedPrev else q.tail⟩ := by
  obtain ⟨hh, ht, -, -⟩ := remove_branches hq
  unfold remove
  by_cases h1 : q.head = t <;> by_cases h2 : q.tail = t <;> simp_all

/-- The forward links after `remove`: the predecessor takes `t`'s, and `t`'s
is zero. -/
theorem remove_next (a : Nat) :
    ((q.remove tcbs t).2 a).tcbSchedNext =
      if a = t then 0
      else if a = (tcbs t).tcbSchedPrev ∧ (tcbs t).tcbSchedPrev ≠ 0 then (tcbs t).tcbSchedNext
      else (tcbs a).tcbSchedNext := by
  obtain ⟨hh, ht, hpt, -⟩ := remove_branches hq
  unfold remove
  simp only [hh, ht]
  by_cases hP : (tcbs t).tcbSchedPrev = 0 <;> by_cases hN : (tcbs t).tcbSchedNext = 0 <;>
    by_cases ha : a = t <;> simp [hP, hN, ha, Ne.symm hpt]

theorem remove_prev (a : Nat) :
    ((q.remove tcbs t).2 a).tcbSchedPrev =
      if a = t then 0
      else if a = (tcbs t).tcbSchedNext ∧ (tcbs t).tcbSchedNext ≠ 0 then (tcbs t).tcbSchedPrev
      else (tcbs a).tcbSchedPrev := by
  obtain ⟨hh, ht, -, hnt⟩ := remove_branches hq
  unfold remove
  simp only [hh, ht]
  by_cases hP : (tcbs t).tcbSchedPrev = 0 <;> by_cases hN : (tcbs t).tcbSchedNext = 0 <;>
    by_cases ha : a = t <;> simp [hP, hN, ha, Ne.symm hnt]

/-- **`remove` unlinks** `t` from its queue. -/
theorem remove_queue : SchedQueue (q.remove tcbs t).2 (q.remove tcbs t).1 (l ++ r) := by
  have hnd := hq.nodup
  have htlr : ∀ a ∈ l ++ r, a ≠ t := by
    intro a ha e
    subst e
    rw [List.nodup_append] at hnd
    rcases List.mem_append.mp ha with h | h
    · exact hnd.2.2 a h a (by simp) rfl
    · exact (List.nodup_cons.mp hnd.2.1).1 h
  obtain ⟨-, -, hpt, hnt⟩ := remove_branches hq
  have key := Queue.unlink (schedNext (q.remove tcbs t).2) (schedPrev (q.remove tcbs t).2) hq
    (fun a ha hne => by
      rw [schedPrev_apply] at hne
      simp [remove_next hq, htlr a ha, hne])
    (fun a ha hne => by
      rw [schedNext_apply] at hne
      simp [remove_prev hq, htlr a ha, hne])
    (fun h => by
      rw [schedPrev_apply] at h
      simp [remove_next hq, hpt, h])
    (fun h => by
      rw [schedNext_apply] at h
      simp [remove_prev hq, hnt, h])
  unfold SchedQueue
  rw [remove_fst hq]
  exact key

end Remove

/-! ### `link_back` -/

theorem link_back_fst : (q.link_back tcbs t).1 = ⟨if q.head = 0 then t else q.head, t⟩ := rfl

theorem link_back_next (a : Nat) :
    ((q.link_back tcbs t).2 a).tcbSchedNext =
      if a = t then 0 else if q.head ≠ 0 ∧ a = q.tail then t else (tcbs a).tcbSchedNext := by
  unfold link_back
  by_cases h : q.head = 0 <;> by_cases ha : a = t <;> simp [h, ha]

theorem link_back_prev (a : Nat) :
    ((q.link_back tcbs t).2 a).tcbSchedPrev = if a = t then q.tail else (tcbs a).tcbSchedPrev := by
  unfold link_back
  by_cases h : q.head = 0 <;> by_cases ha : a = t <;> simp [h, ha]

theorem link_back_tcbState (a : Nat) : ((q.link_back tcbs t).2 a).tcbState = (tcbs a).tcbState := by
  unfold link_back
  by_cases h : q.head = 0 <;> simp [h]

theorem link_back_dequeued (a : Nat) : ((q.link_back tcbs t).2 a).dequeued = (tcbs a).dequeued := by
  unfold link_back
  by_cases h : q.head = 0 <;> simp [h, tcb_t.dequeued]

/-- **`link_back` links at the back** a thread that is not a member. -/
theorem link_back_queue {xs : List Nat} (hq : SchedQueue tcbs q xs) (ht : t ∉ xs) (ht0 : t ≠ 0) :
    SchedQueue (q.link_back tcbs t).2 (q.link_back tcbs t).1 (xs ++ [t]) := by
  have hlast : q.tail = xs.getLast?.getD 0 := hq.tail_eq
  have hmem : ∀ a ∈ xs, a ≠ t := fun a ha e => ht (e ▸ ha)
  have key := Queue.insert (schedNext (q.link_back tcbs t).2) (schedPrev (q.link_back tcbs t).2)
    (l := xs) (r := []) (by rw [List.append_nil]; exact hq) (by simpa using ht) ht0
  simp only [List.append_nil, List.head?_nil, Option.getD_none, ↓reduceIte, ← hlast,
    schedNext_apply, schedPrev_apply, link_back_next, link_back_prev] at key
  unfold SchedQueue
  rw [link_back_fst]
  by_cases h0 : q.head = 0
  · -- an empty queue: `t` becomes both ends
    have hx : xs = [] := hq.eq_nil_iff.mp h0
    subst hx
    have htl : q.tail = 0 := by simpa using hlast
    simpa [h0, htl] using key
  · have hx : xs ≠ [] := fun e => h0 (hq.eq_nil_iff.mpr e)
    have htl : q.tail ≠ t := hmem _ (hq.tail_mem hx)
    simp only [h0, hx, ↓reduceIte] at key ⊢
    refine key (fun a ha hne => by simp [hmem a ha, hne]) (fun a ha _ => by simp [hmem a ha])
      (fun _ => by simp [htl, h0]) (fun h => absurd rfl h) (by simp) (by simp)

end tcb_queue_t

/-! ## Linking a thread in -/

/-- What `prepend` and `link_back` have in common: they link a thread that is
not a member into the queue, change nothing of any thread but its links, and
no link outside the queue and the thread. -/
structure queue_insertion
    (link : tcb_queue_t → (Nat → tcb_t) → Nat → tcb_queue_t × (Nat → tcb_t)) : Prop where
  dequeued : ∀ q tcbs t a, ((link q tcbs t).2 a).dequeued = (tcbs a).dequeued
  tcbState : ∀ q tcbs t a, ((link q tcbs t).2 a).tcbState = (tcbs a).tcbState
  frame : ∀ q tcbs t (xs : List Nat) a, SchedQueue tcbs q xs → a ≠ t → a ∉ xs →
    ((link q tcbs t).2 a).tcbSchedNext = (tcbs a).tcbSchedNext ∧
      ((link q tcbs t).2 a).tcbSchedPrev = (tcbs a).tcbSchedPrev
  queue : ∀ q tcbs t (xs : List Nat), SchedQueue tcbs q xs → t ∉ xs → t ≠ 0 →
    (tcbs t).tcbSchedNext = 0 → (tcbs t).tcbSchedPrev = 0 →
    ∃ ys, SchedQueue (link q tcbs t).2 (link q tcbs t).1 ys ∧ ∀ a, a ∈ ys ↔ a = t ∨ a ∈ xs

theorem prepend_insertion : queue_insertion tcb_queue_t.prepend where
  dequeued _ _ _ a := tcb_queue_t.prepend_dequeued a
  tcbState _ _ _ a := tcb_queue_t.prepend_tcbState a
  frame q _ _ _ a hq ha hxs := by
    -- the old head, the only other thread written, is a member
    have hhead : q.head ≠ 0 → a ≠ q.head := fun hne e =>
      hxs (e ▸ hq.head_mem fun hx => hne (hq.eq_nil_iff.mpr hx))
    rw [tcb_queue_t.prepend_next, tcb_queue_t.prepend_prev]
    by_cases he : q.head = 0
    · simp [he]
    · simp [ha, hhead he]
  queue _ _ t xs hq ht ht0 hn hp := ⟨t :: xs, tcb_queue_t.prepend_queue hq ht ht0 hn hp, by simp⟩

theorem link_back_insertion : queue_insertion tcb_queue_t.link_back where
  dequeued _ _ _ a := tcb_queue_t.link_back_dequeued a
  tcbState _ _ _ a := tcb_queue_t.link_back_tcbState a
  frame q _ _ _ a hq ha hxs := by
    -- the old tail, the only other thread written, is a member
    have htail : q.head ≠ 0 → a ≠ q.tail := fun hne e =>
      hxs (e ▸ hq.tail_mem fun hx => hne (hq.eq_nil_iff.mpr hx))
    rw [tcb_queue_t.link_back_next, tcb_queue_t.link_back_prev]
    by_cases he : q.head = 0
    · simp [ha, he]
    · simp [ha, htail he]
  queue _ _ t xs hq ht ht0 _ _ := ⟨xs ++ [t], tcb_queue_t.link_back_queue hq ht ht0, by simp [or_comm]⟩

/-! ## The three operations -/

/-- `tcbState.set_tcbQueued(v)` on the thread at `t`. -/
def set_tcbQueued (s : KernelState) (t v : Nat) : KernelState :=
  s.modifyTcb t fun tcb => { tcb with tcbState := { tcb.tcbState with tcbQueued := v } }

/-- `sched_enqueue` and `sched_append` differ only in where they link the
thread: both leave a queued thread alone, and otherwise mark the priority in
the bitmap when the queue is empty, link the thread in and set its
`tcbQueued` bit. -/
def sched_insert (link : tcb_queue_t → (Nat → tcb_t) → Nat → tcb_queue_t × (Nat → tcb_t))
    (s : KernelState) (t : Nat) : KernelState :=
  let tcb := s.tcbs t
  if tcb.tcbState.tcbQueued = 0 then
    let dom := tcb.domain
    let prio := tcb.tcbPriority
    let idx := ready_queues_index dom prio
    let queue := s.ksReadyQueues idx
    let s := if queue.empty then add_to_bitmap s dom prio else s
    let r := link queue s.tcbs t
    set_tcbQueued { s with tcbs := r.2, ksReadyQueues := update s.ksReadyQueues idx r.1 } t 1
  else s

/-- `tcb_t::sched_enqueue`: at the front of the queue. -/
def sched_enqueue (s : KernelState) (t : Nat) : KernelState := sched_insert tcb_queue_t.prepend s t

/-- `tcb_t::sched_append`: at the back. The code marks the bitmap between the
writes of the surgery; it touches no link. -/
def sched_append (s : KernelState) (t : Nat) : KernelState := sched_insert tcb_queue_t.link_back s t

/-- `tcb_t::sched_dequeue`: take a queued thread out of its queue, clearing
the priority in the bitmap when the queue became empty. -/
def sched_dequeue (s : KernelState) (t : Nat) : KernelState :=
  let tcb := s.tcbs t
  if tcb.tcbState.tcbQueued ≠ 0 then
    let dom := tcb.domain
    let prio := tcb.tcbPriority
    let idx := ready_queues_index dom prio
    let r := (s.ksReadyQueues idx).remove s.tcbs t
    let s := set_tcbQueued { s with tcbs := r.2, ksReadyQueues := update s.ksReadyQueues idx r.1 } t 0
    if r.1.head = 0 then remove_from_bigmap s dom prio else s
  else s

/-! ## The queue invariant -/

/-- `t` is queued, with domain `d` and priority `p`. -/
def queued_in (s : KernelState) (d p t : Nat) : Prop :=
  (s.tcbs t).tcbState.tcbQueued = 1 ∧ (s.tcbs t).domain = d ∧ (s.tcbs t).tcbPriority = p

/-- The ready queue of domain `d` and priority `p` holds `xs`. -/
def ReadyQueue (s : KernelState) (d p : Nat) (xs : List Nat) : Prop :=
  SchedQueue s.tcbs (s.ksReadyQueues (ready_queues_index d p)) xs

/-- The ready queues hold the lists `Q`: the queue of each domain and priority
is a well-formed doubly linked list whose members are exactly the queued
threads of that domain and priority, and a thread that is not queued has no
links. `tcbQueued` is a one-bit field, and domains and priorities are in
range, as the decoders of `set_domain` and `set_priority` make them. -/
structure valid_queues (s : KernelState) (Q : Nat → Nat → List Nat) : Prop where
  queue : ∀ d p, d < CONFIG_NUM_DOMAINS → p < CONFIG_NUM_PRIORITIES → ReadyQueue s d p (Q d p)
  mem_iff : ∀ d p t, d < CONFIG_NUM_DOMAINS → p < CONFIG_NUM_PRIORITIES →
    (t ∈ Q d p ↔ queued_in s d p t)
  unqueued_links : ∀ t, (s.tcbs t).tcbState.tcbQueued = 0 →
    (s.tcbs t).tcbSchedNext = 0 ∧ (s.tcbs t).tcbSchedPrev = 0
  valid_tcb : ∀ t, (s.tcbs t).tcbState.tcbQueued ≤ 1 ∧ (s.tcbs t).domain < CONFIG_NUM_DOMAINS ∧
    (s.tcbs t).tcbPriority < CONFIG_NUM_PRIORITIES

namespace valid_queues

variable {s s' : KernelState} {Q : Nat → Nat → List Nat}

theorem not_mem_of_unqueued (hv : valid_queues s Q) {t d p : Nat} (hd : d < CONFIG_NUM_DOMAINS)
    (hp : p < CONFIG_NUM_PRIORITIES) (h : (s.tcbs t).tcbState.tcbQueued = 0) : t ∉ Q d p := by
  rw [hv.mem_iff d p t hd hp, queued_in, h]
  simp

/-- A queued thread is in the queue of its own domain and priority. -/
theorem mem_of_queued (hv : valid_queues s Q) {t : Nat} (h : (s.tcbs t).tcbState.tcbQueued ≠ 0) :
    t ∈ Q (s.tcbs t).domain (s.tcbs t).tcbPriority := by
  obtain ⟨hbit, hd, hp⟩ := hv.valid_tcb t
  rw [hv.mem_iff _ _ t hd hp]
  exact ⟨by omega, rfl, rfl⟩

/-- A member of a queue other than `t`'s is neither `t` nor in `t`'s queue. -/
theorem mem_other (hv : valid_queues s Q) {t d p a : Nat} (hd : d < CONFIG_NUM_DOMAINS)
    (hp : p < CONFIG_NUM_PRIORITIES) (hne : ¬ (d = (s.tcbs t).domain ∧ p = (s.tcbs t).tcbPriority))
    (ha : a ∈ Q d p) : a ≠ t ∧ a ∉ Q (s.tcbs t).domain (s.tcbs t).tcbPriority := by
  obtain ⟨-, htd, htp⟩ := hv.valid_tcb t
  obtain ⟨-, had, hap⟩ := (hv.mem_iff d p a hd hp).mp ha
  refine ⟨fun e => hne ⟨e ▸ had.symm, e ▸ hap.symm⟩, fun ha' => hne ?_⟩
  obtain ⟨-, had', hap'⟩ := (hv.mem_iff _ _ a htd htp).mp ha'
  exact ⟨had.symm.trans had', hap.symm.trans hap'⟩

/-- **Frame.** An operation on the queue of `t` that changes no other queue,
no link outside that queue and `t`, and no field the queues read of any other
thread, keeps every other queue; with the new queue `xs` of `t`'s domain and
priority, and `t`'s own fields in order, the invariant holds again. -/
theorem update (hv : valid_queues s Q) {t : Nat} (xs : List Nat)
    (hrq : ∀ i, i ≠ ready_queues_index (s.tcbs t).domain (s.tcbs t).tcbPriority →
      s'.ksReadyQueues i = s.ksReadyQueues i)
    (hlinks : ∀ a, a ≠ t → a ∉ Q (s.tcbs t).domain (s.tcbs t).tcbPriority →
      (s'.tcbs a).tcbSchedNext = (s.tcbs a).tcbSchedNext ∧
        (s'.tcbs a).tcbSchedPrev = (s.tcbs a).tcbSchedPrev)
    (hfields : ∀ a, a ≠ t → (s'.tcbs a).dequeued = (s.tcbs a).dequeued ∧
      (s'.tcbs a).tcbState.tcbQueued = (s.tcbs a).tcbState.tcbQueued)
    (hself : (s'.tcbs t).dequeued = (s.tcbs t).dequeued) (hbit : (s'.tcbs t).tcbState.tcbQueued ≤ 1)
    (hnew : ReadyQueue s' (s.tcbs t).domain (s.tcbs t).tcbPriority xs)
    (hmem : ∀ a, a ∈ xs ↔ queued_in s' (s.tcbs t).domain (s.tcbs t).tcbPriority a)
    (hunq : (s'.tcbs t).tcbState.tcbQueued = 0 →
      (s'.tcbs t).tcbSchedNext = 0 ∧ (s'.tcbs t).tcbSchedPrev = 0) :
    valid_queues s' fun d p =>
      if d = (s.tcbs t).domain ∧ p = (s.tcbs t).tcbPriority then xs else Q d p := by
  obtain ⟨-, htd, htp⟩ := hv.valid_tcb t
  -- `t`'s domain and priority, and every other thread's fields, read back unchanged
  have hdom : (s'.tcbs t).domain = (s.tcbs t).domain := tcb_t.domain_eq_of_dequeued hself
  have hprio : (s'.tcbs t).tcbPriority = (s.tcbs t).tcbPriority :=
    tcb_t.tcbPriority_eq_of_dequeued hself
  have hqin : ∀ a d p, a ≠ t → (queued_in s' d p a ↔ queued_in s d p a) := by
    intro a d p ha
    obtain ⟨hf, hq⟩ := hfields a ha
    simp only [queued_in, hq, tcb_t.domain_eq_of_dequeued hf, tcb_t.tcbPriority_eq_of_dequeued hf]
  refine ⟨fun d p hd hp => ?_, fun d p a hd hp => ?_, fun a ha => ?_, fun a => ?_⟩
  · -- the queues
    split
    · next h => obtain ⟨rfl, rfl⟩ := h; exact hnew
    · next hne =>
      have hidx : ready_queues_index d p ≠ ready_queues_index (s.tcbs t).domain (s.tcbs t).tcbPriority :=
        fun e => hne (ready_queues_index_inj hp htp e)
      unfold ReadyQueue SchedQueue
      rw [hrq _ hidx]
      refine Queue.congr (hv.queue d p hd hp) (fun a ha => ?_) (fun a ha => ?_)
      · obtain ⟨h1, h2⟩ := hv.mem_other hd hp hne ha
        exact (hlinks a h1 h2).1
      · obtain ⟨h1, h2⟩ := hv.mem_other hd hp hne ha
        exact (hlinks a h1 h2).2
  · -- the members
    split
    · next h => obtain ⟨rfl, rfl⟩ := h; exact hmem a
    · next hne =>
      by_cases hat : a = t
      · subst hat
        have hq : ¬ queued_in s' d p a := fun ⟨_, h1, h2⟩ => hne ⟨h1 ▸ hdom, h2 ▸ hprio⟩
        refine iff_of_false (fun ha => ?_) hq
        exact (hv.mem_other hd hp hne ha).1 rfl
      · rw [hqin a d p hat]
        exact hv.mem_iff d p a hd hp
  · -- the links of unqueued threads
    by_cases hat : a = t
    · subst hat; exact hunq ha
    · have hq0 : (s.tcbs a).tcbState.tcbQueued = 0 := (hfields a hat).2 ▸ ha
      have hnot : a ∉ Q (s.tcbs t).domain (s.tcbs t).tcbPriority :=
        hv.not_mem_of_unqueued htd htp hq0
      rw [(hlinks a hat hnot).1, (hlinks a hat hnot).2]
      exact hv.unqueued_links a hq0
  · -- the ranges
    by_cases hat : a = t
    · subst hat
      exact ⟨hbit, hdom ▸ htd, hprio ▸ htp⟩
    · obtain ⟨hf, hq⟩ := hfields a hat
      rw [hq, tcb_t.domain_eq_of_dequeued hf, tcb_t.tcbPriority_eq_of_dequeued hf]
      exact hv.valid_tcb a

end valid_queues

@[simp] theorem set_tcbQueued_tcbs {s : KernelState} {t : Nat} (v a : Nat) :
    (set_tcbQueued s t v).tcbs a =
      if a = t then { s.tcbs t with tcbState := { (s.tcbs t).tcbState with tcbQueued := v } }
      else s.tcbs a := by
  simp [set_tcbQueued]

@[simp] theorem schedNext_set_tcbQueued {s : KernelState} {t : Nat} (v : Nat) :
    schedNext (set_tcbQueued s t v).tcbs = schedNext s.tcbs := by
  funext a
  by_cases ha : a = t <;> simp [ha]

@[simp] theorem schedPrev_set_tcbQueued {s : KernelState} {t : Nat} (v : Nat) :
    schedPrev (set_tcbQueued s t v).tcbs = schedPrev s.tcbs := by
  funext a
  by_cases ha : a = t <;> simp [ha]

/-! ## `sched_enqueue` and `sched_append` -/

section Insert

variable {link : tcb_queue_t → (Nat → tcb_t) → Nat → tcb_queue_t × (Nat → tcb_t)}
  {s : KernelState} {t : Nat}

theorem sched_insert_of_queued (h : (s.tcbs t).tcbState.tcbQueued ≠ 0) : sched_insert link s t = s := by
  simp [sched_insert, h]

/-- `sched_insert` on an unqueued thread, with the bitmap update and the queue
surgery apart: the bitmap update reads and writes neither the heap nor the
queues. -/
theorem sched_insert_of_unqueued (h : (s.tcbs t).tcbState.tcbQueued = 0) :
    sched_insert link s t =
      set_tcbQueued
        { (if (s.ksReadyQueues (ready_queues_index (s.tcbs t).domain (s.tcbs t).tcbPriority)).empty then
            add_to_bitmap s (s.tcbs t).domain (s.tcbs t).tcbPriority else s) with
          tcbs := (link (s.ksReadyQueues (ready_queues_index (s.tcbs t).domain (s.tcbs t).tcbPriority))
            s.tcbs t).2
          ksReadyQueues := update s.ksReadyQueues (ready_queues_index (s.tcbs t).domain (s.tcbs t).tcbPriority)
            (link (s.ksReadyQueues (ready_queues_index (s.tcbs t).domain (s.tcbs t).tcbPriority))
              s.tcbs t).1 } t 1 := by
  simp only [sched_insert, h, if_true]
  split <;> rfl

/-- After `sched_insert` on an unqueued thread, its queue is the one the
surgery returns, and every other valid queue is as it was. -/
theorem sched_insert_rq (hp : (s.tcbs t).tcbPriority < CONFIG_NUM_PRIORITIES)
    (h : (s.tcbs t).tcbState.tcbQueued = 0) {d p : Nat} (hp' : p < CONFIG_NUM_PRIORITIES) :
    (sched_insert link s t).ksReadyQueues (ready_queues_index d p) =
      if d = (s.tcbs t).domain ∧ p = (s.tcbs t).tcbPriority then
        (link (s.ksReadyQueues (ready_queues_index (s.tcbs t).domain (s.tcbs t).tcbPriority)) s.tcbs t).1
      else s.ksReadyQueues (ready_queues_index d p) := by
  rw [sched_insert_of_unqueued h]
  by_cases hdp : d = (s.tcbs t).domain ∧ p = (s.tcbs t).tcbPriority
  · obtain ⟨rfl, rfl⟩ := hdp
    simp [set_tcbQueued, KernelState.modifyTcb]
  · have hidx : ready_queues_index d p ≠ ready_queues_index (s.tcbs t).domain (s.tcbs t).tcbPriority :=
      fun e => hdp (ready_queues_index_inj hp' hp e)
    simp [set_tcbQueued, KernelState.modifyTcb, hidx, hdp]

@[simp] theorem sched_insert_ksSchedulerAction :
    (sched_insert link s t).ksSchedulerAction = s.ksSchedulerAction := by
  unfold sched_insert; dsimp only; split <;> (try split) <;> rfl

@[simp] theorem sched_insert_ksCurThread : (sched_insert link s t).ksCurThread = s.ksCurThread := by
  unfold sched_insert; dsimp only; split <;> (try split) <;> rfl

@[simp] theorem sched_insert_ksIdleThread : (sched_insert link s t).ksIdleThread = s.ksIdleThread := by
  unfold sched_insert; dsimp only; split <;> (try split) <;> rfl

@[simp] theorem sched_insert_eps : (sched_insert link s t).eps = s.eps := by
  unfold sched_insert; dsimp only; split <;> (try split) <;> rfl

@[simp] theorem sched_insert_ntfns : (sched_insert link s t).ntfns = s.ntfns := by
  unfold sched_insert; dsimp only; split <;> (try split) <;> rfl

@[simp] theorem sched_insert_ctes : (sched_insert link s t).ctes = s.ctes := by
  unfold sched_insert; dsimp only; split <;> (try split) <;> rfl

section Insertion

variable (hl : queue_insertion link)
include hl

theorem sched_insert_dequeued (a : Nat) :
    ((sched_insert link s t).tcbs a).dequeued = (s.tcbs a).dequeued := by
  by_cases h : (s.tcbs t).tcbState.tcbQueued = 0
  · rw [sched_insert_of_unqueued h, set_tcbQueued_tcbs]
    have hd := hl.dequeued (s.ksReadyQueues (ready_queues_index (s.tcbs t).domain
      (s.tcbs t).tcbPriority)) s.tcbs t a
    split
    · next ha => subst ha; simp_all [tcb_t.dequeued]
    · exact hd
  · rw [sched_insert_of_queued h]

theorem sched_insert_tcbQueued_of_ne {a : Nat} (ha : a ≠ t) :
    ((sched_insert link s t).tcbs a).tcbState.tcbQueued = (s.tcbs a).tcbState.tcbQueued := by
  by_cases h : (s.tcbs t).tcbState.tcbQueued = 0
  · rw [sched_insert_of_unqueued h, set_tcbQueued_tcbs, if_neg ha, hl.tcbState]
  · rw [sched_insert_of_queued h]

/-- The surgery's queue of an unqueued thread holds it and the old members,
so it is not empty. -/
private theorem insert_queue {Q : Nat → Nat → List Nat} (hv : valid_queues s Q)
    (h : (s.tcbs t).tcbState.tcbQueued = 0) (ht0 : t ≠ 0) :
    ∃ ys, SchedQueue
        (link (s.ksReadyQueues (ready_queues_index (s.tcbs t).domain (s.tcbs t).tcbPriority)) s.tcbs t).2
        (link (s.ksReadyQueues (ready_queues_index (s.tcbs t).domain (s.tcbs t).tcbPriority)) s.tcbs t).1 ys ∧
      ∀ a, a ∈ ys ↔ a = t ∨ a ∈ Q (s.tcbs t).domain (s.tcbs t).tcbPriority := by
  obtain ⟨-, hd, hp⟩ := hv.valid_tcb t
  obtain ⟨hn, hpv⟩ := hv.unqueued_links t h
  exact hl.queue _ _ t _ (hv.queue _ _ hd hp) (hv.not_mem_of_unqueued hd hp h) ht0 hn hpv

end Insertion

/-- After `sched_insert`, the thread is queued. -/
theorem sched_insert_tcbQueued_self (hv : (s.tcbs t).tcbState.tcbQueued ≤ 1) :
    ((sched_insert link s t).tcbs t).tcbState.tcbQueued = 1 := by
  by_cases h : (s.tcbs t).tcbState.tcbQueued = 0
  · rw [sched_insert_of_unqueued h, set_tcbQueued_tcbs, if_pos rfl]
  · rw [sched_insert_of_queued h]
    omega

/-- **Linking a thread in keeps the queues**: the thread joins its queue,
and nothing else changes. -/
theorem sched_insert_valid_queues (hl : queue_insertion link) {Q : Nat → Nat → List Nat}
    (hv : valid_queues s Q) (ht0 : t ≠ 0) : ∃ Q', valid_queues (sched_insert link s t) Q' := by
  by_cases h : (s.tcbs t).tcbState.tcbQueued = 0
  · obtain ⟨hbit, hd, hp⟩ := hv.valid_tcb t
    obtain ⟨ys, hys, hmemys⟩ := insert_queue hl hv h ht0
    -- every thread but `t` keeps its queue fields; `t` keeps the rest of its own
    have hother : ∀ a, a ≠ t → ((sched_insert link s t).tcbs a).dequeued = (s.tcbs a).dequeued ∧
        ((sched_insert link s t).tcbs a).tcbState.tcbQueued = (s.tcbs a).tcbState.tcbQueued :=
      fun a ha => ⟨sched_insert_dequeued hl a, sched_insert_tcbQueued_of_ne hl ha⟩
    have hqt : ((sched_insert link s t).tcbs t).tcbState.tcbQueued = 1 := sched_insert_tcbQueued_self hbit
    have hself := sched_insert_dequeued hl (s := s) (t := t) t
    refine ⟨_, hv.update ys ?_ ?_ hother hself (by omega) ?_ ?_ (by omega)⟩
    · intro i hi
      rw [sched_insert_of_unqueued h]
      simp [set_tcbQueued, KernelState.modifyTcb, hi]
    · intro a ha hna
      rw [sched_insert_of_unqueued h, set_tcbQueued_tcbs, if_neg ha]
      exact hl.frame _ _ t _ a (hv.queue _ _ hd hp) ha hna
    · unfold ReadyQueue SchedQueue
      rw [sched_insert_of_unqueued h, schedNext_set_tcbQueued, schedPrev_set_tcbQueued]
      simpa [set_tcbQueued, KernelState.modifyTcb, SchedQueue] using hys
    · intro a
      rw [hmemys a]
      by_cases ha : a = t
      · subst ha
        simp only [true_or, true_iff]
        exact ⟨hqt, tcb_t.domain_eq_of_dequeued hself, tcb_t.tcbPriority_eq_of_dequeued hself⟩
      · obtain ⟨hf, hqa⟩ := hother a ha
        simp only [ha, false_or, hv.mem_iff _ _ a hd hp, queued_in, hqa,
          tcb_t.domain_eq_of_dequeued hf, tcb_t.tcbPriority_eq_of_dequeued hf]
  · exact ⟨Q, by rw [sched_insert_of_queued h]; exact hv⟩

/-- **Linking a thread in keeps the bitmap**: the priority is marked when the
queue was empty, and the queue is not empty afterwards. -/
theorem sched_insert_bitmap_inv (hl : queue_insertion link) {Q : Nat → Nat → List Nat}
    (hv : valid_queues s Q) (hb : bitmap_inv s) (ht0 : t ≠ 0) : bitmap_inv (sched_insert link s t) := by
  by_cases h : (s.tcbs t).tcbState.tcbQueued = 0
  · obtain ⟨-, -, hp⟩ := hv.valid_tcb t
    obtain ⟨ys, hys, hmemys⟩ := insert_queue hl hv h ht0
    have hnew : (link (s.ksReadyQueues (ready_queues_index (s.tcbs t).domain (s.tcbs t).tcbPriority))
        s.tcbs t).1.head ≠ 0 := by
      intro e
      have ht : t ∈ ys := (hmemys t).mpr (Or.inl rfl)
      rw [hys.eq_nil_iff.mp e] at ht
      exact List.not_mem_nil ht
    have hhead : ∀ d p, p < CONFIG_NUM_PRIORITIES →
        (sched_insert link s t).ksReadyQueues (ready_queues_index d p) = _ :=
      fun d p hp' => sched_insert_rq hp h hp'
    by_cases he : (s.ksReadyQueues (ready_queues_index (s.tcbs t).domain (s.tcbs t).tcbPriority)).empty
    · refine hb.add (s.tcbs t).domain hp ?_ ?_ fun d p _ hp' => ?_
      · rw [sched_insert_of_unqueued h]; simp [set_tcbQueued, KernelState.modifyTcb, he]
      · rw [sched_insert_of_unqueued h]; simp [set_tcbQueued, KernelState.modifyTcb, he]
      · rw [hhead d p hp']
        split
        · next hdp => simp [hnew, hdp]
        · next hdp => simp [hdp]
    · -- the queue was not empty: its bit is set already
      have hne : (s.ksReadyQueues (ready_queues_index (s.tcbs t).domain (s.tcbs t).tcbPriority)).head ≠ 0 := by
        simpa [tcb_queue_t.empty] using he
      refine hb.of_heads ?_ ?_ fun d p _ hp' => ?_
      · rw [sched_insert_of_unqueued h]; simp [set_tcbQueued, KernelState.modifyTcb, he]
      · rw [sched_insert_of_unqueued h]; simp [set_tcbQueued, KernelState.modifyTcb, he]
      · rw [hhead d p hp']
        split
        · next hdp => obtain ⟨rfl, rfl⟩ := hdp; exact iff_of_true hnew hne
        · exact Iff.rfl
  · rw [sched_insert_of_queued h]; exact hb

end Insert

/-! ## `sched_dequeue` -/

section Dequeue

variable {s : KernelState} {t : Nat}

theorem sched_dequeue_of_unqueued (h : (s.tcbs t).tcbState.tcbQueued = 0) : sched_dequeue s t = s := by
  simp [sched_dequeue, h]

@[simp] theorem sched_dequeue_ksSchedulerAction :
    (sched_dequeue s t).ksSchedulerAction = s.ksSchedulerAction := by
  unfold sched_dequeue; dsimp only; split <;> (try split) <;> simp [set_tcbQueued, KernelState.modifyTcb]

@[simp] theorem sched_dequeue_ksCurThread : (sched_dequeue s t).ksCurThread = s.ksCurThread := by
  unfold sched_dequeue; dsimp only; split <;> (try split) <;> simp [set_tcbQueued, KernelState.modifyTcb]

@[simp] theorem sched_dequeue_ksIdleThread : (sched_dequeue s t).ksIdleThread = s.ksIdleThread := by
  unfold sched_dequeue; dsimp only; split <;> (try split) <;> simp [set_tcbQueued, KernelState.modifyTcb]

@[simp] theorem sched_dequeue_eps : (sched_dequeue s t).eps = s.eps := by
  unfold sched_dequeue; dsimp only; split <;> (try split) <;> simp [set_tcbQueued, KernelState.modifyTcb]

@[simp] theorem sched_dequeue_ntfns : (sched_dequeue s t).ntfns = s.ntfns := by
  unfold sched_dequeue; dsimp only; split <;> (try split) <;> simp [set_tcbQueued, KernelState.modifyTcb]

/-- The queue surgery of `sched_dequeue`; the bitmap update that follows it
changes neither the heap nor the queues. -/
theorem sched_dequeue_tcbs_rq (h : (s.tcbs t).tcbState.tcbQueued ≠ 0) :
    (sched_dequeue s t).tcbs =
        (set_tcbQueued { s with tcbs := ((s.ksReadyQueues (ready_queues_index (s.tcbs t).domain
          (s.tcbs t).tcbPriority)).remove s.tcbs t).2 } t 0).tcbs ∧
      (sched_dequeue s t).ksReadyQueues =
        update s.ksReadyQueues (ready_queues_index (s.tcbs t).domain (s.tcbs t).tcbPriority)
          ((s.ksReadyQueues (ready_queues_index (s.tcbs t).domain (s.tcbs t).tcbPriority)).remove
            s.tcbs t).1 := by
  simp only [sched_dequeue, h, ne_eq, not_false_eq_true, if_true]
  split <;> simp [set_tcbQueued, KernelState.modifyTcb]

theorem sched_dequeue_dequeued (a : Nat) : ((sched_dequeue s t).tcbs a).dequeued = (s.tcbs a).dequeued := by
  by_cases h : (s.tcbs t).tcbState.tcbQueued = 0
  · rw [sched_dequeue_of_unqueued h]
  · rw [(sched_dequeue_tcbs_rq h).1, set_tcbQueued_tcbs]
    have hr : (((s.ksReadyQueues (ready_queues_index (s.tcbs t).domain (s.tcbs t).tcbPriority)).remove
        s.tcbs t).2 a).dequeued = (s.tcbs a).dequeued := tcb_queue_t.remove_dequeued a
    split
    · next ha => subst ha; simp_all [tcb_t.dequeued]
    · exact hr

theorem sched_dequeue_tcbQueued_of_ne {a : Nat} (ha : a ≠ t) :
    ((sched_dequeue s t).tcbs a).tcbState.tcbQueued = (s.tcbs a).tcbState.tcbQueued := by
  by_cases h : (s.tcbs t).tcbState.tcbQueued = 0
  · rw [sched_dequeue_of_unqueued h]
  · rw [(sched_dequeue_tcbs_rq h).1, set_tcbQueued_tcbs, if_neg ha, tcb_queue_t.remove_tcbState]

/-- After `sched_dequeue`, the thread is not queued. -/
theorem sched_dequeue_tcbQueued_self : ((sched_dequeue s t).tcbs t).tcbState.tcbQueued = 0 := by
  by_cases h : (s.tcbs t).tcbState.tcbQueued = 0
  · rw [sched_dequeue_of_unqueued h, h]
  · rw [(sched_dequeue_tcbs_rq h).1, set_tcbQueued_tcbs, if_pos rfl]

section Queued

variable {Q : Nat → Nat → List Nat} (hv : valid_queues s Q) (h : (s.tcbs t).tcbState.tcbQueued ≠ 0)
include hv h

/-- **`sched_dequeue` keeps the queues**: the thread is unlinked from its
queue, its links cleared, and nothing else changes. -/
theorem sched_dequeue_valid_queues_of_queued :
    ∃ Q', valid_queues (sched_dequeue s t) Q' := by
  obtain ⟨-, hd, hp⟩ := hv.valid_tcb t
  obtain ⟨l, r, hlr⟩ := List.append_of_mem (hv.mem_of_queued h)
  have hq : SchedQueue s.tcbs (s.ksReadyQueues (ready_queues_index (s.tcbs t).domain
      (s.tcbs t).tcbPriority)) (l ++ t :: r) := hlr ▸ hv.queue _ _ hd hp
  have hnd := hq.nodup
  have hother : ∀ a, a ≠ t → ((sched_dequeue s t).tcbs a).dequeued = (s.tcbs a).dequeued ∧
      ((sched_dequeue s t).tcbs a).tcbState.tcbQueued = (s.tcbs a).tcbState.tcbQueued :=
    fun a ha => ⟨sched_dequeue_dequeued a, sched_dequeue_tcbQueued_of_ne ha⟩
  have hself := sched_dequeue_dequeued (s := s) (t := t) t
  have hqt := sched_dequeue_tcbQueued_self (s := s) (t := t)
  obtain ⟨htcbs, hrq⟩ := sched_dequeue_tcbs_rq h
  refine ⟨_, hv.update (l ++ r) ?_ ?_ hother hself (by omega) ?_ ?_ ?_⟩
  · intro i hi
    rw [hrq, update_of_ne hi]
  · intro a ha hna
    -- the writes are at `t` and at its neighbours, which are members
    have hP : (s.tcbs t).tcbSchedPrev ≠ 0 → a ≠ (s.tcbs t).tcbSchedPrev := fun hne e =>
      hna (hlr ▸ e ▸ List.mem_append_left _ (Queue.prev_mem hq hne))
    have hN : (s.tcbs t).tcbSchedNext ≠ 0 → a ≠ (s.tcbs t).tcbSchedNext := fun hne e =>
      hna (hlr ▸ e ▸ List.mem_append_right _ (List.mem_cons_of_mem _ (Queue.next_mem hq hne)))
    rw [htcbs, set_tcbQueued_tcbs, if_neg ha, tcb_queue_t.remove_next hq, tcb_queue_t.remove_prev hq]
    refine ⟨?_, ?_⟩
    · by_cases hp0 : (s.tcbs t).tcbSchedPrev = 0 <;> simp [ha, hp0, hP]
    · by_cases hn0 : (s.tcbs t).tcbSchedNext = 0 <;> simp [ha, hn0, hN]
  · unfold ReadyQueue SchedQueue
    rw [htcbs, hrq, schedNext_set_tcbQueued, schedPrev_set_tcbQueued, update_self]
    exact tcb_queue_t.remove_queue hq
  · intro a
    by_cases ha : a = t
    · subst ha
      have hnot : a ∉ l ++ r := fun hm => by
        rw [List.nodup_append] at hnd
        rcases List.mem_append.mp hm with hm | hm
        · exact hnd.2.2 a hm a (by simp) rfl
        · exact (List.nodup_cons.mp hnd.2.1).1 hm
      refine iff_of_false hnot fun hin => ?_
      rw [queued_in, hqt] at hin
      exact absurd hin.1 (by decide)
    · obtain ⟨hf, hqa⟩ := hother a ha
      have hmem : a ∈ l ++ r ↔ a ∈ Q (s.tcbs t).domain (s.tcbs t).tcbPriority := by
        rw [hlr]; simp [ha]
      rw [hmem, hv.mem_iff _ _ a hd hp, queued_in, queued_in, hqa,
        tcb_t.domain_eq_of_dequeued hf, tcb_t.tcbPriority_eq_of_dequeued hf]
  · intro _
    rw [htcbs, set_tcbQueued_tcbs, if_pos rfl]
    simp [tcb_queue_t.remove_next hq, tcb_queue_t.remove_prev hq]

end Queued

theorem sched_dequeue_valid_queues {Q : Nat → Nat → List Nat} (hv : valid_queues s Q) :
    ∃ Q', valid_queues (sched_dequeue s t) Q' := by
  by_cases h : (s.tcbs t).tcbState.tcbQueued = 0
  · exact ⟨Q, by rw [sched_dequeue_of_unqueued h]; exact hv⟩
  · exact sched_dequeue_valid_queues_of_queued hv h

/-- The bitmap after `sched_dequeue` of a queued thread: cleared for its
priority exactly when its queue became empty. -/
theorem sched_dequeue_bitmaps (h : (s.tcbs t).tcbState.tcbQueued ≠ 0) :
    let s' := if ((s.ksReadyQueues (ready_queues_index (s.tcbs t).domain (s.tcbs t).tcbPriority)).remove
        s.tcbs t).1.head = 0 then remove_from_bigmap s (s.tcbs t).domain (s.tcbs t).tcbPriority else s
    (sched_dequeue s t).ksReadyQueuesL1Bitmap = s'.ksReadyQueuesL1Bitmap ∧
      (sched_dequeue s t).ksReadyQueuesL2Bitmap = s'.ksReadyQueuesL2Bitmap := by
  simp only [sched_dequeue, h, ne_eq, not_false_eq_true, if_true]
  split
  · exact remove_from_bigmap_congr rfl rfl
  · exact ⟨rfl, rfl⟩

/-- **`sched_dequeue` keeps the bitmap**: it clears the priority exactly when
the queue became empty. -/
theorem sched_dequeue_bitmap_inv {Q : Nat → Nat → List Nat} (hv : valid_queues s Q)
    (hb : bitmap_inv s) : bitmap_inv (sched_dequeue s t) := by
  by_cases h : (s.tcbs t).tcbState.tcbQueued = 0
  · rw [sched_dequeue_of_unqueued h]; exact hb
  obtain ⟨-, hd, hp⟩ := hv.valid_tcb t
  obtain ⟨l, r, hlr⟩ := List.append_of_mem (hv.mem_of_queued h)
  have hq : SchedQueue s.tcbs (s.ksReadyQueues (ready_queues_index (s.tcbs t).domain
      (s.tcbs t).tcbPriority)) (l ++ t :: r) := hlr ▸ hv.queue _ _ hd hp
  have hold : (s.ksReadyQueues (ready_queues_index (s.tcbs t).domain (s.tcbs t).tcbPriority)).head ≠ 0 :=
    fun e => by simpa using hq.eq_nil_iff.mp e
  obtain ⟨-, hrq⟩ := sched_dequeue_tcbs_rq h
  -- only the thread's own queue changed
  have hhead : ∀ d p, p < CONFIG_NUM_PRIORITIES →
      ((sched_dequeue s t).ksReadyQueues (ready_queues_index d p)).head =
        if d = (s.tcbs t).domain ∧ p = (s.tcbs t).tcbPriority then
          ((s.ksReadyQueues (ready_queues_index (s.tcbs t).domain (s.tcbs t).tcbPriority)).remove s.tcbs t).1.head
        else (s.ksReadyQueues (ready_queues_index d p)).head := by
    intro d p hp'
    rw [hrq]
    by_cases hdp : d = (s.tcbs t).domain ∧ p = (s.tcbs t).tcbPriority
    · obtain ⟨rfl, rfl⟩ := hdp; simp
    · have hidx : ready_queues_index d p ≠ ready_queues_index (s.tcbs t).domain (s.tcbs t).tcbPriority :=
        fun e => hdp (ready_queues_index_inj hp' hp e)
      simp [hidx, hdp]
  obtain ⟨hL1, hL2⟩ := sched_dequeue_bitmaps h
  by_cases he : ((s.ksReadyQueues (ready_queues_index (s.tcbs t).domain (s.tcbs t).tcbPriority)).remove
      s.tcbs t).1.head = 0
  · rw [if_pos he] at hL1 hL2
    refine hb.remove (s.tcbs t).domain hp hL1 hL2 fun d p _ hp' => ?_
    rw [hhead d p hp']
    split
    · next hdp => simp [he, hdp]
    · next hdp => simp [hdp]
  · rw [if_neg he] at hL1 hL2
    refine hb.of_heads hL1 hL2 fun d p _ hp' => ?_
    rw [hhead d p hp']
    split
    · next hdp => obtain ⟨rfl, rfl⟩ := hdp; exact iff_of_true he hold
    · exact Iff.rfl

end Dequeue

end Rel4Kernel
