/-
The MCS release queue (`tcb.rs`, `tcb_queue.rs`, `scheduler.rs`): the
threads whose budget is used up wait in `ksReleaseQueue`, linked through
`tcbSchedNext`/`tcbSchedPrev` and kept in order of `Ready_Time`, the time
their head refill becomes available, with their `tcbInReleaseQueue` bit
set. `awaken` takes them off the front as that time comes.

`release_enqueue` places a thread in one of three ways: at the front if it
is due before the head, at the back if it is due after the tail, and
otherwise before the first member due later, which `find_time_after` finds.
The last way uses `queue_insert`, which asserts that the member it inserts
before has a predecessor. A thread due at exactly the time of a queue's
only member takes that way and finds the member itself, the head, which
has none: `release_enqueue_spec` shows this is the only input on which
`release_enqueue` fails, for every well-formed, sorted release queue.

The order is `release_queue_inv`: the queue holds a list sorted by
`Ready_Time`, the bits mark exactly its members, and a thread on neither
the release queue nor a ready queue has both sched links zero, which
`prepend` and `append` rely on.
-/
import Rel4Kernel.Object.SchedContext
import Rel4Kernel.Task.ReadyQueue

set_option autoImplicit false

namespace Rel4Kernel

open HeapList Function

/-! ## The queue operations -/

namespace tcb_queue_t

/-- `tcb_queue_t::append`: link `t` at the back. It writes no link of `t`
into an empty queue, and never its forward link. -/
def append (q : tcb_queue_t) (tcbs : Nat → tcb_t) (t : Nat) : tcb_queue_t × (Nat → tcb_t) :=
  if q.empty then ({ head := t, tail := t }, tcbs)
  else
    let tcbs := setSchedPrev tcbs t q.tail
    let tcbs := setSchedNext tcbs q.tail t
    ({ q with tail := t }, tcbs)

end tcb_queue_t

/-- `tcb_t::queue_insert`: link `t` right before `tcb_after`, which must have
a predecessor other than itself. -/
def queue_insert (tcbs : Nat → tcb_t) (t tcb_after : Nat) : Option (Nat → tcb_t) :=
  let before := (tcbs tcb_after).tcbSchedPrev
  if before = 0 then none
  else if before = tcb_after then none
  else
    let tcbs := setSchedPrev tcbs t before
    let tcbs := setSchedNext tcbs t tcb_after
    let tcbs := setSchedPrev tcbs tcb_after t
    some (setSchedNext tcbs before t)

/-- `find_time_after`, from `after`: follow the forward links while
`new_time` is not before the thread's ready time and there is a next
thread. `fuel` bounds the walk. -/
def find_time_after (s : mcs_state) (new_time : Nat) : Nat → Nat → Option Nat
  | 0, _ => none
  | fuel + 1, after =>
    if time_after s after new_time then
      if (s.tcbs after).tcbSchedNext ≠ 0 then find_time_after s new_time fuel (s.tcbs after).tcbSchedNext
      else some after
    else some after

/-! ## `append` -/

namespace tcb_queue_t

variable {tcbs : Nat → tcb_t} {q : tcb_queue_t} {t : Nat}

theorem append_fst : (q.append tcbs t).1 = ⟨if q.head = 0 then t else q.head, t⟩ := by
  unfold append empty
  by_cases h : q.head = 0 <;> simp [h]

theorem append_next (a : Nat) :
    ((q.append tcbs t).2 a).tcbSchedNext =
      if a = q.tail ∧ q.head ≠ 0 then t else (tcbs a).tcbSchedNext := by
  unfold append empty
  by_cases h : q.head = 0 <;> by_cases ha : a = q.tail <;> simp [h, ha]

theorem append_prev (a : Nat) :
    ((q.append tcbs t).2 a).tcbSchedPrev =
      if a = t ∧ q.head ≠ 0 then q.tail else (tcbs a).tcbSchedPrev := by
  unfold append empty
  by_cases h : q.head = 0 <;> by_cases ha : a = t <;> simp [h, ha]

theorem append_tcbState (a : Nat) : ((q.append tcbs t).2 a).tcbState = (tcbs a).tcbState := by
  unfold append
  split <;> simp

/-- **`append` links at the back** a thread that is not a member and whose
links are zero. -/
theorem append_queue {xs : List Nat} (hq : SchedQueue tcbs q xs) (ht : t ∉ xs) (ht0 : t ≠ 0)
    (hn : (tcbs t).tcbSchedNext = 0) (hp : (tcbs t).tcbSchedPrev = 0) :
    SchedQueue (q.append tcbs t).2 (q.append tcbs t).1 (xs ++ [t]) := by
  have hlast : q.tail = xs.getLast?.getD 0 := hq.tail_eq
  have hmem : ∀ a ∈ xs, a ≠ t := fun a ha e => ht (e ▸ ha)
  have key := Queue.insert (schedNext (q.append tcbs t).2) (schedPrev (q.append tcbs t).2)
    (l := xs) (r := []) (by rw [List.append_nil]; exact hq) (by simpa using ht) ht0
  simp only [List.append_nil, List.head?_nil, Option.getD_none, ↓reduceIte, ← hlast,
    schedNext_apply, schedPrev_apply, append_next, append_prev] at key
  unfold SchedQueue
  rw [append_fst]
  by_cases h0 : q.head = 0
  · -- an empty queue: `t` becomes both ends, with the links it has
    have hx : xs = [] := hq.eq_nil_iff.mp h0
    subst hx
    have htl : q.tail = 0 := by simpa using hlast
    simpa [h0, htl, hn, hp] using key
  · have hx : xs ≠ [] := fun e => h0 (hq.eq_nil_iff.mpr e)
    have htl : q.tail ≠ t := hmem _ (hq.tail_mem hx)
    simp only [h0, hx, ↓reduceIte] at key ⊢
    refine key (fun a ha hne => by simp [hne]) (fun a ha _ => by simp [hmem a ha])
      (fun _ => by simp [h0]) (fun h => absurd rfl h) (by simp [Ne.symm htl, hn]) (by simp [h0])

/-- `append` writes the links of `t` and of the old tail only. -/
theorem append_frame {xs : List Nat} (hq : SchedQueue tcbs q xs) {a : Nat} (ha : a ≠ t) (hxs : a ∉ xs) :
    ((q.append tcbs t).2 a).tcbSchedNext = (tcbs a).tcbSchedNext ∧
      ((q.append tcbs t).2 a).tcbSchedPrev = (tcbs a).tcbSchedPrev := by
  have htail : q.head ≠ 0 → a ≠ q.tail := fun hne e =>
    hxs (e ▸ hq.tail_mem fun hx => hne (hq.eq_nil_iff.mpr hx))
  rw [append_next, append_prev]
  by_cases he : q.head = 0
  · simp [he]
  · simp [ha, htail he]

end tcb_queue_t

/-! ## `queue_insert` -/

section QueueInsert

variable {tcbs tcbs' : Nat → tcb_t} {t a : Nat}

/-- The assertion of `queue_insert`: the thread after the new one has a
predecessor, other than itself. -/
theorem queue_insert_eq_none :
    queue_insert tcbs t a = none ↔ (tcbs a).tcbSchedPrev = 0 ∨ (tcbs a).tcbSchedPrev = a := by
  unfold queue_insert
  by_cases h0 : (tcbs a).tcbSchedPrev = 0 <;> by_cases h1 : (tcbs a).tcbSchedPrev = a <;> simp [h0, h1]

theorem queue_insert_next (h : queue_insert tcbs t a = some tcbs') (b : Nat) :
    (tcbs' b).tcbSchedNext =
      if b = (tcbs a).tcbSchedPrev then t else if b = t then a else (tcbs b).tcbSchedNext := by
  unfold queue_insert at h
  dsimp only at h
  split_ifs at h
  cases h
  by_cases hb : b = (tcbs a).tcbSchedPrev <;> by_cases hbt : b = t <;> simp [hb, hbt]

theorem queue_insert_prev (h : queue_insert tcbs t a = some tcbs') (b : Nat) :
    (tcbs' b).tcbSchedPrev =
      if b = a then t else if b = t then (tcbs a).tcbSchedPrev else (tcbs b).tcbSchedPrev := by
  unfold queue_insert at h
  dsimp only at h
  split_ifs at h
  cases h
  by_cases hb : b = a <;> by_cases hbt : b = t <;> simp [hb, hbt]

theorem queue_insert_tcbState (h : queue_insert tcbs t a = some tcbs') (b : Nat) :
    (tcbs' b).tcbState = (tcbs b).tcbState := by
  unfold queue_insert at h
  dsimp only at h
  split_ifs at h
  cases h
  simp

/-- Before the head, `queue_insert` fails: the head has no predecessor. -/
theorem queue_insert_head {q : tcb_queue_t} {r : List Nat} (hq : SchedQueue tcbs q (a :: r)) :
    queue_insert tcbs t a = none :=
  queue_insert_eq_none.mpr (Or.inl ((Queue.prev_eq_nil_iff (l := []) hq).mpr rfl))

/-- **`queue_insert` links a new thread before any member but the head**,
writing no link outside the thread and its two neighbours. -/
theorem queue_insert_queue {q : tcb_queue_t} {l r : List Nat} (hq : SchedQueue tcbs q (l ++ a :: r))
    (hl : l ≠ []) (ht : t ∉ l ++ a :: r) (ht0 : t ≠ 0) :
    ∃ tcbs', queue_insert tcbs t a = some tcbs' ∧ SchedQueue tcbs' q (l ++ t :: a :: r) ∧
      ∀ b, b ≠ t → b ∉ l ++ a :: r →
        (tcbs' b).tcbSchedNext = (tcbs b).tcbSchedNext ∧ (tcbs' b).tcbSchedPrev = (tcbs b).tcbSchedPrev := by
  have hpa : (tcbs a).tcbSchedPrev = l.getLast?.getD 0 := (Queue.links_of_split hq).1
  have hb0 : (tcbs a).tcbSchedPrev ≠ 0 := fun h => hl ((Queue.prev_eq_nil_iff hq).mp h)
  have hba : (tcbs a).tcbSchedPrev ≠ a := Queue.prev_ne_self hq
  have hbl : (tcbs a).tcbSchedPrev ∈ l := Queue.prev_mem hq hb0
  have hmem : ∀ b ∈ l ++ a :: r, b ≠ t := fun b hb e => ht (e ▸ hb)
  have hbt : (tcbs a).tcbSchedPrev ≠ t := hmem _ (List.mem_append_left _ hbl)
  have hat : a ≠ t := hmem _ (by simp)
  obtain ⟨tcbs', h⟩ : ∃ tcbs', queue_insert tcbs t a = some tcbs' :=
    Option.ne_none_iff_exists'.mp fun e => (queue_insert_eq_none.mp e).elim hb0 hba
  refine ⟨tcbs', h, ?_, fun b hb hbx => ?_⟩
  · have key := Queue.insert (schedNext tcbs') (schedPrev tcbs') (l := l) (r := a :: r) hq ht ht0
    simp only [hl, List.cons_ne_nil, ↓reduceIte, List.head?_cons, Option.getD_some, ← hpa,
      schedNext_apply, schedPrev_apply, queue_insert_next h, queue_insert_prev h] at key
    exact key (fun b hb hne => by simp [hne, hmem b hb]) (fun b hb hne => by simp [hne, hmem b hb])
      (fun _ => by simp) (fun _ => by simp) (by simp [Ne.symm hbt]) (by simp [Ne.symm hat])
  · -- the two neighbours are members
    have hb1 : b ≠ (tcbs a).tcbSchedPrev := fun e => hbx (e ▸ List.mem_append_left _ hbl)
    have hb2 : b ≠ a := fun e => hbx (e ▸ by simp)
    simp [queue_insert_next h, queue_insert_prev h, hb, hb1, hb2]

end QueueInsert

/-! ## `find_time_after` -/

/-- **`find_time_after` stops at the first thread due after `new_time`**, or
at the last one. From the first of a segment `xs` that the fuel covers, it
returns a member `b` such that every member before it is due by `new_time`,
and `b` is due after it or ends the segment. -/
theorem find_time_after_spec (s : mcs_state) (new_time : Nat) {p : Nat} {xs : List Nat} {fuel : Nat}
    (hseg : Seg (schedNext s.tcbs) (schedPrev s.tcbs) p xs 0) (h0 : 0 ∉ xs) (hne : xs ≠ [])
    (hfuel : xs.length ≤ fuel) :
    ∃ l b r, xs = l ++ b :: r ∧ find_time_after s new_time fuel (xs.head?.getD 0) = some b ∧
      (∀ c ∈ l, Ready_Time s c ≤ new_time) ∧ (new_time < Ready_Time s b ∨ r = []) := by
  -- induction on the members from the one the walk is at
  induction xs generalizing p fuel with
  | nil => exact absurd rfl hne
  | cons a ys ih =>
    obtain ⟨n, rfl⟩ : ∃ n, fuel = n + 1 := ⟨fuel - 1, by simp at hfuel; omega⟩
    have hnext : (s.tcbs a).tcbSchedNext = ys.head?.getD 0 := hseg.2.1
    by_cases hta : time_after s a new_time
    · cases ys with
      | nil =>
        -- the last member: the walk stops on it
        exact ⟨[], a, [], rfl, by simp [find_time_after, hta, hnext], by simp, Or.inr rfl⟩
      | cons a' ys =>
        -- due by `new_time`: the walk moves on to `a'`
        have ha' : a' ≠ 0 := fun e => h0 (by simp [e])
        obtain ⟨l, b, r, hsplit, hfind, hle, hlast⟩ :=
          ih hseg.2.2 (fun e => h0 (List.mem_cons_of_mem _ e)) (List.cons_ne_nil _ _)
            (by simpa using hfuel)
        refine ⟨a :: l, b, r, by rw [hsplit, List.cons_append], ?_, ?_, hlast⟩
        · simpa [find_time_after, hta, hnext, ha'] using hfind
        · simp only [List.mem_cons, forall_eq_or_imp]
          exact ⟨by simpa [time_after] using hta, hle⟩
    · refine ⟨[], a, ys, rfl, by simp [find_time_after, hta], by simp, Or.inl ?_⟩
      simpa [time_after] using hta

/-! ## Entering and leaving the release queue -/

/-- `tcb_t::release_enqueue`, with `fuel` for the walk of `find_time_after`. -/
def release_enqueue (fuel : Nat) (s : mcs_state) (t : Nat) : Option mcs_state := do
  if s.tcbInReleaseQueue t ≠ 0 then none
  if (s.tcbs t).tcbState.tcbQueued ≠ 0 then none
  let new_time := Ready_Time s t
  let queue := s.ksReleaseQueue
  let s ←
    if queue.empty ∨ new_time < Ready_Time s queue.head then
      let (queue, tcbs) := queue.prepend s.tcbs t
      pure { s with tcbs := tcbs, ksReleaseQueue := queue, ksReprogram := true }
    else if Ready_Time s queue.tail < new_time then
      let (queue, tcbs) := queue.append s.tcbs t
      pure { s with tcbs := tcbs, ksReleaseQueue := queue }
    else do
      let after ← find_time_after s new_time fuel queue.head
      let tcbs ← queue_insert s.tcbs t after
      pure { s with tcbs := tcbs }
  pure { s with tcbInReleaseQueue := update s.tcbInReleaseQueue t 1 }

/-- `tcb_t::release_remove`. -/
def release_remove (s : mcs_state) (t : Nat) : mcs_state :=
  if s.tcbInReleaseQueue t ≠ 0 then
    let queue := s.ksReleaseQueue
    let reprogram := if queue.head = t then true else s.ksReprogram
    let (queue, tcbs) := queue.remove s.tcbs t
    { s with tcbs := tcbs, ksReleaseQueue := queue, ksReprogram := reprogram
             tcbInReleaseQueue := update s.tcbInReleaseQueue t 0 }
  else s

/-- The release queue threads `xs` in order of ready time, the bits mark
exactly its members, and a thread on no queue has both sched links zero. -/
structure release_queue_inv (s : mcs_state) (xs : List Nat) : Prop where
  queue : SchedQueue s.tcbs s.ksReleaseQueue xs
  sorted : xs.Pairwise fun a b => Ready_Time s a ≤ Ready_Time s b
  in_queue : ∀ t, t ≠ 0 → (s.tcbInReleaseQueue t ≠ 0 ↔ t ∈ xs)
  unlinked : ∀ t, t ≠ 0 → s.tcbInReleaseQueue t = 0 → (s.tcbs t).tcbState.tcbQueued = 0 →
    (s.tcbs t).tcbSchedNext = 0 ∧ (s.tcbs t).tcbSchedPrev = 0

namespace release_queue_inv

variable {s s' : mcs_state} {xs ys : List Nat} {t : Nat}

/-- What an enqueue must do to keep the invariant: link `t` in with the order
kept, set its bit, and write no link outside the queue and `t`. -/
theorem enqueue (hinv : release_queue_inv s xs) (hq : SchedQueue s'.tcbs s'.ksReleaseQueue ys)
    (hmem : ∀ a, a ∈ ys ↔ a = t ∨ a ∈ xs)
    (hsorted : ys.Pairwise fun a b => Ready_Time s a ≤ Ready_Time s b)
    (hbits : s'.tcbInReleaseQueue = update s.tcbInReleaseQueue t 1)
    (hrt : ∀ a, Ready_Time s' a = Ready_Time s a)
    (hframe : ∀ a, a ≠ t → a ∉ xs →
      (s'.tcbs a).tcbSchedNext = (s.tcbs a).tcbSchedNext ∧
        (s'.tcbs a).tcbSchedPrev = (s.tcbs a).tcbSchedPrev)
    (hstate : ∀ a, (s'.tcbs a).tcbState = (s.tcbs a).tcbState) :
    release_queue_inv s' ys where
  queue := hq
  sorted := by simpa only [hrt] using hsorted
  in_queue a ha := by
    rw [hbits, hmem]
    by_cases hat : a = t
    · simp [hat]
    · simp [hat, hinv.in_queue a ha]
  unlinked a ha hbit hqd := by
    have hat : a ≠ t := fun e => by simp [hbits, e] at hbit
    have hold : s.tcbInReleaseQueue a = 0 := by simpa [hbits, update_of_ne hat] using hbit
    have hxs : a ∉ xs := fun h => (hinv.in_queue a ha).mpr h hold
    obtain ⟨hn, hp⟩ := hframe a hat hxs
    rw [hn, hp]
    exact hinv.unlinked a ha hold (by rw [← hstate a]; exact hqd)

end release_queue_inv

/-! ## `release_enqueue` -/

section Enqueue

variable {fuel : Nat} {s : mcs_state} {t : Nat}

/-- Due before the head, or into an empty queue: at the front. -/
theorem release_enqueue_of_front (hbit : s.tcbInReleaseQueue t = 0)
    (hqd : (s.tcbs t).tcbState.tcbQueued = 0)
    (h : s.ksReleaseQueue.empty ∨ Ready_Time s t < Ready_Time s s.ksReleaseQueue.head) :
    release_enqueue fuel s t = some { s with
      tcbs := (s.ksReleaseQueue.prepend s.tcbs t).2
      ksReleaseQueue := (s.ksReleaseQueue.prepend s.tcbs t).1
      ksReprogram := true
      tcbInReleaseQueue := update s.tcbInReleaseQueue t 1 } := by
  simp only [release_enqueue, hbit, hqd, if_pos h]
  rfl

/-- Due after the tail: at the back. -/
theorem release_enqueue_of_back (hbit : s.tcbInReleaseQueue t = 0)
    (hqd : (s.tcbs t).tcbState.tcbQueued = 0)
    (h1 : ¬ (s.ksReleaseQueue.empty ∨ Ready_Time s t < Ready_Time s s.ksReleaseQueue.head))
    (h2 : Ready_Time s s.ksReleaseQueue.tail < Ready_Time s t) :
    release_enqueue fuel s t = some { s with
      tcbs := (s.ksReleaseQueue.append s.tcbs t).2
      ksReleaseQueue := (s.ksReleaseQueue.append s.tcbs t).1
      tcbInReleaseQueue := update s.tcbInReleaseQueue t 1 } := by
  simp only [release_enqueue, hbit, hqd, if_neg h1, if_pos h2]
  rfl

/-- Otherwise before the member `find_time_after` finds. -/
theorem release_enqueue_of_middle (hbit : s.tcbInReleaseQueue t = 0)
    (hqd : (s.tcbs t).tcbState.tcbQueued = 0)
    (h1 : ¬ (s.ksReleaseQueue.empty ∨ Ready_Time s t < Ready_Time s s.ksReleaseQueue.head))
    (h2 : ¬ Ready_Time s s.ksReleaseQueue.tail < Ready_Time s t) {after : Nat}
    (hf : find_time_after s (Ready_Time s t) fuel s.ksReleaseQueue.head = some after) :
    release_enqueue fuel s t = (queue_insert s.tcbs t after).map fun tcbs =>
      { s with tcbs := tcbs, tcbInReleaseQueue := update s.tcbInReleaseQueue t 1 } := by
  simp only [release_enqueue, hbit, hqd, if_neg h1, if_neg h2, hf, ne_eq, not_true_eq_false,
    ↓reduceIte, Option.bind_eq_bind, Option.pure_def, Option.bind_some]
  cases queue_insert s.tcbs t after <;> rfl

/-! The three places a thread can go, each for a release queue that keeps the
invariant and a thread on no queue. -/

section Places

variable {xs : List Nat} (hinv : release_queue_inv s xs) (ht0 : t ≠ 0)
  (hbit : s.tcbInReleaseQueue t = 0) (hqd : (s.tcbs t).tcbState.tcbQueued = 0)
include hinv ht0 hbit hqd

theorem release_enqueue_front_inv
    (hA : s.ksReleaseQueue.empty ∨ Ready_Time s t < Ready_Time s s.ksReleaseQueue.head) :
    ∃ s', release_enqueue fuel s t = some s' ∧ release_queue_inv s' (t :: xs) ∧
      s'.tcbInReleaseQueue t = 1 := by
  have hq := hinv.queue
  have htx : t ∉ xs := fun h => (hinv.in_queue t ht0).mpr h hbit
  obtain ⟨hn, hp⟩ := hinv.unlinked t ht0 hbit hqd
  -- due no later than every member
  have hsorted : (t :: xs).Pairwise fun a b => Ready_Time s a ≤ Ready_Time s b := by
    refine sorted_insert (l := []) (by simpa using hinv.sorted) (by simp) fun b hb => ?_
    rcases hA with he | hlt
    · have hx : xs = [] := hq.eq_nil_iff.mp (by simpa [tcb_queue_t.empty] using he)
      simp [hx] at hb
    · rw [hq.head_eq] at hlt
      exact Nat.le_of_lt (Nat.lt_of_lt_of_le hlt (head_le_of_sorted hinv.sorted 0 hb))
  exact ⟨_, release_enqueue_of_front hbit hqd hA,
    hinv.enqueue (tcb_queue_t.prepend_queue hq htx ht0 hn hp) (by simp) hsorted rfl (fun _ => rfl)
      (fun a ha hxs => prepend_insertion.frame _ _ _ _ a hq ha hxs)
      (fun a => tcb_queue_t.prepend_tcbState a), by simp⟩

theorem release_enqueue_back_inv
    (hA : ¬ (s.ksReleaseQueue.empty ∨ Ready_Time s t < Ready_Time s s.ksReleaseQueue.head))
    (hB : Ready_Time s s.ksReleaseQueue.tail < Ready_Time s t) :
    ∃ s', release_enqueue fuel s t = some s' ∧ release_queue_inv s' (xs ++ [t]) ∧
      s'.tcbInReleaseQueue t = 1 := by
  have hq := hinv.queue
  have htx : t ∉ xs := fun h => (hinv.in_queue t ht0).mpr h hbit
  obtain ⟨hn, hp⟩ := hinv.unlinked t ht0 hbit hqd
  -- due after every member
  have hsorted : (xs ++ [t]).Pairwise fun a b => Ready_Time s a ≤ Ready_Time s b := by
    refine sorted_insert (r := []) (by simpa using hinv.sorted) (fun a ha => ?_) (by simp)
    rw [hq.tail_eq] at hB
    exact Nat.le_of_lt (Nat.lt_of_le_of_lt (le_last_of_sorted hinv.sorted 0 ha) hB)
  exact ⟨_, release_enqueue_of_back hbit hqd hA hB,
    hinv.enqueue (tcb_queue_t.append_queue hq htx ht0 hn hp) (by simp [or_comm]) hsorted rfl
      (fun _ => rfl) (fun a ha hxs => tcb_queue_t.append_frame hq ha hxs)
      (fun a => tcb_queue_t.append_tcbState a), by simp⟩

/-- Between two members: the walk found `after`, with members before it. -/
theorem release_enqueue_between_inv {l r : List Nat} {after : Nat} (hxs : xs = l ++ after :: r)
    (hl : l ≠ [])
    (hA : ¬ (s.ksReleaseQueue.empty ∨ Ready_Time s t < Ready_Time s s.ksReleaseQueue.head))
    (hB : ¬ Ready_Time s s.ksReleaseQueue.tail < Ready_Time s t)
    (hfind : find_time_after s (Ready_Time s t) fuel s.ksReleaseQueue.head = some after)
    (hle : ∀ c ∈ l, Ready_Time s c ≤ Ready_Time s t)
    (hlast : Ready_Time s t < Ready_Time s after ∨ r = []) :
    ∃ s', release_enqueue fuel s t = some s' ∧ release_queue_inv s' (l ++ t :: after :: r) ∧
      s'.tcbInReleaseQueue t = 1 := by
  subst hxs
  have hq := hinv.queue
  have htx : t ∉ l ++ after :: r := fun h => (hinv.in_queue t ht0).mpr h hbit
  obtain ⟨tcbs', hins, hq', hframe⟩ := queue_insert_queue hq hl htx ht0
  -- no earlier than the members before `after`, no later than `after` and the rest
  have hsorted : (l ++ t :: after :: r).Pairwise fun a b => Ready_Time s a ≤ Ready_Time s b := by
    refine sorted_insert hinv.sorted hle fun b hb => ?_
    rcases hlast with hlt | hr
    · have hsuffix := (List.pairwise_append.mp hinv.sorted).2.1
      exact Nat.le_of_lt (Nat.lt_of_lt_of_le hlt (head_le_of_sorted hsuffix 0 hb))
    · subst hr
      have htail : s.ksReleaseQueue.tail = after := by simp [hq.tail_eq]
      rw [List.mem_singleton.mp hb]
      exact Nat.le_of_not_lt fun hlt => hB (htail ▸ hlt)
  refine ⟨{ s with tcbs := tcbs', tcbInReleaseQueue := update s.tcbInReleaseQueue t 1 }, ?_,
    hinv.enqueue hq' (by simp; tauto) hsorted rfl (fun _ => rfl) hframe
      (fun a => queue_insert_tcbState hins a), by simp⟩
  rw [release_enqueue_of_middle hbit hqd hA hB hfind, hins, Option.map_some]

omit ht0 in
/-- The walk stopped at the head: then the queue is that one thread, due at
the same time, and the insertion fails. -/
theorem release_enqueue_at_head {r : List Nat} {after : Nat} (hxs : xs = after :: r)
    (hA : ¬ (s.ksReleaseQueue.empty ∨ Ready_Time s t < Ready_Time s s.ksReleaseQueue.head))
    (hB : ¬ Ready_Time s s.ksReleaseQueue.tail < Ready_Time s t)
    (hfind : find_time_after s (Ready_Time s t) fuel s.ksReleaseQueue.head = some after)
    (hlast : Ready_Time s t < Ready_Time s after ∨ r = []) :
    release_enqueue fuel s t = none ∧ r = [] ∧ Ready_Time s after = Ready_Time s t := by
  subst hxs
  have hq := hinv.queue
  have hhead : s.ksReleaseQueue.head = after := by simp [hq.head_eq]
  have hr : r = [] := hlast.resolve_left fun hlt => hA (Or.inr (hhead ▸ hlt))
  subst hr
  have htail : s.ksReleaseQueue.tail = after := by simp [hq.tail_eq]
  refine ⟨?_, rfl, Nat.le_antisymm ?_ ?_⟩
  · rw [release_enqueue_of_middle hbit hqd hA hB hfind, queue_insert_head (r := []) hq, Option.map_none]
  · exact Nat.le_of_not_lt fun hlt => hA (Or.inr (hhead ▸ hlt))
  · exact Nat.le_of_not_lt fun hlt => hB (htail ▸ hlt)

end Places

/-- **`release_enqueue` fails exactly when the thread ties with a queue's
only member**, and otherwise links it in order. For a thread on no queue and
a release queue that keeps `release_queue_inv`, with fuel for the walk of
`find_time_after`: the assertions fail if and only if the queue holds one
thread due at the same time as the new one; in every other case the result
keeps the invariant over the old members and `t`, with `t`'s bit set. -/
theorem release_enqueue_spec {xs : List Nat} (hinv : release_queue_inv s xs) (ht0 : t ≠ 0)
    (hbit : s.tcbInReleaseQueue t = 0) (hqd : (s.tcbs t).tcbState.tcbQueued = 0)
    (hfuel : xs.length ≤ fuel) :
    (release_enqueue fuel s t = none ↔ ∃ h, xs = [h] ∧ Ready_Time s h = Ready_Time s t) ∧
      ∀ s', release_enqueue fuel s t = some s' →
        ∃ ys, release_queue_inv s' ys ∧ ys.Perm (t :: xs) ∧ s'.tcbInReleaseQueue t = 1 := by
  have hq := hinv.queue
  -- each place that succeeds settles both halves at once
  have of_some : ∀ ys s', release_enqueue fuel s t = some s' →
      release_queue_inv s' ys ∧ s'.tcbInReleaseQueue t = 1 →
      ys.Perm (t :: xs) → ¬ (∃ h, xs = [h] ∧ Ready_Time s h = Ready_Time s t) →
      (release_enqueue fuel s t = none ↔ ∃ h, xs = [h] ∧ Ready_Time s h = Ready_Time s t) ∧
        ∀ s', release_enqueue fuel s t = some s' →
          ∃ ys, release_queue_inv s' ys ∧ ys.Perm (t :: xs) ∧ s'.tcbInReleaseQueue t = 1 := by
    intro ys s' hs ⟨hinv', hbit'⟩ hperm htie
    refine ⟨by rw [hs]; exact iff_of_false (by simp) htie, fun s'' h => ?_⟩
    obtain rfl : s' = s'' := Option.some.inj (hs.symm.trans h)
    exact ⟨ys, hinv', hperm, hbit'⟩
  by_cases hA : s.ksReleaseQueue.empty ∨ Ready_Time s t < Ready_Time s s.ksReleaseQueue.head
  · obtain ⟨s', hs, hinv'⟩ := release_enqueue_front_inv hinv ht0 hbit hqd hA
    refine of_some _ s' hs hinv' (List.Perm.refl _) ?_
    rintro ⟨h, rfl, htie⟩
    rcases hA with he | hlt
    · simp [tcb_queue_t.empty, hq.head_eq] at he
      exact hq.mem_ne_nil (List.mem_singleton_self h) he
    · simp [hq.head_eq, htie] at hlt
  by_cases hB : Ready_Time s s.ksReleaseQueue.tail < Ready_Time s t
  · obtain ⟨s', hs, hinv'⟩ := release_enqueue_back_inv hinv ht0 hbit hqd hA hB
    refine of_some _ s' hs hinv' (List.perm_append_singleton t xs) ?_
    rintro ⟨h, rfl, htie⟩
    simp [hq.tail_eq, htie] at hB
  -- in between: before the first member due later, found by the walk
  have hne : xs ≠ [] := fun e => hA (Or.inl (by simp [tcb_queue_t.empty, hq.eq_nil_iff.mpr e]))
  obtain ⟨l, after, r, hxs, hfind, hle, hlast⟩ :=
    find_time_after_spec s (Ready_Time s t) hq.seg hq.nil_not_mem hne hfuel
  rw [← hq.head_eq] at hfind
  by_cases hl : l = []
  · subst hl
    obtain ⟨hnone, rfl, htie⟩ := release_enqueue_at_head hinv hbit hqd hxs hA hB hfind hlast
    rw [hnone]
    exact ⟨iff_of_true rfl ⟨after, hxs, htie⟩, fun _ h => absurd h (by simp)⟩
  · obtain ⟨s', hs, hinv'⟩ :=
      release_enqueue_between_inv hinv ht0 hbit hqd hxs hl hA hB hfind hle hlast
    refine of_some _ s' hs hinv' (hxs ▸ List.perm_middle) ?_
    rintro ⟨h, hh, -⟩
    obtain ⟨x, l', rfl⟩ := List.exists_cons_of_ne_nil hl
    simp [hxs] at hh

/-- A release queue holding the one thread `0x100`, beside a thread `0x200`
on no queue; both run on scheduling context `0`, so they are due at the same
time. -/
def one_thread_release_queue : mcs_state :=
  { ksReleaseQueue := ⟨0x100, 0x100⟩, tcbInReleaseQueue := update (fun _ => 0) 0x100 1 }

theorem release_enqueue_tie_panics :
    release_queue_inv one_thread_release_queue [0x100] ∧
      release_enqueue 1 one_thread_release_queue 0x200 = none := by
  have hinv : release_queue_inv one_thread_release_queue [0x100] :=
    { queue := ⟨by simp [one_thread_release_queue], by simp, by simp, rfl, rfl⟩
      sorted := List.pairwise_singleton _ _
      in_queue := fun a _ => by
        by_cases h : a = 0x100 <;> simp [one_thread_release_queue, h]
      unlinked := fun _ _ _ _ => ⟨rfl, rfl⟩ }
  exact ⟨hinv, (release_enqueue_spec hinv (by decide) rfl rfl (by decide)).1.mpr ⟨0x100, rfl, rfl⟩⟩

end Enqueue

/-! ## Leaving the release queue -/

section Remove

variable {s : mcs_state} {xs : List Nat} {t : Nat}

end Remove

/-! ## `awaken` -/

section Awaken

variable (possible_switch_to : mcs_state → Nat → Option mcs_state)
  (hpst : ∀ s a s' xs, possible_switch_to s a = some s' → release_queue_inv s xs → a ∉ xs →
    release_queue_inv s' xs)
include hpst

end Awaken

end Rel4Kernel
