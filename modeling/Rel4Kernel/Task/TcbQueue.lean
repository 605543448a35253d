/-
`sel4_task::tcb_queue_t`: the endpoint and notification queues.

A queue value is its two end pointers; the links live in the member TCBs
(`tcbEPNext`, `tcbEPPrev`). The operations take the queue by value and the TCB
heap as a function and return both, re-reading the heap after each write
exactly where the Rust code reads through its `&mut tcb_t` again.

The bridge to the library is `EpQueue`: the heap threads the list `xs` through
the EP links between the queue's two ends. `ep_append_queue` and
`ep_dequeue_queue` say that the two operations are the library's two
surgeries, so every caller reasons about lists from here on.
-/
import Rel4Kernel.Lib.HeapList
import Rel4Kernel.Object.Structures

set_option autoImplicit false

namespace Rel4Kernel

open HeapList

/-! ## The heap writes -/

/-- `convert_to_mut_type_ref::<tcb_t>(p).tcbEPNext = v`. -/
def setEPNext (tcbs : Nat → tcb_t) (p v : Nat) : Nat → tcb_t :=
  Function.update tcbs p { tcbs p with tcbEPNext := v }

/-- `convert_to_mut_type_ref::<tcb_t>(p).tcbEPPrev = v`. -/
def setEPPrev (tcbs : Nat → tcb_t) (p v : Nat) : Nat → tcb_t :=
  Function.update tcbs p { tcbs p with tcbEPPrev := v }

/-- The forward EP links of a heap, as the library reads them. -/
def epNext (tcbs : Nat → tcb_t) : Nat → Nat := fun p => (tcbs p).tcbEPNext

/-- The backward EP links of a heap. -/
def epPrev (tcbs : Nat → tcb_t) : Nat → Nat := fun p => (tcbs p).tcbEPPrev

@[simp] theorem setEPNext_apply (tcbs : Nat → tcb_t) (p v q : Nat) :
    setEPNext tcbs p v q = if q = p then { tcbs p with tcbEPNext := v } else tcbs q := by
  simp only [setEPNext, Function.update_apply]

@[simp] theorem setEPPrev_apply (tcbs : Nat → tcb_t) (p v q : Nat) :
    setEPPrev tcbs p v q = if q = p then { tcbs p with tcbEPPrev := v } else tcbs q := by
  simp only [setEPPrev, Function.update_apply]

/-- A thread with its EP links cleared: the queue surgeries change nothing of
any thread that this forgets. -/
def tcb_t.ep_unlinked (tcb : tcb_t) : tcb_t := { tcb with tcbEPNext := 0, tcbEPPrev := 0 }

@[simp] theorem setEPNext_ep_unlinked (tcbs : Nat → tcb_t) (p v q : Nat) :
    (setEPNext tcbs p v q).ep_unlinked = (tcbs q).ep_unlinked := by
  by_cases h : q = p <;> simp [h, tcb_t.ep_unlinked]

@[simp] theorem setEPPrev_ep_unlinked (tcbs : Nat → tcb_t) (p v q : Nat) :
    (setEPPrev tcbs p v q).ep_unlinked = (tcbs q).ep_unlinked := by
  by_cases h : q = p <;> simp [h, tcb_t.ep_unlinked]

namespace tcb_t

variable {a b : tcb_t} (h : a.ep_unlinked = b.ep_unlinked)
include h

theorem tcbState_eq_of_ep_unlinked : a.tcbState = b.tcbState := (congrArg tcb_t.tcbState h :)

theorem tcbFault_eq_of_ep_unlinked : a.tcbFault = b.tcbFault := (congrArg tcb_t.tcbFault h :)

theorem tcbPriority_eq_of_ep_unlinked : a.tcbPriority = b.tcbPriority :=
  (congrArg tcb_t.tcbPriority h :)

end tcb_t

@[simp] theorem epNext_apply (tcbs : Nat → tcb_t) (p : Nat) : epNext tcbs p = (tcbs p).tcbEPNext :=
  rfl

@[simp] theorem epPrev_apply (tcbs : Nat → tcb_t) (p : Nat) : epPrev tcbs p = (tcbs p).tcbEPPrev :=
  rfl

/-! ## The queue -/

/-- `endpoint::get_queue`. -/
def endpoint.get_queue (ep : endpoint) : tcb_queue_t := ⟨ep.epQueue_head, ep.epQueue_tail⟩

/-- `endpoint::set_queue`. -/
def endpoint.set_queue (ep : endpoint) (q : tcb_queue_t) : endpoint :=
  { ep with epQueue_head := q.head, epQueue_tail := q.tail }

/-- `notification::get_queue`. -/
def notification.get_queue (n : notification) : tcb_queue_t := ⟨n.ntfnQueue_head, n.ntfnQueue_tail⟩

/-- `notification::set_queue`. -/
def notification.set_queue (n : notification) (q : tcb_queue_t) : notification :=
  { n with ntfnQueue_head := q.head, ntfnQueue_tail := q.tail }

@[simp] theorem endpoint.get_queue_set_queue (e : endpoint) (q : tcb_queue_t) :
    (e.set_queue q).get_queue = q := rfl

@[simp] theorem endpoint.set_queue_state (e : endpoint) (q : tcb_queue_t) :
    (e.set_queue q).state = e.state := rfl

@[simp] theorem notification.get_queue_set_queue (n : notification) (q : tcb_queue_t) :
    (n.set_queue q).get_queue = q := rfl

@[simp] theorem notification.set_queue_state (n : notification) (q : tcb_queue_t) :
    (n.set_queue q).state = n.state := rfl

namespace tcb_queue_t

/-- `tcb_queue_t::empty`. -/
def empty (q : tcb_queue_t) : Bool := q.head == 0

/-- `tcb_queue_t::ep_append` (non-MCS): link `t` at the back. -/
def ep_append (q : tcb_queue_t) (tcbs : Nat → tcb_t) (t : Nat) : tcb_queue_t × (Nat → tcb_t) :=
  let head := if q.head = 0 then t else q.head
  let tcbs := if q.head = 0 then tcbs else setEPNext tcbs q.tail t
  let tcbs := setEPPrev tcbs t q.tail
  let tcbs := setEPNext tcbs t 0
  ({ head := head, tail := t }, tcbs)

/-- `tcb_queue_t::ep_dequeue`: unlink `t`. Its own links are left as they
were. -/
def ep_dequeue (q : tcb_queue_t) (tcbs : Nat → tcb_t) (t : Nat) : tcb_queue_t × (Nat → tcb_t) :=
  let (q, tcbs) :=
    if (tcbs t).tcbEPPrev ≠ 0 then (q, setEPNext tcbs (tcbs t).tcbEPPrev (tcbs t).tcbEPNext)
    else ({ q with head := (tcbs t).tcbEPNext }, tcbs)
  if (tcbs t).tcbEPNext ≠ 0 then (q, setEPPrev tcbs (tcbs t).tcbEPNext (tcbs t).tcbEPPrev)
  else ({ q with tail := (tcbs t).tcbEPPrev }, tcbs)

end tcb_queue_t

/-- The heap threads `xs` through the EP links between the ends of `q`. -/
def EpQueue (tcbs : Nat → tcb_t) (q : tcb_queue_t) (xs : List Nat) : Prop :=
  Queue (epNext tcbs) (epPrev tcbs) 0 q.head q.tail xs

theorem EpQueue.empty_iff {tcbs : Nat → tcb_t} {q : tcb_queue_t} {xs : List Nat}
    (hq : EpQueue tcbs q xs) : q.empty = true ↔ xs = [] := by
  rw [tcb_queue_t.empty, beq_iff_eq]
  exact Queue.eq_nil_iff hq

/-! ## The writes on the link functions -/

section Links

variable (tcbs : Nat → tcb_t) (p v : Nat)

@[simp] theorem epNext_setEPNext : epNext (setEPNext tcbs p v) = Function.update (epNext tcbs) p v := by
  funext q; by_cases h : q = p <;> simp [h]

@[simp] theorem epPrev_setEPNext : epPrev (setEPNext tcbs p v) = epPrev tcbs := by
  funext q; by_cases h : q = p <;> simp [h]

@[simp] theorem epNext_setEPPrev : epNext (setEPPrev tcbs p v) = epNext tcbs := by
  funext q; by_cases h : q = p <;> simp [h]

@[simp] theorem epPrev_setEPPrev : epPrev (setEPPrev tcbs p v) = Function.update (epPrev tcbs) p v := by
  funext q; by_cases h : q = p <;> simp [h]

/-- A store to one TCB changes the forward links at that TCB only. -/
theorem epNext_modifyTcb (s : KernelState) (f : tcb_t → tcb_t) :
    epNext (s.modifyTcb p f).tcbs = Function.update (epNext s.tcbs) p (f (s.tcbs p)).tcbEPNext := by
  funext q; by_cases h : q = p <;> simp [h]

theorem epPrev_modifyTcb (s : KernelState) (f : tcb_t → tcb_t) :
    epPrev (s.modifyTcb p f).tcbs = Function.update (epPrev s.tcbs) p (f (s.tcbs p)).tcbEPPrev := by
  funext q; by_cases h : q = p <;> simp [h]

/-- A store that keeps `tcbEPNext` keeps every forward link. -/
@[simp] theorem epNext_modifyTcb_of (s : KernelState) {f : tcb_t → tcb_t}
    (h : ∀ t, (f t).tcbEPNext = t.tcbEPNext) : epNext (s.modifyTcb p f).tcbs = epNext s.tcbs := by
  rw [epNext_modifyTcb, h]
  exact Function.update_eq_self p (epNext s.tcbs)

@[simp] theorem epPrev_modifyTcb_of (s : KernelState) {f : tcb_t → tcb_t}
    (h : ∀ t, (f t).tcbEPPrev = t.tcbEPPrev) : epPrev (s.modifyTcb p f).tcbs = epPrev s.tcbs := by
  rw [epPrev_modifyTcb, h]
  exact Function.update_eq_self p (epPrev s.tcbs)

end Links

/-! ## The operations are the library's surgeries -/

namespace tcb_queue_t

variable {tcbs : Nat → tcb_t} {q : tcb_queue_t}

theorem ep_append_fst (t : Nat) :
    (q.ep_append tcbs t).1 = ⟨if q.head = 0 then t else q.head, t⟩ := rfl

theorem ep_append_epNext (t : Nat) :
    epNext (q.ep_append tcbs t).2 =
      Function.update (if q.head = 0 then epNext tcbs else Function.update (epNext tcbs) q.tail t)
        t 0 := by
  unfold ep_append; split_ifs <;> simp

theorem ep_append_epPrev (t : Nat) :
    epPrev (q.ep_append tcbs t).2 = Function.update (epPrev tcbs) t q.tail := by
  unfold ep_append; split_ifs <;> simp

/-- **`ep_append` links at the back.** -/
theorem ep_append_queue {xs : List Nat} (hq : EpQueue tcbs q xs) {t : Nat} (ht : t ∉ xs)
    (htn : t ≠ 0) :
    EpQueue (q.ep_append tcbs t).2 (q.ep_append tcbs t).1 (xs ++ [t]) := by
  have hlast : xs.getLast?.getD 0 = q.tail := hq.tail_eq.symm
  have hempty : q.head = 0 ↔ xs = [] := hq.eq_nil_iff
  have hmem : ∀ a ∈ xs, a ≠ t := fun a ha e => ht (e ▸ ha)
  have key := Queue.insert (epNext (q.ep_append tcbs t).2) (epPrev (q.ep_append tcbs t).2)
    (l := xs) (r := []) (t := t) (by rw [List.append_nil]; exact hq) (by simpa using ht) htn
  simp only [List.append_nil, List.head?_nil, Option.getD_none, hlast, ↓reduceIte,
    ep_append_epNext, ep_append_epPrev, ← hempty] at key
  unfold EpQueue
  rw [ep_append_fst, ep_append_epNext, ep_append_epPrev]
  by_cases h0 : q.head = 0
  · -- an empty queue: `t` becomes both ends
    have hx : xs = [] := hempty.mp h0
    subst hx
    simpa [h0] using key
  · -- the old tail is not `t`, since `t` is not a member
    have hx : xs ≠ [] := fun e => h0 (hempty.mpr e)
    have htl : q.tail ≠ t := hmem _ (hq.tail_mem hx)
    simp only [h0, ↓reduceIte] at key ⊢
    refine key (fun a ha hne => ?_) (fun a ha _ => ?_) (fun _ => ?_) (fun h => absurd rfl h) ?_ ?_
    · simp [hmem a (by simpa using ha), hne]
    · simp [hmem a (by simpa using ha)]
    · simp [htl]
    · simp
    · simp

section Dequeue

variable {t : Nat} (h : (tcbs t).tcbEPPrev ≠ t)
include h

-- With `t` not its own predecessor, the first write does not touch `t`, so
-- the second half reads the links the first half read.
theorem ep_dequeue_fst :
    (q.ep_dequeue tcbs t).1 =
      ⟨if (tcbs t).tcbEPPrev = 0 then (tcbs t).tcbEPNext else q.head,
        if (tcbs t).tcbEPNext = 0 then (tcbs t).tcbEPPrev else q.tail⟩ := by
  unfold ep_dequeue
  by_cases hp : (tcbs t).tcbEPPrev = 0 <;> by_cases hn : (tcbs t).tcbEPNext = 0 <;>
    simp [hp, hn, Ne.symm h]

theorem ep_dequeue_epNext :
    epNext (q.ep_dequeue tcbs t).2 =
      if (tcbs t).tcbEPPrev = 0 then epNext tcbs
      else Function.update (epNext tcbs) (tcbs t).tcbEPPrev (tcbs t).tcbEPNext := by
  unfold ep_dequeue
  by_cases hp : (tcbs t).tcbEPPrev = 0 <;> by_cases hn : (tcbs t).tcbEPNext = 0 <;>
    simp [hp, hn, Ne.symm h]

theorem ep_dequeue_epPrev :
    epPrev (q.ep_dequeue tcbs t).2 =
      if (tcbs t).tcbEPNext = 0 then epPrev tcbs
      else Function.update (epPrev tcbs) (tcbs t).tcbEPNext (tcbs t).tcbEPPrev := by
  unfold ep_dequeue
  by_cases hp : (tcbs t).tcbEPPrev = 0 <;> by_cases hn : (tcbs t).tcbEPNext = 0 <;>
    simp [hp, hn, Ne.symm h]

end Dequeue

/-- The surgeries write links only. -/
theorem ep_dequeue_ep_unlinked (t a : Nat) :
    ((q.ep_dequeue tcbs t).2 a).ep_unlinked = (tcbs a).ep_unlinked := by
  unfold ep_dequeue
  split_ifs <;> dsimp only <;> split_ifs <;> simp only [setEPNext_ep_unlinked, setEPPrev_ep_unlinked]

theorem ep_append_ep_unlinked (t a : Nat) :
    ((q.ep_append tcbs t).2 a).ep_unlinked = (tcbs a).ep_unlinked := by
  unfold ep_append
  split_ifs <;> simp only [setEPNext_ep_unlinked, setEPPrev_ep_unlinked]

theorem ep_dequeue_tcbState (t a : Nat) :
    ((q.ep_dequeue tcbs t).2 a).tcbState = (tcbs a).tcbState :=
  tcb_t.tcbState_eq_of_ep_unlinked (ep_dequeue_ep_unlinked t a)

theorem ep_dequeue_tcbFault (t a : Nat) :
    ((q.ep_dequeue tcbs t).2 a).tcbFault = (tcbs a).tcbFault :=
  tcb_t.tcbFault_eq_of_ep_unlinked (ep_dequeue_ep_unlinked t a)

theorem ep_append_tcbState (t a : Nat) :
    ((q.ep_append tcbs t).2 a).tcbState = (tcbs a).tcbState :=
  tcb_t.tcbState_eq_of_ep_unlinked (ep_append_ep_unlinked t a)

/-- **`ep_dequeue` unlinks a member.** -/
theorem ep_dequeue_queue {l r : List Nat} {t : Nat} (hq : EpQueue tcbs q (l ++ t :: r)) :
    EpQueue (q.ep_dequeue tcbs t).2 (q.ep_dequeue tcbs t).1 (l ++ r) := by
  have hself : (tcbs t).tcbEPPrev ≠ t := Queue.prev_ne_self hq
  unfold EpQueue
  rw [ep_dequeue_fst hself, ep_dequeue_epNext hself, ep_dequeue_epPrev hself]
  refine Queue.unlink _ _ hq (fun a _ hne => ?_) (fun a _ hne => ?_) (fun hp => ?_) (fun hn => ?_)
  all_goals split_ifs <;> simp_all

/-- `ep_dequeue` writes the links of the unlinked member's neighbours only, so
a thread outside the rest of the list keeps both its links. -/
theorem ep_dequeue_links_of_not_mem {l r : List Nat} {t a : Nat} (hq : EpQueue tcbs q (l ++ t :: r))
    (ha : a ∉ l ++ r) :
    ((q.ep_dequeue tcbs t).2 a).tcbEPNext = (tcbs a).tcbEPNext ∧
      ((q.ep_dequeue tcbs t).2 a).tcbEPPrev = (tcbs a).tcbEPPrev := by
  have hself : (tcbs t).tcbEPPrev ≠ t := Queue.prev_ne_self hq
  have en := congrFun (ep_dequeue_epNext (q := q) hself) a
  have ep := congrFun (ep_dequeue_epPrev (q := q) hself) a
  simp only [epNext_apply, epPrev_apply] at en ep
  rw [en, ep]
  constructor
  · split
    · rfl
    · next hp =>
      have hpm : (tcbs t).tcbEPPrev ∈ l ++ r := List.mem_append_left _ (Queue.prev_mem hq hp)
      simp [show a ≠ (tcbs t).tcbEPPrev from fun e => ha (e ▸ hpm)]
  · split
    · rfl
    · next hn =>
      have hnm : (tcbs t).tcbEPNext ∈ l ++ r := List.mem_append_right _ (Queue.next_mem hq hn)
      simp [show a ≠ (tcbs t).tcbEPNext from fun e => ha (e ▸ hnm)]

end tcb_queue_t

/-! ## The MCS `ep_append`: in order of priority

The MCS build keeps a queue in descending order of priority. Its `ep_append`
walks back from the tail while the new thread's priority is above the node's
and links the thread in where the walk stops, behind the last member of at
least its priority: the library's `walk_back` and `insert_back`. -/

namespace mcs_state

/-- The writes of `tcb_queue_t::ep_append` (MCS) after its loop: `t` linked
between `before_ptr` and `after_ptr`, a null one making `t` the head or the
tail. -/
def tcb_queue_t.link_between (q : tcb_queue_t) (tcbs : Nat → tcb_t) (t before_ptr after_ptr : Nat) :
    tcb_queue_t × (Nat → tcb_t) :=
  let q := if before_ptr = 0 then { q with head := t } else q
  let tcbs := if before_ptr = 0 then tcbs else setEPNext tcbs before_ptr t
  let q := if after_ptr = 0 then { q with tail := t } else q
  let tcbs := if after_ptr = 0 then tcbs else setEPPrev tcbs after_ptr t
  let tcbs := setEPNext tcbs t after_ptr
  (q, setEPPrev tcbs t before_ptr)

/-- `tcb_queue_t::ep_append` (MCS). `fuel` bounds the loop; `none` when it
runs out. -/
def tcb_queue_t.ep_append (q : tcb_queue_t) (tcbs : Nat → tcb_t) (t fuel : Nat) :
    Option (tcb_queue_t × (Nat → tcb_t)) :=
  (walk_back 0 (epPrev tcbs)
      (fun before_ptr => decide ((tcbs t).tcbPriority > (tcbs before_ptr).tcbPriority)) fuel q.tail 0).map
    fun (before_ptr, after_ptr) => tcb_queue_t.link_between q tcbs t before_ptr after_ptr

namespace tcb_queue_t

variable {tcbs : Nat → tcb_t} {q : tcb_queue_t} {t : Nat}

theorem link_between_fst (before_ptr after_ptr : Nat) :
    (link_between q tcbs t before_ptr after_ptr).1 =
      ⟨if before_ptr = 0 then t else q.head, if after_ptr = 0 then t else q.tail⟩ := by
  unfold link_between
  split_ifs <;> rfl

theorem link_between_epNext (before_ptr after_ptr : Nat) :
    epNext (link_between q tcbs t before_ptr after_ptr).2 =
      Function.update (if before_ptr = 0 then epNext tcbs
        else Function.update (epNext tcbs) before_ptr t) t after_ptr := by
  unfold link_between
  split_ifs <;> simp

theorem link_between_epPrev (before_ptr after_ptr : Nat) :
    epPrev (link_between q tcbs t before_ptr after_ptr).2 =
      Function.update (if after_ptr = 0 then epPrev tcbs
        else Function.update (epPrev tcbs) after_ptr t) t before_ptr := by
  unfold link_between
  split_ifs <;> simp

theorem link_between_ep_unlinked (before_ptr after_ptr a : Nat) :
    ((link_between q tcbs t before_ptr after_ptr).2 a).ep_unlinked = (tcbs a).ep_unlinked := by
  unfold link_between
  split_ifs <;> simp only [setEPNext_ep_unlinked, setEPPrev_ep_unlinked]

/-- **Linking between two neighbours.** For any split `l ++ r` of a queue,
`t` linked between the last of `l` and the first of `r` makes the queue
`l ++ t :: r`. -/
theorem link_between_queue {l r : List Nat} (hq : EpQueue tcbs q (l ++ r)) (ht : t ∉ l ++ r)
    (htn : t ≠ 0) :
    EpQueue (link_between q tcbs t (l.getLast?.getD 0) (r.head?.getD 0)).2
      (link_between q tcbs t (l.getLast?.getD 0) (r.head?.getD 0)).1 (l ++ t :: r) := by
  -- a neighbour is null exactly when its side of the split is empty
  have hl0 : l.getLast?.getD 0 = 0 ↔ l = [] := hq.getLast?_getD_eq_nil_iff (List.subset_append_left l r)
  have hr0 : r.head?.getD 0 = 0 ↔ r = [] := hq.head?_getD_eq_nil_iff (List.subset_append_right l r)
  have hmem : ∀ a ∈ l ++ r, a ≠ t := fun a ha e => ht (e ▸ ha)
  have key := Queue.insert
    (Function.update (if l = [] then epNext tcbs else Function.update (epNext tcbs) (l.getLast?.getD 0) t)
      t (r.head?.getD 0))
    (Function.update (if r = [] then epPrev tcbs else Function.update (epPrev tcbs) (r.head?.getD 0) t)
      t (l.getLast?.getD 0)) hq ht htn
  unfold EpQueue
  rw [link_between_fst, link_between_epNext, link_between_epPrev]
  simp only [hl0, hr0]
  refine key (fun a ha hne => ?_) (fun a ha hne => ?_) (fun hne => ?_) (fun hne => ?_) ?_ ?_
  · split_ifs <;> simp [hmem a ha, hne]
  · split_ifs <;> simp [hmem a ha, hne]
  · have hb : l.getLast?.getD 0 ≠ t := hmem _ (List.mem_append_left r (Queue.getLast?_getD_mem hne))
    simp [hne, hb]
  · have ha : r.head?.getD 0 ≠ t := hmem _ (List.mem_append_right l (Queue.head?_getD_mem hne))
    simp [hne, ha]
  · simp
  · simp

/-- `link_between` writes the links of `t` and of its neighbours, and no
others; a null neighbour is not written. -/
theorem link_between_links_of_ne {before_ptr after_ptr a : Nat} (ht : a ≠ t)
    (hb : before_ptr ≠ 0 → a ≠ before_ptr) (ha : after_ptr ≠ 0 → a ≠ after_ptr) :
    ((link_between q tcbs t before_ptr after_ptr).2 a).tcbEPNext = (tcbs a).tcbEPNext ∧
      ((link_between q tcbs t before_ptr after_ptr).2 a).tcbEPPrev = (tcbs a).tcbEPPrev := by
  have en := congrFun (@link_between_epNext tcbs q t before_ptr after_ptr) a
  have ep := congrFun (@link_between_epPrev tcbs q t before_ptr after_ptr) a
  simp only [epNext_apply, epPrev_apply] at en ep
  rw [en, ep]
  constructor
  · split_ifs with h0
    · simp [ht]
    · simp [ht, hb h0]
  · split_ifs with h0
    · simp [ht]
    · simp [ht, ha h0]

section Append

variable {xs : List Nat} (hq : EpQueue tcbs q xs)
include hq

/-- With fuel for every member, the loop stops at the split of `insert_back`. -/
theorem ep_append_eq_some {fuel : Nat} (hfuel : xs.length ≤ fuel) :
    ep_append q tcbs t fuel =
      some (link_between q tcbs t
        ((xs.rdropWhile fun b => decide ((tcbs b).tcbPriority < (tcbs t).tcbPriority)).getLast?.getD 0)
        ((xs.rtakeWhile fun b => decide ((tcbs b).tcbPriority < (tcbs t).tcbPriority)).head?.getD 0)) := by
  have hwalk := walk_back_split (P := fun b => decide ((tcbs b).tcbPriority < (tcbs t).tcbPriority)) xs []
    (by rw [List.append_nil]; exact hq) (by simp) hfuel
  simp only [List.append_nil, List.head?_nil, Option.getD_none, ← hq.tail_eq] at hwalk
  unfold ep_append
  simp only [gt_iff_lt, hwalk, Option.map_some]

/-- Whatever the fuel, a loop that returns stops at that split. -/
theorem eq_of_ep_append {fuel : Nat} {r : tcb_queue_t × (Nat → tcb_t)}
    (h : ep_append q tcbs t fuel = some r) :
    r = link_between q tcbs t
      ((xs.rdropWhile fun b => decide ((tcbs b).tcbPriority < (tcbs t).tcbPriority)).getLast?.getD 0)
      ((xs.rtakeWhile fun b => decide ((tcbs b).tcbPriority < (tcbs t).tcbPriority)).head?.getD 0) := by
  unfold ep_append at h
  obtain ⟨x, hx, rfl⟩ := Option.map_eq_some_iff.mp h
  -- the same loop with fuel for every member returns the same pair
  have hmore := walk_back_mono hx (Nat.le_max_left fuel xs.length)
  have hsome := ep_append_eq_some (t := t) hq (Nat.le_max_right fuel xs.length)
  unfold ep_append at hsome
  rw [hmore, Option.map_some] at hsome
  exact Option.some.inj hsome

/-- **`ep_append` (MCS) inserts in order.** When it returns, `t` is linked in
behind the last member of at least its priority; the links it writes are
those of `t` and of its two new neighbours, and nothing but links. -/
theorem ep_append_queue (ht : t ∉ xs) (htn : t ≠ 0) {fuel : Nat} {r : tcb_queue_t × (Nat → tcb_t)}
    (h : ep_append q tcbs t fuel = some r) :
    EpQueue r.2 r.1 (insert_back (fun b => decide ((tcbs b).tcbPriority < (tcbs t).tcbPriority)) t xs) ∧
      (∀ a, a ≠ t → a ∉ xs →
        (r.2 a).tcbEPNext = (tcbs a).tcbEPNext ∧ (r.2 a).tcbEPPrev = (tcbs a).tcbEPPrev) ∧
      ∀ a, (r.2 a).ep_unlinked = (tcbs a).ep_unlinked := by
  set P := fun b => decide ((tcbs b).tcbPriority < (tcbs t).tcbPriority)
  have hsplit : xs = xs.rdropWhile P ++ xs.rtakeWhile P := List.rdropWhile_append_rtakeWhile.symm
  rw [eq_of_ep_append hq h]
  refine ⟨?_, fun a hat hax => link_between_links_of_ne hat ?_ ?_, link_between_ep_unlinked _ _⟩
  · rw [hsplit] at hq ht
    exact link_between_queue hq ht htn
  · -- a neighbour that is not null is a member
    intro h0 hb
    exact hax ((List.rdropWhile_prefix P xs).subset (hb ▸ getLast?_getD_mem_of_ne h0))
  · intro h0 ha
    exact hax ((List.rtakeWhile_suffix P xs).subset (ha ▸ head?_getD_mem_of_ne h0))

end Append

end tcb_queue_t

end mcs_state

end Rel4Kernel
