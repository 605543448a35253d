/-
The endpoint and notification queues of the MCS build, in order of priority.

The MCS `ep_append` links a thread in behind the last member whose priority
is at least its own (`Rel4Kernel.Task.TcbQueue`), so that a queue serves its
highest priority first and, among threads of one priority, the one that came
first. `prio_queues` says so of every queue at once: the queue of each object
`o` holds the list `Q o`, no thread is on two queues, and each list is in the
library's order `Ahead`, by priority and then by the time `stamp` at which the
thread was last linked in, all before `clock`. `Q`, `stamp` and `clock` are a
view for the proofs only: nothing in the kernel stores them, and `queue_run`
builds them beside the states.

Each operation that writes a queue replaces one list (`prio_queues.replace`),
with one of two moves: unlinking a member (`ep_dequeue`, whatever the member's
other fields have become) and linking in a thread that is on no queue (the
MCS `ep_append`). `reorder_ep`, `reorder_ntfn` and `set_priority` on a waiting
thread are an unlink followed by a link. `queue_run` is the states these reach
from empty queues, together with whatever else the kernel does that writes no
link, no priority and no end of a queued thread, and
`mcs_queues_in_priority_order` is the invariant over all of them.
-/
import Rel4Kernel.IPC.McsOperations

set_option autoImplicit false

namespace Rel4Kernel

open HeapList Function ThreadState

namespace mcs_state

/-! ## The invariant -/

/-- The priority of every thread. -/
def priorities (tcbs : Nat → tcb_t) : Nat → Nat := fun a => (tcbs a).tcbPriority

/-- The queue of each object `o` holds `Q o`, no thread is on two queues, and
each queue is served by priority, then by the time each thread was last
linked in. -/
structure prio_queues (s : KernelState) (Q : ipc_obj → List Nat) (stamp : Nat → Nat) (clock : Nat) :
    Prop where
  queue : ∀ o, EpQueue s.tcbs (s.queue_of o) (Q o)
  disjoint : ∀ o o' a, a ∈ Q o → a ∈ Q o' → o = o'
  ordered : ∀ o, (Q o).Pairwise (Ahead (priorities s.tcbs) stamp)
  stamped : ∀ o, ∀ a ∈ Q o, stamp a < clock

/-- `s'` is `s` with the queue of `o` replaced by `r`, the ends and the heap a
queue operation returns. -/
structure writes_queue (s s' : KernelState) (o : ipc_obj) (r : tcb_queue_t × (Nat → tcb_t)) :
    Prop where
  tcbs : s'.tcbs = r.2
  queue : s'.queue_of o = r.1
  others : ∀ o', o' ≠ o → s'.queue_of o' = s.queue_of o'

namespace writes_queue

variable {s s₁ s' : KernelState} {o : ipc_obj} {r : tcb_queue_t × (Nat → tcb_t)}

/-- Writes before the queue operation that leave every queue's ends. -/
theorem of_queue_of_eq (hw : writes_queue s₁ s' o r) (h : ∀ o, s₁.queue_of o = s.queue_of o) :
    writes_queue s s' o r :=
  ⟨hw.tcbs, hw.queue, fun o' ho => (hw.others o' ho).trans (h o')⟩

end writes_queue

namespace prio_queues

variable {s s₁ s' : KernelState} {Q : ipc_obj → List Nat} {stamp : Nat → Nat} {clock : Nat}

theorem not_mem_of_ne (h : prio_queues s Q stamp clock) {o o' : ipc_obj} {a : Nat} (ha : a ∈ Q o)
    (hne : o' ≠ o) : a ∉ Q o' :=
  fun ha' => hne (h.disjoint o' o a ha' ha)

/-- **Replacing one queue.** The queue of `o` now holds `xs`, whose members
come from it or from no queue; the other queues' ends stay, and so do the
links, the priorities and the times of every thread outside both lists. -/
theorem replace (h : prio_queues s Q stamp clock) {o : ipc_obj} {xs : List Nat}
    {stamp' : Nat → Nat} {clock' : Nat} (hq : EpQueue s'.tcbs (s'.queue_of o) xs)
    (hqo : ∀ o', o' ≠ o → s'.queue_of o' = s.queue_of o')
    (hxs : ∀ a ∈ xs, a ∈ Q o ∨ ∀ o', a ∉ Q o')
    (hkeep : ∀ a, a ∉ Q o → a ∉ xs →
      ((s'.tcbs a).tcbEPNext = (s.tcbs a).tcbEPNext ∧ (s'.tcbs a).tcbEPPrev = (s.tcbs a).tcbEPPrev) ∧
        priorities s'.tcbs a = priorities s.tcbs a ∧ stamp' a = stamp a)
    (hord : xs.Pairwise (Ahead (priorities s'.tcbs) stamp')) (hstamp : ∀ a ∈ xs, stamp' a < clock')
    (hclock : clock ≤ clock') : prio_queues s' (update Q o xs) stamp' clock' := by
  -- a member of another queue is in neither list
  have hout : ∀ o', o' ≠ o → ∀ a ∈ Q o', a ∉ Q o ∧ a ∉ xs := fun o' hne a ha =>
    ⟨h.not_mem_of_ne ha (Ne.symm hne), fun hx => (hxs a hx).elim
      (fun hao => hne (h.disjoint o' o a ha hao)) (fun hno => hno o' ha)⟩
  refine ⟨fun o' => ?_, fun o₁ o₂ a ha₁ ha₂ => ?_, fun o' => ?_, fun o' a ha => ?_⟩
  · by_cases ho : o' = o
    · subst ho
      rw [update_self]
      exact hq
    · rw [update_of_ne ho]
      unfold EpQueue
      rw [hqo o' ho]
      exact Queue.congr (h.queue o') (fun a ha => (hkeep a (hout o' ho a ha).1 (hout o' ho a ha).2).1.1)
        (fun a ha => (hkeep a (hout o' ho a ha).1 (hout o' ho a ha).2).1.2)
  · by_cases h₁ : o₁ = o <;> by_cases h₂ : o₂ = o
    · rw [h₁, h₂]
    · rw [h₁, update_self] at ha₁
      rw [update_of_ne h₂] at ha₂
      exact absurd ha₁ (hout o₂ h₂ a ha₂).2
    · rw [h₂, update_self] at ha₂
      rw [update_of_ne h₁] at ha₁
      exact absurd ha₂ (hout o₁ h₁ a ha₁).2
    · rw [update_of_ne h₁] at ha₁
      rw [update_of_ne h₂] at ha₂
      exact h.disjoint o₁ o₂ a ha₁ ha₂
  · by_cases ho : o' = o
    · subst ho
      rw [update_self]
      exact hord
    · rw [update_of_ne ho]
      refine pairwise_ahead_congr (fun a ha => ?_) (h.ordered o')
      exact (hkeep a (hout o' ho a ha).1 (hout o' ho a ha).2).2
  · by_cases ho : o' = o
    · subst ho
      rw [update_self] at ha
      exact hstamp a ha
    · rw [update_of_ne ho] at ha
      rw [(hkeep a (hout o' ho a ha).1 (hout o' ho a ha).2).2.2]
      exact Nat.lt_of_lt_of_le (h.stamped o' a ha) hclock

/-- **Unlinking a member.** `s₁` is `s` with the links of every thread as they
were, and the other fields of `t` perhaps not (`set_priority` writes the
priority before it unlinks). -/
theorem unlink (h : prio_queues s Q stamp clock) {o : ipc_obj} {t : Nat} (ht : t ∈ Q o)
    (hlinks : ∀ a, (s₁.tcbs a).tcbEPNext = (s.tcbs a).tcbEPNext ∧
      (s₁.tcbs a).tcbEPPrev = (s.tcbs a).tcbEPPrev)
    (hother : ∀ a, a ≠ t → (s₁.tcbs a).tcbPriority = (s.tcbs a).tcbPriority)
    (hw : writes_queue s s' o ((s.queue_of o).ep_dequeue s₁.tcbs t)) :
    prio_queues s' (update Q o ((Q o).erase t)) stamp clock := by
  obtain ⟨l, r, hlr⟩ := List.append_of_mem ht
  have hnd : (l ++ t :: r).Nodup := hlr ▸ (h.queue o).nodup
  have htl : t ∉ l := fun e => (List.nodup_append.mp hnd).2.2 t e t List.mem_cons_self rfl
  have herase : (Q o).erase t = l ++ r := by
    rw [hlr, List.erase_append_right _ htl, List.erase_cons_head]
  have hq₁ : EpQueue s₁.tcbs (s.queue_of o) (l ++ t :: r) :=
    Queue.congr (hlr ▸ h.queue o) (fun a _ => (hlinks a).1) (fun a _ => (hlinks a).2)
  -- what the dequeue leaves of a thread: its fields but links, and its links off the list
  have hprio : ∀ a, a ≠ t → priorities s'.tcbs a = priorities s.tcbs a := fun a hat => by
    simp only [priorities, hw.tcbs]
    rw [tcb_t.tcbPriority_eq_of_ep_unlinked (tcb_queue_t.ep_dequeue_ep_unlinked t a), hother a hat]
  have hsub : l ++ r ⊆ Q o := fun a ha => by
    rw [hlr]
    rcases List.mem_append.mp ha with ha | ha
    · exact List.mem_append_left _ ha
    · exact List.mem_append_right _ (List.mem_cons_of_mem t ha)
  have htlr : t ∉ l ++ r := (List.nodup_middle.mp hnd |> List.nodup_cons.mp).1
  rw [herase]
  refine h.replace (by rw [hw.tcbs, hw.queue]; exact tcb_queue_t.ep_dequeue_queue hq₁) hw.others
    (fun a ha => .inl (hsub ha)) (fun a hao hax => ?_) ?_ (fun a ha => h.stamped o a (hsub ha)) le_rfl
  · have hat : a ≠ t := fun e => hao (e ▸ ht)
    refine ⟨?_, hprio a hat, rfl⟩
    rw [hw.tcbs, ← (hlinks a).1, ← (hlinks a).2]
    exact tcb_queue_t.ep_dequeue_links_of_not_mem hq₁ hax
  · have hs : (l ++ r).Pairwise (Ahead (priorities s.tcbs) stamp) := by
      have ho := h.ordered o
      rw [hlr] at ho
      exact ho.sublist ((List.sublist_cons_self t r).append_left l)
    exact pairwise_ahead_congr (fun a ha => ⟨hprio a fun e => htlr (e ▸ ha), rfl⟩) hs

/-- **Linking in a thread that is on no queue**, with the MCS `ep_append`:
the thread goes behind the last member of at least its priority, and its time
is the clock's. -/
theorem link (h : prio_queues s Q stamp clock) {o : ipc_obj} {t fuel : Nat}
    {r : tcb_queue_t × (Nat → tcb_t)} (ht0 : t ≠ 0) (ht : ∀ o', t ∉ Q o')
    (hr : tcb_queue_t.ep_append (s.queue_of o) s.tcbs t fuel = some r) (hw : writes_queue s s' o r) :
    prio_queues s'
      (update Q o (insert_back (fun b => decide (priorities s'.tcbs b < priorities s'.tcbs t)) t (Q o)))
      (update stamp t clock) (clock + 1) := by
  obtain ⟨hq, hlinks, hun⟩ := tcb_queue_t.ep_append_queue (h.queue o) (ht o) ht0 hr
  -- the append writes links only
  have hprio : priorities s'.tcbs = priorities s.tcbs := funext fun a => by
    simp only [priorities, hw.tcbs]
    exact tcb_t.tcbPriority_eq_of_ep_unlinked (hun a)
  have hstamp : ∀ a ∈ Q o, update stamp t clock a = stamp a := fun a ha =>
    update_of_ne (by rintro rfl; exact ht o ha) _ _
  rw [hprio]
  refine h.replace (by rw [hw.tcbs, hw.queue]; exact hq) hw.others (fun a ha => ?_)
    (fun a hao hax => ?_) ?_ (fun a ha => ?_) (Nat.le_succ clock)
  · rcases mem_insert_back.mp ha with rfl | ha
    · exact .inr ht
    · exact .inl ha
  · have hat : a ≠ t := fun e => hax (mem_insert_back.mpr (.inl e))
    refine ⟨?_, congrFun hprio a, update_of_ne hat _ _⟩
    rw [hw.tcbs]
    exact hlinks a hat hao
  · rw [hprio]
    refine insert_back_ahead (pairwise_ahead_congr (fun a ha => ⟨rfl, hstamp a ha⟩) (h.ordered o))
      (fun a ha => ?_)
    rw [hstamp a ha, update_self]
    exact h.stamped o a ha
  · rcases mem_insert_back.mp ha with rfl | ha
    · rw [update_self]
      exact Nat.lt_succ_self clock
    · rw [hstamp a ha]
      exact Nat.lt_succ_of_lt (h.stamped o a ha)

/-- **Moving a member to the place of its priority**: an unlink from `s₁`,
which has the links and queue ends of `s`, followed by a link. -/
theorem relink (h : prio_queues s Q stamp clock) {s₂ : KernelState} {o : ipc_obj} {t fuel : Nat}
    {r : tcb_queue_t × (Nat → tcb_t)} (ht : t ∈ Q o)
    (hlinks : ∀ a, (s₁.tcbs a).tcbEPNext = (s.tcbs a).tcbEPNext ∧
      (s₁.tcbs a).tcbEPPrev = (s.tcbs a).tcbEPPrev)
    (hother : ∀ a, a ≠ t → (s₁.tcbs a).tcbPriority = (s.tcbs a).tcbPriority)
    (hends : ∀ o, s₁.queue_of o = s.queue_of o)
    (hw : writes_queue s₁ s₂ o ((s₁.queue_of o).ep_dequeue s₁.tcbs t))
    (hr : tcb_queue_t.ep_append (s₂.queue_of o) s₂.tcbs t fuel = some r) (hw' : writes_queue s₂ s' o r) :
    prio_queues s'
      (update Q o (insert_back (fun b => decide (priorities s'.tcbs b < priorities s'.tcbs t)) t
        ((Q o).erase t)))
      (update stamp t clock) (clock + 1) := by
  rw [hends] at hw
  have h₂ := h.unlink ht hlinks hother (hw.of_queue_of_eq hends)
  -- `t` is now on no queue: the queues are disjoint and have no member twice
  have hout : ∀ o', t ∉ update Q o ((Q o).erase t) o' := fun o' => by
    by_cases ho : o' = o
    · rw [ho, update_self]
      exact (h.queue o).nodup.not_mem_erase
    · rw [update_of_ne ho]
      exact h.not_mem_of_ne ht ho
  have h₃ := h₂.link ((h.queue o).mem_ne_nil ht) hout hr hw'
  rwa [update_idem, update_self] at h₃

/-- A step that writes no end of a queue and no link or priority of a queued
thread. -/
theorem frame (h : prio_queues s Q stamp clock) (hends : ∀ o, s'.queue_of o = s.queue_of o)
    (hm : ∀ o, ∀ a ∈ Q o, (s'.tcbs a).tcbEPNext = (s.tcbs a).tcbEPNext ∧
      (s'.tcbs a).tcbEPPrev = (s.tcbs a).tcbEPPrev ∧ (s'.tcbs a).tcbPriority = (s.tcbs a).tcbPriority) :
    prio_queues s' Q stamp clock where
  queue o := by
    unfold EpQueue
    rw [hends o]
    exact Queue.congr (h.queue o) (fun a ha => (hm o a ha).1) (fun a ha => (hm o a ha).2.1)
  disjoint := h.disjoint
  ordered o := pairwise_ahead_congr (fun a ha => ⟨(hm o a ha).2.2, rfl⟩) (h.ordered o)
  stamped := h.stamped

/-- Empty queues, with no time given out yet. -/
theorem empty (h : ∀ o, s.queue_of o = { head := 0, tail := 0 }) :
    prio_queues s (fun _ => []) (fun _ => 0) 0 where
  queue o := by
    unfold EpQueue
    rw [h o]
    exact ⟨trivial, List.nodup_nil, List.not_mem_nil, rfl, rfl⟩
  disjoint _ _ _ ha := absurd ha List.not_mem_nil
  ordered _ := List.Pairwise.nil
  stamped _ _ ha := absurd ha List.not_mem_nil

/-- The head of a queue has the highest priority on it: the thread that
`send_ipc`, `receive_ipc` and `send_signal` hand over to. -/
theorem le_head (h : prio_queues s Q stamp clock) (o : ipc_obj) {a : Nat} (ha : a ∈ Q o) :
    priorities s.tcbs a ≤ priorities s.tcbs (s.queue_of o).head := by
  rw [(h.queue o).head_eq]
  exact key_le_head (h.ordered o) 0 ha

end prio_queues

/-! ## What each operation writes -/

section Writes

variable (s : KernelState) (ep t : Nat)

theorem queue_of_modifyEp_of_ne {p : Nat} {o : ipc_obj} (f : endpoint → endpoint) (ho : o ≠ .ep p) :
    (s.modifyEp p f).queue_of o = s.queue_of o := by
  cases o with
  | ep q =>
    have hq : q ≠ p := by rintro rfl; exact ho rfl
    simp [KernelState.queue_of, KernelState.modifyEp, update_of_ne hq]
  | ntfn q => rfl

theorem queue_of_modifyNtfn_of_ne {p : Nat} {o : ipc_obj} (f : notification → notification)
    (ho : o ≠ .ntfn p) : (s.modifyNtfn p f).queue_of o = s.queue_of o := by
  cases o with
  | ep q => rfl
  | ntfn q =>
    have hq : q ≠ p := by rintro rfl; exact ho rfl
    simp [KernelState.queue_of, KernelState.modifyNtfn, update_of_ne hq]

theorem ep_dequeue_at_writes :
    writes_queue s (ep_dequeue_at s ep t) (.ep ep) ((s.queue_of (.ep ep)).ep_dequeue s.tcbs t) where
  tcbs := ep_dequeue_at_tcbs s ep t
  queue := ep_dequeue_at_get_queue s ep t
  others o ho := by
    cases o with
    | ep p =>
      show ((ep_dequeue_at s ep t).eps p).get_queue = (s.eps p).get_queue
      rw [ep_dequeue_at_eps_of_ne s ep t (fun e => ho (e ▸ rfl))]
    | ntfn p =>
      show ((ep_dequeue_at s ep t).ntfns p).get_queue = (s.ntfns p).get_queue
      rw [ep_dequeue_at_ntfns]

theorem ntfn_dequeue_at_writes :
    writes_queue s (ntfn_dequeue_at s ep t) (.ntfn ep) ((s.queue_of (.ntfn ep)).ep_dequeue s.tcbs t) where
  tcbs := ntfn_dequeue_at_tcbs s ep t
  queue := ntfn_dequeue_at_get_queue s ep t
  others o ho := by
    cases o with
    | ep p =>
      show ((ntfn_dequeue_at s ep t).eps p).get_queue = (s.eps p).get_queue
      rw [ntfn_dequeue_at_eps]
    | ntfn p =>
      show ((ntfn_dequeue_at s ep t).ntfns p).get_queue = (s.ntfns p).get_queue
      rw [ntfn_dequeue_at_ntfns_of_ne s ep t (fun e => ho (e ▸ rfl))]

variable {s ep t} {fuel : Nat} {k : KernelState}

theorem ep_append_at_writes {st : EPState} (h : ep_append_at fuel s ep t st = some k) :
    ∃ r, tcb_queue_t.ep_append (s.queue_of (.ep ep)) s.tcbs t fuel = some r ∧
      writes_queue s k (.ep ep) r := by
  unfold ep_append_at at h
  obtain ⟨r, hr, rfl⟩ := Option.map_eq_some_iff.mp h
  refine ⟨r, hr, rfl, ?_, fun o ho => ?_⟩
  · simp [KernelState.queue_of, KernelState.modifyEp]
  · rw [queue_of_modifyEp_of_ne _ _ ho, queue_of_modifyEp_of_ne _ _ ho]
    cases o <;> rfl

theorem ntfn_append_at_writes (h : ntfn_append_at fuel s ep t = some k) :
    ∃ r, tcb_queue_t.ep_append (s.queue_of (.ntfn ep)) s.tcbs t fuel = some r ∧
      writes_queue s k (.ntfn ep) r := by
  unfold ntfn_append_at at h
  obtain ⟨r, hr, rfl⟩ := Option.map_eq_some_iff.mp h
  refine ⟨r, hr, rfl, ?_, fun o ho => ?_⟩
  · simp [KernelState.queue_of, KernelState.modifyNtfn]
  · rw [queue_of_modifyNtfn_of_ne _ _ ho, queue_of_modifyNtfn_of_ne _ _ ho]
    cases o <;> rfl

/-- `reorder_ep` is an unlink, to a state `s₂` that nothing stores, and a link. -/
theorem reorder_ep_writes (h : endpoint.reorder_ep fuel s ep t = some k) :
    ∃ s₂ r, writes_queue s s₂ (.ep ep) ((s.queue_of (.ep ep)).ep_dequeue s.tcbs t) ∧
      tcb_queue_t.ep_append (s₂.queue_of (.ep ep)) s₂.tcbs t fuel = some r ∧ writes_queue s₂ k (.ep ep) r := by
  unfold endpoint.reorder_ep at h
  obtain ⟨r, hr, rfl⟩ := Option.map_eq_some_iff.mp h
  refine ⟨{ s with tcbs := ((s.eps ep).get_queue.ep_dequeue s.tcbs t).2 }.modifyEp ep
    fun e => e.set_queue ((s.eps ep).get_queue.ep_dequeue s.tcbs t).1, r, ⟨rfl, ?_, fun o ho => ?_⟩,
    ?_, rfl, ?_, fun o ho => ?_⟩
  · simp [KernelState.queue_of, KernelState.modifyEp]
  · rw [queue_of_modifyEp_of_ne _ _ ho]
    cases o <;> rfl
  · simpa [KernelState.queue_of, KernelState.modifyEp] using hr
  · simp [KernelState.queue_of, KernelState.modifyEp]
  · rw [queue_of_modifyEp_of_ne _ _ ho, queue_of_modifyEp_of_ne _ _ ho]
    cases o <;> rfl

theorem reorder_ntfn_writes (h : notification.reorder_ntfn fuel s ep t = some k) :
    ∃ s₂ r, writes_queue s s₂ (.ntfn ep) ((s.queue_of (.ntfn ep)).ep_dequeue s.tcbs t) ∧
      tcb_queue_t.ep_append (s₂.queue_of (.ntfn ep)) s₂.tcbs t fuel = some r ∧
      writes_queue s₂ k (.ntfn ep) r := by
  unfold notification.reorder_ntfn at h
  obtain ⟨r, hr, rfl⟩ := Option.map_eq_some_iff.mp h
  refine ⟨{ s with tcbs := ((s.ntfns ep).get_queue.ep_dequeue s.tcbs t).2 }.modifyNtfn ep
    fun n => n.set_queue ((s.ntfns ep).get_queue.ep_dequeue s.tcbs t).1, r, ⟨rfl, ?_, fun o ho => ?_⟩,
    ?_, rfl, ?_, fun o ho => ?_⟩
  · simp [KernelState.queue_of, KernelState.modifyNtfn]
  · rw [queue_of_modifyNtfn_of_ne _ _ ho]
    cases o <;> rfl
  · simpa [KernelState.queue_of, KernelState.modifyNtfn] using hr
  · simp [KernelState.queue_of, KernelState.modifyNtfn]
  · rw [queue_of_modifyNtfn_of_ne _ _ ho, queue_of_modifyNtfn_of_ne _ _ ho]
    cases o <;> rfl

end Writes

/-! ## `set_priority` on a waiting thread -/

section SetPriority

variable (s : KernelState) (t priority : Nat)

theorem modifyTcb_priority_links (a : Nat) :
    ((s.modifyTcb t fun tcb => { tcb with tcbPriority := priority }).tcbs a).tcbEPNext =
        (s.tcbs a).tcbEPNext ∧
      ((s.modifyTcb t fun tcb => { tcb with tcbPriority := priority }).tcbs a).tcbEPPrev =
        (s.tcbs a).tcbEPPrev := by
  by_cases ha : a = t
  · subst ha
    simp [KernelState.modifyTcb]
  · simp [KernelState.modifyTcb, update_of_ne ha]

theorem modifyTcb_priority_of_ne {a : Nat} (ha : a ≠ t) :
    ((s.modifyTcb t fun tcb => { tcb with tcbPriority := priority }).tcbs a).tcbPriority =
      (s.tcbs a).tcbPriority := by
  simp [KernelState.modifyTcb, update_of_ne ha]

theorem modifyTcb_queue_of (f : tcb_t → tcb_t) (o : ipc_obj) : (s.modifyTcb t f).queue_of o = s.queue_of o := by
  cases o <;> rfl

variable {s t priority} {fuel : Nat} {ms ms' : mcs_state}

/-- On a thread that waits on an endpoint, `set_priority` writes the priority
and then reorders the endpoint's queue. -/
theorem set_priority_of_blocked_on_ep
    (hst : (ms.tcbs t).get_state = ThreadStateBlockedOnSend ∨
      (ms.tcbs t).get_state = ThreadStateBlockedOnReceive)
    (h : set_priority fuel ms t priority = some ms') :
    endpoint.reorder_ep fuel (ms.modifyTcb t fun tcb => { tcb with tcbPriority := priority })
      (ms.tcbs t).tcbState.blockingObject t = some ms'.toKernelState := by
  unfold set_priority at h
  rcases hst with hst | hst <;>
  · simp only [hst] at h
    obtain ⟨k, hk, rfl⟩ := Option.map_eq_some_iff.mp h
    simpa [KernelState.modifyTcb] using hk

/-- On a thread that waits on a notification, `set_priority` writes the
priority and then reorders the notification's queue. -/
theorem set_priority_of_blocked_on_ntfn
    (hst : (ms.tcbs t).get_state = ThreadStateBlockedOnNotification)
    (h : set_priority fuel ms t priority = some ms') :
    notification.reorder_ntfn fuel (ms.modifyTcb t fun tcb => { tcb with tcbPriority := priority })
      (ms.tcbs t).tcbState.blockingObject t = some ms'.toKernelState := by
  unfold set_priority at h
  simp only [hst] at h
  obtain ⟨k, hk, rfl⟩ := Option.map_eq_some_iff.mp h
  simpa [KernelState.modifyTcb] using hk

end SetPriority

/-! ## Every run -/

/-- The queue of `o` with `t` moved to, or linked in at, the place of its
priority in `tcbs`. -/
def place_by_priority (tcbs : Nat → tcb_t) (t : Nat) (xs : List Nat) : List Nat :=
  insert_back (fun b => decide (priorities tcbs b < priorities tcbs t)) t xs

/-- The states that the queue operations of the MCS build reach from empty
queues, each with the view `Q`, `stamp`, `clock` that the proofs read it by. A
thread is unlinked from a queue it is on, and linked into one when it is on
none, as the kernel calls these; `set_priority` is on a thread that waits on
the object its state names; `frame` is any other step of the kernel, one that
writes no end of a queue and no link or priority of a queued thread. -/
inductive queue_run : KernelState → (ipc_obj → List Nat) → (Nat → Nat) → Nat → Prop
  | empty {s : KernelState} (h : ∀ o, s.queue_of o = { head := 0, tail := 0 }) :
      queue_run s (fun _ => []) (fun _ => 0) 0
  | ep_append {s k : KernelState} {Q stamp clock} {fuel ep t : Nat} {st : EPState}
      (h : queue_run s Q stamp clock) (ht0 : t ≠ 0) (ht : ∀ o, t ∉ Q o)
      (hk : ep_append_at fuel s ep t st = some k) :
      queue_run k (update Q (.ep ep) (place_by_priority k.tcbs t (Q (.ep ep)))) (update stamp t clock)
        (clock + 1)
  | ntfn_append {s k : KernelState} {Q stamp clock} {fuel ntfn t : Nat}
      (h : queue_run s Q stamp clock) (ht0 : t ≠ 0) (ht : ∀ o, t ∉ Q o)
      (hk : ntfn_append_at fuel s ntfn t = some k) :
      queue_run k (update Q (.ntfn ntfn) (place_by_priority k.tcbs t (Q (.ntfn ntfn))))
        (update stamp t clock) (clock + 1)
  | ep_dequeue {s : KernelState} {Q stamp clock} {ep t : Nat} (h : queue_run s Q stamp clock)
      (ht : t ∈ Q (.ep ep)) :
      queue_run (ep_dequeue_at s ep t) (update Q (.ep ep) ((Q (.ep ep)).erase t)) stamp clock
  | ntfn_dequeue {s : KernelState} {Q stamp clock} {ntfn t : Nat} (h : queue_run s Q stamp clock)
      (ht : t ∈ Q (.ntfn ntfn)) :
      queue_run (ntfn_dequeue_at s ntfn t) (update Q (.ntfn ntfn) ((Q (.ntfn ntfn)).erase t)) stamp clock
  | reorder_ep {s k : KernelState} {Q stamp clock} {fuel ep t : Nat} (h : queue_run s Q stamp clock)
      (ht : t ∈ Q (.ep ep)) (hk : endpoint.reorder_ep fuel s ep t = some k) :
      queue_run k (update Q (.ep ep) (place_by_priority k.tcbs t ((Q (.ep ep)).erase t)))
        (update stamp t clock) (clock + 1)
  | reorder_ntfn {s k : KernelState} {Q stamp clock} {fuel ntfn t : Nat} (h : queue_run s Q stamp clock)
      (ht : t ∈ Q (.ntfn ntfn)) (hk : notification.reorder_ntfn fuel s ntfn t = some k) :
      queue_run k (update Q (.ntfn ntfn) (place_by_priority k.tcbs t ((Q (.ntfn ntfn)).erase t)))
        (update stamp t clock) (clock + 1)
  | set_priority_ep {s s' : mcs_state} {Q stamp clock} {fuel t priority : Nat}
      (h : queue_run s.toKernelState Q stamp clock)
      (hst : (s.tcbs t).get_state = ThreadStateBlockedOnSend ∨
        (s.tcbs t).get_state = ThreadStateBlockedOnReceive)
      (ht : t ∈ Q (.ep (s.tcbs t).tcbState.blockingObject))
      (hk : set_priority fuel s t priority = some s') :
      queue_run s'.toKernelState
        (update Q (.ep (s.tcbs t).tcbState.blockingObject)
          (place_by_priority s'.tcbs t ((Q (.ep (s.tcbs t).tcbState.blockingObject)).erase t)))
        (update stamp t clock) (clock + 1)
  | set_priority_ntfn {s s' : mcs_state} {Q stamp clock} {fuel t priority : Nat}
      (h : queue_run s.toKernelState Q stamp clock)
      (hst : (s.tcbs t).get_state = ThreadStateBlockedOnNotification)
      (ht : t ∈ Q (.ntfn (s.tcbs t).tcbState.blockingObject))
      (hk : set_priority fuel s t priority = some s') :
      queue_run s'.toKernelState
        (update Q (.ntfn (s.tcbs t).tcbState.blockingObject)
          (place_by_priority s'.tcbs t ((Q (.ntfn (s.tcbs t).tcbState.blockingObject)).erase t)))
        (update stamp t clock) (clock + 1)
  | frame {s s' : KernelState} {Q stamp clock} (h : queue_run s Q stamp clock)
      (hends : ∀ o, s'.queue_of o = s.queue_of o)
      (hm : ∀ o, ∀ a ∈ Q o, (s'.tcbs a).tcbEPNext = (s.tcbs a).tcbEPNext ∧
        (s'.tcbs a).tcbEPPrev = (s.tcbs a).tcbEPPrev ∧ (s'.tcbs a).tcbPriority = (s.tcbs a).tcbPriority) :
      queue_run s' Q stamp clock

namespace queue_run

variable {s : KernelState} {Q : ipc_obj → List Nat} {stamp : Nat → Nat} {clock : Nat}

/-- **Run lemma**: every state of a run has its queues in order of priority. -/
theorem prio_queues (h : queue_run s Q stamp clock) : prio_queues s Q stamp clock := by
  induction h with
  | empty h => exact .empty h
  | ep_append _ ht0 ht hk ih =>
    obtain ⟨r, hr, hw⟩ := ep_append_at_writes hk
    exact ih.link ht0 ht hr hw
  | ntfn_append _ ht0 ht hk ih =>
    obtain ⟨r, hr, hw⟩ := ntfn_append_at_writes hk
    exact ih.link ht0 ht hr hw
  | ep_dequeue _ ht ih =>
    exact ih.unlink ht (fun _ => ⟨rfl, rfl⟩) (fun _ _ => rfl) (ep_dequeue_at_writes _ _ _)
  | ntfn_dequeue _ ht ih =>
    exact ih.unlink ht (fun _ => ⟨rfl, rfl⟩) (fun _ _ => rfl) (ntfn_dequeue_at_writes _ _ _)
  | reorder_ep _ ht hk ih =>
    obtain ⟨s₂, r, hw, hr, hw'⟩ := reorder_ep_writes hk
    exact ih.relink ht (fun _ => ⟨rfl, rfl⟩) (fun _ _ => rfl) (fun _ => rfl) hw hr hw'
  | reorder_ntfn _ ht hk ih =>
    obtain ⟨s₂, r, hw, hr, hw'⟩ := reorder_ntfn_writes hk
    exact ih.relink ht (fun _ => ⟨rfl, rfl⟩) (fun _ _ => rfl) (fun _ => rfl) hw hr hw'
  | set_priority_ep _ hst ht hk ih =>
    -- the priority is written first, then the queue is reordered
    obtain ⟨s₂, r, hw, hr, hw'⟩ := reorder_ep_writes (set_priority_of_blocked_on_ep hst hk)
    exact ih.relink ht (modifyTcb_priority_links _ _ _) (fun _ ha => modifyTcb_priority_of_ne _ _ _ ha)
      (modifyTcb_queue_of _ _ _) hw hr hw'
  | set_priority_ntfn _ hst ht hk ih =>
    obtain ⟨s₂, r, hw, hr, hw'⟩ := reorder_ntfn_writes (set_priority_of_blocked_on_ntfn hst hk)
    exact ih.relink ht (modifyTcb_priority_links _ _ _) (fun _ ha => modifyTcb_priority_of_ne _ _ _ ha)
      (modifyTcb_queue_of _ _ _) hw hr hw'
  | frame _ hends hm ih => exact ih.frame hends hm

end queue_run

/-- In every state of a run, the queue of every endpoint and notification,
read from its head along `tcbEPNext`, is `Q o`, in which a thread comes before
every thread of lower priority and, within one priority, before those linked
in after it; its head has the highest priority on it. -/
theorem mcs_queues_in_priority_order {s : KernelState} {Q : ipc_obj → List Nat} {stamp : Nat → Nat}
    {clock : Nat} (h : queue_run s Q stamp clock) (o : ipc_obj) :
    EpQueue s.tcbs (s.queue_of o) (Q o) ∧ (Q o).Pairwise (Ahead (priorities s.tcbs) stamp) ∧
      ∀ a ∈ Q o, (s.tcbs a).tcbPriority ≤ (s.tcbs (s.queue_of o).head).tcbPriority := by
  have hp := h.prio_queues
  exact ⟨hp.queue o, hp.ordered o, fun a ha => hp.le_head o ha⟩

/-- Threads 7 and 9, of priorities 10 and 20, and no queue yet. -/
def two_priorities : KernelState where
  tcbs p := if p = 9 then { tcbPriority := 20 } else { tcbPriority := 10 }

/-- Thread 7 blocks to send on endpoint `0x100`. -/
def one_sender : KernelState := (ep_append_at 1 two_priorities 0x100 7 .Send).getD {}

/-- Then thread 9 does. -/
def two_senders : KernelState := (ep_append_at 1 one_sender 0x100 9 .Send).getD {}

/-- The later sender, of the higher priority, is served first. -/
theorem two_senders_by_priority :
    EpQueue two_senders.tcbs (two_senders.queue_of (.ep 0x100)) [9, 7] ∧
      ∀ a ∈ [9, 7], (two_senders.tcbs a).tcbPriority ≤
        (two_senders.tcbs (two_senders.queue_of (.ep 0x100)).head).tcbPriority := by
  have h₀ : queue_run two_priorities (fun _ => []) (fun _ => 0) 0 := .empty fun o => by cases o <;> rfl
  have h₁ := queue_run.ep_append h₀ (by decide) (fun _ => List.not_mem_nil)
    (show ep_append_at 1 two_priorities 0x100 7 .Send = some one_sender from rfl)
  have h9 : ∀ o, 9 ∉ update (fun _ => []) (ipc_obj.ep 0x100) (place_by_priority one_sender.tcbs 7 []) o := by
    intro o
    by_cases ho : o = .ep 0x100
    · rw [ho, update_self]
      decide
    · rw [update_of_ne ho]
      exact List.not_mem_nil
  obtain ⟨hq, -, hhead⟩ := mcs_queues_in_priority_order (queue_run.ep_append h₁ (by decide) h9
    (show ep_append_at 1 one_sender 0x100 9 .Send = some two_senders from rfl)) (.ep 0x100)
  have hQ : place_by_priority two_senders.tcbs 9 (place_by_priority one_sender.tcbs 7 []) = [9, 7] := by
    decide
  simp only [update_self, hQ] at hq hhead
  exact ⟨hq, hhead⟩

end mcs_state

end Rel4Kernel
