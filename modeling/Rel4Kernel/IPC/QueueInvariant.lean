/-
The endpoint and notification queues as lists.

`ipc_obj` names an object with a queue of threads, an endpoint or a
notification, and `waits_on s o t` says that the state of thread `t` puts it
in the queue of `o`. The invariant has two halves. `ipc_links D s Q` is about
the queues as lists, the same for both kinds of object: the queue of `o`
threads the list `Q o` through the EP links, and its members are exactly the
threads that wait on `o`, but for the threads of `D`, which are on no queue
and may wait all the same (a loop has taken them off, or a thread is about
to be linked in). `ipc_states s Q` ties each object's state to its list.

Every queue operation is a sequence of five moves, each with one lemma on
`ipc_links`: unlinking a member (`unlink`), linking a held thread at the back
(`link`), detaching a whole queue (`detach`), holding or releasing a thread
that is on no queue (`hold`, `release`), and everything else, which writes no
link of a queue member and no state of a thread outside `D` (`frame`).
-/
import Rel4Kernel.IPC.Operations

set_option autoImplicit false

namespace Rel4Kernel

open HeapList Function ThreadState

/-! ## Objects with a queue -/

/-- An object with a queue of threads. -/
inductive ipc_obj where
  | ep (p : Nat)
  | ntfn (p : Nat)
  deriving DecidableEq, Repr

/-- The two ends of the queue of `o`. -/
def KernelState.queue_of (s : KernelState) : ipc_obj → tcb_queue_t
  | .ep p => (s.eps p).get_queue
  | .ntfn p => (s.ntfns p).get_queue

/-- The states in which a thread is on an endpoint or notification queue. -/
def ThreadState.is_ipc_queued : ThreadState → Bool
  | ThreadStateBlockedOnSend | ThreadStateBlockedOnReceive | ThreadStateBlockedOnNotification => true
  | _ => false

/-- A thread in state `st` with blocking object `b` belongs in the queue of `o`. -/
def ipc_obj.holds : ipc_obj → ThreadState → Nat → Prop
  | .ep p, st, b => (st = ThreadStateBlockedOnSend ∨ st = ThreadStateBlockedOnReceive) ∧ b = p
  | .ntfn p, st, b => st = ThreadStateBlockedOnNotification ∧ b = p

/-- What the queues read of a thread besides its links. -/
def tcb_t.ipc_view (tcb : tcb_t) : ThreadState × Nat :=
  (tcb.tcbState.tsType, tcb.tcbState.blockingObject)

/-- Thread `t` belongs in the queue of `o`. -/
def waits_on (s : KernelState) (o : ipc_obj) (t : Nat) : Prop :=
  o.holds (s.tcbs t).ipc_view.1 (s.tcbs t).ipc_view.2

instance ipc_obj.decidable_holds : (o : ipc_obj) → (st : ThreadState) → (b : Nat) →
    Decidable (o.holds st b)
  | .ep _, _, _ => inferInstanceAs (Decidable (_ ∧ _))
  | .ntfn _, _, _ => inferInstanceAs (Decidable (_ ∧ _))

instance (s : KernelState) (o : ipc_obj) (t : Nat) : Decidable (waits_on s o t) :=
  ipc_obj.decidable_holds _ _ _

namespace ipc_obj

/-- A thread belongs in one queue at most. -/
theorem holds_unique {o o' : ipc_obj} {st : ThreadState} {b : Nat} (h : o.holds st b)
    (h' : o'.holds st b) : o = o' := by
  cases o <;> cases o' <;> simp only [holds] at h h'
  · rw [← h.2, h'.2]
  · rcases h.1 with e | e <;> rw [e] at h' <;> cases h'.1
  · rcases h'.1 with e | e <;> rw [e] at h <;> cases h.1
  · rw [← h.2, h'.2]

theorem is_ipc_queued_of_holds {o : ipc_obj} {st : ThreadState} {b : Nat} (h : o.holds st b) :
    st.is_ipc_queued = true := by
  cases o <;> simp only [holds] at h
  · rcases h.1 with e | e <;> rw [e] <;> rfl
  · rw [h.1]; rfl

end ipc_obj

theorem waits_on_congr {s s' : KernelState} {t : Nat} (h : (s'.tcbs t).ipc_view = (s.tcbs t).ipc_view)
    (o : ipc_obj) : waits_on s' o t ↔ waits_on s o t := by
  simp only [waits_on, h]

theorem not_waits_on {s : KernelState} {t : Nat}
    (h : (s.tcbs t).tcbState.tsType.is_ipc_queued = false) (o : ipc_obj) : ¬ waits_on s o t :=
  fun hw => Bool.false_ne_true (h.symm.trans (ipc_obj.is_ipc_queued_of_holds hw))

/-! ## The queues as lists -/

/-- The queue of each object `o` holds the list `Q o`, whose members are
exactly the threads that wait on `o`, but for those of `D`, which are on no
queue. -/
structure ipc_links (D : List Nat) (s : KernelState) (Q : ipc_obj → List Nat) : Prop where
  queue : ∀ o, EpQueue s.tcbs (s.queue_of o) (Q o)
  mem : ∀ o t, t ∉ D → (t ∈ Q o ↔ waits_on s o t)
  detached : ∀ t ∈ D, ∀ o, t ∉ Q o

namespace ipc_links

variable {D : List Nat} {s s' : KernelState} {Q : ipc_obj → List Nat}

theorem not_mem_D (h : ipc_links D s Q) {o : ipc_obj} {t : Nat} (ht : t ∈ Q o) : t ∉ D :=
  fun hD => h.detached t hD o ht

theorem waits_of_mem (h : ipc_links D s Q) {o : ipc_obj} {t : Nat} (ht : t ∈ Q o) :
    waits_on s o t :=
  (h.mem o t (h.not_mem_D ht)).mp ht

/-- **No thread is on two queues.** -/
theorem eq_of_mem (h : ipc_links D s Q) {o o' : ipc_obj} {t : Nat} (ht : t ∈ Q o) (ht' : t ∈ Q o') :
    o = o' :=
  ipc_obj.holds_unique (h.waits_of_mem ht) (h.waits_of_mem ht')

theorem not_mem_of_not_queued (h : ipc_links D s Q) {t : Nat}
    (ht : (s.tcbs t).tcbState.tsType.is_ipc_queued = false) (o : ipc_obj) : t ∉ Q o :=
  fun hm => not_waits_on ht o (h.waits_of_mem hm)

/-- A queue whose head is not null starts with its head. -/
theorem eq_head_cons (h : ipc_links D s Q) {o : ipc_obj} (hne : (s.queue_of o).head ≠ 0) :
    ∃ r, Q o = (s.queue_of o).head :: r := by
  have hq := h.queue o
  cases hQ : Q o with
  | nil => rw [hQ] at hq; exact absurd (hq.eq_nil_iff.mpr rfl) hne
  | cons a r => rw [hQ] at hq; exact ⟨r, by rw [hq.head_eq]; rfl⟩

/-- **Frame.** What writes no link of a queue member, no queue end and no
state of a thread outside `D` keeps the queues. -/
theorem frame (h : ipc_links D s Q) (hv : ∀ a, a ∉ D → (s'.tcbs a).ipc_view = (s.tcbs a).ipc_view)
    (hn : ∀ o, ∀ a ∈ Q o, (s'.tcbs a).tcbEPNext = (s.tcbs a).tcbEPNext)
    (hp : ∀ o, ∀ a ∈ Q o, (s'.tcbs a).tcbEPPrev = (s.tcbs a).tcbEPPrev)
    (hq : ∀ o, s'.queue_of o = s.queue_of o) : ipc_links D s' Q := by
  refine ⟨fun o => ?_, fun o t ht => ?_, h.detached⟩
  · unfold EpQueue
    rw [hq o]
    exact Queue.congr (h.queue o) (fun a ha => hn o a ha) (fun a ha => hp o a ha)
  · rw [waits_on_congr (hv t ht)]
    exact h.mem o t ht

/-- A thread on no queue may be held in `D`. -/
theorem hold (h : ipc_links D s Q) {t : Nat} (ht : ∀ o, t ∉ Q o) : ipc_links (t :: D) s Q := by
  refine ⟨h.queue, fun o a ha => h.mem o a (fun hD => ha (List.mem_cons_of_mem t hD)), ?_⟩
  intro a ha
  rcases List.mem_cons.mp ha with rfl | hD
  · exact ht
  · exact h.detached a hD

/-- A held thread that no longer waits leaves `D`. -/
theorem release {t : Nat} (h : ipc_links (t :: D) s Q)
    (ht : (s.tcbs t).tcbState.tsType.is_ipc_queued = false) : ipc_links D s Q := by
  refine ⟨h.queue, fun o a ha => ?_, fun a ha => h.detached a (List.mem_cons_of_mem t ha)⟩
  by_cases hat : a = t
  · subst hat
    exact iff_of_false (h.detached a List.mem_cons_self o) (not_waits_on ht o)
  · exact h.mem o a (by simp [hat, ha])

/-- **Unlinking** the member `t` of the queue of `o`: `t` is held, and the
queue holds the rest. -/
theorem unlink (h : ipc_links D s Q) {o : ipc_obj} {l r : List Nat} {t : Nat}
    (hQ : Q o = l ++ t :: r) (htcbs : s'.tcbs = ((s.queue_of o).ep_dequeue s.tcbs t).2)
    (hqo : s'.queue_of o = ((s.queue_of o).ep_dequeue s.tcbs t).1)
    (hq : ∀ o', o' ≠ o → s'.queue_of o' = s.queue_of o') :
    ipc_links (t :: D) s' (update Q o (l ++ r)) := by
  have hqt : EpQueue s.tcbs (s.queue_of o) (l ++ t :: r) := hQ ▸ h.queue o
  have htQ : t ∈ Q o := by rw [hQ]; simp
  have hview : ∀ a, (s'.tcbs a).ipc_view = (s.tcbs a).ipc_view := fun a => by
    simp only [tcb_t.ipc_view, htcbs, tcb_queue_t.ep_dequeue_tcbState]
  -- the surgery writes the links of `t`'s two neighbours, both members of `o`'s queue
  have hlinks : ∀ a, a ∉ Q o → (s'.tcbs a).tcbEPNext = (s.tcbs a).tcbEPNext ∧
      (s'.tcbs a).tcbEPPrev = (s.tcbs a).tcbEPPrev := fun a ha => by
    rw [htcbs]
    exact tcb_queue_t.ep_dequeue_links_of_not_mem hqt fun ha' =>
      ha (hQ ▸ ((List.sublist_cons_self t r).append_left l).subset ha')
  -- a member of another queue is not a member of `o`'s
  have hother : ∀ o', o' ≠ o → ∀ a ∈ Q o', a ∉ Q o := fun o' hne a ha ha' =>
    hne (h.eq_of_mem ha ha')
  have hnd : t ∉ l ++ r := (List.nodup_middle.mp (hQ ▸ (h.queue o).nodup)).notMem
  refine ⟨fun o' => ?_, fun o' a ha => ?_, fun a ha o' => ?_⟩
  · by_cases ho : o' = o
    · subst ho
      rw [update_self, htcbs, hqo]
      exact tcb_queue_t.ep_dequeue_queue hqt
    · rw [update_of_ne ho]
      unfold EpQueue
      rw [hq o' ho]
      exact Queue.congr (h.queue o') (fun a ha => (hlinks a (hother o' ho a ha)).1)
        (fun a ha => (hlinks a (hother o' ho a ha)).2)
  · have hat : a ≠ t := fun e => ha (e ▸ List.mem_cons_self)
    have haD : a ∉ D := fun hD => ha (List.mem_cons_of_mem t hD)
    rw [waits_on_congr (hview a), ← h.mem o' a haD]
    by_cases ho : o' = o
    · subst ho
      rw [update_self, hQ]
      simp [hat]
    · rw [update_of_ne ho]
  · rcases List.mem_cons.mp ha with rfl | hD
    · by_cases ho : o' = o
      · subst ho; rw [update_self]; exact hnd
      · rw [update_of_ne ho]; exact fun ha' => ho (h.eq_of_mem ha' htQ)
    · by_cases ho : o' = o
      · subst ho
        rw [update_self]
        intro ha'
        exact h.detached a hD o' (hQ ▸ ((List.sublist_cons_self t r).append_left l).subset ha')
      · rw [update_of_ne ho]; exact h.detached a hD o'

/-- **Linking** the held thread `t`, which waits on `o`, at the back of the
queue of `o`. -/
theorem link {t : Nat} (h : ipc_links (t :: D) s Q) {o : ipc_obj} (ht0 : t ≠ 0) (htD : t ∉ D)
    (hw : waits_on s o t) (htcbs : s'.tcbs = ((s.queue_of o).ep_append s.tcbs t).2)
    (hqo : s'.queue_of o = ((s.queue_of o).ep_append s.tcbs t).1)
    (hq : ∀ o', o' ≠ o → s'.queue_of o' = s.queue_of o') :
    ipc_links D s' (update Q o (Q o ++ [t])) := by
  have htQ : ∀ o', t ∉ Q o' := h.detached t List.mem_cons_self
  have hview : ∀ a, (s'.tcbs a).ipc_view = (s.tcbs a).ipc_view := fun a => by
    simp only [tcb_t.ipc_view, htcbs, tcb_queue_t.ep_append_tcbState]
  -- the surgery writes the links of `t` and the forward link of the old tail
  have hlinks : ∀ o', o' ≠ o → ∀ a ∈ Q o', (s'.tcbs a).tcbEPNext = (s.tcbs a).tcbEPNext ∧
      (s'.tcbs a).tcbEPPrev = (s.tcbs a).tcbEPPrev := by
    intro o' ho a ha
    have hat : a ≠ t := fun e => htQ o' (e ▸ ha)
    have hatl : (s.queue_of o).head ≠ 0 → a ≠ (s.queue_of o).tail := fun hh e => by
      have hne : Q o ≠ [] := fun e' => hh ((h.queue o).eq_nil_iff.mpr e')
      exact ho (h.eq_of_mem ha (e ▸ (h.queue o).tail_mem hne))
    have en := congrFun (@tcb_queue_t.ep_append_epNext s.tcbs (s.queue_of o) t) a
    have ep := congrFun (@tcb_queue_t.ep_append_epPrev s.tcbs (s.queue_of o) t) a
    simp only [epNext_apply, epPrev_apply] at en ep
    rw [htcbs, en, ep]
    by_cases hh : (s.queue_of o).head = 0 <;> simp [hh, hat, hatl]
  refine ⟨fun o' => ?_, fun o' a ha => ?_, fun a ha o' => ?_⟩
  · by_cases ho : o' = o
    · subst ho
      rw [update_self, htcbs, hqo]
      exact tcb_queue_t.ep_append_queue (h.queue o') (htQ o') ht0
    · rw [update_of_ne ho]
      unfold EpQueue
      rw [hq o' ho]
      exact Queue.congr (h.queue o') (fun a ha => (hlinks o' ho a ha).1)
        (fun a ha => (hlinks o' ho a ha).2)
  · rw [waits_on_congr (hview a)]
    by_cases hat : a = t
    · subst hat
      by_cases ho : o' = o
      · subst ho; simp [hw]
      · rw [update_of_ne ho]
        exact iff_of_false (htQ o') (fun hw' => ho (ipc_obj.holds_unique hw' hw))
    · rw [← h.mem o' a (by simp [hat, ha])]
      by_cases ho : o' = o
      · subst ho; simp [hat]
      · rw [update_of_ne ho]
  · have hat : a ≠ t := fun e => htD (e ▸ ha)
    have := h.detached a (List.mem_cons_of_mem t ha) o'
    by_cases ho : o' = o
    · subst ho; simp [this, hat]
    · rw [update_of_ne ho]; exact this

/-- **Detaching** the whole queue of `o`: its members are held. -/
theorem detach (h : ipc_links D s Q) {o : ipc_obj} (htcbs : s'.tcbs = s.tcbs)
    (hqo : s'.queue_of o = ⟨0, 0⟩) (hq : ∀ o', o' ≠ o → s'.queue_of o' = s.queue_of o') :
    ipc_links (Q o ++ D) s' (update Q o []) := by
  have hw : ∀ o' a, waits_on s' o' a ↔ waits_on s o' a := fun o' a => by
    simp only [waits_on, htcbs]
  refine ⟨fun o' => ?_, fun o' a ha => ?_, fun a ha o' => ?_⟩
  · by_cases ho : o' = o
    · subst ho
      rw [update_self, hqo]
      exact Queue.empty
    · rw [update_of_ne ho]
      unfold EpQueue
      rw [hq o' ho, htcbs]
      exact h.queue o'
  · have haQ : a ∉ Q o := fun e => ha (List.mem_append_left _ e)
    have haD : a ∉ D := fun e => ha (List.mem_append_right _ e)
    rw [hw, ← h.mem o' a haD]
    by_cases ho : o' = o
    · subst ho; simp [haQ]
    · rw [update_of_ne ho]
  · rcases List.mem_append.mp ha with haQ | haD
    · by_cases ho : o' = o
      · subst ho; simp
      · rw [update_of_ne ho]; exact fun ha' => ho (h.eq_of_mem ha' haQ)
    · by_cases ho : o' = o
      · subst ho; simp
      · rw [update_of_ne ho]; exact h.detached a haD o'

/-- **Attaching** the held list `xs`, whose threads wait on `o`, as the queue
of `o`, which was empty. -/
theorem attach {xs : List Nat} (h : ipc_links xs s Q) {o : ipc_obj} (hQ : Q o = [])
    (hw : ∀ t ∈ xs, waits_on s o t) (htcbs : s'.tcbs = s.tcbs)
    (hx : EpQueue s'.tcbs (s'.queue_of o) xs) (hq : ∀ o', o' ≠ o → s'.queue_of o' = s.queue_of o') :
    ipc_links [] s' (update Q o xs) := by
  have hw' : ∀ o' a, waits_on s' o' a ↔ waits_on s o' a := fun o' a => by
    simp only [waits_on, htcbs]
  refine ⟨fun o' => ?_, fun o' a _ => ?_, fun a ha => absurd ha List.not_mem_nil⟩
  · by_cases ho : o' = o
    · subst ho; rw [update_self]; exact hx
    · rw [update_of_ne ho]
      unfold EpQueue
      rw [hq o' ho, htcbs]
      exact h.queue o'
  · rw [hw']
    by_cases hax : a ∈ xs
    · by_cases ho : o' = o
      · subst ho; simp [hax, hw a hax]
      · rw [update_of_ne ho]
        exact iff_of_false (h.detached a hax o') (fun hw'' => ho (ipc_obj.holds_unique hw'' (hw a hax)))
    · rw [← h.mem o' a hax]
      by_cases ho : o' = o
      · subst ho; simp [hax, hQ]
      · rw [update_of_ne ho]

end ipc_links

/-! ## What the scheduler writes -/

namespace tcb_t

variable {a b : tcb_t} (h : a.dequeued = b.dequeued)
include h

theorem blockingObject_eq_of_dequeued : a.tcbState.blockingObject = b.tcbState.blockingObject :=
  (congrArg (·.tcbState.blockingObject) h :)

theorem tcbEPNext_eq_of_dequeued : a.tcbEPNext = b.tcbEPNext := (congrArg tcb_t.tcbEPNext h :)

theorem tcbEPPrev_eq_of_dequeued : a.tcbEPPrev = b.tcbEPPrev := (congrArg tcb_t.tcbEPPrev h :)

theorem ipc_view_eq_of_dequeued : a.ipc_view = b.ipc_view := by
  simp only [ipc_view, tsType_eq_of_dequeued h, blockingObject_eq_of_dequeued h]

end tcb_t

/-- `s'` differs from `s` only in what the scheduler writes: the ready-queue
links and bits of the threads, the ready queues, the bitmaps and the
scheduler's globals. -/
structure sched_only (s s' : KernelState) : Prop where
  tcbs : ∀ a, (s'.tcbs a).dequeued = (s.tcbs a).dequeued
  eps : s'.eps = s.eps
  ntfns : s'.ntfns = s.ntfns

namespace sched_only

variable {s s₁ s₂ : KernelState}

theorem refl (s : KernelState) : sched_only s s := ⟨fun _ => rfl, rfl, rfl⟩

theorem trans (h₁ : sched_only s s₁) (h₂ : sched_only s₁ s₂) : sched_only s s₂ :=
  ⟨fun a => (h₂.tcbs a).trans (h₁.tcbs a), h₂.eps.trans h₁.eps, h₂.ntfns.trans h₁.ntfns⟩

/-- A change of the scheduler's globals on top. -/
theorem with_action (h : sched_only s s₁) (a : Nat) :
    sched_only s { s₁ with ksSchedulerAction := a } :=
  ⟨h.tcbs, h.eps, h.ntfns⟩

theorem epNext_eq (h : sched_only s s₁) : epNext s₁.tcbs = epNext s.tcbs :=
  funext fun a => tcb_t.tcbEPNext_eq_of_dequeued (h.tcbs a)

theorem epPrev_eq (h : sched_only s s₁) : epPrev s₁.tcbs = epPrev s.tcbs :=
  funext fun a => tcb_t.tcbEPPrev_eq_of_dequeued (h.tcbs a)

end sched_only

section Scheduler

variable (s : KernelState) (t : Nat)

theorem sched_only_sched_enqueue : sched_only s (sched_enqueue s t) :=
  ⟨sched_insert_dequeued prepend_insertion, sched_insert_eps, sched_insert_ntfns⟩

theorem sched_only_sched_dequeue : sched_only s (sched_dequeue s t) :=
  ⟨sched_dequeue_dequeued, sched_dequeue_eps, sched_dequeue_ntfns⟩

theorem sched_only_reschedule_required : sched_only s (reschedule_required s) := by
  unfold reschedule_required
  dsimp only
  split
  · exact (sched_only_sched_enqueue s _).with_action _
  · exact (sched_only.refl s).with_action _

theorem sched_only_possible_switch_to : sched_only s (possible_switch_to s t) := by
  unfold possible_switch_to
  split
  · exact sched_only_sched_enqueue s t
  split
  · exact (sched_only_reschedule_required s).trans (sched_only_sched_enqueue _ t)
  · exact (sched_only.refl s).with_action t

theorem sched_only_schedule_tcb : sched_only s (schedule_tcb s t) := by
  unfold schedule_tcb
  split
  · exact sched_only_reschedule_required s
  · exact sched_only.refl s

@[simp] theorem set_thread_state_eps (st : ThreadState) : (set_thread_state s t st).eps = s.eps :=
  (sched_only_schedule_tcb _ t).eps

@[simp] theorem set_thread_state_ntfns (st : ThreadState) : (set_thread_state s t st).ntfns = s.ntfns :=
  (sched_only_schedule_tcb _ t).ntfns

theorem set_thread_state_epNext (st : ThreadState) :
    epNext (set_thread_state s t st).tcbs = epNext s.tcbs :=
  ((sched_only_schedule_tcb _ t).epNext_eq).trans (epNext_modifyTcb_of t s fun _ => rfl)

theorem set_thread_state_epPrev (st : ThreadState) :
    epPrev (set_thread_state s t st).tcbs = epPrev s.tcbs :=
  ((sched_only_schedule_tcb _ t).epPrev_eq).trans (epPrev_modifyTcb_of t s fun _ => rfl)

/-- The run state that `set_thread_state` writes, which the rescheduling after
it keeps. -/
theorem set_thread_state_tsType (st : ThreadState) :
    ((set_thread_state s t st).tcbs t).tcbState.tsType = st := by
  rw [set_thread_state, tcb_t.tsType_eq_of_dequeued ((sched_only_schedule_tcb _ t).tcbs t)]
  simp [set_tsType]

end Scheduler

/-! ## The objects' states -/

/-- Each object's state agrees with its list: an endpoint is idle exactly when
its queue is empty, and otherwise all its members send or all receive, as its
state says; a notification waits exactly when its queue is not empty. -/
structure ipc_states (s : KernelState) (Q : ipc_obj → List Nat) : Prop where
  ep_idle : ∀ e, (s.eps e).state = .Idle ↔ Q (.ep e) = []
  ep_members : ∀ e t, t ∈ Q (.ep e) →
    ((s.eps e).state = .Send ∧ (s.tcbs t).tcbState.tsType = ThreadStateBlockedOnSend) ∨
    ((s.eps e).state = .Recv ∧ (s.tcbs t).tcbState.tsType = ThreadStateBlockedOnReceive)
  ntfn_waiting : ∀ n, (s.ntfns n).state = .Waiting ↔ Q (.ntfn n) ≠ []

/-- **Frame.** The states read the objects' states and the run states of the
queues' members. -/
theorem ipc_states.frame {s s' : KernelState} {Q : ipc_obj → List Nat} (h : ipc_states s Q)
    (hts : ∀ e, ∀ a ∈ Q (.ep e), (s'.tcbs a).tcbState.tsType = (s.tcbs a).tcbState.tsType)
    (heps : ∀ e, (s'.eps e).state = (s.eps e).state)
    (hntfns : ∀ n, (s'.ntfns n).state = (s.ntfns n).state) : ipc_states s' Q := by
  refine ⟨fun e => ?_, fun e a ha => ?_, fun n => ?_⟩
  · rw [heps]; exact h.ep_idle e
  · rw [heps, hts e a ha]; exact h.ep_members e a ha
  · rw [hntfns]; exact h.ntfn_waiting n

/-- Changing the list and the state of one endpoint. -/
theorem ipc_states.set_ep {s s' : KernelState} {Q : ipc_obj → List Nat} (h : ipc_states s Q)
    {e : Nat} {xs : List Nat}
    (hts : ∀ a, (s'.tcbs a).tcbState.tsType = (s.tcbs a).tcbState.tsType)
    (heps : ∀ p, p ≠ e → (s'.eps p).state = (s.eps p).state)
    (hntfns : ∀ n, (s'.ntfns n).state = (s.ntfns n).state)
    (hidle : (s'.eps e).state = .Idle ↔ xs = [])
    (hmem : ∀ a ∈ xs,
      ((s'.eps e).state = .Send ∧ (s.tcbs a).tcbState.tsType = ThreadStateBlockedOnSend) ∨
      ((s'.eps e).state = .Recv ∧ (s.tcbs a).tcbState.tsType = ThreadStateBlockedOnReceive)) :
    ipc_states s' (update Q (.ep e) xs) := by
  refine ⟨fun p => ?_, fun p a ha => ?_, fun n => ?_⟩
  · by_cases hp : p = e
    · subst hp; rw [update_self]; exact hidle
    · rw [update_of_ne (mt ipc_obj.ep.inj hp), heps p hp]; exact h.ep_idle p
  · rw [hts]
    by_cases hp : p = e
    · subst hp; rw [update_self] at ha; exact hmem a ha
    · rw [update_of_ne (mt ipc_obj.ep.inj hp)] at ha
      rw [heps p hp]
      exact h.ep_members p a ha
  · rw [update_of_ne (by simp), hntfns]; exact h.ntfn_waiting n

/-- Changing the list and the state of one notification. -/
theorem ipc_states.set_ntfn {s s' : KernelState} {Q : ipc_obj → List Nat} (h : ipc_states s Q)
    {n : Nat} {xs : List Nat}
    (hts : ∀ a, (s'.tcbs a).tcbState.tsType = (s.tcbs a).tcbState.tsType)
    (heps : ∀ p, (s'.eps p).state = (s.eps p).state)
    (hntfns : ∀ m, m ≠ n → (s'.ntfns m).state = (s.ntfns m).state)
    (hwaiting : (s'.ntfns n).state = .Waiting ↔ xs ≠ []) :
    ipc_states s' (update Q (.ntfn n) xs) := by
  refine ⟨fun p => ?_, fun p a ha => ?_, fun m => ?_⟩
  · rw [update_of_ne (by simp), heps]; exact h.ep_idle p
  · rw [update_of_ne (by simp)] at ha
    rw [hts, heps]
    exact h.ep_members p a ha
  · by_cases hm : m = n
    · subst hm; rw [update_self]; exact hwaiting
    · rw [update_of_ne (mt ipc_obj.ntfn.inj hm), hntfns m hm]; exact h.ntfn_waiting m

/-- The queue invariant, with the threads of `D` held off the queues. -/
structure ipc_queues (D : List Nat) (s : KernelState) (Q : ipc_obj → List Nat) : Prop
    extends ipc_links D s Q, ipc_states s Q

/-- A notification waits exactly when its queue has a head. -/
theorem ipc_queues.ntfn_waiting_iff_head {D : List Nat} {s : KernelState} {Q : ipc_obj → List Nat}
    (h : ipc_queues D s Q) (n : Nat) :
    (s.ntfns n).state = .Waiting ↔ (s.ntfns n).ntfnQueue_head ≠ 0 :=
  (h.ntfn_waiting n).trans (not_congr (h.queue (.ntfn n)).eq_nil_iff).symm

/-- **The IPC queue invariant**: every endpoint and notification queue is a
well-formed list of exactly the threads that wait on it, and every object's
state agrees with its queue. -/
def ipc_inv (s : KernelState) : Prop := ∃ Q, ipc_queues [] s Q

theorem ipc_links.congr_D {D D' : List Nat} {s : KernelState} {Q : ipc_obj → List Nat}
    (h : ipc_links D s Q) (hD : ∀ t, t ∈ D' ↔ t ∈ D) : ipc_links D' s Q :=
  ⟨h.queue, fun o t ht => h.mem o t (fun e => ht ((hD t).mpr e)),
    fun t ht => h.detached t ((hD t).mp ht)⟩

theorem queue_of_ne_ep {s s' : KernelState} {e : Nat} (heps : ∀ p, p ≠ e → s'.eps p = s.eps p)
    (hntfns : s'.ntfns = s.ntfns) : ∀ o, o ≠ .ep e → s'.queue_of o = s.queue_of o
  | .ep p, ho => by simp only [KernelState.queue_of, heps p (fun hp => ho (hp ▸ rfl))]
  | .ntfn _, _ => by simp only [KernelState.queue_of, hntfns]

theorem queue_of_ne_ntfn {s s' : KernelState} {n : Nat} (heps : s'.eps = s.eps)
    (hntfns : ∀ p, p ≠ n → s'.ntfns p = s.ntfns p) : ∀ o, o ≠ .ntfn n → s'.queue_of o = s.queue_of o
  | .ep _, _ => by simp only [KernelState.queue_of, heps]
  | .ntfn p, ho => by simp only [KernelState.queue_of, hntfns p (fun hp => ho (hp ▸ rfl))]

/-- A thread on no queue is on none after a queue loses members. -/
theorem not_mem_update_of_subset {Q : ipc_obj → List Nat} {t : Nat} (ht : ∀ o, t ∉ Q o)
    {o : ipc_obj} {xs : List Nat} (hxs : xs ⊆ Q o) (o' : ipc_obj) : t ∉ update Q o xs o' := by
  by_cases ho : o' = o
  · subst ho; rw [update_self]; exact fun h => ht o' (hxs h)
  · rw [update_of_ne ho]; exact ht o'

/-! ## The moves on the whole invariant -/

namespace ipc_queues

variable {D : List Nat} {s s' : KernelState} {Q : ipc_obj → List Nat}

/-- **Frame.** What writes no object, no link of a queue member and no view
of a thread outside `D` keeps the invariant. -/
theorem frame (h : ipc_queues D s Q) (hv : ∀ a, a ∉ D → (s'.tcbs a).ipc_view = (s.tcbs a).ipc_view)
    (hn : ∀ o, ∀ a ∈ Q o, (s'.tcbs a).tcbEPNext = (s.tcbs a).tcbEPNext)
    (hp : ∀ o, ∀ a ∈ Q o, (s'.tcbs a).tcbEPPrev = (s.tcbs a).tcbEPPrev)
    (heps : s'.eps = s.eps) (hntfns : s'.ntfns = s.ntfns) : ipc_queues D s' Q := by
  have hq : ∀ o, s'.queue_of o = s.queue_of o := fun o => by
    cases o <;> simp only [KernelState.queue_of, heps, hntfns]
  exact ⟨h.toipc_links.frame hv hn hp hq,
    h.toipc_states.frame (fun _ a ha => congrArg Prod.fst (hv a (h.not_mem_D ha)))
      (fun _ => by rw [heps]) (fun _ => by rw [hntfns])⟩

theorem of_sched_only (h : ipc_queues D s Q) (hs : sched_only s s') : ipc_queues D s' Q :=
  h.frame (fun a _ => tcb_t.ipc_view_eq_of_dequeued (hs.tcbs a))
    (fun _ a _ => tcb_t.tcbEPNext_eq_of_dequeued (hs.tcbs a))
    (fun _ a _ => tcb_t.tcbEPPrev_eq_of_dequeued (hs.tcbs a)) hs.eps hs.ntfns

/-- A write to one thread that keeps its links, and its view unless it is held. -/
theorem modify_tcb (h : ipc_queues D s Q) {t : Nat} {f : tcb_t → tcb_t}
    (hv : t ∉ D → (f (s.tcbs t)).ipc_view = (s.tcbs t).ipc_view)
    (hn : (f (s.tcbs t)).tcbEPNext = (s.tcbs t).tcbEPNext)
    (hp : (f (s.tcbs t)).tcbEPPrev = (s.tcbs t).tcbEPPrev) : ipc_queues D (s.modifyTcb t f) Q := by
  refine h.frame (fun a ha => ?_) (fun _ a _ => ?_) (fun _ a _ => ?_) rfl rfl <;>
    rw [KernelState.modifyTcb_tcbs] <;> split
  case isTrue hat => subst hat; exact hv ha
  case isTrue hat => subst hat; exact hn
  case isTrue hat => subst hat; exact hp
  all_goals rfl

theorem with_ctes (h : ipc_queues D s Q) (c : Nat → cte_t) : ipc_queues D { s with ctes := c } Q :=
  h.frame (fun _ _ => rfl) (fun _ _ _ => rfl) (fun _ _ _ => rfl) rfl rfl

/-- The run state of a held thread is free. -/
theorem set_tsType_of_held (h : ipc_queues D s Q) {t : Nat} (ht : t ∈ D) (st : ThreadState) :
    ipc_queues D (set_tsType s t st) Q :=
  h.modify_tcb (fun htD => absurd ht htD) rfl rfl

theorem set_thread_state_of_held (h : ipc_queues D s Q) {t : Nat} (ht : t ∈ D) (st : ThreadState) :
    ipc_queues D (set_thread_state s t st) Q :=
  (h.set_tsType_of_held ht st).of_sched_only (sched_only_schedule_tcb _ t)

theorem congr_D {D' : List Nat} (h : ipc_queues D s Q) (hD : ∀ t, t ∈ D' ↔ t ∈ D) :
    ipc_queues D' s Q :=
  ⟨h.toipc_links.congr_D hD, h.toipc_states⟩

theorem hold (h : ipc_queues D s Q) {t : Nat} (ht : ∀ o, t ∉ Q o) : ipc_queues (t :: D) s Q :=
  ⟨h.toipc_links.hold ht, h.toipc_states⟩

theorem release {t : Nat} (h : ipc_queues (t :: D) s Q)
    (ht : (s.tcbs t).tcbState.tsType.is_ipc_queued = false) : ipc_queues D s Q :=
  ⟨h.toipc_links.release ht, h.toipc_states⟩

/-- A held thread given a run state that is not a queued one is released. -/
theorem release_as {t : Nat} (h : ipc_queues (t :: D) s Q) {st : ThreadState}
    (hst : st.is_ipc_queued = false) : ipc_queues D (set_thread_state s t st) Q :=
  (h.set_thread_state_of_held List.mem_cons_self st).release (by rw [set_thread_state_tsType]; exact hst)

/-- A thread that waits on nothing is on no queue and may be held. -/
theorem hold_idle (h : ipc_queues D s Q) {t : Nat}
    (ht : (s.tcbs t).tcbState.tsType.is_ipc_queued = false) : ipc_queues (t :: D) s Q :=
  h.hold (h.not_mem_of_not_queued ht)

/-- A thread on no queue may take any run state but a queued one. -/
theorem set_thread_state_of_not_queued (h : ipc_queues D s Q) {t : Nat}
    (ht : (s.tcbs t).tcbState.tsType.is_ipc_queued = false) {st : ThreadState}
    (hst : st.is_ipc_queued = false) : ipc_queues D (set_thread_state s t st) Q :=
  (h.hold_idle ht).release_as hst

/-! ### The queue fragments of `Operations` -/

section Fragments

variable {e t : Nat}

theorem unlink_ep (h : ipc_queues D s Q) {l r : List Nat} (hQ : Q (.ep e) = l ++ t :: r) :
    ipc_queues (t :: D) (ep_dequeue_at s e t) (update Q (.ep e) (l ++ r)) := by
  have hl := h.toipc_links.unlink hQ (ep_dequeue_at_tcbs s e t) (ep_dequeue_at_get_queue s e t)
    (queue_of_ne_ep (fun p hp => ep_dequeue_at_eps_of_ne s e t hp) (ep_dequeue_at_ntfns s e t))
  have hemp := EpQueue.empty_iff (by
    simpa only [KernelState.queue_of, update_self, ep_dequeue_at_get_queue] using hl.queue (.ep e))
  refine ⟨hl, h.toipc_states.set_ep (fun a => ?_) (fun p hp => ?_) (fun _ => ?_) ?_ ?_⟩
  · rw [ep_dequeue_at_tcbs, tcb_queue_t.ep_dequeue_tcbState]
  · rw [ep_dequeue_at_eps_of_ne s e t hp]
  · rw [ep_dequeue_at_ntfns]
  · rw [ep_dequeue_at_state]
    split
    · next hE => exact iff_of_true rfl (hemp.mp hE)
    · next hE =>
      refine iff_of_false (fun hi => ?_) (fun hn => hE (hemp.mpr hn))
      have hnil := (h.ep_idle e).mp hi
      simp [hQ] at hnil
  · intro a ha
    rw [ep_dequeue_at_state]
    split
    · next hE => simp [hemp.mp hE] at ha
    · exact h.ep_members e a (hQ ▸ ((List.sublist_cons_self t r).append_left l).subset ha)

theorem unlink_ntfn (h : ipc_queues D s Q) {l r : List Nat} (hQ : Q (.ntfn e) = l ++ t :: r) :
    ipc_queues (t :: D) (ntfn_dequeue_at s e t) (update Q (.ntfn e) (l ++ r)) := by
  have hl := h.toipc_links.unlink hQ (ntfn_dequeue_at_tcbs s e t) (ntfn_dequeue_at_get_queue s e t)
    (queue_of_ne_ntfn (ntfn_dequeue_at_eps s e t) (fun p hp => ntfn_dequeue_at_ntfns_of_ne s e t hp))
  have hemp := EpQueue.empty_iff (by
    simpa only [KernelState.queue_of, update_self, ntfn_dequeue_at_get_queue] using hl.queue (.ntfn e))
  refine ⟨hl, h.toipc_states.set_ntfn (fun a => ?_) (fun _ => ?_) (fun p hp => ?_) ?_⟩
  · rw [ntfn_dequeue_at_tcbs, tcb_queue_t.ep_dequeue_tcbState]
  · rw [ntfn_dequeue_at_eps]
  · rw [ntfn_dequeue_at_ntfns_of_ne s e t hp]
  · rw [ntfn_dequeue_at_state]
    split
    · next hE => exact iff_of_false (by simp) (not_not.mpr (hemp.mp hE))
    · next hE =>
      have hw : (s.ntfns e).state = .Waiting := (h.ntfn_waiting e).mpr (by simp [hQ])
      exact iff_of_true hw (fun hn => hE (hemp.mpr hn))

/-- Linking a held thread at the back of an endpoint's queue, where the new
state `st` agrees with the thread's run state and with the queue's members. -/
theorem link_ep (h : ipc_queues (t :: D) s Q) {st : EPState} (ht0 : t ≠ 0) (htD : t ∉ D)
    (hw : waits_on s (.ep e) t)
    (hst : (st = .Send ∧ (s.tcbs t).tcbState.tsType = ThreadStateBlockedOnSend ∧
        (s.eps e).state ≠ .Recv) ∨
      (st = .Recv ∧ (s.tcbs t).tcbState.tsType = ThreadStateBlockedOnReceive ∧
        (s.eps e).state ≠ .Send)) :
    ipc_queues D (ep_append_at s e t st) (update Q (.ep e) (Q (.ep e) ++ [t])) := by
  have hl := h.toipc_links.link ht0 htD hw (ep_append_at_tcbs s e t st)
    (ep_append_at_get_queue s e t st)
    (queue_of_ne_ep (fun p hp => ep_append_at_eps_of_ne s e t st hp) (ep_append_at_ntfns s e t st))
  refine ⟨hl, h.toipc_states.set_ep (fun a => ?_) (fun p hp => ?_) (fun _ => ?_) ?_ ?_⟩
  · rw [ep_append_at_tcbs, tcb_queue_t.ep_append_tcbState]
  · rw [ep_append_at_eps_of_ne s e t st hp]
  · rw [ep_append_at_ntfns]
  · rw [ep_append_at_state]
    exact iff_of_false (by rcases hst with ⟨rfl, -⟩ | ⟨rfl, -⟩ <;> simp) (by simp)
  · intro a ha
    rw [ep_append_at_state]
    rcases List.mem_append.mp ha with ha | ha
    · -- an old member: the endpoint already was in state `st`
      rcases hst with ⟨rfl, -, hne⟩ | ⟨rfl, -, hne⟩
      · exact .inl ⟨rfl, ((h.ep_members e a ha).resolve_right fun hr => hne hr.1).2⟩
      · exact .inr ⟨rfl, ((h.ep_members e a ha).resolve_left fun hl => hne hl.1).2⟩
    · rw [List.mem_singleton.mp ha]
      rcases hst with ⟨rfl, hts, -⟩ | ⟨rfl, hts, -⟩
      · exact .inl ⟨rfl, hts⟩
      · exact .inr ⟨rfl, hts⟩

theorem link_ntfn (h : ipc_queues (t :: D) s Q) (ht0 : t ≠ 0) (htD : t ∉ D)
    (hw : waits_on s (.ntfn e) t) :
    ipc_queues D (ntfn_append_at s e t) (update Q (.ntfn e) (Q (.ntfn e) ++ [t])) := by
  have hl := h.toipc_links.link ht0 htD hw (ntfn_append_at_tcbs s e t) (ntfn_append_at_get_queue s e t)
    (queue_of_ne_ntfn (ntfn_append_at_eps s e t) (fun p hp => ntfn_append_at_ntfns_of_ne s e t hp))
  refine ⟨hl, h.toipc_states.set_ntfn (fun a => ?_) (fun _ => ?_) (fun p hp => ?_) ?_⟩
  · rw [ntfn_append_at_tcbs, tcb_queue_t.ep_append_tcbState]
  · rw [ntfn_append_at_eps]
  · rw [ntfn_append_at_ntfns_of_ne s e t hp]
  · rw [ntfn_append_at_state]
    exact iff_of_true rfl (by simp)

end Fragments

/-! ### Emptying and refilling a queue -/

/-- Detaching a whole endpoint queue, as `cancel_all_ipc` and
`cancel_badged_sends` do first. -/
theorem detach_ep (h : ipc_queues D s Q) (e : Nat) :
    ipc_queues (Q (.ep e) ++ D)
      (s.modifyEp e fun x => { x with state := .Idle, epQueue_head := 0, epQueue_tail := 0 })
      (update Q (.ep e) []) := by
  refine ⟨h.toipc_links.detach rfl ?_ (queue_of_ne_ep (fun p hp => by simp [hp]) rfl),
    h.toipc_states.set_ep (fun _ => rfl) (fun p hp => by simp [hp]) (fun _ => rfl) (by simp) (by simp)⟩
  simp [KernelState.queue_of, endpoint.get_queue]

theorem detach_ntfn (h : ipc_queues D s Q) (n : Nat) :
    ipc_queues (Q (.ntfn n) ++ D)
      (s.modifyNtfn n fun x => { x with state := .Idle, ntfnQueue_head := 0, ntfnQueue_tail := 0 })
      (update Q (.ntfn n) []) := by
  refine ⟨h.toipc_links.detach rfl ?_ (queue_of_ne_ntfn rfl (fun p hp => by simp [hp])),
    h.toipc_states.set_ntfn (fun _ => rfl) (fun _ => rfl) (fun p hp => by simp [hp]) (by simp)⟩
  simp [KernelState.queue_of, notification.get_queue]

/-- A write to a notification that keeps its queue, and whether it waits. -/
theorem modify_ntfn (h : ipc_queues D s Q) {n : Nat} {f : notification → notification}
    (hq : (f (s.ntfns n)).get_queue = (s.ntfns n).get_queue)
    (hst : (f (s.ntfns n)).state = .Waiting ↔ (s.ntfns n).state = .Waiting) :
    ipc_queues D (s.modifyNtfn n f) Q := by
  have hq' : ∀ o, (s.modifyNtfn n f).queue_of o = s.queue_of o := fun o => by
    rcases o with p | p
    · rfl
    · by_cases hp : p = n
      · subst hp; simp [KernelState.queue_of, hq]
      · simp [KernelState.queue_of, hp]
  refine ⟨h.toipc_links.frame (fun _ _ => rfl) (fun _ _ _ => rfl) (fun _ _ _ => rfl) hq',
    h.ep_idle, h.ep_members, fun m => ?_⟩
  by_cases hm : m = n
  · subst hm; simp only [KernelState.modifyNtfn_ntfns, if_pos]; exact hst.trans (h.ntfn_waiting m)
  · simp only [KernelState.modifyNtfn_ntfns, if_neg hm]; exact h.ntfn_waiting m

/-- Attaching the held senders `xs` as the queue of the endpoint `e`, whose
state becomes `Send`, or stays `Idle` when there are none. -/
theorem attach_ep {xs : List Nat} (h : ipc_queues xs s Q) {e : Nat} (hQ : Q (.ep e) = [])
    (hw : ∀ t ∈ xs, waits_on s (.ep e) t ∧ (s.tcbs t).tcbState.tsType = ThreadStateBlockedOnSend)
    (htcbs : s'.tcbs = s.tcbs) (heps : ∀ p, p ≠ e → s'.eps p = s.eps p)
    (hntfns : s'.ntfns = s.ntfns) (hx : EpQueue s.tcbs (s'.eps e).get_queue xs)
    (hst : (s'.eps e).state = if xs = [] then .Idle else .Send) :
    ipc_queues [] s' (update Q (.ep e) xs) := by
  have hl := h.toipc_links.attach hQ (fun t ht => (hw t ht).1) htcbs
    (by rw [htcbs]; exact hx) (queue_of_ne_ep heps hntfns)
  refine ⟨hl, h.toipc_states.set_ep (fun _ => by rw [htcbs]) (fun p hp => by rw [heps p hp])
    (fun _ => by rw [hntfns]) ?_ fun a ha => ?_⟩
  · rw [hst]; split <;> simp [*]
  · have hne : xs ≠ [] := List.ne_nil_of_mem ha
    exact .inl ⟨by rw [hst, if_neg hne], (hw a ha).2⟩

end ipc_queues

end Rel4Kernel
