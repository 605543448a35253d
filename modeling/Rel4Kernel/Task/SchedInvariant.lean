/-
The ready-queue invariant over whole runs of the scheduler.

`sched_inv` is what the ready queues promise (`valid_queues`, `bitmap_inv`,
and every queued thread able to run) together with what keeping it needs: a
pending switch target can run, since `reschedule_required` will queue it, and
the current and idle threads are not null, since the scheduler queues and
switches to them. Each operation keeps it from any state that satisfies it,
called the way the kernel calls it (`sched_op.pre`); from that, so does every
run (`sched_reachable`).
-/
import Rel4Kernel.Task.Schedule

set_option autoImplicit false

namespace Rel4Kernel

open HeapList Function ThreadState

/-! ## The invariant -/

structure sched_inv (s : KernelState) : Prop where
  queues : ∃ Q, valid_queues s Q
  bitmap : bitmap_inv s
  queued_schedulable : ∀ t, (s.tcbs t).tcbState.tcbQueued = 1 → (s.tcbs t).is_schedulable = true
  action : s.ksSchedulerAction ≠ SCHEDULER_ACTION_RESUME_CURRENT_THREAD →
    s.ksSchedulerAction ≠ SCHEDULER_ACTION_CHOOSE_NEW_THREAD →
    (s.tcbs s.ksSchedulerAction).is_schedulable = true
  cur_ne : s.ksCurThread ≠ 0
  idle_ne : s.ksIdleThread ≠ 0

/-- `sched_inv` but for the run state of `t`, which may still be queued: what
holds inside `suspend`, between `set_thread_state` and `sched_dequeue`. -/
structure sched_inv_except (t : Nat) (s : KernelState) : Prop where
  queues : ∃ Q, valid_queues s Q
  bitmap : bitmap_inv s
  queued_schedulable : ∀ a, a ≠ t → (s.tcbs a).tcbState.tcbQueued = 1 →
    (s.tcbs a).is_schedulable = true
  action : s.ksSchedulerAction ≠ SCHEDULER_ACTION_RESUME_CURRENT_THREAD →
    s.ksSchedulerAction ≠ SCHEDULER_ACTION_CHOOSE_NEW_THREAD →
    (s.tcbs s.ksSchedulerAction).is_schedulable = true
  cur_ne : s.ksCurThread ≠ 0
  idle_ne : s.ksIdleThread ≠ 0

/-- What the queues read of a thread: its links, its queued bit, its domain
and its priority. -/
def tcb_t.queue_view (tcb : tcb_t) : Nat × Nat × Nat × Nat × Nat :=
  (tcb.tcbSchedNext, tcb.tcbSchedPrev, tcb.tcbState.tcbQueued, tcb.domain, tcb.tcbPriority)

theorem tcb_t.is_schedulable_of_dequeued {a b : tcb_t} (h : a.dequeued = b.dequeued) :
    a.is_schedulable = b.is_schedulable := by
  simp only [tcb_t.is_schedulable, tcb_t.is_runnable, tcb_t.get_state, tcb_t.tsType_eq_of_dequeued h]

namespace valid_queues

variable {s s' : KernelState} {Q : Nat → Nat → List Nat}

/-- **Frame.** The queues read only the queue view of each thread and the
queue ends. -/
theorem of_queue_view (hv : valid_queues s Q)
    (ht : ∀ a, (s'.tcbs a).queue_view = (s.tcbs a).queue_view)
    (hrq : s'.ksReadyQueues = s.ksReadyQueues) : valid_queues s' Q := by
  simp only [tcb_t.queue_view, Prod.mk.injEq] at ht
  have hqin : ∀ d p a, queued_in s' d p a ↔ queued_in s d p a := fun d p a => by
    simp only [queued_in, (ht a).2.2.1, (ht a).2.2.2.1, (ht a).2.2.2.2]
  refine ⟨fun d p hd hp => ?_, fun d p a hd hp => ?_, fun a ha => ?_, fun a => ?_⟩
  · unfold ReadyQueue SchedQueue
    rw [hrq]
    exact Queue.congr (hv.queue d p hd hp) (fun a _ => (ht a).1) (fun a _ => (ht a).2.1)
  · rw [hqin]; exact hv.mem_iff d p a hd hp
  · rw [(ht a).2.2.1] at ha
    rw [(ht a).1, (ht a).2.1]
    exact hv.unqueued_links a ha
  · rw [(ht a).2.2.1, (ht a).2.2.2.1, (ht a).2.2.2.2]
    exact hv.valid_tcb a

/-- Changing the domain or the priority of a thread that is not queued, within
range, keeps the queues. -/
theorem modify_unqueued (hv : valid_queues s Q) {t : Nat} {f : tcb_t → tcb_t}
    (ht : (s.tcbs t).tcbState.tcbQueued = 0)
    (hf : (f (s.tcbs t)).tcbSchedNext = (s.tcbs t).tcbSchedNext ∧
      (f (s.tcbs t)).tcbSchedPrev = (s.tcbs t).tcbSchedPrev ∧ (f (s.tcbs t)).tcbState = (s.tcbs t).tcbState)
    (hd : (f (s.tcbs t)).domain < CONFIG_NUM_DOMAINS)
    (hp : (f (s.tcbs t)).tcbPriority < CONFIG_NUM_PRIORITIES) : valid_queues (s.modifyTcb t f) Q := by
  obtain ⟨hn, hpr, hst⟩ := hf
  -- `t` is in no queue, so every member of a queue keeps its links
  have hnot : ∀ d p a, d < CONFIG_NUM_DOMAINS → p < CONFIG_NUM_PRIORITIES → a ∈ Q d p → a ≠ t :=
    fun d p a hd hp ha e => hv.not_mem_of_unqueued hd hp ht (e ▸ ha)
  refine ⟨fun d p hd0 hp0 => ?_, fun d p a hd0 hp0 => ?_, fun a ha => ?_, fun a => ?_⟩
  · refine Queue.congr (hv.queue d p hd0 hp0) (fun a ha => ?_) (fun a ha => ?_) <;>
      simp [hnot d p a hd0 hp0 ha]
  · by_cases hat : a = t
    · subst hat
      refine iff_of_false (hv.not_mem_of_unqueued hd0 hp0 ht) ?_
      simp [queued_in, hst, ht]
    · simp only [queued_in, KernelState.modifyTcb_tcbs, hat, if_false]
      exact hv.mem_iff d p a hd0 hp0
  · by_cases hat : a = t
    · subst hat
      simp only [KernelState.modifyTcb_tcbs, if_true] at ha ⊢
      rw [hn, hpr]
      exact hv.unqueued_links a ht
    · simp only [KernelState.modifyTcb_tcbs, hat, if_false] at ha ⊢
      exact hv.unqueued_links a ha
  · by_cases hat : a = t
    · subst hat
      simp only [KernelState.modifyTcb_tcbs, if_true, hst, ht]
      exact ⟨Nat.zero_le _, hd, hp⟩
    · simp only [KernelState.modifyTcb_tcbs, hat, if_false]
      exact hv.valid_tcb a

end valid_queues

namespace sched_inv

variable {s s' : KernelState}

theorem domain_lt (h : sched_inv s) (t : Nat) : (s.tcbs t).domain < CONFIG_NUM_DOMAINS := by
  obtain ⟨Q, hv⟩ := h.queues
  exact (hv.valid_tcb t).2.1

theorem tcbPriority_lt (h : sched_inv s) (t : Nat) : (s.tcbs t).tcbPriority < CONFIG_NUM_PRIORITIES := by
  obtain ⟨Q, hv⟩ := h.queues
  exact (hv.valid_tcb t).2.2

/-- **Frame.** The invariant reads the queue view and the schedulability of
the threads, the queues, the bitmap, the action and the current and idle
threads. -/
theorem of_queue_view (h : sched_inv s) (ht : ∀ a, (s'.tcbs a).queue_view = (s.tcbs a).queue_view)
    (hsch : ∀ a, (s'.tcbs a).is_schedulable = (s.tcbs a).is_schedulable)
    (hrq : s'.ksReadyQueues = s.ksReadyQueues)
    (hL1 : s'.ksReadyQueuesL1Bitmap = s.ksReadyQueuesL1Bitmap)
    (hL2 : s'.ksReadyQueuesL2Bitmap = s.ksReadyQueuesL2Bitmap)
    (hact : s'.ksSchedulerAction = s.ksSchedulerAction) (hcur : s'.ksCurThread = s.ksCurThread)
    (hidle : s'.ksIdleThread = s.ksIdleThread) : sched_inv s' := by
  have hq : ∀ a, (s'.tcbs a).tcbState.tcbQueued = (s.tcbs a).tcbState.tcbQueued := fun a => by
    have := ht a
    simp only [tcb_t.queue_view, Prod.mk.injEq] at this
    exact this.2.2.1
  obtain ⟨Q, hv⟩ := h.queues
  refine ⟨⟨Q, hv.of_queue_view ht hrq⟩, h.bitmap.of_heads hL1 hL2 (fun d p _ _ => by rw [hrq]),
    fun a ha => ?_, fun h1 h2 => ?_, hcur ▸ h.cur_ne, hidle ▸ h.idle_ne⟩
  · rw [hsch]; exact h.queued_schedulable a (hq a ▸ ha)
  · rw [hact] at h1 h2 ⊢; rw [hsch]; exact h.action h1 h2

theorem with_action (h : sched_inv s) {a : Nat}
    (ha : a ≠ SCHEDULER_ACTION_RESUME_CURRENT_THREAD → a ≠ SCHEDULER_ACTION_CHOOSE_NEW_THREAD →
      (s.tcbs a).is_schedulable = true) :
    sched_inv { s with ksSchedulerAction := a } := by
  obtain ⟨Q, hv⟩ := h.queues
  exact ⟨⟨Q, hv.of_queue_view (fun _ => rfl) rfl⟩, h.bitmap.of_heads rfl rfl (fun _ _ _ _ => Iff.rfl),
    h.queued_schedulable, ha, h.cur_ne, h.idle_ne⟩

theorem with_cur (h : sched_inv s) {t : Nat} (ht : t ≠ 0) : sched_inv { s with ksCurThread := t } := by
  obtain ⟨Q, hv⟩ := h.queues
  exact ⟨⟨Q, hv.of_queue_view (fun _ => rfl) rfl⟩, h.bitmap.of_heads rfl rfl (fun _ _ _ _ => Iff.rfl),
    h.queued_schedulable, h.action, ht, h.idle_ne⟩

/-- Changing the domain or the priority of a thread that is not queued, within
range, keeps the invariant. -/
theorem modify_unqueued (h : sched_inv s) {t : Nat} {f : tcb_t → tcb_t}
    (ht : (s.tcbs t).tcbState.tcbQueued = 0)
    (hf : (f (s.tcbs t)).tcbSchedNext = (s.tcbs t).tcbSchedNext ∧
      (f (s.tcbs t)).tcbSchedPrev = (s.tcbs t).tcbSchedPrev ∧ (f (s.tcbs t)).tcbState = (s.tcbs t).tcbState)
    (hd : (f (s.tcbs t)).domain < CONFIG_NUM_DOMAINS)
    (hp : (f (s.tcbs t)).tcbPriority < CONFIG_NUM_PRIORITIES) : sched_inv (s.modifyTcb t f) := by
  obtain ⟨Q, hv⟩ := h.queues
  have hsch : ∀ a, ((s.modifyTcb t f).tcbs a).is_schedulable = (s.tcbs a).is_schedulable := fun a => by
    by_cases hat : a = t
    · subst hat
      simp only [KernelState.modifyTcb_tcbs, if_true, tcb_t.is_schedulable, tcb_t.is_runnable,
        tcb_t.get_state, hf.2.2]
    · simp only [KernelState.modifyTcb_tcbs, hat, if_false]
  refine ⟨⟨Q, hv.modify_unqueued ht hf hd hp⟩, h.bitmap.of_heads rfl rfl (fun _ _ _ _ => Iff.rfl),
    fun a ha => ?_, fun h1 h2 => ?_, h.cur_ne, h.idle_ne⟩
  · rw [hsch]
    by_cases hat : a = t
    · subst hat
      simp only [KernelState.modifyTcb_tcbs, if_true, hf.2.2, ht] at ha
      exact absurd ha (by decide)
    · simp only [KernelState.modifyTcb_tcbs, hat, if_false] at ha
      exact h.queued_schedulable a ha
  · rw [hsch]; exact h.action h1 h2

/-- Every thread but `t` that is queued can run. -/
theorem except (h : sched_inv s) (t : Nat) : sched_inv_except t s :=
  ⟨h.queues, h.bitmap, fun a _ => h.queued_schedulable a, h.action, h.cur_ne, h.idle_ne⟩

end sched_inv

namespace sched_inv_except

variable {s : KernelState} {t : Nat}

theorem restore (h : sched_inv_except t s)
    (ht : (s.tcbs t).tcbState.tcbQueued = 1 → (s.tcbs t).is_schedulable = true) : sched_inv s := by
  refine ⟨h.queues, h.bitmap, fun a ha => ?_, h.action, h.cur_ne, h.idle_ne⟩
  by_cases hat : a = t
  · subst hat; exact ht ha
  · exact h.queued_schedulable a hat ha

theorem with_action (h : sched_inv_except t s) {a : Nat}
    (ha : a ≠ SCHEDULER_ACTION_RESUME_CURRENT_THREAD → a ≠ SCHEDULER_ACTION_CHOOSE_NEW_THREAD →
      (s.tcbs a).is_schedulable = true) :
    sched_inv_except t { s with ksSchedulerAction := a } := by
  obtain ⟨Q, hv⟩ := h.queues
  exact ⟨⟨Q, hv.of_queue_view (fun _ => rfl) rfl⟩, h.bitmap.of_heads rfl rfl (fun _ _ _ _ => Iff.rfl),
    h.queued_schedulable, ha, h.cur_ne, h.idle_ne⟩

end sched_inv_except

/-! ## The queue operations -/

section Queue

variable {s : KernelState} {t : Nat}

theorem sched_insert_is_schedulable
    {link : tcb_queue_t → (Nat → tcb_t) → Nat → tcb_queue_t × (Nat → tcb_t)}
    (hl : queue_insertion link) (a : Nat) :
    ((sched_insert link s t).tcbs a).is_schedulable = (s.tcbs a).is_schedulable :=
  tcb_t.is_schedulable_of_dequeued (sched_insert_dequeued hl a)

theorem sched_dequeue_is_schedulable (a : Nat) :
    ((sched_dequeue s t).tcbs a).is_schedulable = (s.tcbs a).is_schedulable :=
  tcb_t.is_schedulable_of_dequeued (sched_dequeue_dequeued a)

/-- Linking in a thread that can run keeps the invariant. -/
theorem sched_inv_sched_insert {link : tcb_queue_t → (Nat → tcb_t) → Nat → tcb_queue_t × (Nat → tcb_t)}
    (hl : queue_insertion link) (h : sched_inv s) (ht0 : t ≠ 0) (hts : (s.tcbs t).is_schedulable = true) :
    sched_inv (sched_insert link s t) := by
  obtain ⟨Q, hv⟩ := h.queues
  refine ⟨sched_insert_valid_queues hl hv ht0, sched_insert_bitmap_inv hl hv h.bitmap ht0,
    fun a ha => ?_, fun h1 h2 => ?_, by simpa using h.cur_ne, by simpa using h.idle_ne⟩
  · rw [sched_insert_is_schedulable hl]
    by_cases hat : a = t
    · subst hat; exact hts
    · exact h.queued_schedulable a (sched_insert_tcbQueued_of_ne hl hat ▸ ha)
  · simp only [sched_insert_ksSchedulerAction] at h1 h2 ⊢
    rw [sched_insert_is_schedulable hl]
    exact h.action h1 h2

theorem sched_inv_sched_enqueue (h : sched_inv s) (ht0 : t ≠ 0)
    (hts : (s.tcbs t).is_schedulable = true) : sched_inv (sched_enqueue s t) :=
  sched_inv_sched_insert prepend_insertion h ht0 hts

theorem sched_inv_sched_append (h : sched_inv s) (ht0 : t ≠ 0)
    (hts : (s.tcbs t).is_schedulable = true) : sched_inv (sched_append s t) :=
  sched_inv_sched_insert link_back_insertion h ht0 hts

/-- Dequeuing `t` restores the invariant where only `t` may be queued without
being able to run. -/
theorem sched_inv_sched_dequeue_except (h : sched_inv_except t s) : sched_inv (sched_dequeue s t) := by
  obtain ⟨Q, hv⟩ := h.queues
  refine ⟨sched_dequeue_valid_queues hv, sched_dequeue_bitmap_inv hv h.bitmap, fun a ha => ?_,
    fun h1 h2 => ?_, by simpa using h.cur_ne, by simpa using h.idle_ne⟩
  · by_cases hat : a = t
    · subst hat
      rw [sched_dequeue_tcbQueued_self] at ha
      exact absurd ha (by decide)
    · rw [sched_dequeue_is_schedulable]
      exact h.queued_schedulable a hat (sched_dequeue_tcbQueued_of_ne hat ▸ ha)
  · simp only [sched_dequeue_ksSchedulerAction] at h1 h2 ⊢
    rw [sched_dequeue_is_schedulable]
    exact h.action h1 h2

theorem sched_inv_sched_dequeue (h : sched_inv s) : sched_inv (sched_dequeue s t) :=
  sched_inv_sched_dequeue_except (h.except t)

end Queue

/-! ## Rescheduling -/

section Reschedule

variable {s : KernelState} {t : Nat}

theorem reschedule_required_of_resume (h : s.ksSchedulerAction = SCHEDULER_ACTION_RESUME_CURRENT_THREAD) :
    reschedule_required s = { s with ksSchedulerAction := SCHEDULER_ACTION_CHOOSE_NEW_THREAD } := by
  simp [reschedule_required, h]

theorem reschedule_required_is_schedulable (a : Nat) :
    ((reschedule_required s).tcbs a).is_schedulable = (s.tcbs a).is_schedulable := by
  unfold reschedule_required
  dsimp only
  split
  · exact sched_insert_is_schedulable prepend_insertion a
  · rfl

/-- The pending switch target goes back to its queue: it can run, by the
invariant. -/
theorem sched_inv_reschedule_required (h : sched_inv s) : sched_inv (reschedule_required s) := by
  unfold reschedule_required
  dsimp only
  refine sched_inv.with_action ?_ fun _ h2 => absurd rfl h2
  split
  · next hc => exact sched_inv_sched_enqueue h hc.1 (h.action hc.1 hc.2)
  · exact h

theorem sched_inv_possible_switch_to (h : sched_inv s) (ht0 : t ≠ 0)
    (hts : (s.tcbs t).is_schedulable = true) : sched_inv (possible_switch_to s t) := by
  unfold possible_switch_to
  split
  · exact sched_inv_sched_enqueue h ht0 hts
  split
  · refine sched_inv_sched_enqueue (sched_inv_reschedule_required h) ht0 ?_
    rw [reschedule_required_is_schedulable]
    exact hts
  · exact h.with_action fun _ _ => hts

end Reschedule

/-! ## Thread state -/

section ThreadState

variable {s : KernelState} {t : Nat} {st : ThreadState}

theorem set_tsType_tcbs_of_ne {a : Nat} (ha : a ≠ t) : (set_tsType s t st).tcbs a = s.tcbs a := by
  simp [set_tsType, ha]

theorem set_tsType_get_state : ((set_tsType s t st).tcbs t).get_state = st := by
  simp [set_tsType, tcb_t.get_state]

theorem schedule_tcb_eq (s : KernelState) (t' : Nat) :
    schedule_tcb s t' = s ∨
      schedule_tcb s t' = { s with ksSchedulerAction := SCHEDULER_ACTION_CHOOSE_NEW_THREAD } := by
  unfold schedule_tcb
  split
  · next hc => exact Or.inr (reschedule_required_of_resume hc.2.1)
  · exact Or.inl rfl

theorem set_thread_state_tcbs : (set_thread_state s t st).tcbs = (set_tsType s t st).tcbs := by
  rcases schedule_tcb_eq (set_tsType s t st) t with e | e <;>
    simp only [set_thread_state, e]

/-- Setting the run state of `t` keeps the invariant but for `t` itself, when
`t` is not the pending switch target or stays runnable. -/
theorem sched_inv_except_set_thread_state (h : sched_inv s)
    (hact : s.ksSchedulerAction = t → ((set_tsType s t st).tcbs t).is_schedulable = true) :
    sched_inv_except t (set_thread_state s t st) := by
  obtain ⟨Q, hv⟩ := h.queues
  have hview : ∀ a, ((set_tsType s t st).tcbs a).queue_view = (s.tcbs a).queue_view := fun a => by
    by_cases hat : a = t <;> simp [set_tsType, hat, tcb_t.queue_view]
  have h1 : sched_inv_except t (set_tsType s t st) := by
    refine ⟨⟨Q, hv.of_queue_view hview rfl⟩, h.bitmap.of_heads rfl rfl (fun _ _ _ _ => Iff.rfl),
      fun a hat ha => ?_, fun h1 h2 => ?_, h.cur_ne, h.idle_ne⟩
    · rw [set_tsType_tcbs_of_ne hat] at ha ⊢
      exact h.queued_schedulable a ha
    · by_cases hat : s.ksSchedulerAction = t
      · exact hat ▸ hact hat
      · rw [show (set_tsType s t st).ksSchedulerAction = s.ksSchedulerAction from rfl,
          set_tsType_tcbs_of_ne hat]
        exact h.action h1 h2
  rcases schedule_tcb_eq (set_tsType s t st) t with e | e <;> rw [set_thread_state, e]
  · exact h1
  · exact h1.with_action fun _ h2 => absurd rfl h2

/-- Setting a runnable state keeps the invariant. -/
theorem sched_inv_set_thread_state (h : sched_inv s)
    (hst : ((set_tsType s t st).tcbs t).is_schedulable = true) : sched_inv (set_thread_state s t st) :=
  (sched_inv_except_set_thread_state h fun _ => hst).restore fun _ => by
    rw [set_thread_state_tcbs]; exact hst

end ThreadState

/-! ## `tcb_t` methods -/

section Tcb

variable {s : KernelState} {t : Nat}

/-- Changing a field of a thread that the invariant does not read keeps it. -/
theorem sched_inv.modify_other (h : sched_inv s) {f : tcb_t → tcb_t}
    (hq : (f (s.tcbs t)).queue_view = (s.tcbs t).queue_view)
    (hst : (f (s.tcbs t)).tcbState.tsType = (s.tcbs t).tcbState.tsType) : sched_inv (s.modifyTcb t f) := by
  refine h.of_queue_view (fun a => ?_) (fun a => ?_) rfl rfl rfl rfl rfl rfl <;>
    by_cases hat : a = t
  · subst hat; simpa using hq
  · simp [hat]
  · subst hat
    simp [tcb_t.is_schedulable, tcb_t.is_runnable, tcb_t.get_state, hst]
  · simp [hat]

theorem sched_inv_set_priority {prio : Nat} (h : sched_inv s) (ht0 : t ≠ 0)
    (hp : prio < CONFIG_NUM_PRIORITIES) : sched_inv (set_priority s t prio) := by
  have h1 : sched_inv (sched_dequeue s t) := sched_inv_sched_dequeue h
  -- off its queue, the thread may take any priority in range
  have h2 : sched_inv ((sched_dequeue s t).modifyTcb t fun tcb => { tcb with tcbPriority := prio }) :=
    h1.modify_unqueued sched_dequeue_tcbQueued_self ⟨rfl, rfl, rfl⟩ (h1.domain_lt t) hp
  unfold set_priority
  dsimp only
  split
  · split
    · exact sched_inv_reschedule_required h2
    · next hrun _ => exact sched_inv_possible_switch_to h2 ht0 hrun
  · exact h2

theorem sched_inv_set_domain {dom : Nat} (h : sched_inv s) (ht0 : t ≠ 0)
    (hd : dom < CONFIG_NUM_DOMAINS) : sched_inv (set_domain s t dom) := by
  have h1 : sched_inv (sched_dequeue s t) := sched_inv_sched_dequeue h
  have h2 : sched_inv ((sched_dequeue s t).modifyTcb t fun tcb => { tcb with domain := dom }) :=
    h1.modify_unqueued sched_dequeue_tcbQueued_self ⟨rfl, rfl, rfl⟩ hd (h1.tcbPriority_lt t)
  unfold set_domain
  dsimp only
  -- the first split is on whether the thread can run, the second on whether it is current
  split
  · next hts =>
    have h3 := sched_inv_sched_enqueue h2 ht0 hts
    split
    · exact sched_inv_reschedule_required h3
    · exact h3
  · split
    · exact sched_inv_reschedule_required h2
    · exact h2

/-- A master reply cap lives in a CNode slot, which the scheduler does not read. -/
theorem sched_inv_setup_reply_master (h : sched_inv s) : sched_inv (setup_reply_master s t) := by
  unfold setup_reply_master
  dsimp only
  split
  · exact h.of_queue_view (fun _ => rfl) (fun _ => rfl) rfl rfl rfl rfl rfl rfl
  · exact h

/-- `suspend` may leave the thread queued while it sets it inactive; the
dequeue right after restores the invariant. -/
theorem sched_inv_suspend (h : sched_inv s) (hact : s.ksSchedulerAction ≠ t) :
    sched_inv (suspend s t) :=
  sched_inv_sched_dequeue_except (sched_inv_except_set_thread_state h fun e => absurd e hact)

theorem sched_inv_restart (h : sched_inv s) (ht0 : t ≠ 0) : sched_inv (restart s t) := by
  unfold restart
  split
  · dsimp only
    have h1 : sched_inv (setup_reply_master s t) := sched_inv_setup_reply_master h
    have hst : ((set_tsType (setup_reply_master s t) t ThreadStateRestart).tcbs t).is_schedulable = true := by
      simp only [tcb_t.is_schedulable, tcb_t.is_runnable, set_tsType_get_state]
    have h2 := sched_inv_set_thread_state h1 hst
    have hts : ((set_thread_state (setup_reply_master s t) t ThreadStateRestart).tcbs t).is_schedulable =
        true := by
      rw [set_thread_state_tcbs]; exact hst
    exact sched_inv_possible_switch_to (sched_inv_sched_enqueue h2 ht0 hts) ht0
      ((sched_insert_is_schedulable prepend_insertion t).trans hts)
  · exact h

end Tcb

/-! ## Choosing a thread -/

section Choose

variable {s : KernelState} {t : Nat}

theorem sched_inv_switch_to_this (h : sched_inv s) (ht0 : t ≠ 0) : sched_inv (switch_to_this s t) :=
  (sched_inv_sched_dequeue h).with_cur ht0

/-- The domain schedule is not read by the invariant. -/
theorem sched_inv_next_domain (h : sched_inv s) : sched_inv (next_domain s) :=
  h.of_queue_view (fun _ => rfl) (fun _ => rfl) rfl rfl rfl rfl rfl rfl

/-- The head of a non-empty ready queue is queued, so it can run. -/
theorem sched_inv.head_schedulable (h : sched_inv s) {d p : Nat} (hd : d < CONFIG_NUM_DOMAINS)
    (hp : p < CONFIG_NUM_PRIORITIES) (hne : (s.ksReadyQueues (ready_queues_index d p)).head ≠ 0) :
    (s.tcbs (s.ksReadyQueues (ready_queues_index d p)).head).is_schedulable = true := by
  obtain ⟨Q, hv⟩ := h.queues
  have hq := hv.queue d p hd hp
  have hmem : (s.ksReadyQueues (ready_queues_index d p)).head ∈ Q d p :=
    hq.head_mem (mt hq.eq_nil_iff.mpr hne)
  exact h.queued_schedulable _ ((hv.mem_iff d p _ hd hp).mp hmem).1

/-- `choose_thread` passes its assertions: the bitmap names a non-empty queue,
whose head can run. -/
theorem sched_inv_choose_thread (h : sched_inv s) : ∃ s', choose_thread s = some s' ∧ sched_inv s' := by
  unfold choose_thread
  dsimp only
  split
  · next hL1 =>
    obtain ⟨hp, hne⟩ := h.bitmap.get_highest_prio_spec (by decide) hL1
    have hts := h.head_schedulable (by decide) hp hne
    rw [if_neg hne, if_neg (by rw [hts]; decide)]
    exact ⟨_, rfl, sched_inv_switch_to_this h hne⟩
  · exact ⟨_, rfl, sched_inv_switch_to_this h h.idle_ne⟩

theorem sched_inv_schedule_choose_new_thread (h : sched_inv s) :
    ∃ s', schedule_choose_new_thread s = some s' ∧ sched_inv s' := by
  unfold schedule_choose_new_thread
  split
  · exact sched_inv_choose_thread (sched_inv_next_domain h)
  · exact sched_inv_choose_thread h

end Choose

/-! ## `schedule` -/

section Schedule

variable {s : KernelState}

/-- `schedule` ends by resetting the action, which the invariant allows. -/
theorem sched_inv_schedule_end {x : Option KernelState} (hx : ∃ s1, x = some s1 ∧ sched_inv s1) :
    ∃ s', x.map (fun s => { s with ksSchedulerAction := SCHEDULER_ACTION_RESUME_CURRENT_THREAD }) =
      some s' ∧ sched_inv s' := by
  obtain ⟨s1, rfl, h1⟩ := hx
  exact ⟨_, rfl, h1.with_action fun h _ => absurd rfl h⟩

/-- `schedule` passes its assertions and keeps the invariant. -/
theorem sched_inv_schedule (h : sched_inv s) : ∃ s', schedule s = some s' ∧ sched_inv s' := by
  unfold schedule
  dsimp only
  apply sched_inv_schedule_end
  split
  · next hres =>
    generalize hs1 : (if (s.tcbs s.ksCurThread).is_schedulable = true then sched_enqueue s s.ksCurThread
      else s) = s1
    -- the current thread goes back to its queue if it can run
    have h1 : sched_inv s1 := by
      subst hs1
      split
      · next hts => exact sched_inv_sched_enqueue h h.cur_ne hts
      · exact h
    have hact : s1.ksSchedulerAction = s.ksSchedulerAction := by
      subst hs1; split <;> simp [sched_enqueue]
    split
    · exact sched_inv_schedule_choose_new_thread h1
    · next hch =>
      -- the candidate is the pending switch target, which can run
      have hres1 : s1.ksSchedulerAction ≠ SCHEDULER_ACTION_RESUME_CURRENT_THREAD := hact ▸ hres
      have hcand := h1.action hres1 hch
      rw [if_neg (by rw [hcand]; decide)]
      split
      · exact sched_inv_schedule_choose_new_thread
          ((sched_inv_sched_enqueue h1 hres1 hcand).with_action fun _ h2 => absurd rfl h2)
      · split
        · exact sched_inv_schedule_choose_new_thread
            ((sched_inv_sched_append h1 hres1 hcand).with_action fun _ h2 => absurd rfl h2)
        · exact ⟨_, rfl, sched_inv_switch_to_this h1 hres1⟩
  · exact ⟨_, rfl, h⟩

end Schedule

/-! ## Time and yield -/

section Tick

variable {s : KernelState}

theorem sched_inv_timer_tick (h : sched_inv s) : sched_inv (timer_tick s) := by
  unfold timer_tick
  dsimp only
  split
  · next hrun =>
    split
    · exact h.modify_other rfl rfl
    · -- a thread that used up its time slice goes to the back of its queue
      have h1 : sched_inv (s.modifyTcb s.ksCurThread fun tcb => { tcb with tcbTimeSlice := CONFIG_TIME_SLICE }) :=
        h.modify_other rfl rfl
      have hts : ((s.modifyTcb s.ksCurThread fun tcb => { tcb with tcbTimeSlice := CONFIG_TIME_SLICE }).tcbs
          s.ksCurThread).is_schedulable = true := by
        simp only [KernelState.modifyTcb_tcbs, if_true, tcb_t.is_schedulable, tcb_t.is_runnable]
        simp only [tcb_t.get_state] at hrun ⊢
        rw [hrun]
      exact sched_inv_reschedule_required (sched_inv_sched_append h1 h.cur_ne hts)
  · exact h

/-- The current thread yields to the threads of its priority; it is running. -/
theorem sched_inv_handle_yield (h : sched_inv s) (hcur : (s.tcbs s.ksCurThread).is_schedulable = true) :
    sched_inv (handle_yield s) := by
  unfold handle_yield
  dsimp only
  simp only [sched_dequeue_ksCurThread]
  have hts : ((sched_dequeue s s.ksCurThread).tcbs s.ksCurThread).is_schedulable = true :=
    (sched_dequeue_is_schedulable _).trans hcur
  exact sched_inv_reschedule_required (sched_inv_sched_append (sched_inv_sched_dequeue h) h.cur_ne hts)

end Tick

/-! ## Runs -/

/-- The operations on the ready queues, with their arguments. -/
inductive sched_op where
  | sched_enqueue (t : Nat)
  | sched_append (t : Nat)
  | sched_dequeue (t : Nat)
  | set_priority (t prio : Nat)
  | set_domain (t dom : Nat)
  | restart (t : Nat)
  | suspend (t : Nat)
  | possible_switch_to (t : Nat)
  | reschedule_required
  | schedule
  | timer_tick
  | handle_yield
  deriving DecidableEq, Repr

namespace sched_op

/-- One application; `none` is a failed assertion. -/
def run : sched_op → KernelState → Option KernelState
  | .sched_enqueue t, s => some (Rel4Kernel.sched_enqueue s t)
  | .sched_append t, s => some (Rel4Kernel.sched_append s t)
  | .sched_dequeue t, s => some (Rel4Kernel.sched_dequeue s t)
  | .set_priority t prio, s => some (Rel4Kernel.set_priority s t prio)
  | .set_domain t dom, s => some (Rel4Kernel.set_domain s t dom)
  | .restart t, s => some (Rel4Kernel.restart s t)
  | .suspend t, s => some (Rel4Kernel.suspend s t)
  | .possible_switch_to t, s => some (Rel4Kernel.possible_switch_to s t)
  | .reschedule_required, s => some (Rel4Kernel.reschedule_required s)
  | .schedule, s => Rel4Kernel.schedule s
  | .timer_tick, s => some (Rel4Kernel.timer_tick s)
  | .handle_yield, s => some (Rel4Kernel.handle_yield s)

/-- What the callers establish: a thread put on a queue is a thread and can
run (it was just made `Restart` or `Running`, or it is the current or pending
thread); a new priority or domain is in range, as the decoders check; the
thread being suspended is not the pending switch target (the action is
`ResumeCurrentThread` or `ChooseNewThread` when a TCB invocation or a
deletion runs); a yielding thread is running. -/
def pre : sched_op → KernelState → Bool
  | .sched_enqueue t, s | .sched_append t, s | .possible_switch_to t, s =>
    t != 0 && (s.tcbs t).is_schedulable
  | .set_priority t prio, _ => t != 0 && decide (prio < CONFIG_NUM_PRIORITIES)
  | .set_domain t dom, _ => t != 0 && decide (dom < CONFIG_NUM_DOMAINS)
  | .restart t, _ => t != 0
  | .suspend t, s => s.ksSchedulerAction != t
  | .handle_yield, s => (s.tcbs s.ksCurThread).is_schedulable
  | .sched_dequeue _, _ | .reschedule_required, _ | .schedule, _ | .timer_tick, _ => true

variable {s : KernelState}

/-- **Step.** Every operation, called as the kernel calls it, passes its
assertions and keeps the invariant. -/
theorem run_sched_inv (op : sched_op) (h : sched_inv s) (hpre : op.pre s = true) :
    ∃ s', op.run s = some s' ∧ sched_inv s' := by
  cases op <;> simp only [pre, Bool.and_eq_true, bne_iff_ne, ne_eq, decide_eq_true_eq] at hpre
  case sched_enqueue t => exact ⟨_, rfl, sched_inv_sched_enqueue h hpre.1 hpre.2⟩
  case sched_append t => exact ⟨_, rfl, sched_inv_sched_append h hpre.1 hpre.2⟩
  case sched_dequeue t => exact ⟨_, rfl, sched_inv_sched_dequeue h⟩
  case set_priority t prio => exact ⟨_, rfl, sched_inv_set_priority h hpre.1 hpre.2⟩
  case set_domain t dom => exact ⟨_, rfl, sched_inv_set_domain h hpre.1 hpre.2⟩
  case restart t => exact ⟨_, rfl, sched_inv_restart h hpre⟩
  case suspend t => exact ⟨_, rfl, sched_inv_suspend h hpre⟩
  case possible_switch_to t => exact ⟨_, rfl, sched_inv_possible_switch_to h hpre.1 hpre.2⟩
  case reschedule_required => exact ⟨_, rfl, sched_inv_reschedule_required h⟩
  case schedule => exact sched_inv_schedule h
  case timer_tick => exact ⟨_, rfl, sched_inv_timer_tick h⟩
  case handle_yield => exact ⟨_, rfl, sched_inv_handle_yield h hpre⟩

end sched_op

/-- One step of the scheduler: an operation, called as the kernel calls it,
that returns. -/
def sched_step (s s' : KernelState) : Prop :=
  ∃ op : sched_op, op.pre s = true ∧ op.run s = some s'

/-- **Runs.** Every state reached from one that satisfies the invariant
satisfies it. -/
theorem sched_inv_of_reachable {s₀ s : KernelState} (h0 : sched_inv s₀)
    (hr : Relation.ReflTransGen sched_step s₀ s) : sched_inv s := by
  induction hr with
  | refl => exact h0
  | tail _ hst ih =>
    obtain ⟨op, hpre, hrun⟩ := hst
    obtain ⟨s', hs', h'⟩ := op.run_sched_inv ih hpre
    rw [hrun] at hs'
    cases hs'
    exact h'

/-- The kernel boots with every ready queue empty, the bitmaps clear, no
thread queued or linked, and the current and idle threads set. -/
theorem sched_inv_of_empty {s : KernelState} (hrq : ∀ i, s.ksReadyQueues i = ⟨0, 0⟩)
    (hL1 : ∀ d, s.ksReadyQueuesL1Bitmap d = 0) (hL2 : ∀ d i, s.ksReadyQueuesL2Bitmap d i = 0)
    (htcb : ∀ t, (s.tcbs t).tcbState.tcbQueued = 0 ∧ (s.tcbs t).tcbSchedNext = 0 ∧
      (s.tcbs t).tcbSchedPrev = 0 ∧ (s.tcbs t).domain < CONFIG_NUM_DOMAINS ∧
      (s.tcbs t).tcbPriority < CONFIG_NUM_PRIORITIES)
    (hact : s.ksSchedulerAction = SCHEDULER_ACTION_RESUME_CURRENT_THREAD)
    (hcur : s.ksCurThread ≠ 0) (hidle : s.ksIdleThread ≠ 0) : sched_inv s := by
  have hv : valid_queues s fun _ _ => [] := by
    refine ⟨fun d p _ _ => ?_, fun d p t _ _ => ?_, fun t _ => ?_, fun t => ?_⟩
    · unfold ReadyQueue SchedQueue
      rw [hrq]
      exact Queue.empty
    · simp [queued_in, (htcb t).1]
    · exact ⟨(htcb t).2.1, (htcb t).2.2.1⟩
    · obtain ⟨h0, -, -, hd, hp⟩ := htcb t
      exact ⟨by omega, hd, hp⟩
  refine ⟨⟨_, hv⟩, ⟨fun d p _ _ => ?_, fun d i _ _ => ?_, fun d i => ?_, fun d => ?_⟩,
    fun t ht => ?_, fun h1 _ => absurd hact h1, hcur, hidle⟩
  · simp [hL2, hrq]
  · simp [hL1, hL2]
  · rw [hL2]; exact Nat.two_pow_pos _
  · rw [hL1]; exact Nat.two_pow_pos _
  · rw [(htcb t).1] at ht; exact absurd ht (by decide)

/-- **The ready queues stay sound.** From any state the scheduler's operations
reach from one that satisfies the invariant, each operation called as the
kernel calls it returns, and leaves every ready queue a well-formed list of
exactly its queued threads, unqueued threads unlinked, queued threads
runnable, and the bitmaps in step with the queues. -/
theorem sched_op_keeps_ready_queues {s₀ s : KernelState} (h0 : sched_inv s₀)
    (hr : Relation.ReflTransGen sched_step s₀ s) (op : sched_op) (hpre : op.pre s = true) :
    ∃ s', op.run s = some s' ∧ sched_inv s' :=
  op.run_sched_inv (sched_inv_of_reachable h0 hr) hpre

/-- A booted kernel: thread `0x1000` is current and idle, nothing is queued. -/
def bootState : KernelState := { ksCurThread := 0x1000, ksIdleThread := 0x1000 }

theorem sched_inv_bootState : sched_inv bootState :=
  sched_inv_of_empty (fun _ => rfl) (fun _ => rfl) (fun _ _ => rfl)
    (fun _ => ⟨rfl, rfl, rfl, (by decide : 0 < CONFIG_NUM_DOMAINS), (by decide : 0 < CONFIG_NUM_PRIORITIES)⟩)
    rfl (by decide) (by decide)

theorem sched_op_keeps_ready_queues_restart_schedule :
    ∃ s', sched_op.schedule.run (restart bootState 0x2200) = some s' ∧ sched_inv s' :=
  sched_op_keeps_ready_queues sched_inv_bootState
    (Relation.ReflTransGen.single ⟨.restart 0x2200, rfl, rfl⟩) .schedule rfl

end Rel4Kernel
