/-
What the refills of a scheduling context keep (`sched_context.rs`,
`scheduler.rs`, MCS), said of the list of refills that `Task.Refill` reads
off the ring.

A sporadic scheduling context configured with a budget keeps `refill_inv`:
its refills follow each other in time without overlap, each holds some
budget, they hold the configured budget between them, and the head holds at
least `min_budget`. A round-robin one (period 0) keeps `round_robin_inv`:
the budget in two refills. Each operation is proved once against the list
(`schedule_used`, the three parts of `refill_budget_check`, the merge of
`refill_unblock_check`), and `refills_run` collects the life of a scheduling
context from its configuration, over which the invariant and the progress of
every loop are proved.
-/
import Rel4Kernel.Task.Refill

set_option autoImplicit false

namespace Rel4Kernel

open Function

open sched_context_t

/-! ## Refills as windows of time

The list-level statement of what the refills keep, and how the list
operations that the ring writes amount to keep it. -/

/-- Each refill ends no later than the next one begins. -/
def refills_ordered (l : List refill_t) : Prop := l.IsChain fun a b => a.rTime + a.rAmount ≤ b.rTime

/-- The budget the refills hold between them. -/
def refills_budget (l : List refill_t) : Nat := (l.map refill_t.rAmount).sum

section Windows

variable {l : List refill_t} {x y : refill_t}

@[simp] theorem refills_budget_nil : refills_budget [] = 0 := rfl

@[simp] theorem refills_budget_cons : refills_budget (x :: l) = x.rAmount + refills_budget l := by
  simp [refills_budget]

@[simp] theorem refills_budget_append (l₁ l₂ : List refill_t) :
    refills_budget (l₁ ++ l₂) = refills_budget l₁ + refills_budget l₂ := by
  simp [refills_budget]

theorem refills_ordered.tail (h : refills_ordered l) : refills_ordered l.tail := List.IsChain.tail h

/-- A first refill that ends no later keeps the order. -/
theorem refills_ordered.cons_of_le (h : refills_ordered (x :: l))
    (hy : y.rTime + y.rAmount ≤ x.rTime + x.rAmount) : refills_ordered (y :: l) := by
  rw [refills_ordered, List.isChain_cons] at h ⊢
  exact ⟨fun z hz => hy.trans (h.1 z hz), h.2⟩

/-- A last refill that starts no earlier keeps the order. -/
theorem refills_ordered.snoc_of_le (h : refills_ordered (l ++ [x])) (hy : x.rTime ≤ y.rTime) :
    refills_ordered (l ++ [y]) := by
  rw [refills_ordered, List.isChain_append] at h ⊢
  refine ⟨h.1, List.isChain_singleton y, fun a ha b hb => ?_⟩
  rw [List.head?_cons, Option.mem_some_iff] at hb
  subst hb
  exact (h.2.2 a ha x rfl).trans hy

/-- A refill that starts after the last one ends can follow it. -/
theorem refills_ordered.append (h : refills_ordered l)
    (hy : ∀ z ∈ l.getLast?, z.rTime + z.rAmount ≤ y.rTime) : refills_ordered (l ++ [y]) :=
  List.IsChain.append h (List.isChain_singleton y) fun a ha b hb => by
    rw [List.head?_cons, Option.mem_some_iff] at hb
    exact hb ▸ hy a ha

/-- Refills in order, each with some budget, start one after the other. -/
theorem refills_ordered.rTime_lt (h : refills_ordered l) (hpos : ∀ r ∈ l, 0 < r.rAmount) :
    l.IsChain fun a b => a.rTime < b.rTime :=
  List.IsChain.imp_of_mem_imp (fun a _ ha _ hab => by have := hpos a ha; omega) h

end Windows

namespace sched_context_t

/-! ## The ring's list: head, budget and `refill_sum` -/

section RefillList

variable {sc : sched_context_t}

theorem refill_head_mem : sc.refill_head ∈ sc.refill_list := by
  rw [refill_list_eq_cons]
  exact List.mem_cons_self

/-- The budget of the ring is its head's and the rest's. -/
theorem refills_budget_head :
    refills_budget sc.refill_list = sc.refill_head.rAmount + refills_budget sc.refill_list.tail := by
  conv_lhs => rw [refill_list_eq_cons]
  exact refills_budget_cons

/-- The list of a single refill rewritten. -/
theorem refill_list_set_single (hs : sc.scRefillHead = sc.scRefillTail) (r : refill_t) :
    (sc.set_refill sc.scRefillHead r).refill_list = [r] := by
  rw [@refill_list_of_single (sc.set_refill sc.scRefillHead r) hs, set_refill_refill_head]

theorem refill_single_iff : sc.refill_single = true ↔ sc.scRefillHead = sc.scRefillTail := by
  simp [refill_single]

/-- A write to another slot than the tail leaves the tail. -/
theorem set_refill_refill_tail_of_ne {i : Nat} (hi : i ≠ sc.scRefillTail) (r : refill_t) :
    (sc.set_refill i r).refill_tail = sc.refill_tail := by
  simp [set_refill, refill_tail, refill_index, Ne.symm hi]

/-- A write to another slot than the head leaves the head. -/
theorem set_refill_refill_head_of_ne {i : Nat} (hi : i ≠ sc.scRefillHead) (r : refill_t) :
    (sc.set_refill i r).refill_head = sc.refill_head := by
  simp [set_refill, refill_head, refill_index, Ne.symm hi]

/-- The head is the first refill of the list. -/
theorem refill_head_eq_of_list {r : refill_t} {l : List refill_t} (h : sc.refill_list = r :: l) :
    sc.refill_head = r := by
  rw [refill_list_eq_cons] at h
  exact (List.cons.inj h).1

/-- The loop of `refill_sum` from a slot of the ring adds the refills after
it up to the tail. The induction is on the slots left. -/
theorem refill_sum_loop_eq (hr : sc.refill_ring) {n : Nat} : ∀ {current fuel acc : Nat},
    current < sc.scRefillMax → Ring.size sc.scRefillMax current sc.scRefillTail = n + 1 → n ≤ fuel →
    sc.refill_sum_loop fuel current acc =
      acc + refills_budget (Ring.toList sc.refills sc.scRefillMax current sc.scRefillTail).tail := by
  induction n with
  | zero =>
    intro current fuel acc hc hn _
    rw [Ring.eq_of_size_eq_one hc hn, Ring.toList_self]
    cases fuel <;> simp [refill_sum_loop]
  | succ n ih =>
    intro current fuel acc hc hn hfuel
    have hne : current ≠ sc.scRefillTail := by
      rintro rfl
      simp [Ring.size] at hn
    have hnext : Ring.size sc.scRefillMax (Ring.next sc.scRefillMax current) sc.scRefillTail = n + 1 := by
      have := Ring.size_next_head hc hr.tail_lt hne
      omega
    obtain ⟨fuel, rfl⟩ : ∃ f, fuel = f + 1 := ⟨fuel - 1, by omega⟩
    have hloop : sc.refill_sum_loop (fuel + 1) current acc =
        sc.refill_sum_loop fuel (Ring.next sc.scRefillMax current)
          (acc + (sc.refills (Ring.next sc.scRefillMax current)).rAmount) := by
      simp only [refill_sum_loop, ne_eq, hne, not_false_eq_true, if_true]
      rfl
    -- the refills after `current` are the one after it and those after that
    have htail : (Ring.toList sc.refills sc.scRefillMax current sc.scRefillTail).tail =
        sc.refills (Ring.next sc.scRefillMax current) ::
          (Ring.toList sc.refills sc.scRefillMax (Ring.next sc.scRefillMax current) sc.scRefillTail).tail := by
      rw [← Ring.toList_next_head hc hr.tail_lt _ hne]
      conv_lhs => rw [Ring.toList_eq_cons]
      rw [Ring.toList_eq_cons, List.tail_cons]
    rw [hloop, ih (Ring.next_lt hc) hnext (by omega), htail, refills_budget_cons, Nat.add_assoc]

/-- **`refill_sum`** is the budget of the ring's list. -/
theorem refill_sum_eq (hr : sc.refill_ring) : sc.refill_sum = refills_budget sc.refill_list := by
  obtain ⟨n, hn⟩ : ∃ n, sc.refill_size = n + 1 := ⟨_, (Nat.succ_pred_eq_of_pos Ring.size_pos).symm⟩
  have hle := refill_size_le hr
  rw [refill_sum, refill_sum_loop_eq hr hr.head_lt hn (by omega), refills_budget_head]
  rfl

/-- A ring of two refills is its head and its tail. -/
theorem refill_list_of_size_two (hr : sc.refill_ring) (h2 : sc.refill_size = 2) :
    sc.refill_list = [sc.refill_head, sc.refill_tail] := by
  obtain ⟨a, b, hab⟩ := List.length_eq_two.mp (refill_list_length.trans h2)
  have hsnoc := refill_list_eq_snoc hr
  rw [hab] at hsnoc
  simp only [List.dropLast_cons_cons, List.dropLast_singleton, List.cons_append, List.nil_append,
    List.cons.injEq, and_true, true_and] at hsnoc
  rw [hab, refill_head_eq_of_list hab, hsnoc]

end RefillList

end sched_context_t

/-! ## What the refills keep -/

namespace sched_context_t

/-- A ring whose refills follow each other in time, each with some budget. -/
structure refills_ok (sc : sched_context_t) : Prop where
  ring : sc.refill_ring
  ordered : refills_ordered sc.refill_list
  pos : ∀ r ∈ sc.refill_list, 0 < r.rAmount

/-- **What a sporadic scheduling context keeps**, configured with `budget`:
its refills follow each other in time and hold the budget between them, and
the head holds at least `min_budget`. -/
structure refill_inv (budget : Nat) (sc : sched_context_t) : Prop extends sc.refills_ok where
  max_ge : MIN_REFILLS ≤ sc.scRefillMax
  sum : refills_budget sc.refill_list = budget
  head_ge : min_budget ≤ sc.refill_head.rAmount

/-- What a round-robin scheduling context keeps: its budget in the head and
one more refill. -/
structure round_robin_inv (budget : Nat) (sc : sched_context_t) : Prop where
  ring : sc.refill_ring
  max_ge : MIN_REFILLS ≤ sc.scRefillMax
  sum : refills_budget sc.refill_list = budget
  head_ge : min_budget ≤ sc.refill_head.rAmount
  size : sc.refill_size = MIN_REFILLS

theorem min_budget_pos : 0 < min_budget := by decide

/-- What the refills of a scheduling context configured with `budget` keep,
by its kind. -/
structure configured_inv (budget : Nat) (sc : sched_context_t) : Prop where
  round_robin : sc.is_round_robin = true → sc.round_robin_inv budget
  sporadic : sc.is_round_robin = false → sc.refill_inv budget

theorem configured_inv.of_sporadic {budget : Nat} {sc : sched_context_t} (hrr : sc.is_round_robin = false)
    (h : sc.refill_inv budget) : configured_inv budget sc :=
  ⟨fun h' => by simp [hrr] at h', fun _ => h⟩

theorem configured_inv.of_round_robin {budget : Nat} {sc : sched_context_t} (hrr : sc.is_round_robin = true)
    (h : sc.round_robin_inv budget) : configured_inv budget sc :=
  ⟨fun _ => h, fun h' => by simp [hrr] at h'⟩

/-- Either way the head holds at least `min_budget`. -/
theorem configured_inv.head_ge {budget : Nat} {sc : sched_context_t} (h : configured_inv budget sc) :
    min_budget ≤ sc.refill_head.rAmount := by
  cases hrr : sc.is_round_robin
  · exact (h.sporadic hrr).head_ge
  · exact (h.round_robin hrr).head_ge

/-- Either way the refills lie in a ring inside the buffer. -/
theorem configured_inv.ring {budget : Nat} {sc : sched_context_t} (h : configured_inv budget sc) :
    sc.refill_ring := by
  cases hrr : sc.is_round_robin
  · exact (h.sporadic hrr).ring
  · exact (h.round_robin hrr).ring

/-- Either way the refills hold the budget between them. -/
theorem configured_inv.sum {budget : Nat} {sc : sched_context_t} (h : configured_inv budget sc) :
    refills_budget sc.refill_list = budget := by
  cases hrr : sc.is_round_robin
  · exact (h.sporadic hrr).sum
  · exact (h.round_robin hrr).sum

/-- The fields the refills live in: a write to the others (the bound
thread, the badge, the time consumed) leaves what the refills keep. -/
structure same_refills (sc sc' : sched_context_t) : Prop where
  period : sc'.scPeriod = sc.scPeriod
  max : sc'.scRefillMax = sc.scRefillMax
  head : sc'.scRefillHead = sc.scRefillHead
  tail : sc'.scRefillTail = sc.scRefillTail
  refills : sc'.refills = sc.refills

theorem configured_inv.of_same_refills {budget : Nat} {sc sc' : sched_context_t} (h : configured_inv budget sc)
    (he : same_refills sc sc') : configured_inv budget sc' := by
  obtain ⟨hp, hm, hh, ht, hr⟩ := he
  cases sc
  cases sc'
  simp only at hp hm hh ht hr
  subst hp hm hh ht hr
  -- the two records now differ only in fields no invariant reads
  refine ⟨fun hrr => ?_, fun hrr => ?_⟩
  · have r := h.round_robin hrr
    exact ⟨⟨r.ring.1, r.ring.2⟩, r.max_ge, r.sum, r.head_ge, r.size⟩
  · have r := h.sporadic hrr
    exact ⟨⟨⟨r.ring.1, r.ring.2⟩, r.ordered, r.pos⟩, r.max_ge, r.sum, r.head_ge⟩

/-! ### `schedule_used` -/

section ScheduleUsed

variable {sc sc' : sched_context_t} {t a : Nat}

/-- `schedule_used` never fails on a ring: a new refill is added only where
there is room. -/
theorem schedule_used_isSome (hr : sc.refill_ring) (t a : Nat) : ∃ sc', sc.schedule_used t a = some sc' := by
  unfold schedule_used
  split_ifs with hmerge hfull
  · exact ⟨_, rfl⟩
  · have hlt : sc.refill_size < sc.scRefillMax := by
      have := refill_size_le hr
      simp [refill_full] at hfull
      omega
    exact ⟨_, refill_add_tail_of_lt hr hlt t a⟩
  · exact ⟨_, rfl⟩

/-- `schedule_used` brings `a` back in the last refill, a new one, or a last
one moved later, and keeps the order. -/
theorem schedule_used_inv (h : sc.refills_ok) (ha : 0 < a) (hs : sc.schedule_used t a = some sc') :
    sc'.refills_ok ∧ refills_budget sc'.refill_list = refills_budget sc.refill_list + a ∧
      sc'.scRefillMax = sc.scRefillMax ∧ sc'.scPeriod = sc.scPeriod := by
  have hsnoc := refill_list_eq_snoc h.ring
  have hord := h.ordered
  have hpos := h.pos
  rw [hsnoc] at hord hpos
  -- the last refill rewritten to `y`, longer than it was
  have hlast : ∀ y : refill_t, sc.refill_tail.rAmount ≤ y.rAmount →
      (∀ r ∈ (sc.set_refill sc.scRefillTail y).refill_list, 0 < r.rAmount) := by
    intro y hy r hr
    rw [refill_list_set_tail h.ring, List.mem_append, List.mem_singleton] at hr
    rcases hr with hr | rfl
    · exact hpos r (List.mem_append_left _ hr)
    · have := hpos _ (List.mem_append_right _ (List.mem_singleton_self _))
      omega
  unfold schedule_used at hs
  split_ifs at hs with hmerge hfull
  · -- the last refill reaches the new one: merged into it
    cases hs
    have hl := refill_list_set_tail h.ring { sc.refill_tail with rAmount := sc.refill_tail.rAmount + a }
    refine ⟨⟨h.ring.set _ _, ?_, hlast _ (by simp)⟩, ?_, rfl, rfl⟩
    · rw [hl]
      exact hord.snoc_of_le le_rfl
    · rw [hl, hsnoc]
      simp
      omega
  · -- room for a new last refill
    have hlt : sc.refill_size < sc.scRefillMax := by
      have := refill_size_le h.ring
      simp [refill_full] at hfull
      omega
    rw [refill_add_tail_of_lt h.ring hlt] at hs
    cases hs
    have hl := refill_list_add_tail h.ring hlt ⟨t, a⟩
    refine ⟨⟨refill_ring_add_tail h.ring _, ?_, ?_⟩, ?_, rfl, rfl⟩
    · rw [hl]
      refine h.ordered.append fun z hz => ?_
      rw [hsnoc, List.getLast?_concat, Option.mem_some_iff] at hz
      subst hz
      dsimp only
      omega
    · rw [hl]
      intro r hr
      rcases List.mem_append.mp hr with hr | hr
      · exact h.pos r hr
      · rw [List.mem_singleton] at hr
        subst hr
        exact ha
    · rw [hl, refills_budget_append]
      simp
  · -- a full ring: the last refill moves later
    simp only [set_refill_refill_tail, set_refill_scRefillTail, set_refill_set_refill, Option.some.injEq] at hs
    subst hs
    have hl := refill_list_set_tail h.ring ⟨t - sc.refill_tail.rAmount, sc.refill_tail.rAmount + a⟩
    refine ⟨⟨h.ring.set _ _, ?_, hlast _ (by simp)⟩, ?_, rfl, rfl⟩
    · rw [hl]
      refine hord.snoc_of_le ?_
      dsimp only
      omega
    · rw [hl, hsnoc]
      simp
      omega

/-- **`schedule_used`** on a ring whose refills are in order, with an amount
to bring back: it returns, and what it returns is in order and holds that
much more. -/
theorem schedule_used_ok (h : sc.refills_ok) (ha : 0 < a) :
    ∃ sc', sc.schedule_used t a = some sc' ∧ sc'.refills_ok ∧
      refills_budget sc'.refill_list = refills_budget sc.refill_list + a ∧
      sc'.scRefillMax = sc.scRefillMax ∧ sc'.scPeriod = sc.scPeriod := by
  obtain ⟨sc', hs⟩ := schedule_used_isSome h.ring t a
  exact ⟨sc', hs, schedule_used_inv h ha hs⟩

end ScheduleUsed

/-! ### `refill_budget_check` -/

section BudgetCheck

variable {sc : sched_context_t}

/-- **The first loop of `refill_budget_check`**, with more fuel than usage:
each turn takes a whole refill, which comes back a period later, so the
usage goes down by at least a tick and the budget stays. It ends with less
usage than the head holds, unless the head is past `max_release_time`. -/
theorem charge_whole_refills_ok {fuel usage : Nat} (h : sc.refills_ok) (hfuel : usage < fuel) :
    ∃ sc' usage', charge_whole_refills fuel sc usage = some (sc', usage') ∧ sc'.refills_ok ∧
      refills_budget sc'.refill_list = refills_budget sc.refill_list ∧
      sc'.scRefillMax = sc.scRefillMax ∧ sc'.scPeriod = sc.scPeriod ∧
      (sc'.refill_head.rTime < max_release_time → usage' < sc'.refill_head.rAmount) := by
  -- induction on the fuel, with the state and the usage left general
  induction fuel generalizing sc usage with
  | zero => omega
  | succ fuel ih =>
    have hpos : 0 < sc.refill_head.rAmount := h.pos _ refill_head_mem
    rw [charge_whole_refills]
    split_ifs with hcharge hsingle
    · -- a single refill: it comes back a period later
      have hs := refill_single_iff.mp hsingle
      have hl := refill_list_set_single hs { sc.refill_head with rTime := sc.refill_head.rTime + sc.scPeriod }
      have h1 : (sc.set_refill sc.scRefillHead
          { sc.refill_head with rTime := sc.refill_head.rTime + sc.scPeriod }).refills_ok :=
        ⟨h.ring.set _ _, by rw [hl]; exact List.isChain_singleton _, by rw [hl]; simpa using hpos⟩
      obtain ⟨sc', usage', hrun, hok, hsum, hmax, hper, hexit⟩ := @ih _ (usage - sc.refill_head.rAmount) h1 (by omega)
      refine ⟨sc', usage', hrun, hok, ?_, hmax, hper, hexit⟩
      rw [hsum, hl, refill_list_of_single hs]
      simp
    · -- more than one: the head is popped, written back a period later, and brought back
      have hne : sc.scRefillHead ≠ sc.scRefillTail := fun e => hsingle (refill_single_iff.mpr e)
      rw [refill_pop_head_of_ne h.ring hne]
      dsimp only
      have hl := refill_list_next_head_set h.ring hne
        { sc.refill_head with rTime := sc.refill_head.rTime + sc.scPeriod }
      have h1 : (({ sc with scRefillHead := sc.refill_next sc.scRefillHead } : sched_context_t).set_refill
          sc.scRefillHead { sc.refill_head with rTime := sc.refill_head.rTime + sc.scPeriod }).refills_ok :=
        ⟨(refill_ring_next_head h.ring).set _ _, by rw [hl]; exact h.ordered.tail,
          fun r hr => h.pos r (List.mem_of_mem_tail (hl ▸ hr))⟩
      obtain ⟨sc2, hs2, h2, hsum2, hmax2, hper2⟩ := schedule_used_ok (t := sc.refill_head.rTime + sc.scPeriod) h1 hpos
      obtain ⟨sc', usage', hrun, hok, hsum, hmax, hper, hexit⟩ := @ih _ (usage - sc.refill_head.rAmount) h2 (by omega)
      refine ⟨sc', usage', ?_, hok, ?_, hmax.trans hmax2, hper.trans hper2, hexit⟩
      · rw [hs2, Option.bind_some]
        exact hrun
      · rw [hsum, hsum2, hl, @refills_budget_head sc]
        omega
    · exact ⟨sc, usage, rfl, h, rfl, rfl, rfl, fun hlt => by omega⟩

/-- **The middle of `refill_budget_check`**: the usage left, less than the
head, is cut from the front of the head and comes back a period later. The
head still ends where it did, so the order stays. -/
theorem charge_part_of_head_ok {usage : Nat} (h : sc.refills_ok)
    (hu : sc.refill_head.rTime < max_release_time → usage < sc.refill_head.rAmount) :
    ∃ sc', charge_part_of_head sc usage = some sc' ∧ sc'.refills_ok ∧
      refills_budget sc'.refill_list = refills_budget sc.refill_list ∧
      sc'.scRefillMax = sc.scRefillMax ∧ sc'.scPeriod = sc.scPeriod := by
  unfold charge_part_of_head
  split_ifs with hcharge hcover
  · -- the assertion that the head covers the usage holds
    omega
  · simp only [set_refill_refill_head, set_refill_scRefillHead, set_refill_set_refill]
    have hlt := hu hcharge.2
    have hl := refill_list_set_head h.ring ⟨sc.refill_head.rTime + usage, sc.refill_head.rAmount - usage⟩
    have hord := h.ordered
    rw [refill_list_eq_cons] at hord
    have h1 : (sc.set_refill sc.scRefillHead
        ⟨sc.refill_head.rTime + usage, sc.refill_head.rAmount - usage⟩).refills_ok := by
      refine ⟨h.ring.set _ _, ?_, ?_⟩
      · rw [hl]
        exact hord.cons_of_le (by dsimp only; omega)
      · rw [hl]
        intro r hr
        rcases List.mem_cons.mp hr with rfl | hr
        · dsimp only
          omega
        · exact h.pos r (List.mem_of_mem_tail hr)
    obtain ⟨sc', hs, h', hsum, hmax, hper⟩ :=
      schedule_used_ok (t := sc.refill_head.rTime + sc.scPeriod) h1 hcharge.1
    refine ⟨sc', hs, h', ?_, hmax, hper⟩
    rw [hsum, hl, refills_budget_cons, @refills_budget_head sc]
    dsimp only
    omega
  · exact ⟨sc, rfl, h, rfl, rfl, rfl⟩

/-- **The last loop of `refill_budget_check`**, with as much fuel as
refills: while the head holds less than `min_budget` it takes in the next
refill and starts that much earlier, so it ends where that refill ended. The
ring is never a single refill there, since it holds a budget of at least
`min_budget`. -/
theorem merge_up_to_min_budget_ok {fuel : Nat} (h : sc.refills_ok)
    (hb : min_budget ≤ refills_budget sc.refill_list) (hfuel : sc.refill_size ≤ fuel) :
    ∃ sc', merge_up_to_min_budget fuel sc = some sc' ∧ sc'.refills_ok ∧
      refills_budget sc'.refill_list = refills_budget sc.refill_list ∧ min_budget ≤ sc'.refill_head.rAmount ∧
      sc'.scRefillMax = sc.scRefillMax ∧ sc'.scPeriod = sc.scPeriod := by
  -- induction on the fuel; each turn takes one refill off the ring
  induction fuel generalizing sc with
  | zero =>
    have : 0 < sc.refill_size := Ring.size_pos
    omega
  | succ fuel ih =>
    rw [merge_up_to_min_budget]
    split_ifs with hlow
    · have hne : sc.scRefillHead ≠ sc.scRefillTail := by
        intro hs
        rw [refill_list_of_single hs, refills_budget_cons, refills_budget_nil] at hb
        omega
      rw [refill_pop_head_of_ne h.ring hne]
      -- the ring after the pop, and its head: the refill after the old head
      set sc1 : sched_context_t := { sc with scRefillHead := sc.refill_next sc.scRefillHead }
      simp only [set_refill_refill_head, set_refill_scRefillHead, set_refill_set_refill]
      have hr1 : sc1.refill_ring := refill_ring_next_head h.ring
      have hl1 : sc1.refill_list = sc.refill_list.tail := refill_list_next_head h.ring hne
      have hsize : sc1.refill_size + 1 = sc.refill_size := Ring.size_next_head h.ring.head_lt h.ring.tail_lt hne
      have hcons : sc.refill_list = sc.refill_head :: sc1.refill_head :: sc1.refill_list.tail := by
        rw [← refill_list_eq_cons, hl1, ← refill_list_eq_cons]
      have hord := h.ordered
      rw [hcons, refills_ordered, List.isChain_cons_cons] at hord
      set y : refill_t := ⟨sc1.refill_head.rTime - sc.refill_head.rAmount,
        sc1.refill_head.rAmount + sc.refill_head.rAmount⟩
      have hl := refill_list_set_head hr1 y
      have h1 : (sc1.set_refill sc1.scRefillHead y).refills_ok := by
        refine ⟨hr1.set _ _, ?_, ?_⟩
        · rw [hl]
          refine refills_ordered.cons_of_le (x := sc1.refill_head) hord.2 ?_
          dsimp only [y]
          omega
        · rw [hl]
          intro r hr
          rcases List.mem_cons.mp hr with rfl | hr
          · have := h.pos _ refill_head_mem
            dsimp only [y]
            omega
          · exact h.pos r (by rw [hcons]; exact List.mem_cons_of_mem _ (List.mem_cons_of_mem _ hr))
      have hsum1 : refills_budget (sc1.set_refill sc1.scRefillHead y).refill_list =
          refills_budget sc.refill_list := by
        rw [hl, hcons, refills_budget_cons, refills_budget_cons, refills_budget_cons]
        dsimp only [y]
        omega
      obtain ⟨sc', hrun, h', hsum, hge, hmax, hper⟩ := ih h1 (hsum1 ▸ hb) (by
        show sc1.refill_size ≤ fuel
        omega)
      exact ⟨sc', hrun, h', hsum.trans hsum1, hge, hmax, hper⟩
    · exact ⟨sc, rfl, h, rfl, by omega, rfl, rfl⟩

/-- The budget of a sporadic context is at least `min_budget`: its head
holds that much. -/
theorem refill_inv.min_budget_le {budget : Nat} (h : sc.refill_inv budget) : min_budget ≤ budget :=
  calc min_budget ≤ sc.refill_head.rAmount := h.head_ge
    _ ≤ refills_budget sc.refill_list := by rw [refills_budget_head]; omega
    _ = budget := h.sum

/-- **`refill_budget_check`** on a sporadic context, with more fuel than
usage and than the ring has slots: it returns, its assertion holds, and it
keeps `refill_inv`. -/
theorem refill_budget_check_ok {fuel usage budget : Nat} (h : sc.refill_inv budget)
    (hrr : sc.is_round_robin = false) (hfuel : usage < fuel) (hmax : sc.scRefillMax ≤ fuel) :
    ∃ sc', refill_budget_check fuel sc usage = some sc' ∧ sc'.refill_inv budget ∧
      sc'.scPeriod = sc.scPeriod := by
  obtain ⟨sc1, u1, h1run, h1, hsum1, hmax1, hper1, hexit⟩ := charge_whole_refills_ok h.torefills_ok hfuel
  obtain ⟨sc2, h2run, h2, hsum2, hmax2, hper2⟩ := charge_part_of_head_ok h1 hexit
  have hsum : refills_budget sc2.refill_list = budget := by rw [hsum2, hsum1, h.sum]
  have hsize : sc2.refill_size ≤ fuel := by
    have := refill_size_le h2.ring
    omega
  obtain ⟨sc3, h3run, h3, hsum3, hge3, hmax3, hper3⟩ :=
    merge_up_to_min_budget_ok h2 (hsum ▸ h.min_budget_le) hsize
  refine ⟨sc3, ?_, ⟨h3, ?_, hsum3.trans hsum, hge3⟩, ?_⟩
  · simp [refill_budget_check, hrr, h1run, h2run, h3run]
  · rw [hmax3, hmax2, hmax1]
    exact h.max_ge
  · rw [hper3, hper2, hper1]

end BudgetCheck

/-! ### `refill_unblock_check` -/

section UnblockCheck

variable {sc : sched_context_t}

/-- With no usage, the head is sufficient when it holds `min_budget`. -/
theorem refill_sufficient_zero : sc.refill_sufficient 0 = decide (min_budget ≤ sc.refill_head.rAmount) := by
  simp [refill_sufficient, refill_capacity]

/-- **The loop of `refill_unblock_check`**, with as much fuel as refills:
the head takes in each refill it runs into and keeps its start. The refills
after the head are in order throughout, and when the loop stops the head ends
before the next one starts, so then the whole ring is. -/
theorem merge_overlapping_ok {fuel : Nat} (hr : sc.refill_ring) (hord : refills_ordered sc.refill_list.tail)
    (hpos : ∀ r ∈ sc.refill_list, 0 < r.rAmount) (hfuel : sc.refill_size ≤ fuel) :
    ∃ sc', sc.merge_overlapping fuel = some sc' ∧ sc'.refills_ok ∧
      refills_budget sc'.refill_list = refills_budget sc.refill_list ∧
      sc.refill_head.rAmount ≤ sc'.refill_head.rAmount ∧
      sc'.scRefillMax = sc.scRefillMax ∧ sc'.scPeriod = sc.scPeriod := by
  -- induction on the fuel; each merge takes one refill off the ring
  induction fuel generalizing sc with
  | zero =>
    have : 0 < sc.refill_size := Ring.size_pos
    omega
  | succ fuel ih =>
    by_cases hs : sc.scRefillHead = sc.scRefillTail
    · -- a single refill runs into nothing
      have hover : sc.refill_head_overlapping = false := by
        simp [refill_head_overlapping, refill_single_iff.mpr hs]
      rw [merge_overlapping, if_neg (by simp [hover])]
      refine ⟨sc, rfl, ⟨hr, ?_, hpos⟩, rfl, le_rfl, rfl, rfl⟩
      rw [refill_list_of_single hs]
      exact List.isChain_singleton _
    · -- the ring after a pop, whose head is the refill after the old head
      set sc1 : sched_context_t := { sc with scRefillHead := sc.refill_next sc.scRefillHead }
      have hr1 : sc1.refill_ring := refill_ring_next_head hr
      have hl1 : sc1.refill_list = sc.refill_list.tail := refill_list_next_head hr hs
      have hsize : sc1.refill_size + 1 = sc.refill_size := Ring.size_next_head hr.head_lt hr.tail_lt hs
      have hcons : sc.refill_list = sc.refill_head :: sc1.refill_head :: sc1.refill_list.tail := by
        rw [← refill_list_eq_cons, hl1, ← refill_list_eq_cons]
      have hmem : ∀ r ∈ sc1.refill_list, r ∈ sc.refill_list := fun r hr' =>
        List.mem_of_mem_tail (hl1 ▸ hr')
      rw [merge_overlapping]
      split_ifs with hover
      · -- the head runs into the next refill: they merge at the head's start
        simp only [refill_pop_head_of_ne hr hs]
        set y : refill_t := { sc1.refill_head with
          rTime := sc.refill_head.rTime, rAmount := sc1.refill_head.rAmount + sc.refill_head.rAmount }
        have hl := refill_list_set_head hr1 y
        have hord1 : refills_ordered (sc1.set_refill sc1.scRefillHead y).refill_list.tail := by
          rw [hl, List.tail_cons]
          rw [← hl1] at hord
          exact hord.tail
        have hpos1 : ∀ r ∈ (sc1.set_refill sc1.scRefillHead y).refill_list, 0 < r.rAmount := by
          rw [hl]
          intro r hr'
          rcases List.mem_cons.mp hr' with rfl | hr'
          · have := hpos _ refill_head_mem
            dsimp only [y]
            omega
          · exact hpos r (hmem r (List.mem_of_mem_tail hr'))
        obtain ⟨sc', hm, h', hsum, hge, hmax, hper⟩ := ih (hr1.set _ _) hord1 hpos1 (by
          show sc1.refill_size ≤ fuel
          omega)
        refine ⟨sc', hm, h', ?_, ?_, hmax, hper⟩
        · rw [hsum, hl, hcons, refills_budget_cons, refills_budget_cons, refills_budget_cons]
          dsimp only [y]
          omega
        · have : y.rAmount ≤ sc'.refill_head.rAmount := by simpa using hge
          dsimp only [y] at this
          omega
      · -- the head ends before the next refill starts: the whole ring is in order
        have hsf : sc.refill_single = false := by simpa [refill_single] using hs
        have hgap : sc.refill_head.rTime + sc.refill_head.rAmount < sc1.refill_head.rTime := by
          simp [refill_head_overlapping, hsf] at hover
          exact hover
        refine ⟨sc, rfl, ⟨hr, ?_, hpos⟩, rfl, le_rfl, rfl, rfl⟩
        rw [← hl1, refill_list_eq_cons] at hord
        rw [hcons, refills_ordered, List.isChain_cons_cons]
        exact ⟨hgap.le, hord⟩

end UnblockCheck

/-! ### Charging: `charge_budget` and `commit_time` -/

section Charge

variable {sc sc' : sched_context_t} {budget : Nat}

/-- Budget moved between the two refills of a round-robin context, the head
keeping `min_budget` and the total staying, keeps `round_robin_inv`. -/
theorem round_robin_inv.set (h : sc.round_robin_inv budget) (x y : refill_t)
    (hx : min_budget ≤ x.rAmount) (hsum : x.rAmount + y.rAmount = budget) :
    ((sc.set_refill sc.scRefillHead x).set_refill sc.scRefillTail y).round_robin_inv budget := by
  have hne : sc.scRefillHead ≠ sc.scRefillTail := by
    intro hs
    have := h.size
    rw [← refill_list_length, refill_list_of_single hs] at this
    simp [MIN_REFILLS] at this
  have hr := (h.ring.set sc.scRefillHead x).set sc.scRefillTail y
  have hl := refill_list_of_size_two hr h.size
  have ht : ((sc.set_refill sc.scRefillHead x).set_refill sc.scRefillTail y).refill_tail = y :=
    @set_refill_refill_tail (sc.set_refill sc.scRefillHead x) y
  have hh : ((sc.set_refill sc.scRefillHead x).set_refill sc.scRefillTail y).refill_head = x := by
    rw [@set_refill_refill_head_of_ne (sc.set_refill sc.scRefillHead x) _ (Ne.symm hne), set_refill_refill_head]
  rw [ht, hh] at hl
  refine ⟨hr, h.max_ge, ?_, ?_, h.size⟩
  · rw [hl]
    simp [hsum]
  · rw [refill_head_eq_of_list hl]
    exact hx

/-- The two refills of a round-robin context hold its budget. -/
theorem round_robin_inv.sum_two (h : sc.round_robin_inv budget) :
    sc.refill_head.rAmount + sc.refill_tail.rAmount = budget := by
  have := h.sum
  rw [refill_list_of_size_two h.ring h.size] at this
  simpa using this

theorem round_robin_inv.head_ne_tail (h : sc.round_robin_inv budget) : sc.scRefillHead ≠ sc.scRefillTail := by
  intro hs
  have := h.size
  rw [← refill_list_length, refill_list_of_single hs] at this
  simp [MIN_REFILLS] at this

/-- **`charge_budget` on the current scheduling context**, with more fuel
than usage and than slots: a round-robin context takes its second refill
back into the head, a sporadic one is charged by `refill_budget_check`; it
returns and keeps what the context keeps. -/
theorem charge_budget_ok {fuel consumed : Nat} (h : configured_inv budget sc)
    (hfuel : consumed < fuel) (hmax : sc.scRefillMax ≤ fuel) :
    ∃ sc', sc.charge_budget fuel consumed = some sc' ∧ configured_inv budget sc' := by
  cases hrr : sc.is_round_robin
  · -- sporadic: charged by `refill_budget_check`
    obtain ⟨sc1, hs, h1, hper⟩ := refill_budget_check_ok (h.sporadic hrr) hrr hfuel hmax
    have hrr1 : sc1.is_round_robin = false := by rwa [is_round_robin, hper]
    refine ⟨_, ?_, @configured_inv.of_same_refills budget sc1 { sc1 with scConsumed := sc1.scConsumed + consumed }
      (.of_sporadic hrr1 h1) ⟨rfl, rfl, rfl, rfl, rfl⟩⟩
    simp [charge_budget, hrr, hs, Nat.not_lt.mpr h1.head_ge]
  · -- round-robin: the tail's budget goes back to the head
    have hinv := h.round_robin hrr
    have hne := hinv.head_ne_tail
    have h1 := hinv.set ⟨sc.refill_head.rTime, sc.refill_head.rAmount + sc.refill_tail.rAmount⟩
      ⟨sc.refill_tail.rTime, 0⟩ (by dsimp only; have := hinv.head_ge; omega)
      (by dsimp only; have := hinv.sum_two; omega)
    refine ⟨_, ?_, @configured_inv.of_same_refills budget _ { ((sc.set_refill sc.scRefillHead
          ⟨sc.refill_head.rTime, sc.refill_head.rAmount + sc.refill_tail.rAmount⟩).set_refill sc.scRefillTail
          ⟨sc.refill_tail.rTime, 0⟩) with scConsumed := sc.scConsumed + consumed }
      (.of_round_robin (by simpa [is_round_robin] using hrr) h1) ⟨rfl, rfl, rfl, rfl, rfl⟩⟩
    have hge : min_budget ≤ sc.refill_head.rAmount + sc.refill_tail.rAmount := by
      have := hinv.head_ge
      omega
    simp [charge_budget, hrr, hinv.size, set_refill, refill_head, refill_tail, refill_index, hne, Ne.symm hne]
    exact hge

/-- The head covers a usage with `min_budget` to spare. -/
theorem refill_sufficient_iff {u : Nat} :
    sc.refill_sufficient u = true ↔ u ≤ sc.refill_head.rAmount ∧ min_budget ≤ sc.refill_head.rAmount - u := by
  have := min_budget_pos
  unfold refill_sufficient refill_capacity
  split <;> simp <;> omega

/-- **`commit_time` on the current scheduling context**, with more fuel than
the time consumed and than slots: what it returns keeps what the context
keeps. A round-robin context moves the time from its head, which covers it,
to its second refill; a sporadic one is charged by `refill_budget_check`. -/
theorem commit_time_inv {fuel ksConsumed ksCurTime : Nat} (h : configured_inv budget sc)
    (hfuel : ksConsumed < fuel) (hmax : sc.scRefillMax ≤ fuel)
    (hs : sc.commit_time fuel ksConsumed ksCurTime = some sc') : configured_inv budget sc' := by
  unfold commit_time at hs
  obtain ⟨sc1, hs1, rfl⟩ := Option.map_eq_some_iff.mp hs
  refine @configured_inv.of_same_refills budget sc1 _ ?_ ⟨rfl, rfl, rfl, rfl, rfl⟩
  by_cases hpos : ksConsumed > 0
  swap
  · -- no time consumed: nothing charged
    rw [if_neg hpos] at hs1
    cases hs1
    exact h
  rw [if_pos hpos] at hs1
  by_cases hpre : (sc.refill_sufficient ksConsumed && sc.refill_ready ksCurTime) = true
  swap
  · -- the assertions before fail
    rw [if_pos (by rw [Bool.not_eq_true']; exact Bool.eq_false_iff.mpr hpre)] at hs1
    cases hs1
  rw [if_neg (by simpa using hpre)] at hs1
  have hsuff := refill_sufficient_iff.mp (Bool.and_eq_true_iff.mp hpre).1
  obtain ⟨sc2, hs2, hpost⟩ := Option.bind_eq_some_iff.mp hs1
  obtain rfl : sc2 = sc1 := by
    split_ifs at hpost
    exact Option.some.inj hpost
  cases hrr : sc.is_round_robin
  · -- sporadic: charged by `refill_budget_check`
    obtain ⟨sc3, hbc, h3, hper⟩ := refill_budget_check_ok (h.sporadic hrr) hrr hfuel hmax
    simp only [hrr, Bool.false_eq_true, if_false, hbc, Option.some.injEq] at hs2
    subst hs2
    exact .of_sporadic (by rwa [is_round_robin, hper]) h3
  · -- round-robin: the time moves from the head to the second refill
    have hinv := h.round_robin hrr
    have hne := hinv.head_ne_tail
    simp only [hrr, if_true, hinv.size, ne_eq, not_true_eq_false, if_false, set_refill_scRefillTail,
      set_refill_refill_tail_of_ne hne, Option.some.injEq] at hs2
    subst hs2
    have hsum := hinv.sum_two
    exact .of_round_robin (by simpa [is_round_robin] using hrr)
      (hinv.set _ _ (by dsimp only; omega) (by dsimp only; omega))

end Charge

/-! ### Configuration -/

section Configure

variable {sc : sched_context_t} {budget period max_refills ksCurTime : Nat}

/-- One refill that holds the whole budget. -/
theorem refill_inv_single {T : Nat} (hr : sc.refill_ring) (hm : MIN_REFILLS ≤ sc.scRefillMax)
    (hb : min_budget ≤ budget) (hl : sc.refill_list = [⟨T, budget⟩]) : sc.refill_inv budget := by
  refine ⟨⟨hr, ?_, ?_⟩, hm, ?_, ?_⟩
  · rw [hl]
    exact List.isChain_singleton _
  · rw [hl]
    have := min_budget_pos
    simp only [List.mem_singleton, forall_eq]
    omega
  · rw [hl]
    simp
  · rw [refill_head_eq_of_list hl]
    exact hb

/-- A part of the budget now and the rest a period later. -/
theorem refill_inv_pair {T a : Nat} (hr : sc.refill_ring) (hm : MIN_REFILLS ≤ sc.scRefillMax)
    (ha : min_budget ≤ a) (hab : a < budget) (hp : budget ≤ period)
    (hl : sc.refill_list = [⟨T, a⟩, ⟨T + period, budget - a⟩]) : sc.refill_inv budget := by
  have := min_budget_pos
  refine ⟨⟨hr, ?_, ?_⟩, hm, ?_, ?_⟩
  · rw [hl, refills_ordered, List.isChain_pair]
    dsimp only
    omega
  · rw [hl]
    intro r hr'
    simp only [List.mem_cons, List.not_mem_nil, or_false] at hr'
    rcases hr' with rfl | rfl <;> (dsimp only; omega)
  · rw [hl]
    simp
    omega
  · rw [refill_head_eq_of_list hl]
    exact ha

/-- **`refill_new` for a sporadic context**: one refill of the whole budget,
now. -/
theorem refill_new_ok (hb : min_budget ≤ budget) (hp : budget < period) (hm : MIN_REFILLS ≤ max_refills) :
    ∃ sc', sc.refill_new max_refills budget period ksCurTime = some sc' ∧ sc'.refill_inv budget ∧
      sc'.scPeriod = period := by
  have hlow : ¬ budget < min_budget := by omega
  have hp0 : period ≠ 0 := by
    have := min_budget_pos
    omega
  have hmax : 0 < max_refills := by
    unfold MIN_REFILLS at hm
    omega
  set sc' : sched_context_t := { sc with
    scPeriod := period
    scRefillHead := 0
    scRefillTail := 0
    scRefillMax := max_refills
    refills := update sc.refills 0 ⟨ksCurTime, budget⟩ } with hsc'
  have hl : sc'.refill_list = [⟨ksCurTime, budget⟩] := by
    rw [refill_list_of_single rfl]
    simp [hsc', refill_head, refill_index]
  refine ⟨sc', ?_, refill_inv_single ⟨hmax, hmax⟩ hm hb hl, rfl⟩
  simp [hsc', refill_new, hlow, maybe_add_empty_tail, is_round_robin, hp0, set_refill, refill_head, refill_index]

/-- **`refill_new` for a round-robin context**: the budget now, and an empty
second refill at the same time. -/
theorem refill_new_round_robin (hb : min_budget ≤ budget) :
    ∃ sc', sc.refill_new MIN_REFILLS budget 0 ksCurTime = some sc' ∧ sc'.round_robin_inv budget ∧
      sc'.refill_list = [⟨ksCurTime, budget⟩, ⟨ksCurTime, 0⟩] ∧ sc'.scPeriod = 0 := by
  have hlow : ¬ budget < min_budget := by omega
  set sc1 : sched_context_t := { sc with
    scPeriod := 0
    scRefillHead := 0
    scRefillTail := 0
    scRefillMax := MIN_REFILLS
    refills := update sc.refills 0 ⟨ksCurTime, budget⟩ } with hsc1
  have h2 : 0 < MIN_REFILLS := by decide
  have hr1 : sc1.refill_ring := ⟨h2, h2⟩
  have hl1 : sc1.refill_list = [⟨ksCurTime, budget⟩] := by
    rw [refill_list_of_single rfl]
    simp [hsc1, refill_head, refill_index]
  have hlt : sc1.refill_size < sc1.scRefillMax := by
    rw [← refill_list_length, hl1]
    show 1 < MIN_REFILLS
    decide
  -- the second refill is added where the head starts
  have heq : sc.refill_new MIN_REFILLS budget 0 ksCurTime = sc1.refill_add_tail ksCurTime 0 := by
    simp [hsc1, refill_new, hlow, maybe_add_empty_tail, is_round_robin, set_refill, refill_head, refill_index]
  have hl := refill_list_add_tail hr1 hlt ⟨ksCurTime, 0⟩
  rw [hl1] at hl
  rw [heq, refill_add_tail_of_lt hr1 hlt]
  refine ⟨_, rfl, ⟨refill_ring_add_tail hr1 _, le_rfl, ?_, ?_, ?_⟩, hl, rfl⟩
  · rw [hl]
    simp
  · rw [refill_head_eq_of_list hl]
    exact hb
  · rw [← refill_list_length, hl]
    rfl

/-- `refill_update` first makes the ring the old head alone, in slot 0, moved
to now if it is ready; the old head is read before slot 0 is written,
whether or not it was slot 0. -/
theorem refill_update_eq (hm : 0 < sc.scRefillMax) :
    sc.refill_update period budget max_refills ksCurTime =
      let sc3 : sched_context_t := { sc with
        scPeriod := period
        scRefillHead := 0
        scRefillTail := 0
        scRefillMax := max_refills
        refills := update sc.refills 0
          ⟨if sc.refill_head.rTime ≤ ksCurTime + get_kernel_wcet_ticks then ksCurTime else sc.refill_head.rTime,
            sc.refill_head.rAmount⟩ }
      if sc3.refill_head.rAmount ≥ budget then
        (sc3.set_refill sc3.scRefillHead { sc3.refill_head with rAmount := budget }).maybe_add_empty_tail
      else sc3.refill_add_tail (sc3.refill_head.rTime + period) (budget - sc3.refill_head.rAmount) := by
  by_cases h0 : sc.scRefillHead = 0 <;> by_cases hr : sc.refill_head.rTime ≤ ksCurTime + get_kernel_wcet_ticks
  all_goals
    simp only [refill_head, refill_index, h0] at hr
    simp [refill_update, hm.ne', set_refill, refill_head, refill_index, refill_ready, h0, hr]

/-- **`refill_update` for a sporadic context** whose head holds at least
`min_budget`: the head, cut to the new budget, or followed by the rest of it
a period later. -/
theorem refill_update_ok (hm0 : 0 < sc.scRefillMax) (hhead : min_budget ≤ sc.refill_head.rAmount)
    (hb : min_budget ≤ budget) (hp : budget < period) (hm : MIN_REFILLS ≤ max_refills) :
    ∃ sc', sc.refill_update period budget max_refills ksCurTime = some sc' ∧ sc'.refill_inv budget ∧
      sc'.scPeriod = period := by
  have hp0 : period ≠ 0 := by
    have := min_budget_pos
    omega
  have hmax : 0 < max_refills := by
    unfold MIN_REFILLS at hm
    omega
  rw [refill_update_eq hm0]
  set T := if sc.refill_head.rTime ≤ ksCurTime + get_kernel_wcet_ticks then ksCurTime else sc.refill_head.rTime
  set sc3 : sched_context_t := { sc with
    scPeriod := period
    scRefillHead := 0
    scRefillTail := 0
    scRefillMax := max_refills
    refills := update sc.refills 0 ⟨T, sc.refill_head.rAmount⟩ } with hsc3
  have hr3 : sc3.refill_ring := ⟨hmax, hmax⟩
  have hh3 : sc3.refill_head = ⟨T, sc.refill_head.rAmount⟩ := by
    simp [hsc3, refill_head, refill_index]
  have hrr : sc3.is_round_robin = false := by
    simp [is_round_robin, hsc3, hp0]
  dsimp only
  rw [hh3]
  split_ifs with hge
  · -- the head holds the new budget: it is cut to it
    have hl := @refill_list_set_single sc3 rfl ⟨T, budget⟩
    refine ⟨sc3.set_refill sc3.scRefillHead ⟨T, budget⟩, ?_, refill_inv_single (hr3.set _ _) hm hb hl, rfl⟩
    simp [maybe_add_empty_tail, is_round_robin, hsc3, hp0]
  · -- the rest of the new budget comes a period later
    have hl3 : sc3.refill_list = [⟨T, sc.refill_head.rAmount⟩] := by
      rw [refill_list_of_single rfl, hh3]
    have hlt : sc3.refill_size < sc3.scRefillMax := by
      rw [← refill_list_length, hl3]
      unfold MIN_REFILLS at hm
      exact hm
    have hl := refill_list_add_tail hr3 hlt ⟨T + period, budget - sc.refill_head.rAmount⟩
    rw [hl3] at hl
    rw [refill_add_tail_of_lt hr3 hlt]
    dsimp only at hge
    exact ⟨_, rfl, refill_inv_pair (refill_ring_add_tail hr3 _) hm hhead (by omega) hp.le hl, rfl⟩

/-- **What `invoke_sched_control_configure_flags` leaves**, for a budget and
a period that decoding accepts: round-robin refills when the budget is the
period, and a sporadic context's otherwise. A running context's refills are
updated from its head, which must hold at least `min_budget`. -/
theorem configure_flags_ok {badge flags : Nat} {runnable : Bool}
    (hold : 0 < sc.scRefillMax → min_budget ≤ sc.refill_head.rAmount)
    (hb : min_budget ≤ budget) (hp : budget ≤ period) (hm : MIN_REFILLS ≤ max_refills) :
    ∃ sc', sc.configure_flags budget period max_refills badge flags ksCurTime runnable = some sc' ∧
      configured_inv budget sc' := by
  unfold configure_flags
  set sc0 : sched_context_t := { sc with scBadge := badge, scSporadic := flags &&& SCHED_CONTEXT_SPORADIC ≠ 0 }
  by_cases heq : budget = period
  · -- the budget is the period: round-robin
    obtain ⟨sc', hs, hinv, -, hper⟩ := @refill_new_round_robin sc0 budget ksCurTime hb
    refine ⟨sc', ?_, .of_round_robin (by simp [is_round_robin, hper]) hinv⟩
    rw [if_pos heq, hs]
    simp [Nat.lt_of_le_of_lt (Nat.zero_le _) hinv.ring.head_lt]
  have hlt := Nat.lt_of_le_of_ne hp heq
  rw [if_neg heq]
  by_cases hupd : sc0.scRefillMax > 0 ∧ sc0.scTcb ≠ 0 ∧ runnable = true
  · -- a running context: its refills are updated
    obtain ⟨sc', hs, hinv, hper⟩ :=
      @refill_update_ok sc0 budget period max_refills ksCurTime hupd.1 (hold hupd.1) hb hlt hm
    refine ⟨sc', ?_, .of_sporadic (by simp [is_round_robin, hper]; omega) hinv⟩
    rw [if_pos hupd, hs]
    simp [Nat.lt_of_le_of_lt (Nat.zero_le _) hinv.ring.head_lt]
  · obtain ⟨sc', hs, hinv, hper⟩ := @refill_new_ok sc0 budget period max_refills ksCurTime hb hlt hm
    refine ⟨sc', ?_, .of_sporadic (by simp [is_round_robin, hper]; omega) hinv⟩
    rw [if_neg hupd, hs]
    simp [Nat.lt_of_le_of_lt (Nat.zero_le _) hinv.ring.head_lt]

/-- **A round-robin configuration** (the budget equal to the period): two
refills that start together, the whole budget in the first. -/
theorem configure_flags_round_robin {badge flags : Nat} {runnable : Bool} (hb : min_budget ≤ budget) :
    ∃ sc', sc.configure_flags budget budget max_refills badge flags ksCurTime runnable = some sc' ∧
      sc'.refill_list = [⟨ksCurTime, budget⟩, ⟨ksCurTime, 0⟩] := by
  obtain ⟨sc', hs, hinv, hl, -⟩ := @refill_new_round_robin
    { sc with scBadge := badge, scSporadic := flags &&& SCHED_CONTEXT_SPORADIC ≠ 0 } budget ksCurTime hb
  refine ⟨sc', ?_, hl⟩
  unfold configure_flags
  rw [if_pos rfl, hs]
  simp [Nat.lt_of_le_of_lt (Nat.zero_le _) hinv.ring.head_lt]

end Configure

end sched_context_t


/-! ## On the kernel state -/

namespace mcs_state

/-- **`refill_unblock_check`** on a scheduling context that keeps what it is
configured for: it returns, its assertion holds, it keeps that, and it
leaves every other scheduling context. -/
theorem refill_unblock_check_ok {s : mcs_state} {p budget : Nat} (h : configured_inv budget (s.scs p)) :
    ∃ s', s.refill_unblock_check p = some s' ∧ configured_inv budget (s'.scs p) ∧
      ∀ q, q ≠ p → s'.scs q = s.scs q := by
  unfold refill_unblock_check
  dsimp only
  split_ifs with hrr hready
  · exact ⟨s, rfl, h, fun _ _ => rfl⟩
  · -- sporadic and ready: the head starts now, and takes in what it runs into
    have hrr' : (s.scs p).is_round_robin = false := by simpa using hrr
    have hinv := h.sporadic hrr'
    set sc := s.scs p
    have hl := refill_list_set_head hinv.ring { sc.refill_head with rTime := s.ksCurTime }
    have hord : refills_ordered
        (sc.set_refill sc.scRefillHead { sc.refill_head with rTime := s.ksCurTime }).refill_list.tail := by
      rw [hl, List.tail_cons]
      exact hinv.ordered.tail
    have hpos : ∀ r ∈ (sc.set_refill sc.scRefillHead { sc.refill_head with rTime := s.ksCurTime }).refill_list,
        0 < r.rAmount := by
      rw [hl]
      intro r hr
      rcases List.mem_cons.mp hr with rfl | hr
      · exact hinv.pos sc.refill_head refill_head_mem
      · exact hinv.pos r (List.mem_of_mem_tail hr)
    obtain ⟨sc', hm, h', hsum, hge, hmax, hper⟩ :=
      merge_overlapping_ok (hinv.ring.set _ _) hord hpos (refill_size_le (hinv.ring.set _ _))
    have hge' : min_budget ≤ sc'.refill_head.rAmount := le_trans hinv.head_ge (by simpa using hge)
    refine ⟨{ s with scs := update s.scs p sc', ksReprogram := true }, ?_, ?_, fun q hq => update_of_ne hq _ _⟩
    · rw [hm]
      simp [refill_sufficient_zero, hge']
    · have hsum' : refills_budget sc'.refill_list = budget := by
        rw [hsum, hl, refills_budget_cons, ← hinv.sum, @refills_budget_head sc]
      simp only [update_self]
      exact .of_sporadic (by rwa [is_round_robin, hper]) ⟨h', hmax ▸ hinv.max_ge, hsum', hge'⟩
  · exact ⟨s, rfl, h, fun _ _ => rfl⟩

end mcs_state

end Rel4Kernel
