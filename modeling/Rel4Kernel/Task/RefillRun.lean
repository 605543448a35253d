/-
The life of a scheduling context's refills (`invoke_sched.rs`,
`sched_context.rs`, `scheduler.rs`, MCS), and what holds over all of it.

`refills_run budget sc` says that `sc` is reached from a configuration by
`invoke_sched_control_configure_flags` with `budget`, through the kernel's
operations on refills: `refill_budget_check`, `refill_unblock_check`,
`charge_budget` and `commit_time`, each with fuel enough for its loops, a
configuration again, and writes that leave the refills alone. Over every such
run the refills keep `configured_inv` (`refills_run_inv`). For a sporadic
context that is `refill_inv`, with `refill_sum` equal to the budget, and the
operations that charge and unblock it return, every loop ending and every
assertion holding.

A round-robin context, configured with the budget equal to the period, does
not keep its refills apart in time: its two refills start together. What it
keeps is its budget in two refills.

On the kernel state, `refills_state_inv` asks each scheduling context to be
unconfigured or in a run; `commit_time`, `charge_budget` and
`refill_unblock_check` keep it.
-/
import Rel4Kernel.Task.RefillInvariant

set_option autoImplicit false

namespace Rel4Kernel

open Function sched_context_t

/-- The life of a scheduling context's refills, last configured with
`budget`. Each step is one kernel operation, with fuel enough for its loops;
`runnable` and the times are any. -/
inductive refills_run : Nat → sched_context_t → Prop
  /-- A scheduling context never configured, configured. -/
  | configure {sc sc' : sched_context_t} {budget period max_refills badge flags ksCurTime : Nat}
      {runnable : Bool} :
      sc.scRefillMax = 0 → min_budget ≤ budget → budget ≤ period → MIN_REFILLS ≤ max_refills →
      sc.configure_flags budget period max_refills badge flags ksCurTime runnable = some sc' →
      refills_run budget sc'
  /-- A configured one, configured again. -/
  | reconfigure {b budget period max_refills badge flags ksCurTime : Nat} {runnable : Bool}
      {sc sc' : sched_context_t} :
      refills_run b sc → min_budget ≤ budget → budget ≤ period → MIN_REFILLS ≤ max_refills →
      sc.configure_flags budget period max_refills badge flags ksCurTime runnable = some sc' →
      refills_run budget sc'
  | budget_check {budget fuel usage : Nat} {sc sc' : sched_context_t} :
      refills_run budget sc → usage < fuel → sc.scRefillMax ≤ fuel →
      refill_budget_check fuel sc usage = some sc' → refills_run budget sc'
  | unblock_check {budget p : Nat} {s s' : mcs_state} :
      refills_run budget (s.scs p) → s.refill_unblock_check p = some s' → refills_run budget (s'.scs p)
  | charge_budget {budget fuel consumed : Nat} {sc sc' : sched_context_t} :
      refills_run budget sc → consumed < fuel → sc.scRefillMax ≤ fuel →
      sc.charge_budget fuel consumed = some sc' → refills_run budget sc'
  | commit_time {budget fuel ksConsumed ksCurTime : Nat} {sc sc' : sched_context_t} :
      refills_run budget sc → ksConsumed < fuel → sc.scRefillMax ≤ fuel →
      sc.commit_time fuel ksConsumed ksCurTime = some sc' → refills_run budget sc'
  /-- A write to the fields the refills do not live in. -/
  | keep {budget : Nat} {sc sc' : sched_context_t} :
      refills_run budget sc → same_refills sc sc' → refills_run budget sc'

section Run

variable {budget : Nat} {sc : sched_context_t}

/-- **Every scheduling context in a run keeps what its configuration asks.**
The induction is on the run, one case a kernel operation, each closed by the
operation's lemma of `Task.RefillInvariant`. -/
theorem refills_run_inv (h : refills_run budget sc) : configured_inv budget sc := by
  induction h with
  | configure hmax hb hp hm hc =>
    obtain ⟨sc', hc', hinv⟩ := configure_flags_ok (fun hlt => absurd hmax (Nat.pos_iff_ne_zero.mp hlt)) hb hp hm
    obtain rfl := Option.some.inj (hc.symm.trans hc')
    exact hinv
  | reconfigure _ hb hp hm hc ih =>
    obtain ⟨sc', hc', hinv⟩ := configure_flags_ok (fun _ => ih.head_ge) hb hp hm
    obtain rfl := Option.some.inj (hc.symm.trans hc')
    exact hinv
  | @budget_check budget fuel usage sc sc' _ hfuel hmax hc ih =>
    -- `refill_budget_check` returns nothing on a round-robin context
    cases hrr : sc.is_round_robin
    · obtain ⟨sc'', hc', hinv, hper⟩ := refill_budget_check_ok (ih.sporadic hrr) hrr hfuel hmax
      obtain rfl := Option.some.inj (hc.symm.trans hc')
      exact .of_sporadic (by rwa [is_round_robin, hper]) hinv
    · simp [refill_budget_check, hrr] at hc
  | unblock_check _ hc ih =>
    obtain ⟨s'', hc', hinv, -⟩ := mcs_state.refill_unblock_check_ok ih
    obtain rfl := Option.some.inj (hc.symm.trans hc')
    exact hinv
  | charge_budget _ hfuel hmax hc ih =>
    obtain ⟨sc'', hc', hinv⟩ := charge_budget_ok ih hfuel hmax
    obtain rfl := Option.some.inj (hc.symm.trans hc')
    exact hinv
  | commit_time _ hfuel hmax hc ih => exact commit_time_inv ih hfuel hmax hc
  | keep _ he ih => exact ih.of_same_refills he

/-- **The refills of a scheduling context**, over its whole life from a
configuration with `budget`: a ring of one to `scRefillMax` refills with its
head and tail inside it, whose `refill_sum` is the budget, with at least
`min_budget` in the head. A sporadic context's refills each hold some budget
and end no later than the next one starts, so that they start in increasing
order, and `refill_budget_check` with fuel enough for its loops returns on it;
a round-robin one keeps two refills. On either, `charge_budget` with fuel
enough and `refill_unblock_check` return, with every loop ending and every
assertion holding, and each of these leads on in the run. -/
theorem refills_run_keep_budget_and_order (h : refills_run budget sc) :
    sc.scRefillHead < sc.scRefillMax ∧ sc.scRefillTail < sc.scRefillMax ∧
      1 ≤ sc.refill_size ∧ sc.refill_size ≤ sc.scRefillMax ∧
      sc.refill_sum = budget ∧ min_budget ≤ sc.refill_head.rAmount ∧
      (sc.is_round_robin = false →
        (∀ r ∈ sc.refill_list, 0 < r.rAmount) ∧ refills_ordered sc.refill_list ∧
        sc.refill_list.IsChain (fun a b => a.rTime < b.rTime) ∧
        ∀ fuel usage, usage < fuel → sc.scRefillMax ≤ fuel →
          ∃ sc', refill_budget_check fuel sc usage = some sc' ∧ refills_run budget sc') ∧
      (sc.is_round_robin = true → sc.refill_size = MIN_REFILLS) ∧
      (∀ fuel consumed, consumed < fuel → sc.scRefillMax ≤ fuel →
        ∃ sc', sc.charge_budget fuel consumed = some sc' ∧ refills_run budget sc') ∧
      (∀ (s : mcs_state) (p : Nat), s.scs p = sc →
        ∃ s', s.refill_unblock_check p = some s' ∧ refills_run budget (s'.scs p)) := by
  have hinv := refills_run_inv h
  have hring := hinv.ring
  refine ⟨hring.head_lt, hring.tail_lt, Ring.size_pos, refill_size_le hring,
    (refill_sum_eq hring).trans hinv.sum, hinv.head_ge, ?sporadic,
    fun hrr => (hinv.round_robin hrr).size, ?charge, ?unblock⟩
  case sporadic =>
    -- only a sporadic context keeps its refills apart in time
    intro hsp
    have hsp' := hinv.sporadic hsp
    refine ⟨hsp'.pos, hsp'.ordered, hsp'.ordered.rTime_lt hsp'.pos, ?_⟩
    intro fuel usage hfuel hmax
    obtain ⟨sc', hc, -⟩ := refill_budget_check_ok hsp' hsp hfuel hmax
    exact ⟨sc', hc, .budget_check h hfuel hmax hc⟩
  case charge =>
    intro fuel consumed hfuel hmax
    obtain ⟨sc', hc, -⟩ := charge_budget_ok hinv hfuel hmax
    exact ⟨sc', hc, .charge_budget h hfuel hmax hc⟩
  case unblock =>
    rintro s p rfl
    obtain ⟨s', hc, -⟩ := mcs_state.refill_unblock_check_ok hinv
    exact ⟨s', hc, .unblock_check h hc⟩

/-- A sporadic scheduling context configured from a fresh one, with a budget
of `min_budget` in a period twice as long, and what holds of it. -/
theorem sporadic_refills_of_fresh_configuration :
    ∃ sc : sched_context_t, refills_run min_budget sc ∧ sc.is_round_robin = false ∧
      sc.refill_sum = min_budget ∧ refills_ordered sc.refill_list := by
  obtain ⟨sc, hc⟩ : ∃ sc, ({} : sched_context_t).configure_flags min_budget (2 * min_budget) MIN_REFILLS 0 0 0
      false = some sc := ⟨_, rfl⟩
  have hrun : refills_run min_budget sc := .configure rfl le_rfl (by decide) le_rfl hc
  have hsp : sc.is_round_robin = false := by
    have hmap := congrArg (Option.map is_round_robin) hc
    rw [show (({} : sched_context_t).configure_flags min_budget (2 * min_budget) MIN_REFILLS 0 0 0
      false).map is_round_robin = some false from rfl, Option.map_some] at hmap
    exact (Option.some.inj hmap).symm
  obtain ⟨-, -, -, -, hsum, -, hspor, -⟩ := refills_run_keep_budget_and_order hrun
  exact ⟨sc, hrun, hsp, hsum, (hspor hsp).2.1⟩

/-- **A round-robin scheduling context's refills start together**: configured
with the budget equal to the period, its first refill holds the whole budget
and ends after the second, empty one starts. -/
theorem round_robin_refills_overlap :
    ∃ sc : sched_context_t, refills_run min_budget sc ∧
      sc.refill_list = [⟨0, min_budget⟩, ⟨0, 0⟩] ∧ ¬ refills_ordered sc.refill_list := by
  obtain ⟨sc, hc, hl⟩ := @configure_flags_round_robin {} min_budget MIN_REFILLS 0 0 0 false le_rfl
  refine ⟨sc, .configure rfl le_rfl le_rfl le_rfl hc, hl, ?_⟩
  rw [hl, refills_ordered, List.isChain_pair]
  decide

end Run

/-! ## On the kernel state -/

/-- Every scheduling context of the state is unconfigured, or its refills
are in a run from its last configuration. -/
def refills_state_inv (s : mcs_state) : Prop :=
  ∀ p, (s.scs p).scRefillMax = 0 ∨ ∃ budget, refills_run budget (s.scs p)

namespace mcs_state

section StateInv

variable {s s' : mcs_state} {fuel : Nat}

/-- A step that takes the scheduling context at `p` one step on in its run
and leaves the others keeps the invariant. -/
theorem refills_state_inv_of_step {p : Nat} (h : refills_state_inv s)
    (hp : ∀ budget, refills_run budget (s.scs p) → refills_run budget (s'.scs p))
    (hmax : (s.scs p).scRefillMax = 0 → (s'.scs p).scRefillMax = 0)
    (hq : ∀ q, q ≠ p → s'.scs q = s.scs q) : refills_state_inv s' := by
  intro q
  by_cases hqp : q = p
  · subst hqp
    rcases h q with h0 | ⟨budget, hrun⟩
    · exact .inl (hmax h0)
    · exact .inr ⟨budget, hp budget hrun⟩
  · rw [hq q hqp]
    exact h q

/-- `refill_unblock_check` writes the scheduling context at `p` only, and
leaves the size of its ring. -/
theorem refill_unblock_check_scs {p : Nat} (hs : s.refill_unblock_check p = some s') :
    (s'.scs p).scRefillMax = (s.scs p).scRefillMax ∧ ∀ q, q ≠ p → s'.scs q = s.scs q := by
  unfold refill_unblock_check at hs
  dsimp only at hs
  split_ifs at hs with hrr hready
  · cases hs
    exact ⟨rfl, fun _ _ => rfl⟩
  · obtain ⟨sc, hm, hs⟩ := Option.bind_eq_some_iff.mp hs
    split_ifs at hs
    cases hs
    obtain ⟨head, refills, rfl⟩ := merge_overlapping_eq_some hm
    exact ⟨by simp [set_refill], fun q hq => update_of_ne hq _ _⟩
  · cases hs
    exact ⟨rfl, fun _ _ => rfl⟩

/-- **`refill_unblock_check`** keeps every scheduling context unconfigured
or in its run. -/
theorem refills_state_inv_refill_unblock_check {p : Nat} (h : refills_state_inv s)
    (hs : s.refill_unblock_check p = some s') : refills_state_inv s' := by
  obtain ⟨hmax, hq⟩ := refill_unblock_check_scs hs
  exact refills_state_inv_of_step h (fun _ hb => .unblock_check hb hs) (fun h0 => hmax.trans h0) hq

/-- **`commit_time`**, with fuel enough for the current scheduling context,
keeps every scheduling context unconfigured or in its run: it bills only an
active current one. -/
theorem refills_state_inv_commit_time (h : refills_state_inv s) (hfuel : s.ksConsumed < fuel)
    (hmax : (s.scs s.ksCurSC).scRefillMax ≤ fuel) (hs : s.commit_time fuel = some s') :
    refills_state_inv s' := by
  unfold commit_time at hs
  obtain ⟨s1, hs1, rfl⟩ := Option.map_eq_some_iff.mp hs
  -- clearing the time consumed leaves the scheduling contexts
  show refills_state_inv s1
  split_ifs at hs1 with hact
  · obtain ⟨sc', hc, rfl⟩ := Option.map_eq_some_iff.mp hs1
    refine refills_state_inv_of_step (p := s.ksCurSC) h (fun _ hb => ?_) (fun h0 => absurd h0 hact.1)
      (fun q hq => update_of_ne hq _ _)
    simp only [update_self]
    exact .commit_time hb hfuel hmax hc
  · cases hs1
    exact h

/-- **`charge_budget`** on an active current scheduling context, with fuel
enough for it, keeps every scheduling context unconfigured or in its run. -/
theorem refills_state_inv_charge_budget {consumed : Nat} (h : refills_state_inv s)
    (hact : (s.scs s.ksCurSC).scRefillMax ≠ 0) (hfuel : consumed < fuel)
    (hmax : (s.scs s.ksCurSC).scRefillMax ≤ fuel) (hs : s.charge_budget fuel consumed = some s') :
    refills_state_inv s' := by
  unfold charge_budget at hs
  obtain ⟨s1, hs1, rfl⟩ := Option.map_eq_some_iff.mp hs
  show refills_state_inv s1
  split_ifs at hs1 with hidle
  · obtain ⟨sc', hc, rfl⟩ := Option.map_eq_some_iff.mp hs1
    refine refills_state_inv_of_step (p := s.ksCurSC) h (fun _ hb => ?_) (fun h0 => absurd h0 hact)
      (fun q hq => update_of_ne hq _ _)
    simp only [update_self]
    exact .charge_budget hb hfuel hmax hc
  · cases hs1
    exact h

end StateInv

end mcs_state

/-! ## Every run of the refill operations -/

/-- One operation of the kernel on the refills of its scheduling contexts,
with fuel enough for its loops: `charge_budget` bills only an active current
scheduling context. -/
inductive refills_step : mcs_state → mcs_state → Prop
  | unblock_check {s s' : mcs_state} (p : Nat) : s.refill_unblock_check p = some s' → refills_step s s'
  | commit_time {s s' : mcs_state} (fuel : Nat) : s.ksConsumed < fuel → (s.scs s.ksCurSC).scRefillMax ≤ fuel →
      s.commit_time fuel = some s' → refills_step s s'
  | charge_budget {s s' : mcs_state} (fuel consumed : Nat) : (s.scs s.ksCurSC).scRefillMax ≠ 0 →
      consumed < fuel → (s.scs s.ksCurSC).scRefillMax ≤ fuel → s.charge_budget fuel consumed = some s' →
      refills_step s s'

/-- **Step lemma**: every operation keeps `refills_state_inv`. -/
theorem refills_step.inv {s s' : mcs_state} (h : refills_state_inv s) (hs : refills_step s s') :
    refills_state_inv s' := by
  cases hs with
  | unblock_check p hs => exact mcs_state.refills_state_inv_refill_unblock_check h hs
  | commit_time fuel hfuel hmax hs => exact mcs_state.refills_state_inv_commit_time h hfuel hmax hs
  | charge_budget fuel consumed hact hfuel hmax hs =>
    exact mcs_state.refills_state_inv_charge_budget h hact hfuel hmax hs

/-- **Over every run of the refill operations on the kernel state**, from a
state whose scheduling contexts are each unconfigured or in a run, every
scheduling context stays unconfigured, or keeps what its last configuration
asks of its refills. -/
theorem refills_reachable_inv {s₀ s : mcs_state} (h0 : refills_state_inv s₀)
    (hr : Relation.ReflTransGen refills_step s₀ s) :
    ∀ p, (s.scs p).scRefillMax = 0 ∨ ∃ budget, refills_run budget (s.scs p) ∧ configured_inv budget (s.scs p) := by
  -- the run keeps `refills_state_inv`, by induction on its steps
  have hs : refills_state_inv s := by
    induction hr with
    | refl => exact h0
    | tail _ hst ih => exact hst.inv ih
  intro p
  rcases hs p with h0p | ⟨budget, hrun⟩
  · exact .inl h0p
  · exact .inr ⟨budget, hrun, refills_run_inv hrun⟩

/-- A kernel state whose scheduling context 1 is configured sporadic, with a
budget of `min_budget` in a period twice as long; the others are not. -/
def configured_scs : mcs_state :=
  { scs := fun p => if p = 1 then
      (({} : sched_context_t).configure_flags min_budget (2 * min_budget) MIN_REFILLS 0 0 0 false).getD {}
    else {} }

theorem refills_reachable_inv_after_unblock_check :
    ∃ s, configured_scs.refill_unblock_check 1 = some s ∧
      ∀ p, (s.scs p).scRefillMax = 0 ∨
        ∃ budget, refills_run budget (s.scs p) ∧ configured_inv budget (s.scs p) := by
  have h0 : refills_state_inv configured_scs := by
    intro p
    by_cases hp : p = 1
    · subst hp
      exact .inr ⟨min_budget, @refills_run.configure {} (configured_scs.scs 1) min_budget (2 * min_budget)
        MIN_REFILLS 0 0 0 false rfl le_rfl (by decide) le_rfl rfl⟩
    · exact .inl (by simp [configured_scs, hp])
  obtain ⟨s, hs⟩ : ∃ s, configured_scs.refill_unblock_check 1 = some s :=
    Option.isSome_iff_exists.mp (by decide +kernel)
  exact ⟨s, hs, refills_reachable_inv h0 (.single (.unblock_check 1 hs))⟩

end Rel4Kernel
