/-
`kernel::smp::lock`: the CLH queue lock that serialises the kernel on SMP
builds, as a machine of interleaved CPUs that records every memory access it
makes.

Each CPU owns a queue node through `node_owners[cpu].node`. `acquire` marks
that node `Pending`, swaps it into `head` to learn its predecessor's node,
keeps that in `node_owners[cpu].next` and spins until the predecessor's node
reads `Granted`; `release` marks its own node `Granted` and adopts the
predecessor's node for the next round. `clh_lock::init`, on the boot CPU,
hands out nodes `0 .. N-1` and makes node `N`, `Granted`, the head.

A CPU's state is where it is in `acquire` and `release`, and each step makes
exactly the one access the source makes there, with the source's ordering:
the node states are plain fields, the owner pointers and `head` are
`AtomicPtr`s. A node pointer is the node's index plus one, null is 0; an
`unwrap` of a null pointer is `none`. `is_ipi_pending` reads the owner's `ipi`
field, which only `set_ipi` writes for remote calls; those are not modelled,
so a pending IPI, whose handler is not modelled either, is `none` too.
-/
import Rel4Kernel.Lib.MemoryModel

set_option autoImplicit false

namespace Rel4Kernel

open MemModel Function

/-- `clh_qnode_state`. -/
inductive clh_qnode_state where
  | CLHState_Granted | CLHState_Pending
  deriving DecidableEq, Repr

/-- What the lock's code accesses. -/
inductive clh_loc where
  /-- `nodes[i].state` -/
  | node_state (i : Nat)
  /-- `node_owners[cpu].node` -/
  | owner_node (cpu : Nat)
  /-- `node_owners[cpu].next` -/
  | owner_next (cpu : Nat)
  /-- `node_owners[cpu].ipi` -/
  | owner_ipi (cpu : Nat)
  | head
  deriving DecidableEq, Repr

/-- Where a CPU is: outside the lock, inside `acquire` before the access
named, holding the lock, or inside `release`. The arguments are the values
the code holds in locals at that point. -/
inductive clh_pc where
  | outside
  | acquire_set_pending (node : Nat)
  | acquire_load_node
  | acquire_swap (node : Nat)
  | acquire_store_next (raw_ptr : Nat)
  | acquire_check_ipi (raw_ptr : Nat)
  | acquire_load_next
  | acquire_read_state (next : Nat)
  | acquire_spin_ipi
  | held
  | release_load_node
  | release_set_granted (node : Nat)
  | release_load_next
  | release_store_node (next : Nat)
  deriving DecidableEq, Repr

structure clh_state where
  nodes : Nat → clh_qnode_state
  node_owners_node : Nat → Nat
  node_owners_next : Nat → Nat
  node_owners_ipi : Nat → Nat
  head : Nat
  pc : Nat → clh_pc

/-- `clh_lock::new()`: every node `Granted`, every pointer null. -/
def clh_lock_new : clh_state where
  nodes := fun _ => .CLHState_Granted
  node_owners_node := fun _ => 0
  node_owners_next := fun _ => 0
  node_owners_ipi := fun _ => 0
  head := 0
  pc := fun _ => .outside

/-- `clh_lock::init` on the boot CPU, for `N = CONFIG_MAX_NUM_NODES`: the
state after it and its accesses in order. -/
def clh_lock_init (N boot : Nat) : clh_state × List (Event Nat clh_loc) :=
  ({ clh_lock_new with
      node_owners_node := fun i => if i < N then i + 1 else 0
      nodes := update clh_lock_new.nodes N .CLHState_Granted
      head := N + 1 },
    (List.range N).map (fun i => ⟨boot, .write (.owner_node i) (.atomic .Release)⟩) ++
      [⟨boot, .write (.node_state N) .plain⟩, ⟨boot, .write .head (.atomic .Release)⟩])

/-- One step of `cpu`: the state after it and the access it makes. A CPU
outside the lock starts `acquire`, one holding it starts `release`. -/
def clh_step (N : Nat) (s : clh_state) (cpu : Nat) : Option (clh_state × Event Nat clh_loc) :=
  if cpu < N then
    let go (pc : clh_pc) : clh_state := { s with pc := update s.pc cpu pc }
    match s.pc cpu with
    | .outside =>
      some (go (.acquire_set_pending (s.node_owners_node cpu)),
        ⟨cpu, .read (.owner_node cpu) (.atomic .Acquire)⟩)
    | .acquire_set_pending node =>
      if node = 0 then none
      else
        some ({ go .acquire_load_node with nodes := update s.nodes (node - 1) .CLHState_Pending },
          ⟨cpu, .write (.node_state (node - 1)) .plain⟩)
    | .acquire_load_node =>
      some (go (.acquire_swap (s.node_owners_node cpu)),
        ⟨cpu, .read (.owner_node cpu) (.atomic .Acquire)⟩)
    | .acquire_swap node =>
      some ({ go (.acquire_store_next s.head) with head := node }, ⟨cpu, .rmw .head .Relaxed⟩)
    | .acquire_store_next raw_ptr =>
      some ({ go (.acquire_check_ipi raw_ptr) with
          node_owners_next := update s.node_owners_next cpu raw_ptr },
        ⟨cpu, .write (.owner_next cpu) (.atomic .Release)⟩)
    | .acquire_check_ipi raw_ptr =>
      -- the first loop runs again while the swapped-out head was null
      if s.node_owners_ipi cpu = 1 then none
      else
        some (go (if raw_ptr = 0 then .acquire_load_node else .acquire_load_next),
          ⟨cpu, .read (.owner_ipi cpu) .plain⟩)
    | .acquire_load_next =>
      some (go (.acquire_read_state (s.node_owners_next cpu)),
        ⟨cpu, .read (.owner_next cpu) (.atomic .Acquire)⟩)
    | .acquire_read_state next =>
      if next = 0 then none
      else
        some (go (if s.nodes (next - 1) = .CLHState_Granted then .held else .acquire_spin_ipi),
          ⟨cpu, .read (.node_state (next - 1)) .plain⟩)
    | .acquire_spin_ipi =>
      if s.node_owners_ipi cpu = 1 then none
      else some (go .acquire_load_next, ⟨cpu, .read (.owner_ipi cpu) .plain⟩)
    | .held => some (go .release_load_node, ⟨cpu, .fence .Release⟩)
    | .release_load_node =>
      some (go (.release_set_granted (s.node_owners_node cpu)),
        ⟨cpu, .read (.owner_node cpu) (.atomic .Acquire)⟩)
    | .release_set_granted node =>
      if node = 0 then none
      else
        some ({ go .release_load_next with nodes := update s.nodes (node - 1) .CLHState_Granted },
          ⟨cpu, .write (.node_state (node - 1)) .plain⟩)
    | .release_load_next =>
      some (go (.release_store_node (s.node_owners_next cpu)),
        ⟨cpu, .read (.owner_next cpu) (.atomic .Acquire)⟩)
    | .release_store_node next =>
      some ({ go .outside with node_owners_node := update s.node_owners_node cpu next },
        ⟨cpu, .write (.owner_node cpu) (.atomic .Release)⟩)
  else none

/-- Run the CPUs of `sched` one step each, in order. -/
def clh_run (N : Nat) (s : clh_state) : List Nat → Option (clh_state × List (Event Nat clh_loc))
  | [] => some (s, [])
  | cpu :: sched => do
    let (s', e) ← clh_step N s cpu
    let (s'', tr) ← clh_run N s' sched
    pure (s'', e :: tr)

/-- Boot, then run `sched`: the final state and every access since boot. -/
def clh_trace (N boot : Nat) (sched : List Nat) : Option (clh_state × List (Event Nat clh_loc)) :=
  (clh_run N (clh_lock_init N boot).1 sched).map fun r => (r.1, (clh_lock_init N boot).2 ++ r.2)

/-! ## What each access touches -/

/-- What a CPU's access after boot may touch: it is no acquire fence, an
acquire read reads one of the CPU's own owner fields, and of the owner
fields it writes only its own. -/
def clh_own_access (e : Event Nat clh_loc) : Prop :=
  e.access.isAcquireFence = false ∧
    (e.access.isAcquireRead = true → ∀ l, e.access.reads? = some l →
      l = .owner_node e.thread ∨ l = .owner_next e.thread) ∧
    ∀ c, (e.access.writesTo (.owner_node c) || e.access.writesTo (.owner_next c)) = true →
      c = e.thread

/-- Every step of a CPU makes an access of its own. -/
theorem clh_step_own {N cpu : Nat} {s s' : clh_state} {e : Event Nat clh_loc}
    (h : clh_step N s cpu = some (s', e)) : e.thread = cpu ∧ clh_own_access e := by
  unfold clh_step at h
  split at h
  · -- one case per program point, and one per branch of its `if`
    split at h <;> (try split at h) <;>
      simp only [Option.some.injEq, Prod.mk.injEq, reduceCtorEq] at h <;>
      obtain ⟨-, rfl⟩ := h <;>
      simp [clh_own_access, Access.isAcquireFence, Access.isAcquireRead, Access.reads?,
        Access.writesTo, MemOrder.isAcquire]
  · cases h

/-- So is every access of a run. -/
theorem clh_run_own {N : Nat} {sched : List Nat} {s s' : clh_state} {tr : List (Event Nat clh_loc)}
    (h : clh_run N s sched = some (s', tr)) : ∀ e ∈ tr, clh_own_access e := by
  induction sched generalizing s s' tr with
  | nil =>
    simp only [clh_run, Option.some.injEq, Prod.mk.injEq] at h
    simp [← h.2]
  | cons cpu sched ih =>
    simp only [clh_run, Option.bind_eq_bind, Option.bind_eq_some_iff] at h
    obtain ⟨⟨s₁, e₁⟩, h₁, ⟨s₂, tr₂⟩, h₂, h⟩ := h
    simp only [Option.pure_def, Option.some.injEq, Prod.mk.injEq] at h
    obtain ⟨rfl, rfl⟩ := h
    rintro e (_ | ⟨_, he⟩)
    · exact (clh_step_own h₁).2
    · exact ih h₂ e he


theorem clh_lock_init_length (N boot : Nat) : (clh_lock_init N boot).2.length = N + 2 := by
  simp [clh_lock_init]

/-- Boot only stores. -/
theorem clh_lock_init_stores {N boot : Nat} {e : Event Nat clh_loc}
    (he : e ∈ (clh_lock_init N boot).2) :
    e.access.isAcquireFence = false ∧ e.access.isAcquireRead = false := by
  simp only [clh_lock_init, List.mem_append, List.mem_map, List.mem_range, List.mem_cons,
    List.not_mem_nil, or_false] at he
  rcases he with ⟨i, -, rfl⟩ | rfl | rfl <;> simp [Access.isAcquireFence, Access.isAcquireRead]

/-- After boot every CPU is confined: its acquire reads read its own owner
fields, which only boot and the CPU itself write. -/
theorem clh_trace_confined {N boot : Nat} {sched : List Nat} {s : clh_state}
    {tr : List (Event Nat clh_loc)} (h : clh_trace N boot sched = some (s, tr)) (t : Nat) :
    AcquireConfined tr (N + 1) t := by
  simp only [clh_trace, Option.map_eq_some_iff] at h
  obtain ⟨⟨s', run⟩, hrun, h⟩ := h
  simp only [Prod.mk.injEq] at h
  obtain ⟨-, rfl⟩ := h
  have hown := clh_run_own hrun
  -- an event of the trace is one of boot's or an access of its own CPU
  have hsrc : ∀ k e, ((clh_lock_init N boot).2 ++ run)[k]? = some e →
      (k ≤ N + 1 ∧ e ∈ (clh_lock_init N boot).2) ∨ clh_own_access e := by
    intro k e hk
    by_cases hkl : k < N + 2
    · rw [List.getElem?_append_left (by rw [clh_lock_init_length]; exact hkl)] at hk
      exact Or.inl ⟨by omega, List.mem_of_getElem? hk⟩
    · rw [List.getElem?_append_right (by rw [clh_lock_init_length]; omega)] at hk
      exact Or.inr (hown e (List.mem_of_getElem? hk))
  intro r e hr het
  rcases hsrc r e hr with ⟨-, hinit⟩ | ⟨hfence, hacq, -⟩
  · obtain ⟨hf, ha⟩ := clh_lock_init_stores hinit
    exact ⟨hf, fun h => absurd h (by simp [ha])⟩
  · refine ⟨hfence, fun hr l hl k ⟨ek, hk, hw⟩ => ?_⟩
    rcases hsrc k ek hk with ⟨hkm, -⟩ | ⟨-, -, hwo⟩
    · exact Or.inl hkm
    · refine Or.inr ⟨ek, hk, ?_⟩
      rw [← het]
      rcases hacq hr l hl with rfl | rfl
      · exact (hwo e.thread (by simp [hw])).symm
      · exact (hwo e.thread (by simp [hw])).symm

/-! ## No two CPUs ever synchronise

`head` is only swapped with `Relaxed`, and the node states are plain fields,
so no acquire read of a CPU reads anything another CPU wrote after boot: the
lock creates no happens-before edge between two CPUs. Any two conflicting
accesses of two CPUs after boot, one of them plain, race; among them are the
grant `release` stores into its node and the read of it by the CPU spinning
on that node. -/

theorem clh_lock_cross_cpu_accesses_race {N boot : Nat} {sched : List Nat} {s : clh_state}
    {tr : List (Event Nat clh_loc)} (htr : clh_trace N boot sched = some (s, tr)) {i j : Nat}
    {ei ej : Event Nat clh_loc} {l : clh_loc} (hi : tr[i]? = some ei) (hj : tr[j]? = some ej)
    (hinit : N + 2 ≤ i) (hij : i < j) (hne : ei.thread ≠ ej.thread)
    (hli : ei.access.loc? = some l) (hlj : ej.access.loc? = some l)
    (hw : (ei.access.isWrite || ej.access.isWrite) = true)
    (hp : (ei.access.isPlain || ej.access.isPlain) = true) : race tr i j :=
  race_of_confined (clh_trace_confined htr ej.thread) hi hj (by omega) hij hne rfl hli hlj hw hp

/-- CPU 0 takes the lock, CPU 1 queues behind it and spins once, CPU 0
releases, and CPU 1 sees the grant. -/
def handOffSchedule : List Nat :=
  [0, 0, 0, 0, 0, 0, 0, 0, 1, 1, 1, 1, 1, 1, 1, 1, 0, 0, 0, 0, 0, 1, 1, 1]

theorem clh_lock_hand_off_race :
    ∃ s tr, clh_trace 2 0 handOffSchedule = some (s, tr) ∧ s.pc 1 = .held ∧
      tr[22]? = some ⟨0, .write (.node_state 0) .plain⟩ ∧
      tr[27]? = some ⟨1, .read (.node_state 0) .plain⟩ ∧ race tr 22 27 :=
  ⟨_, _, rfl, rfl, rfl, rfl,
    clh_lock_cross_cpu_accesses_race (show clh_trace 2 0 handOffSchedule = _ from rfl) rfl rfl
      (by decide) (by decide) (by decide) rfl rfl rfl rfl⟩

end Rel4Kernel
