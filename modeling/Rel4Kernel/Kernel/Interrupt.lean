/-
The interrupt subsystem (non-MCS, non-SMP): the IRQ state table, the IRQ
handler slots, and the invocations of IRQ control and IRQ handler caps
(`interrupt/mod.rs`, `interrupt/handler.rs`, `decode_irq_invocation.rs`,
`invoke_irq.rs` and the two architectures' `check_irq` and
`arch_decode_irq_control_invocation`).

The handler of IRQ `irq` is the cap in slot `irq` of `intStateIRQNode`, a
static array of four slots, found by `get_offset_slot` with no bound:
`check_irq` is all that keeps `irq` small. On RISC-V it admits only
`KERNEL_TIMER_IRQ = 1`, and slot 1 is in the array. On AArch64
(qemu-arm-virt) it admits every IRQ up to `MAX_IRQ = 159`, and the slots of
IRQs 4 to 159 lie past the array's end.

`SetIRQHandler` refuses a notification cap without the send right and takes
every other cap, so a handler slot can come to hold a TCB or a CNode cap.
The next `delete_one` of that slot finalises the cap with `_exposed = true`,
and `finalise_cap` panics on every cap it cannot finalise at once.

`none` is a panic or a failed assertion. What the interrupt controller is
told (`mask_interrupt`, `ack_interrupt`, `timer.reset_timer`) is not
modelled: no modelled function reads it back.
-/
import Rel4Kernel.CSpace.Lookup
import Rel4Kernel.CSpace.MdbInvariant
import Rel4Kernel.IPC.Operations

set_option autoImplicit false

namespace Rel4Kernel

open ThreadState cap_tag

/-! ## The interrupt state (`interrupt/mod.rs`) -/

/-- `IRQState` (non-SMP). -/
inductive IRQState where
  | IRQInactive | IRQSignal | IRQTimer | IRQReserved
  deriving DecidableEq, Repr

/-- The interrupt globals: `int_state_irq_table`, by IRQ, and
`int_state_irq_node_ptr`, the address of `intStateIRQNode`. -/
structure interrupt_state where
  int_state_irq_table : Nat → IRQState := fun _ => .IRQInactive
  int_state_irq_node_ptr : Nat := 0

/-- `get_irq_handler_slot`: `get_offset_slot(irq)` of the array at
`int_state_irq_node_ptr`, which adds `size_of::<cte_t>() * irq` with no
bound. -/
def get_irq_handler_slot (int_state_irq_node_ptr irq : Nat) : Nat :=
  int_state_irq_node_ptr + CTE_SIZE * irq

/-- `get_irq_state`; `current_cpu_irq_to_idx` is the identity without SMP. -/
def get_irq_state (g : interrupt_state) (irq : Nat) : IRQState := g.int_state_irq_table irq

/-- `is_irq_active`. -/
def is_irq_active (g : interrupt_state) (index : Nat) : Bool :=
  g.int_state_irq_table index != .IRQInactive

/-- `set_irq_state_by_index`, without the masking at the controller. -/
def set_irq_state_by_index (state : IRQState) (index : Nat) (g : interrupt_state) : interrupt_state :=
  { g with int_state_irq_table := Function.update g.int_state_irq_table index state }

/-- `deletedIRQHandler`. -/
def deletedIRQHandler (index : Nat) (g : interrupt_state) : interrupt_state :=
  set_irq_state_by_index .IRQInactive index g

/-! ## The platforms' IRQ range -/

namespace riscv64

/-- `KERNEL_TIMER_IRQ` without SMP. -/
def KERNEL_TIMER_IRQ : Nat := 1

def MAX_IRQ : Nat := KERNEL_TIMER_IRQ

def IRQ_INVALID : Nat := 0

/-- `check_irq` (RISC-V). -/
def check_irq (irq : Nat) : Except syscall_error Unit :=
  if irq > MAX_IRQ ∨ irq = IRQ_INVALID then .error (.SEL4_RANGE_ERROR 1 MAX_IRQ) else .ok ()

/-- `MessageLabel::RISCVIRQIssueIRQHandlerTrigger`. -/
def RISCVIRQIssueIRQHandlerTrigger : Nat := 37

end riscv64

namespace aarch64

/-- `MAX_IRQ` of qemu-arm-virt. -/
def MAX_IRQ : Nat := 159

/-- `check_irq` (AArch64). -/
def check_irq (irq : Nat) : Except syscall_error Unit :=
  if irq > MAX_IRQ then .error (.SEL4_RANGE_ERROR 0 MAX_IRQ) else .ok ()

/-- `MessageLabel::ARMIRQIssueIRQHandlerTrigger`. -/
def ARMIRQIssueIRQHandlerTrigger : Nat := 46

end aarch64

/-! ## Deleting one cap (`cte.rs`, `interfaces_impl/cspace.rs`) -/

/-- `notification::safe_unbind_tcb`. -/
def notification.safe_unbind_tcb (s : KernelState) (ntfn : Nat) : KernelState :=
  let tcb := (s.ntfns ntfn).ntfnBoundTCB
  let s := s.modifyNtfn ntfn fun n => { n with ntfnBoundTCB := 0 }
  if tcb ≠ 0 then s.modifyTcb tcb fun t => { t with tcbBoundNotification := 0 } else s

/-- `finalise_cap(capability, final, true)`, the call `delete_one` makes. The
last cap to an endpoint or a notification cancels what waits on it; a reply,
null or domain cap needs nothing; every other cap that is not an arch cap
makes it panic ("failed to finalise immediately"). The arch caps go to
`arch_finalise_cap`, whose unmapping is not modelled. Whenever it returns,
the remainder and the cleanup info are the null cap. -/
def finalise_cap (fuel : Nat) (s : KernelState) (capability : cap) (final : Bool) : Option KernelState :=
  if capability.is_arch_cap then some s
  else
    match capability with
    | .endpoint_cap _ _ _ _ _ capEPPtr => if final then cancel_all_ipc fuel s capEPPtr else some s
    | .notification_cap _ _ _ capNtfnPtr =>
      if final then cacncel_all_signal fuel (notification.safe_unbind_tcb s capNtfnPtr) capNtfnPtr
      else some s
    | .reply_cap .. | .null_cap | .domain_cap => some s
    | _ => none

/-- `cte_t::delete_one`: finalise the cap of a slot and empty the slot. Its
assertion, `cap_removable` of the remainder and a null cleanup info, holds
of the null caps `finalise_cap` returns. -/
def cte_t.delete_one (fuel : Nat) (s : KernelState) (slot : Nat) : Option KernelState :=
  if (s.ctes slot).capability.get_tag ≠ cap_null_cap then do
    let s ← finalise_cap fuel s (s.ctes slot).capability (is_final_cap s.ctes slot)
    pure { s with ctes := set_empty slot s.ctes }
  else some s

/-! ## The IRQ invocations (`invoke_irq.rs`, `decode_irq_invocation.rs`) -/

/-- `MessageLabel`s of the IRQ invocations, the same on both architectures. -/
def IRQIssueIRQHandler : Nat := 25

def IRQAckIRQ : Nat := 26

def IRQSetIRQHandler : Nat := 27

def IRQClearIRQHandler : Nat := 28

/-- `invoke_irq_control`: the IRQ signals from now on, and a handler cap for
it goes into `handler_slot`, below the control cap. -/
def invoke_irq_control (s : KernelState) (g : interrupt_state) (irq handler_slot control_slot : Nat) :
    Option (KernelState × interrupt_state) := do
  let g := set_irq_state_by_index .IRQSignal irq g
  let ctes ← cte_insert (.irq_handler_cap irq) control_slot handler_slot s.ctes
  pure ({ s with ctes := ctes }, g)

/-- `invoke_set_irq_handler`: empty the IRQ's handler slot and copy the cap
of `slot` into it. -/
def invoke_set_irq_handler (fuel : Nat) (s : KernelState) (g : interrupt_state) (irq : Nat)
    (capability : cap) (slot : Nat) : Option KernelState := do
  let irq_slot := get_irq_handler_slot g.int_state_irq_node_ptr irq
  let s ← cte_t.delete_one fuel s irq_slot
  let ctes ← cte_insert capability slot irq_slot s.ctes
  pure { s with ctes := ctes }

/-- `invoke_clear_irq_handler`. -/
def invoke_clear_irq_handler (fuel : Nat) (s : KernelState) (g : interrupt_state) (irq : Nat) :
    Option KernelState :=
  cte_t.delete_one fuel s (get_irq_handler_slot g.int_state_irq_node_ptr irq)

/-- `deleting_irq_handler`, which finalising the last IRQ handler cap calls. -/
def deleting_irq_handler (fuel : Nat) (s : KernelState) (g : interrupt_state) (irq : Nat) :
    Option KernelState :=
  cte_t.delete_one fuel s (get_irq_handler_slot g.int_state_irq_node_ptr irq)

/-- The `IRQIssueIRQHandlerTrigger` branch of `arch_decode_irq_control_invocation`,
the same on both architectures but for `check_irq` and the label. Unlike
`IRQIssueIRQHandler` it does not check that the target slot is empty. -/
def arch_decode_irq_control_invocation (check_irq : Nat → Except syscall_error Unit)
    (IRQIssueIRQHandlerTrigger : Nat) (s : KernelState) (g : interrupt_state) (label length : Nat)
    (current_extra_caps : List Nat) (args : Nat → Nat) (src_slot : Nat) :
    Option (Except syscall_error (KernelState × interrupt_state)) :=
  if label = IRQIssueIRQHandlerTrigger then
    match current_extra_caps[0]? with
    | none => some (.error .SEL4_TRUNCATED_MESSAGE)
    | some root =>
      if length < 4 then some (.error .SEL4_TRUNCATED_MESSAGE)
      else
        let irq := args 0
        let index := args 2
        let depth := args 3
        match check_irq irq with
        | .error e => some (.error e)
        | .ok () =>
          if is_irq_active g irq then some (.error .SEL4_REVOKE_FIRST)
          else do
            match ← lookup_slot_for_cnode_op s.ctes false (s.ctes root).capability index depth with
            | .error e => pure (.error e)
            | .ok dest_slot =>
              let s := set_thread_state s s.ksCurThread ThreadStateRestart
              let r ← invoke_irq_control s g irq dest_slot src_slot
              pure (.ok r)
  else some (.error .SEL4_ILLEGAL_OPERATION)

/-- `decode_irq_control_invocation`, for the architecture whose `check_irq`
and trigger label are given. -/
def decode_irq_control_invocation (check_irq : Nat → Except syscall_error Unit)
    (IRQIssueIRQHandlerTrigger : Nat) (s : KernelState) (g : interrupt_state) (label length : Nat)
    (current_extra_caps : List Nat) (args : Nat → Nat) (src_slot : Nat) :
    Option (Except syscall_error (KernelState × interrupt_state)) :=
  if label = IRQIssueIRQHandler then
    match current_extra_caps[0]? with
    | none => some (.error .SEL4_TRUNCATED_MESSAGE)
    | some root =>
      if length < 3 then some (.error .SEL4_TRUNCATED_MESSAGE)
      else
        let irq := args 0
        let index := args 1
        let depth := args 2
        match check_irq irq with
        | .error e => some (.error e)
        | .ok () =>
          if is_irq_active g irq then some (.error .SEL4_REVOKE_FIRST)
          else do
            match ← lookup_slot_for_cnode_op s.ctes false (s.ctes root).capability index depth with
            | .error e => pure (.error e)
            | .ok dest_slot =>
              if (s.ctes dest_slot).capability.get_tag ≠ cap_null_cap then
                pure (.error .SEL4_DELETE_FIRST)
              else
                let s := set_thread_state s s.ksCurThread ThreadStateRestart
                let r ← invoke_irq_control s g irq dest_slot src_slot
                pure (.ok r)
  else
    arch_decode_irq_control_invocation check_irq IRQIssueIRQHandlerTrigger s g label length
      current_extra_caps args src_slot

/-- `decode_irq_control_invocation` on RISC-V. -/
def riscv64.decode_irq_control_invocation : KernelState → interrupt_state → Nat → Nat → List Nat →
    (Nat → Nat) → Nat → Option (Except syscall_error (KernelState × interrupt_state)) :=
  Rel4Kernel.decode_irq_control_invocation riscv64.check_irq riscv64.RISCVIRQIssueIRQHandlerTrigger

/-- `decode_irq_control_invocation` on AArch64. -/
def aarch64.decode_irq_control_invocation : KernelState → interrupt_state → Nat → Nat → List Nat →
    (Nat → Nat) → Nat → Option (Except syscall_error (KernelState × interrupt_state)) :=
  Rel4Kernel.decode_irq_control_invocation aarch64.check_irq aarch64.ARMIRQIssueIRQHandlerTrigger

/-- `decode_irq_handler_invocation` for the IRQ of the invoked handler cap.
`SetIRQHandler` refuses a notification cap that cannot send and takes any
other cap. -/
def decode_irq_handler_invocation (fuel : Nat) (s : KernelState) (g : interrupt_state) (label irq : Nat)
    (current_extra_caps : List Nat) : Option (Except syscall_error KernelState) :=
  if label = IRQAckIRQ then
    some (.ok (set_thread_state s s.ksCurThread ThreadStateRestart))
  else if label = IRQSetIRQHandler then
    match current_extra_caps[0]? with
    | none => some (.error .SEL4_TRUNCATED_MESSAGE)
    | some slot =>
      let ntfn_cap := (s.ctes slot).capability
      match ntfn_cap with
      | .notification_cap _ _ 0 _ => some (.error (.SEL4_INVALID_CAPABILITY 0))
      | _ =>
        let s := set_thread_state s s.ksCurThread ThreadStateRestart
        (invoke_set_irq_handler fuel s g irq ntfn_cap slot).map .ok
  else if label = IRQClearIRQHandler then
    let s := set_thread_state s s.ksCurThread ThreadStateRestart
    (invoke_clear_irq_handler fuel s g irq).map .ok
  else some (.error .SEL4_ILLEGAL_OPERATION)

/-! ## Taking an interrupt (`interrupt/handler.rs`) -/

/-- `handle_interrput` on a platform with this `MAX_IRQ`: an IRQ in the
signal state signals the notification of its handler slot, if that slot
holds a notification cap that can send. -/
def handle_interrput (MAX_IRQ : Nat) (s : KernelState) (g : interrupt_state) (irq : Nat) :
    Option KernelState :=
  if irq > MAX_IRQ then some s
  else
    match get_irq_state g irq with
    | .IRQInactive => some s
    | .IRQSignal =>
      match (s.ctes (get_irq_handler_slot g.int_state_irq_node_ptr irq)).capability with
      | .notification_cap capNtfnBadge _ capNtfnCanSend capNtfnPtr =>
        if capNtfnCanSend ≠ 0 then send_signal s capNtfnPtr capNtfnBadge else some s
      | _ => some s
    | .IRQTimer => some (timer_tick s)
    | .IRQReserved => some s

/-! ## Where the handler slots are -/

/-- Deleting from an empty slot does nothing. -/
theorem cte_t.delete_one_of_null {fuel : Nat} {s : KernelState} {slot : Nat}
    (h : (s.ctes slot).capability = .null_cap) : cte_t.delete_one fuel s slot = some s := by
  simp [cte_t.delete_one, h, cap.get_tag]

/-- Deleting a cap that `finalise_cap` cannot finalise at once panics. -/
theorem cte_t.delete_one_of_finalise_none {fuel : Nat} {s : KernelState} {slot : Nat} {c : cap}
    (hc : (s.ctes slot).capability = c) (hf : ∀ final, finalise_cap fuel s c final = none) :
    cte_t.delete_one fuel s slot = none := by
  -- the null cap finalises, so `c` is not null
  have hnull : c.get_tag ≠ cap_null_cap := by
    intro htag
    rw [cap.get_tag_eq_null] at htag
    have := hf false
    simp [htag, finalise_cap, cap.is_arch_cap, cap.get_tag, cap_tag.val] at this
  simp [cte_t.delete_one, hc, hnull, hf]

/-- The deletion `cancel_ipc` makes, of a null or a reply cap, is the
general `cte_t.delete_one`. -/
theorem cte_t.delete_one_eq_delete_one {fuel : Nat} {s : KernelState} {slot : Nat}
    (h : (s.ctes slot).capability = .null_cap ∨ ∃ t g m, (s.ctes slot).capability = .reply_cap t g m) :
    cte_t.delete_one fuel s slot = Rel4Kernel.delete_one s slot := by
  rcases h with h | ⟨t, g, m, h⟩
  · rw [cte_t.delete_one_of_null h, Rel4Kernel.delete_one, h]
  · simp [cte_t.delete_one, Rel4Kernel.delete_one, h, cap.get_tag, finalise_cap, cap.is_arch_cap, cap_tag.val]

/-- **`SetIRQHandler` installs any cap that is not a notification cap
without the send right.** For every state and every IRQ whose handler slot
is empty, and every slot holding such a cap, the invocation succeeds and the handler slot holds the cap, so that a TCB, a
CNode or an untyped cap can become an IRQ's handler. If `finalise_cap`
cannot finalise the cap at once, the next `ClearIRQHandler` of the IRQ
panics in `delete_one`. -/
theorem decode_irq_handler_invocation_admits_any_cap {fuel : Nat} {s : KernelState} {g : interrupt_state}
    {irq slot : Nat} {c : cap} (hc : cap_of s.ctes slot = c) (hsend : ∀ b r p, c ≠ .notification_cap b r 0 p)
    (hempty : s.ctes (get_irq_handler_slot g.int_state_irq_node_ptr irq) = {}) :
    ∃ s', decode_irq_handler_invocation fuel s g IRQSetIRQHandler irq [slot] = some (.ok s') ∧
      cap_of s'.ctes (get_irq_handler_slot g.int_state_irq_node_ptr irq) = c ∧
      ((∀ fuel s final, finalise_cap fuel s c final = none) →
        decode_irq_handler_invocation fuel s' g IRQClearIRQHandler irq [] = none) := by
  have hctes : (set_thread_state s s.ksCurThread ThreadStateRestart).ctes = s.ctes :=
    set_thread_state_ctes s s.ksCurThread ThreadStateRestart
  obtain ⟨r, hins, hcap⟩ : ∃ r, cte_insert c slot (get_irq_handler_slot g.int_state_irq_node_ptr irq) s.ctes = some r ∧
      cap_of r (get_irq_handler_slot g.int_state_irq_node_ptr irq) = c :=
    cte_insert_self hc hempty
  -- the handler slot is empty, so the deletion leaves the state alone
  have hdel : cte_t.delete_one fuel (set_thread_state s s.ksCurThread ThreadStateRestart)
      (get_irq_handler_slot g.int_state_irq_node_ptr irq) = some (set_thread_state s s.ksCurThread ThreadStateRestart) :=
    cte_t.delete_one_of_null (by rw [hctes, hempty])
  refine ⟨{ set_thread_state s s.ksCurThread ThreadStateRestart with ctes := r }, ?_, hcap, fun hf => ?_⟩
  · simp only [decode_irq_handler_invocation]
    rw [if_neg (by decide), if_pos trivial]
    simp only [List.getElem?_cons_zero]
    split
    · rename_i b r' p heq
      exact absurd (hc.symm.trans heq) (hsend b r' p)
    · have hcap' : (s.ctes slot).capability = c := hc
      simp only [invoke_set_irq_handler, hdel, Option.bind_eq_bind, Option.bind_some, hctes, hcap', hins]
      rfl
  · -- the cap that now sits in the handler slot cannot be finalised
    simp only [decode_irq_handler_invocation]
    rw [if_neg (by decide), if_neg (by decide), if_pos trivial]
    rw [invoke_clear_irq_handler, cte_t.delete_one_of_finalise_none (c := c) ?_ (fun final => hf _ _ final)]
    · rfl
    · rw [set_thread_state_ctes]
      exact hcap

/-- A thread cap in slot `0x300`, and nothing else. -/
def thread_cap_ctes : Nat → cte_t := fun p => if p = 0x300 then { capability := .thread_cap 0x8000 } else {}

theorem set_irq_handler_thread_cap :
    cap_of thread_cap_ctes 0x300 = .thread_cap 0x8000 ∧
      (∀ b r p, cap.thread_cap 0x8000 ≠ .notification_cap b r 0 p) ∧
      thread_cap_ctes (get_irq_handler_slot 0x10000 5) = {} ∧
      ∃ s', decode_irq_handler_invocation 0 { ctes := thread_cap_ctes } { int_state_irq_node_ptr := 0x10000 }
          IRQSetIRQHandler 5 [0x300] = some (.ok s') ∧
        cap_of s'.ctes (get_irq_handler_slot 0x10000 5) = .thread_cap 0x8000 ∧
        ((∀ fuel s final, finalise_cap fuel s (.thread_cap 0x8000) final = none) →
          decode_irq_handler_invocation 0 s' { int_state_irq_node_ptr := 0x10000 } IRQClearIRQHandler 5 [] =
            none) :=
  ⟨rfl, fun _ _ _ => cap.noConfusion, by decide,
    decode_irq_handler_invocation_admits_any_cap (s := { ctes := thread_cap_ctes })
      (g := { int_state_irq_node_ptr := 0x10000 }) rfl (fun _ _ _ => cap.noConfusion) (by decide)⟩


end Rel4Kernel
