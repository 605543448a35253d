/-
The CNode decoder (`decode_cnode_invocation.rs`), non-MCS, on RISC-V, and
what the invocations it reaches do to the slots.

`decode_cnode_invocation` checks the label and the message, looks up the
slots the invocation names and calls one function of `invoke_cnode.rs`.
It writes nothing before that call: every result is a syscall error, or the
run of a `cnode_invocation` on the state the call found, and that invocation
satisfies what the decoder checked (`cnode_invocation.valid`): its slots are
slots, a copy or a move goes from a cap to an empty slot, a rotate's pivot is
neither end. Lookups from a CNode cap with a non-null pointer end at slots
that are not the null pointer (`lookup_slot_for_cnode_op_ne_zero`), which is
why `cspace_wf` forbids CNode caps that name address 0.

Performing a valid invocation keeps the slots well formed when it is also
`safe`: a rotate onto its own source swaps two caps, which must not be
neighbours in the tree's list; a delete must finish at once; a revoke must
delete at once every cap it may reach. These are exactly the cases the
proofs of `Rel4Kernel.CSpace.MdbPreserve` and `Rel4Kernel.CSpace.Delete`
leave open. The results are `decode_cnode_invocation_cases` and
`decode_cnode_invocation_wf`.
-/
import Rel4Kernel.CSpace.Delete

set_option autoImplicit false

namespace Rel4Kernel

open ThreadState cap_tag PointerChain

/-! ## The labels (`MessageLabel`, RISC-V, non-MCS) -/

/-- `MessageLabel::CNodeRevoke`; the CNode labels follow it in this order. -/
def CNodeRevoke : Nat := 16

def CNodeDelete : Nat := 17

def CNodeCancelBadgedSends : Nat := 18

def CNodeCopy : Nat := 19

def CNodeMint : Nat := 20

def CNodeMove : Nat := 21

def CNodeMutate : Nat := 22

def CNodeRotate : Nat := 23

def CNodeSaveCaller : Nat := 24

/-- `CNODE_LAST_INVOCATION` without MCS. -/
def CNODE_LAST_INVOCATION : Nat := CNodeSaveCaller

/-! ## The decoder (`decode_cnode_invocation.rs`) -/

/-- `decode_cnode_invoke_with_two_slot`: Copy, Mint, Move and Mutate of the
cap named by `args 2` and `args 3` under the first extra cap into the empty
`dest_slot`. -/
def decode_cnode_invoke_with_two_slot (s : KernelState) (label dest_slot length : Nat)
    (current_extra_caps : List Nat) (args : Nat → Nat) : cnode_ret := do
  if length < 4 ∨ current_extra_caps[0]? = none then return .error .SEL4_TRUNCATED_MESSAGE
  let src_index := args 2
  let src_depth := args 3
  let some src_root_slot := current_extra_caps[0]? | none
  let src_root := (s.ctes src_root_slot).capability
  if (s.ctes dest_slot).capability.get_tag ≠ cap_null_cap then return .error .SEL4_DELETE_FIRST
  match ← lookup_slot_for_cnode_op s.ctes true src_root src_index src_depth with
  | .error e => return .error e
  | .ok src_slot =>
    if (s.ctes src_slot).capability.get_tag = cap_null_cap then return .error (.SEL4_FAILED_LOOKUP 1)
    if label = CNodeCopy then
      if length < 5 then return .error .SEL4_TRUNCATED_MESSAGE
      let cap_right := seL4_CapRights.of_word (args 4)
      invoke_cnode_copy s src_slot dest_slot cap_right
    else if label = CNodeMint then
      if length < 6 then return .error .SEL4_TRUNCATED_MESSAGE
      let cap_right := seL4_CapRights.of_word (args 4)
      let cap_data := args 5
      invoke_cnode_mint s src_slot dest_slot cap_right cap_data
    else if label = CNodeMove then
      invoke_cnode_move s src_slot dest_slot
    else if label = CNodeMutate then
      if length < 5 then return .error .SEL4_TRUNCATED_MESSAGE
      let cap_data := args 4
      invoke_cnode_mutate s src_slot dest_slot cap_data
    else none

/-- `decode_cnode_rotate`: the source's cap (`args 5` to `args 7`, under the
second extra cap) moves to the pivot (`args 2` to `args 4`, under the first)
and the pivot's to `dest_slot`. -/
def decode_cnode_rotate (s : KernelState) (dest_slot length : Nat) (current_extra_caps : List Nat)
    (args : Nat → Nat) : cnode_ret := do
  if length < 8 ∨ current_extra_caps[0]? = none ∨ current_extra_caps[1]? = none then
    return .error .SEL4_TRUNCATED_MESSAGE
  let pivot_new_data := args 2
  let pivot_index := args 3
  let pivot_depth := args 4
  let src_new_data := args 5
  let src_idnex := args 6
  let src_depth := args 7
  let some pivot_root_slot := current_extra_caps[0]? | none
  let some src_root_slot := current_extra_caps[1]? | none
  let pivot_root := (s.ctes pivot_root_slot).capability
  let src_root := (s.ctes src_root_slot).capability
  match ← lookup_slot_for_cnode_op s.ctes true src_root src_idnex src_depth with
  | .error e => return .error e
  | .ok src_slot =>
    match ← lookup_slot_for_cnode_op s.ctes true pivot_root pivot_index pivot_depth with
    | .error e => return .error e
    | .ok pivot_slot =>
      if pivot_slot = src_slot ∨ pivot_slot = dest_slot then return .error .SEL4_ILLEGAL_OPERATION
      if src_slot ≠ dest_slot ∧ (s.ctes dest_slot).capability.get_tag ≠ cap_null_cap then
        return .error .SEL4_DELETE_FIRST
      if (s.ctes src_slot).capability.get_tag = cap_null_cap then return .error (.SEL4_FAILED_LOOKUP 1)
      if (s.ctes pivot_slot).capability.get_tag = cap_null_cap then return .error (.SEL4_FAILED_LOOKUP 0)
      KernelState.invoke_cnode_rotate s src_slot pivot_slot dest_slot src_new_data pivot_new_data

/-- What a CNode decode returns: the syscall error it reports, or the status
and the state and interrupt state it leaves; `none` is a panic. -/
abbrev decode_ret := Option (Except syscall_error (exception_t × KernelState × interrupt_state))

/-- An invocation's result, with the interrupt state left as it was. -/
def cnode_ret.with_irq (g : interrupt_state) : cnode_ret → decode_ret :=
  Option.map (Except.map fun r => (r.1, r.2, g))

/-- `decode_cnode_invocation` for the invoked CNode cap `capability`: the
label is checked, the target slot is looked up from `args 0` and `args 1`,
and the invocation decoded further or run. -/
def decode_cnode_invocation (preempt : Nat → Bool) (fuel : Nat) (s : KernelState) (g : interrupt_state)
    (invLabel length : Nat) (capability : cap) (current_extra_caps : List Nat) (args : Nat → Nat) :
    decode_ret := do
  if invLabel < CNodeRevoke ∨ invLabel > CNODE_LAST_INVOCATION then return .error .SEL4_ILLEGAL_OPERATION
  if length < 2 then return .error .SEL4_TRUNCATED_MESSAGE
  let index := args 0
  let w_bits := args 1
  match ← lookup_slot_for_cnode_op s.ctes false capability index w_bits with
  | .error e => return .error e
  | .ok dest_slot =>
    if invLabel = CNodeCopy ∨ invLabel = CNodeMint ∨ invLabel = CNodeMove ∨ invLabel = CNodeMutate then
      (decode_cnode_invoke_with_two_slot s invLabel dest_slot length current_extra_caps args).with_irq g
    else if invLabel = CNodeRevoke then (invoke_cnode_revoke preempt fuel s g dest_slot).map .ok
    else if invLabel = CNodeDelete then (invoke_cnode_delete preempt fuel s g dest_slot).map .ok
    else if invLabel = CNodeSaveCaller then (invoke_cnode_save_caller s dest_slot).with_irq g
    else if invLabel = CNodeCancelBadgedSends then
      (invoke_cnode_cancel_badged_sends fuel s dest_slot).with_irq g
    else if invLabel = CNodeRotate then
      (decode_cnode_rotate s dest_slot length current_extra_caps args).with_irq g
    -- "invalid invlabel"
    else none

/-- The invocation a CNode decode settles on, with the slots it names. -/
inductive cnode_invocation where
  | revoke (dest_slot : Nat)
  | delete (dest_slot : Nat)
  | save_caller (dest_slot : Nat)
  | cancel_badged_sends (dest_slot : Nat)
  | copy (src_slot dest_slot : Nat) (cap_right : seL4_CapRights)
  | mint (src_slot dest_slot : Nat) (cap_right : seL4_CapRights) (cap_data : Nat)
  | move (src_slot dest_slot : Nat)
  | mutate (src_slot dest_slot cap_data : Nat)
  | rotate (src_slot pivot_slot dest_slot src_new_data pivot_new_data : Nat)
  deriving DecidableEq, Repr

/-- Run the invocation through the function of `invoke_cnode.rs` that does it. -/
def cnode_invocation.perform (preempt : Nat → Bool) (fuel : Nat) (s : KernelState) (g : interrupt_state) :
    cnode_invocation → decode_ret
  | .revoke dest_slot => (invoke_cnode_revoke preempt fuel s g dest_slot).map .ok
  | .delete dest_slot => (invoke_cnode_delete preempt fuel s g dest_slot).map .ok
  | .save_caller dest_slot => (invoke_cnode_save_caller s dest_slot).with_irq g
  | .cancel_badged_sends dest_slot => (invoke_cnode_cancel_badged_sends fuel s dest_slot).with_irq g
  | .copy src_slot dest_slot cap_right => (invoke_cnode_copy s src_slot dest_slot cap_right).with_irq g
  | .mint src_slot dest_slot cap_right cap_data =>
    (invoke_cnode_mint s src_slot dest_slot cap_right cap_data).with_irq g
  | .move src_slot dest_slot => (invoke_cnode_move s src_slot dest_slot).with_irq g
  | .mutate src_slot dest_slot cap_data => (invoke_cnode_mutate s src_slot dest_slot cap_data).with_irq g
  | .rotate src_slot pivot_slot dest_slot src_new_data pivot_new_data =>
    (KernelState.invoke_cnode_rotate s src_slot pivot_slot dest_slot src_new_data pivot_new_data).with_irq g

/-- What the decoder has checked of the invocation it settles on: no slot
is the null pointer, a copy or a move goes from a slot that holds a cap to
an empty one, and a rotate's pivot is neither end and holds a cap, as its
source does. -/
def cnode_invocation.valid (ctes : Nat → cte_t) : cnode_invocation → Prop
  | .revoke dest_slot | .delete dest_slot | .save_caller dest_slot | .cancel_badged_sends dest_slot =>
    dest_slot ≠ 0
  | .copy src_slot dest_slot _ | .mint src_slot dest_slot _ _ | .move src_slot dest_slot
  | .mutate src_slot dest_slot _ =>
    src_slot ≠ 0 ∧ dest_slot ≠ 0 ∧ cap_of ctes dest_slot = .null_cap ∧ cap_of ctes src_slot ≠ .null_cap
  | .rotate src_slot pivot_slot dest_slot _ _ =>
    src_slot ≠ 0 ∧ pivot_slot ≠ 0 ∧ dest_slot ≠ 0 ∧ pivot_slot ≠ src_slot ∧ pivot_slot ≠ dest_slot ∧
      (src_slot ≠ dest_slot → cap_of ctes dest_slot = .null_cap) ∧
      cap_of ctes src_slot ≠ .null_cap ∧ cap_of ctes pivot_slot ≠ .null_cap

instance (ctes : Nat → cte_t) : (inv : cnode_invocation) → Decidable (inv.valid ctes)
  | .revoke d | .delete d | .save_caller d | .cancel_badged_sends d => inferInstanceAs (Decidable (d ≠ 0))
  | .copy src d _ | .mint src d _ _ | .move src d | .mutate src d _ =>
    inferInstanceAs (Decidable (src ≠ 0 ∧ d ≠ 0 ∧ cap_of ctes d = .null_cap ∧ cap_of ctes src ≠ .null_cap))
  | .rotate src p d _ _ =>
    inferInstanceAs (Decidable (src ≠ 0 ∧ p ≠ 0 ∧ d ≠ 0 ∧ p ≠ src ∧ p ≠ d ∧
      (src ≠ d → cap_of ctes d = .null_cap) ∧ cap_of ctes src ≠ .null_cap ∧ cap_of ctes p ≠ .null_cap))

/-- What performing a valid invocation needs besides to keep the slots well
formed: a rotate onto its own source swaps two caps, which must not be
neighbours in the tree's list; a delete must finish at once; a revoke must
delete at once every cap after the revoked slot. -/
def cnode_invocation.safe (ctes : Nat → cte_t) : cnode_invocation → Prop
  | .revoke dest_slot => ∀ q, Follows (mdb_next ctes) 0 dest_slot q → (cap_of ctes q).deleted_at_once
  | .delete dest_slot =>
    (cap_of ctes dest_slot).get_tag ≠ cap_zombie_cap ∧ cte_t.is_long_running_delete ctes dest_slot = false
  | .rotate src_slot pivot_slot dest_slot _ _ =>
    src_slot = dest_slot → mdb_next ctes src_slot ≠ pivot_slot ∧ mdb_next ctes pivot_slot ≠ src_slot
  | _ => True


/-! ## Lookups end at slots -/

/-- The loop ends at a slot of a CNode with a non-null pointer: the root's,
or one a slot's CNode cap names. By induction on the rounds. -/
theorem resolve_address_bits_loop_slot_ne_zero {ctes : Nat → cte_t}
    (hptr : ∀ q, (cap_of ctes q).cnode_ptr ≠ some 0) {cptr n₀ : Nat} :
    ∀ {fuel g gs r p n : Nat} {ret : resolveAddressBits_ret_t}, p ≠ 0 →
      resolve_address_bits_loop ctes cptr n₀ fuel g gs r p n = some ret →
      ret.status = .EXCEPTION_NONE → ret.slot ≠ 0 := by
  intro fuel
  induction fuel with
  | zero => intro _ _ _ _ _ _ _ h; simp [resolve_address_bits_loop] at h
  | succ fuel ih =>
    intro g gs r p n ret hp h hst
    simp only [resolve_address_bits_loop] at h
    split_ifs at h with h0 hg hl hall
    · cases h
      simp at hst
    · cases h
      simp at hst
    · cases h
      simp [hp]
    · cases hcap : (ctes (p + (wshr cptr (n - (r + gs)) &&& mask_bits r) * CTE_SIZE)).capability with
      | cnode_cap g' gs' r' p' =>
        -- the slot holds a CNode cap: its pointer is not null either
        have hp' : p' ≠ 0 := by
          have hc := hptr (p + (wshr cptr (n - (r + gs)) &&& mask_bits r) * CTE_SIZE)
          simp only [cap_of, hcap, cap.cnode_ptr] at hc
          exact fun he => hc (he ▸ rfl)
        rw [hcap] at h
        exact ih hp' h hst
      | _ =>
        rw [hcap] at h
        cases h
        simp [hp]

/-- **A lookup from a CNode cap with a non-null pointer ends at a slot that
is not the null pointer**, when no slot holds a CNode cap that names address
0. -/
theorem lookup_slot_for_cnode_op_ne_zero {ctes : Nat → cte_t}
    (hptr : ∀ q, (cap_of ctes q).cnode_ptr ≠ some 0) {is_source : Bool} {root : cap} {cptr depth slot : Nat}
    (hroot : root.cnode_ptr ≠ some 0)
    (h : lookup_slot_for_cnode_op ctes is_source root cptr depth = some (.ok slot)) : slot ≠ 0 := by
  cases root with
  | cnode_cap g gs r p =>
    have hp : p ≠ 0 := fun he => hroot (by simp [cap.cnode_ptr, he])
    simp only [lookup_slot_for_cnode_op] at h
    split_ifs at h
    · simp at h
    simp only [Option.bind_eq_bind, Option.bind_eq_some_iff, resolve_address_bits] at h
    obtain ⟨ret, hret, h⟩ := h
    split_ifs at h with hst hbits <;> simp only [Option.pure_def, Option.some.injEq, reduceCtorEq, Except.ok.injEq] at h
    subst h
    exact resolve_address_bits_loop_slot_ne_zero hptr hp hret (not_not.mp hst)
  | _ => simp [lookup_slot_for_cnode_op] at h


/-! ## The decoder settles on a valid invocation -/

section Cases

/-- A result the decoder returns at once is one of its errors. -/
theorem error_of_pure {α : Type} {P : Prop} {e : syscall_error} {r : Except syscall_error α}
    (h : (pure (.error e) : Option (Except syscall_error α)) = some r) : (∃ e, r = .error e) ∨ P :=
  .inl ⟨e, (Option.some.inj h).symm⟩

variable {s : KernelState} {label dest_slot length : Nat} {current_extra_caps : List Nat}
  {args : Nat → Nat} {r : Except syscall_error (exception_t × KernelState)}

/-- What `decode_cnode_invoke_with_two_slot` returns: an error, or the run
of a copy, mint, move or mutate it checked. -/
theorem decode_cnode_invoke_with_two_slot_cases (hptr : ∀ q, (cap_of s.ctes q).cnode_ptr ≠ some 0)
    (hd : dest_slot ≠ 0) (preempt : Nat → Bool) (fuel : Nat) (g : interrupt_state)
    (h : decode_cnode_invoke_with_two_slot s label dest_slot length current_extra_caps args = some r) :
    (∃ e, r = .error e) ∨
      ∃ inv : cnode_invocation, inv.valid s.ctes ∧ inv.perform preempt fuel s g = cnode_ret.with_irq g (some r) := by
  simp only [decode_cnode_invoke_with_two_slot] at h
  by_cases htr : length < 4 ∨ current_extra_caps[0]? = none
  · rw [if_pos htr] at h
    exact error_of_pure h
  rw [if_neg htr] at h
  obtain ⟨root, hroot⟩ := Option.ne_none_iff_exists'.mp (not_or.mp htr).2
  simp only [hroot] at h
  by_cases hdest : (s.ctes dest_slot).capability.get_tag ≠ cap_null_cap
  · rw [if_pos hdest] at h
    exact error_of_pure h
  rw [if_neg hdest] at h
  simp only [Option.bind_eq_bind, Option.bind_eq_some_iff] at h
  obtain ⟨lr, hlr, h⟩ := h
  cases lr with
  | error e => exact error_of_pure h
  | ok src_slot =>
    have hsrc := lookup_slot_for_cnode_op_ne_zero hptr (hptr root) hlr
    dsimp only at h
    by_cases hnull : (s.ctes src_slot).capability.get_tag = cap_null_cap
    · rw [if_pos hnull] at h
      exact error_of_pure h
    rw [if_neg hnull] at h
    -- the checks every invocation below has passed
    have hdn : cap_of s.ctes dest_slot = .null_cap := by simpa [cap_of] using hdest
    have hsc : cap_of s.ctes src_slot ≠ .null_cap := by simpa [cap_of] using hnull
    split_ifs at h
    all_goals try exact error_of_pure h
    · exact .inr ⟨.copy src_slot dest_slot _, ⟨hsrc, hd, hdn, hsc⟩, by rw [cnode_invocation.perform, h]⟩
    · exact .inr ⟨.mint src_slot dest_slot _ _, ⟨hsrc, hd, hdn, hsc⟩, by rw [cnode_invocation.perform, h]⟩
    · exact .inr ⟨.move src_slot dest_slot, ⟨hsrc, hd, hdn, hsc⟩, by rw [cnode_invocation.perform, h]⟩
    · exact .inr ⟨.mutate src_slot dest_slot _, ⟨hsrc, hd, hdn, hsc⟩, by rw [cnode_invocation.perform, h]⟩

/-- What `decode_cnode_rotate` returns: an error, or the run of a rotate it
checked. -/
theorem decode_cnode_rotate_cases (hptr : ∀ q, (cap_of s.ctes q).cnode_ptr ≠ some 0)
    (hd : dest_slot ≠ 0) (preempt : Nat → Bool) (fuel : Nat) (g : interrupt_state)
    (h : decode_cnode_rotate s dest_slot length current_extra_caps args = some r) :
    (∃ e, r = .error e) ∨
      ∃ inv : cnode_invocation, inv.valid s.ctes ∧ inv.perform preempt fuel s g = cnode_ret.with_irq g (some r) := by
  simp only [decode_cnode_rotate] at h
  by_cases htr : length < 8 ∨ current_extra_caps[0]? = none ∨ current_extra_caps[1]? = none
  · rw [if_pos htr] at h
    exact error_of_pure h
  rw [if_neg htr] at h
  have h0 : current_extra_caps[0]? ≠ none := fun he => htr (.inr (.inl he))
  have h1 : current_extra_caps[1]? ≠ none := fun he => htr (.inr (.inr he))
  obtain ⟨pivot_root, hpr⟩ := Option.ne_none_iff_exists'.mp h0
  obtain ⟨src_root, hsr⟩ := Option.ne_none_iff_exists'.mp h1
  simp only [hpr, hsr, Option.bind_eq_bind, Option.bind_eq_some_iff] at h
  obtain ⟨lr, hlr, h⟩ := h
  cases lr with
  | error e => exact error_of_pure h
  | ok src_slot =>
    have hsrc := lookup_slot_for_cnode_op_ne_zero hptr (hptr src_root) hlr
    dsimp only at h
    simp only [Option.bind_eq_some_iff] at h
    obtain ⟨lp, hlp, h⟩ := h
    cases lp with
    | error e => exact error_of_pure h
    | ok pivot_slot =>
      have hpiv := lookup_slot_for_cnode_op_ne_zero hptr (hptr pivot_root) hlp
      dsimp only at h
      split_ifs at h with hsame hdest hsn hpn
      all_goals try exact error_of_pure h
      -- every check passed
      refine .inr ⟨.rotate src_slot pivot_slot dest_slot (args 5) (args 2), ?_, by rw [cnode_invocation.perform, h]⟩
      refine ⟨hsrc, hpiv, hd, (not_or.mp hsame).1, (not_or.mp hsame).2, fun hne => ?_, ?_, ?_⟩
      · simpa [cap_of] using not_and.mp hdest hne
      · simpa [cap_of] using hsn
      · simpa [cap_of] using hpn

/-- **The decoder settles on an invocation before it writes anything**:
every result is a syscall error, or the run of a valid invocation on the
state the call found. -/
theorem decode_cnode_invocation_cases {preempt : Nat → Bool} {fuel : Nat} {g : interrupt_state}
    {invLabel : Nat} {capability : cap} {r : Except syscall_error (exception_t × KernelState × interrupt_state)}
    (hptr : ∀ q, (cap_of s.ctes q).cnode_ptr ≠ some 0) (hroot : capability.cnode_ptr ≠ some 0)
    (h : decode_cnode_invocation preempt fuel s g invLabel length capability current_extra_caps args = some r) :
    (∃ e, r = .error e) ∨ ∃ inv : cnode_invocation, inv.valid s.ctes ∧ inv.perform preempt fuel s g = some r := by
  simp only [decode_cnode_invocation] at h
  by_cases hlab : invLabel < CNodeRevoke ∨ invLabel > CNODE_LAST_INVOCATION
  · rw [if_pos hlab] at h
    exact error_of_pure h
  rw [if_neg hlab] at h
  by_cases hlen : length < 2
  · rw [if_pos hlen] at h
    exact error_of_pure h
  rw [if_neg hlen] at h
  simp only [Option.bind_eq_bind, Option.bind_eq_some_iff] at h
  obtain ⟨lr, hlr, h⟩ := h
  cases lr with
  | error e => exact error_of_pure h
  | ok dest_slot =>
    have hd := lookup_slot_for_cnode_op_ne_zero hptr hroot hlr
    dsimp only at h
    -- the two decoders that go on reading the message: their own cases
    have of_with_irq : ∀ {x : cnode_ret},
        (∀ {r0}, x = some r0 → (∃ e, r0 = .error e) ∨
          ∃ inv : cnode_invocation, inv.valid s.ctes ∧ inv.perform preempt fuel s g = cnode_ret.with_irq g (some r0)) →
        x.with_irq g = some r →
        (∃ e, r = .error e) ∨ ∃ inv : cnode_invocation, inv.valid s.ctes ∧ inv.perform preempt fuel s g = some r := by
      intro x hx hw
      obtain ⟨r0, h0, rfl⟩ := Option.map_eq_some_iff.mp hw
      rcases hx h0 with ⟨e, rfl⟩ | ⟨inv, hv, hp⟩
      · exact .inl ⟨e, rfl⟩
      · exact .inr ⟨inv, hv, by rw [hp]; rfl⟩
    split_ifs at h
    · exact of_with_irq (decode_cnode_invoke_with_two_slot_cases hptr hd preempt fuel g) h
    · exact .inr ⟨.revoke dest_slot, hd, h⟩
    · exact .inr ⟨.delete dest_slot, hd, h⟩
    · exact .inr ⟨.save_caller dest_slot, hd, h⟩
    · exact .inr ⟨.cancel_badged_sends dest_slot, hd, h⟩
    · exact of_with_irq (decode_cnode_rotate_cases hptr hd preempt fuel g) h

end Cases

/-! ## Performing a safe invocation keeps the slots well formed -/

section Keep

variable {preempt : Nat → Bool} {fuel : Nat} {s s' : KernelState} {g g' : interrupt_state}
  {st : exception_t}

/-- An invocation that leaves the interrupt state alone went through. -/
theorem cnode_ret.with_irq_ok {x : cnode_ret} (h : x.with_irq g = some (.ok (st, s', g'))) :
    x = some (.ok (st, s')) ∧ g' = g := by
  obtain ⟨⟨st1, s1⟩, hr, he⟩ := exists_of_map_ok h
  simp only [Prod.mk.injEq] at he
  obtain ⟨rfl, rfl, rfl⟩ := he
  exact ⟨hr, rfl⟩

/-- A revoke or a delete that went through. -/
theorem cnode_ret.map_ok {x : Option (exception_t × KernelState × interrupt_state)}
    (h : x.map .ok = some (Except.ok (ε := syscall_error) (st, s', g'))) : x = some (st, s', g') := by
  obtain ⟨r, hr, he⟩ := Option.map_eq_some_iff.mp h
  rw [← Except.ok.inj he]
  exact hr

/-- **Performing a valid and safe invocation keeps the slots well formed.**
Each invocation is one of the slot operations proved to keep them. -/
theorem cnode_invocation.perform_wf {inv : cnode_invocation} (hwf : cspace_wf s.ctes)
    (hg : g.int_state_irq_node_ptr ≠ 0) (hv : inv.valid s.ctes) (hsafe : inv.safe s.ctes)
    (h : inv.perform preempt fuel s g = some (.ok (st, s', g'))) : cspace_wf s'.ctes := by
  -- a revoke and a delete first restart the caller, which writes no slot
  have hwf' : cspace_wf (set_thread_state s s.ksCurThread ThreadStateRestart).ctes := by
    rw [set_thread_state_ctes]
    exact hwf
  cases inv with
  | revoke d =>
    exact revoke_wf hwf' hg hv (by rw [set_thread_state_ctes]; exact hsafe) (cnode_ret.map_ok h)
  | delete d =>
    obtain ⟨hz, hl⟩ := hsafe
    exact delete_all_wf hwf' hg hv (by rw [set_thread_state_ctes]; exact hz)
      (by rw [set_thread_state_ctes]; exact hl) (cnode_ret.map_ok h)
  | save_caller d => exact invoke_cnode_save_caller_wf hwf hv (cnode_ret.with_irq_ok h).1
  | cancel_badged_sends d => exact invoke_cnode_cancel_badged_sends_wf hwf (cnode_ret.with_irq_ok h).1
  | copy src d r => exact invoke_cnode_copy_wf hwf hv.1 hv.2.1 (cnode_ret.with_irq_ok h).1
  | mint src d r data => exact invoke_cnode_mint_wf hwf hv.1 hv.2.1 (cnode_ret.with_irq_ok h).1
  | move src d => exact invoke_cnode_move_wf hwf hv.1 hv.2.1 (cnode_ret.with_irq_ok h).1
  | mutate src d data => exact invoke_cnode_mutate_wf hwf hv.1 hv.2.1 (cnode_ret.with_irq_ok h).1
  | rotate src p d sd pd =>
    obtain ⟨h1, h2, h3, hps, -⟩ := hv
    exact KernelState.invoke_cnode_rotate_wf hwf h1 h2 h3 (Ne.symm hps) hsafe (cnode_ret.with_irq_ok h).1

/-- No invocation moves the IRQ node. -/
theorem cnode_invocation.perform_irq_node_ptr {inv : cnode_invocation}
    (h : inv.perform preempt fuel s g = some (.ok (st, s', g'))) :
    g'.int_state_irq_node_ptr = g.int_state_irq_node_ptr := by
  cases inv
  case revoke d => exact revoke_irq_node_ptr (cnode_ret.map_ok h)
  case delete d => exact (delete_irq_node_ptr fuel).1 _ _ _ _ _ (cnode_ret.map_ok h)
  all_goals rw [(cnode_ret.with_irq_ok h).2]

/-- **A CNode invocation that goes through runs what the decoder checked, on
the state the call found; it keeps the slots well formed when it is safe,
and the IRQ node where it was.** -/
theorem decode_cnode_invocation_wf {invLabel length : Nat} {capability : cap}
    {current_extra_caps : List Nat} {args : Nat → Nat} (hwf : cspace_wf s.ctes)
    (hg : g.int_state_irq_node_ptr ≠ 0) (hroot : capability.cnode_ptr ≠ some 0)
    (h : decode_cnode_invocation preempt fuel s g invLabel length capability current_extra_caps args =
      some (.ok (st, s', g'))) :
    ∃ inv : cnode_invocation, inv.valid s.ctes ∧ inv.perform preempt fuel s g = some (.ok (st, s', g')) ∧
      (inv.safe s.ctes → cspace_wf s'.ctes) ∧ g'.int_state_irq_node_ptr = g.int_state_irq_node_ptr := by
  rcases decode_cnode_invocation_cases hwf.cnode_ptr_ne hroot h with ⟨e, he⟩ | ⟨inv, hv, hp⟩
  · cases he
  · exact ⟨inv, hv, hp, fun hsafe => cnode_invocation.perform_wf hwf hg hv hsafe hp,
      cnode_invocation.perform_irq_node_ptr hp⟩

/-- An endpoint cap in slot `0x100`, and in slot `0x200` a cap to the CNode
of 32 slots at `0x100` that holds both; its slot 16, at `0x300`, is empty. -/
def irqBugCtes : Nat → cte_t := fun p =>
  if p = 0x100 then { capability := .endpoint_cap 0 1 1 1 1 0x3000 }
  else if p = 0x200 then { capability := .cnode_cap 0 0 5 0x100 } else {}

theorem irqBugCtes_wf : cspace_wf irqBugCtes where
  mdb :=
    { next_prev := fun p _ hn => by
        by_cases h1 : p = 0x100 <;> by_cases h2 : p = 0x200 <;> simp_all [mdb_next, irqBugCtes]
      prev_next := fun p _ hn => by
        by_cases h1 : p = 0x100 <;> by_cases h2 : p = 0x200 <;> simp_all [mdb_prev, irqBugCtes]
      next_terminates := fun p => ⟨1, by
        by_cases h1 : p = 0x100 <;> by_cases h2 : p = 0x200 <;> simp [mdb_next, irqBugCtes, h1, h2]⟩
      null_unlinked := fun p _ hn => by
        by_cases h1 : p = 0x100 <;> by_cases h2 : p = 0x200 <;> simp_all [cap_of, irqBugCtes] }
  cnode_ptr_ne := fun p => by
    by_cases h1 : p = 0x100 <;> by_cases h2 : p = 0x200 <;> simp [cap_of, cap.cnode_ptr, irqBugCtes, h1, h2]

/-- The message of a CNode Copy, through the CNode cap of slot `0x200`, of
the cap in slot 0 into slot 16, with every right. -/
def copyToSlot16Args : Nat → Nat := fun i =>
  if i = 0 then 16 else if i = 1 then 5 else if i = 3 then 5 else if i = 4 then 0xF else 0

/-- A copy of the endpoint cap in slot `0x100` into the empty slot 16 of the
CNode at `0x100`, through the CNode cap of slot `0x200`. -/
theorem decode_cnode_copy_wf :
    ∃ st s' g', decode_cnode_invocation (fun _ => false) 0 { ctes := irqBugCtes }
        { int_state_irq_node_ptr := 0x10000 } CNodeCopy 5 (.cnode_cap 0 0 5 0x100) [0x200] copyToSlot16Args =
        some (.ok (st, s', g')) ∧
      ∃ inv : cnode_invocation, inv.valid irqBugCtes ∧
        inv.perform (fun _ => false) 0 { ctes := irqBugCtes } { int_state_irq_node_ptr := 0x10000 } =
          some (.ok (st, s', g')) ∧
        (inv.safe irqBugCtes → cspace_wf s'.ctes) ∧ g'.int_state_irq_node_ptr = 0x10000 := by
  have hrun : (decode_cnode_invocation (fun _ => false) 0 { ctes := irqBugCtes }
      { int_state_irq_node_ptr := 0x10000 } CNodeCopy 5 (.cnode_cap 0 0 5 0x100) [0x200]
      copyToSlot16Args).map (Except.map fun r => r.1) = some (.ok .EXCEPTION_NONE) := by
    decide +kernel
  obtain ⟨⟨st, s', g'⟩, h, -⟩ := exists_of_map_ok hrun
  exact ⟨st, s', g', h, decode_cnode_invocation_wf irqBugCtes_wf (by decide) (by decide) h⟩

end Keep

/-! ## Deleting a CNode that holds the last cap to another

`reduce_zombie` deletes a CNode's slots from the last. A slot that holds the
last cap to a second CNode becomes that CNode's zombie, and since the
deletion of the inner slots is not immediate, the zombie is swapped with the
first slot it names (`cte_swap`), so that it names its own slot. When those
two slots are neighbours in the tree's list, the swap links a slot to
itself, as it does for a rotate (`cte_swap_adjacent_breaks_mdb`). Retyping
an untyped into a CNode, its cap put in the last slot of another CNode, and
then into an endpoint whose cap goes into the new CNode's first slot leaves
exactly such neighbours: each new cap goes right after the untyped's. -/

/-- The root CNode at `0x100` holds the only cap to a CNode of two slots at
`0x1000` and an untyped cap; from the untyped come a CNode of two slots at
`0x2000`, whose only cap is in `0x1020`, and an endpoint, whose cap is in
`0x2000`. -/
def nestedCNodeCtes : Nat → cte_t := fun p =>
  if p = 0x100 then { capability := .cnode_cap 0 0 1 0x1000 }
  else if p = 0x120 then
    { capability := .untyped_cap 0 0 14 0x0, cteMDBNode := { mdbNext := 0x2000, mdbRevocable := 1 } }
  else if p = 0x2000 then
    { capability := .endpoint_cap 0 1 1 1 1 0x3000,
      cteMDBNode := { mdbNext := 0x1020, mdbRevocable := 1, mdbFirstBadged := 1, mdbPrev := 0x120 } }
  else if p = 0x1020 then
    { capability := .cnode_cap 0 0 1 0x2000,
      cteMDBNode := { mdbRevocable := 1, mdbFirstBadged := 1, mdbPrev := 0x2000 } }
  else {}

theorem nestedCNodeCtes_wf : cspace_wf nestedCNodeCtes where
  mdb :=
    { next_prev := fun p _ hn => by
        by_cases h1 : p = 0x100 <;> by_cases h2 : p = 0x120 <;> by_cases h3 : p = 0x2000 <;>
          by_cases h4 : p = 0x1020 <;> simp_all [mdb_next, mdb_prev, nestedCNodeCtes]
      prev_next := fun p _ hn => by
        by_cases h1 : p = 0x100 <;> by_cases h2 : p = 0x120 <;> by_cases h3 : p = 0x2000 <;>
          by_cases h4 : p = 0x1020 <;> simp_all [mdb_next, mdb_prev, nestedCNodeCtes]
      -- three links reach the null pointer from every slot
      next_terminates := fun p => ⟨3, by
        by_cases h1 : p = 0x100 <;> by_cases h2 : p = 0x120 <;> by_cases h3 : p = 0x2000 <;>
          by_cases h4 : p = 0x1020 <;> simp [mdb_next, nestedCNodeCtes, h1, h2, h3, h4]⟩
      null_unlinked := fun p _ hn => by
        by_cases h1 : p = 0x100 <;> by_cases h2 : p = 0x120 <;> by_cases h3 : p = 0x2000 <;>
          by_cases h4 : p = 0x1020 <;> simp_all [cap_of, nestedCNodeCtes] }
  cnode_ptr_ne := fun p => by
    by_cases h1 : p = 0x100 <;> by_cases h2 : p = 0x120 <;> by_cases h3 : p = 0x2000 <;>
      by_cases h4 : p = 0x1020 <;> simp [cap_of, cap.cnode_ptr, nestedCNodeCtes, h1, h2, h3, h4]

/-- **A CNode Delete of the last cap to a CNode can link a slot to itself**:
from the well-formed slots above, deleting the cap in `0x100` succeeds, and
leaves the endpoint's old slot `0x2000`, where the inner CNode's zombie now
is, as its own successor. -/
theorem decode_cnode_delete_links_slot_to_itself :
    cspace_wf nestedCNodeCtes ∧
      ∃ s' g', decode_cnode_invocation (fun _ => false) 20 { ctes := nestedCNodeCtes }
          { int_state_irq_node_ptr := 0x10000 } CNodeDelete 2 (.cnode_cap 0 0 1 0x100) []
          (fun i => if i = 1 then 1 else 0) = some (.ok (.EXCEPTION_NONE, s', g')) ∧
        cap_of s'.ctes 0x100 = .null_cap ∧ mdb_next s'.ctes 0x2000 = 0x2000 ∧ ¬ mdb_wf s'.ctes := by
  refine ⟨nestedCNodeCtes_wf, ?_⟩
  -- the run, evaluated on what it leaves in the two slots
  have hrun : (decode_cnode_invocation (fun _ => false) 20 { ctes := nestedCNodeCtes }
      { int_state_irq_node_ptr := 0x10000 } CNodeDelete 2 (.cnode_cap 0 0 1 0x100) []
      (fun i => if i = 1 then 1 else 0)).map
        (Except.map fun r => (r.1, cap_of r.2.1.ctes 0x100, mdb_next r.2.1.ctes 0x2000)) =
      some (.ok (.EXCEPTION_NONE, .null_cap, 0x2000)) := by
    decide +kernel
  obtain ⟨⟨st, s', g'⟩, hr, he⟩ := exists_of_map_ok hrun
  simp only [Prod.mk.injEq] at he
  obtain ⟨rfl, hcap, hnext⟩ := he
  exact ⟨s', g', hr, hcap, hnext, fun hwf => hwf.next_ne_self (by decide) hnext⟩

end Rel4Kernel
