/-
The CNode invocations that move caps about (`invoke_cnode.rs`), with the
rights mask and the derivation they use (`mask_cap_rights` of
`syscall/utils.rs`, `cte_t::derive_cap` of `cte.rs` and their RISC-V arch
parts), non-MCS.

Each invocation returns what the source's `exception_t` and
`current_syscall_error` say together: `.error e` where the source sets
`current_syscall_error` to `e` and returns `EXCEPTION_SYSCALL_ERROR` with no
store made, `.ok (status, s)` otherwise. A derivation that fails returns its
status without setting `current_syscall_error`, so it is an `.ok` with the
state unchanged. `none` is a panic or a failed assertion.

The work is to show that every invocation that goes through keeps the
derivation tree well formed (`mdb_wf`): copy and mint are a `cte_insert`,
move, mutate and save-caller a `cte_move`, rotate two `cte_move`s or a
`cte_swap`, and cancel-badged-sends stores no slot. Only the swap needs more
than the invocation checks itself: that the two slots are not neighbours in
the tree (`cte_swap_mdb_wf`).
-/
import Rel4Kernel.IPC.Slots
import Rel4Kernel.Syscall.Untyped

set_option autoImplicit false

namespace Rel4Kernel

open ThreadState cap_tag

/-! ## Rights (`shared_types.bf`, `vm_rights.rs`, `syscall/utils.rs`) -/

/-- `seL4_CapRights`, by its four one-bit fields. -/
structure seL4_CapRights where
  capAllowGrantReply : Nat
  capAllowGrant : Nat
  capAllowRead : Nat
  capAllowWrite : Nat
  deriving DecidableEq, Repr

/-- `seL4_CapRights(Bitfield { arr: [w] })` read through its getters:
`capAllowWrite` is bit 0 of the word and `capAllowGrantReply` bit 3. -/
def seL4_CapRights.of_word (w : Nat) : seL4_CapRights :=
  ⟨w / 8 % 2, w / 4 % 2, w / 2 % 2, w % 2⟩

/-- `vm_rights_t::VMKernelOnly`. -/
def VMKernelOnly : Nat := 1

/-- `vm_rights_t::VMReadOnly`. -/
def VMReadOnly : Nat := 2

/-- `maskVMRights` (RISC-V). `vm_rights_from_word` is a transmute, so the
rights are the frame cap's field as it stands. -/
def maskVMRights (vm_rights : Nat) (rights : seL4_CapRights) : Nat :=
  if vm_rights = VMReadOnly ∧ rights.capAllowRead ≠ 0 then VMReadOnly
  else if vm_rights = VMReadWrite ∧ rights.capAllowRead ≠ 0 then
    if rights.capAllowWrite = 0 then VMReadOnly else VMReadWrite
  else VMKernelOnly

/-- `arch_mask_cap_rights` (RISC-V): only a frame cap has rights to mask. -/
def arch_mask_cap_rights (rights : seL4_CapRights) : cap → cap
  | .frame_cap asid base size vm_rights dev addr =>
    .frame_cap asid base size (maskVMRights vm_rights rights) dev addr
  | c => c

/-- `mask_cap_rights`: each right of an endpoint, notification or reply cap
is kept only where `rights` grants it. The source's frame branch is never
reached, a frame cap being an arch cap. -/
def mask_cap_rights (rights : seL4_CapRights) (capability : cap) : cap :=
  if capability.is_arch_cap then arch_mask_cap_rights rights capability
  else
    match capability with
    | .endpoint_cap badge grantReply grant recv send ptr =>
      .endpoint_cap badge (grantReply &&& rights.capAllowGrantReply) (grant &&& rights.capAllowGrant)
        (recv &&& rights.capAllowRead) (send &&& rights.capAllowWrite) ptr
    | .notification_cap badge recv send ptr =>
      .notification_cap badge (recv &&& rights.capAllowRead) (send &&& rights.capAllowWrite) ptr
    | .reply_cap tcb grant master => .reply_cap tcb (grant &&& rights.capAllowGrant) master
    | c => c

/-! ## Derivation (`cte.rs`, `arch/riscv64/mod.rs`) -/

/-- `deriveCap_ret`. -/
structure deriveCap_ret where
  status : exception_t
  capability : cap
  deriving DecidableEq, Repr

/-- `cte_t::arch_derive_cap` (RISC-V): an unmapped page table cannot be
derived, and a derived frame cap is unmapped. `none` is the panic on any
other cap, none of which is an arch cap. -/
def arch_derive_cap (capability : cap) : Option deriveCap_ret :=
  match capability with
  | .page_table_cap _ _ capPTIsMapped _ =>
    if capPTIsMapped ≠ 0 then some ⟨.EXCEPTION_NONE, capability⟩
    else some ⟨.EXCEPTION_SYSCALL_ERROR, .null_cap⟩
  | .frame_cap _ base size vm_rights dev _ => some ⟨.EXCEPTION_NONE, .frame_cap 0 base size vm_rights dev 0⟩
  | .asid_control_cap | .asid_pool_cap .. => some ⟨.EXCEPTION_NONE, capability⟩
  | _ => none

/-- `cte_t::derive_cap`, on the slot `slot` the cap comes from: a zombie,
reply or IRQ control cap derives to nothing, and an untyped cap only while
it has no children. -/
def cte_t.derive_cap (ctes : Nat → cte_t) (slot : Nat) (capability : cap) : Option deriveCap_ret :=
  if capability.is_arch_cap then arch_derive_cap capability
  else
    match capability with
    | .zombie_cap .. => some ⟨.EXCEPTION_NONE, .null_cap⟩
    | .untyped_cap .. => do
      -- `ensure_no_children` reports a child as `EXCEPTION_SYSCALL_ERROR`
      let children ← ensure_no_children ctes slot
      if children then some ⟨.EXCEPTION_SYSCALL_ERROR, .null_cap⟩
      else some ⟨.EXCEPTION_NONE, capability⟩
    | .reply_cap .. | .irq_control_cap => some ⟨.EXCEPTION_NONE, .null_cap⟩
    | _ => some ⟨.EXCEPTION_NONE, capability⟩

/-! ## The invocations (`invoke_cnode.rs`) -/

/-- What an invocation returns: the syscall error it reports, or its status
and the state it leaves; `none` is a panic. -/
abbrev cnode_ret := Option (Except syscall_error (exception_t × KernelState))

/-- The body `invoke_cnode_copy` and `invoke_cnode_mint` share, for the cap
`src_cap` they made from the cap of `src_slot`: derive it, and insert the
result below `src_slot`. -/
def invoke_cnode_derive_insert (s : KernelState) (src_slot dest_slot : Nat) (src_cap : cap) :
    cnode_ret := do
  let dc_ret ← cte_t.derive_cap s.ctes src_slot src_cap
  if dc_ret.status ≠ .EXCEPTION_NONE then return .ok (dc_ret.status, s)
  if dc_ret.capability.get_tag = cap_null_cap then return .error .SEL4_ILLEGAL_OPERATION
  let s := set_thread_state s s.ksCurThread ThreadStateRestart
  let ctes ← cte_insert dc_ret.capability src_slot dest_slot s.ctes
  return .ok (.EXCEPTION_NONE, { s with ctes := ctes })

/-- `invoke_cnode_copy`. -/
def invoke_cnode_copy (s : KernelState) (src_slot dest_slot : Nat) (cap_right : seL4_CapRights) :
    cnode_ret :=
  invoke_cnode_derive_insert s src_slot dest_slot (mask_cap_rights cap_right (s.ctes src_slot).capability)

/-- `invoke_cnode_mint`: a copy that may also take a badge or a guard. -/
def invoke_cnode_mint (s : KernelState) (src_slot dest_slot : Nat) (cap_right : seL4_CapRights)
    (cap_data : Nat) : cnode_ret :=
  invoke_cnode_derive_insert s src_slot dest_slot
    ((mask_cap_rights cap_right (s.ctes src_slot).capability).update_data false cap_data)

/-- The body `invoke_cnode_mutate` and `invoke_cnode_move` share, for the
cap `new_cap` they made from the cap of `src_slot`: move it to `dest_slot`. -/
def invoke_cnode_move_cap (s : KernelState) (src_slot dest_slot : Nat) (new_cap : cap) : cnode_ret := do
  if new_cap.get_tag = cap_null_cap then return .error .SEL4_ILLEGAL_OPERATION
  let s := set_thread_state s s.ksCurThread ThreadStateRestart
  let ctes ← cte_move new_cap src_slot dest_slot s.ctes
  return .ok (.EXCEPTION_NONE, { s with ctes := ctes })

/-- `invoke_cnode_mutate`: a move that may set a CNode cap's guard. An
endpoint or notification cap comes out null, and is not moved. -/
def invoke_cnode_mutate (s : KernelState) (src_slot dest_slot cap_data : Nat) : cnode_ret :=
  invoke_cnode_move_cap s src_slot dest_slot ((s.ctes src_slot).capability.update_data true cap_data)

/-- `invoke_cnode_move`. -/
def invoke_cnode_move (s : KernelState) (src_slot dest_slot : Nat) : cnode_ret :=
  invoke_cnode_move_cap s src_slot dest_slot (s.ctes src_slot).capability

/-- `invoke_cnode_save_caller` (non-MCS): move the reply cap in the current
thread's caller slot to `dest_slot`. A master reply cap there stays. -/
def invoke_cnode_save_caller (s : KernelState) (dest_slot : Nat) : cnode_ret := do
  if (s.ctes dest_slot).capability.get_tag ≠ cap_null_cap then return .error .SEL4_DELETE_FIRST
  let s := set_thread_state s s.ksCurThread ThreadStateRestart
  let src_slot := tcb_cte_slot s.ksCurThread TCB_CALLER
  match (s.ctes src_slot).capability with
  | .null_cap => return .ok (.EXCEPTION_NONE, s)
  | .reply_cap capTCBPtr capReplyCanGrant capReplyMaster =>
    if capReplyMaster = 0 then
      let ctes ← cte_move (.reply_cap capTCBPtr capReplyCanGrant capReplyMaster) src_slot dest_slot s.ctes
      return .ok (.EXCEPTION_NONE, { s with ctes := ctes })
    else return .ok (.EXCEPTION_NONE, s)
  | _ => none

/-- The whole-state `invoke_cnode_rotate`: the cap of `slot1`
(the source) moves to `slot2` (the pivot) and the pivot's to `slot3` (the
destination), or the two are swapped when `slot3` is `slot1`. The slot heap
part alone is `Rel4Kernel.invoke_cnode_rotate`. -/
def KernelState.invoke_cnode_rotate (s : KernelState) (slot1 slot2 slot3 src_new_data pivot_new_data : Nat) :
    cnode_ret := do
  let new_src_cap := (s.ctes slot1).capability.update_data true src_new_data
  let new_pivot_cap := (s.ctes slot2).capability.update_data true pivot_new_data
  if new_src_cap.get_tag = cap_null_cap then return .error .SEL4_ILLEGAL_OPERATION
  if new_pivot_cap.get_tag = cap_null_cap then return .error .SEL4_ILLEGAL_OPERATION
  let s := set_thread_state s s.ksCurThread ThreadStateRestart
  if slot1 = slot3 then
    return .ok (.EXCEPTION_NONE, { s with ctes := cte_swap new_src_cap slot1 new_pivot_cap slot2 s.ctes })
  else
    let ctes ← cte_move new_pivot_cap slot2 slot3 s.ctes
    let ctes ← cte_move new_src_cap slot1 slot2 ctes
    return .ok (.EXCEPTION_NONE, { s with ctes := ctes })

/-- `has_cancel_send_right`: an endpoint cap with all four rights. -/
def has_cancel_send_right : cap → Bool
  | .endpoint_cap _ capCanGrantReply capCanGrant capCanReceive capCanSend _ =>
    capCanSend ≠ 0 && capCanReceive ≠ 0 && capCanGrant ≠ 0 && capCanGrantReply ≠ 0
  | _ => false

/-- `invoke_cnode_cancel_badged_sends`: restart the senders on the endpoint
that carry the cap's badge; an unbadged cap cancels nothing. The loop over
the queue runs at most `fuel` turns. -/
def invoke_cnode_cancel_badged_sends (fuel : Nat) (s : KernelState) (dest_slot : Nat) : cnode_ret := do
  let dest_cap := (s.ctes dest_slot).capability
  if !has_cancel_send_right dest_cap then return .error .SEL4_ILLEGAL_OPERATION
  let s := set_thread_state s s.ksCurThread ThreadStateRestart
  match dest_cap with
  | .endpoint_cap badge _ _ _ _ capEPPtr =>
    if badge ≠ 0 then
      let s ← cancel_badged_sends fuel s capEPPtr badge
      return .ok (.EXCEPTION_NONE, s)
    else return .ok (.EXCEPTION_NONE, s)
  -- not reached: only an endpoint cap has the right
  | _ => return .ok (.EXCEPTION_NONE, s)

/-! ## What the cap transformations keep -/

@[simp] theorem mask_cap_rights_null (rights : seL4_CapRights) :
    mask_cap_rights rights .null_cap = .null_cap := rfl

@[simp] theorem update_data_null (preserve : Bool) (new_data : Nat) :
    cap.update_data .null_cap preserve new_data = .null_cap := rfl

theorem derive_cap_null (ctes : Nat → cte_t) (slot : Nat) :
    cte_t.derive_cap ctes slot .null_cap = some ⟨.EXCEPTION_NONE, .null_cap⟩ := rfl

/-- Masking rights keeps the CNode a cap names. -/
@[simp] theorem mask_cap_rights_cnode_ptr (rights : seL4_CapRights) (c : cap) :
    (mask_cap_rights rights c).cnode_ptr = c.cnode_ptr := by
  cases c <;> simp [mask_cap_rights, arch_mask_cap_rights, cap.is_arch_cap, cap.get_tag, cap_tag.val, cap.cnode_ptr]

/-- A cap updated with new data names a CNode only if it named it before. -/
theorem update_data_cnode_ptr {c : cap} {preserve : Bool} {new_data q : Nat}
    (h : (c.update_data preserve new_data).cnode_ptr = some q) : c.cnode_ptr = some q := by
  unfold cap.update_data at h
  split at h
  · exact h
  · -- a badged or guarded cap keeps its pointer, or comes out null
    split at h <;> (try dsimp only at h) <;> (try split_ifs at h) <;> simp_all [cap.cnode_ptr]

/-- A derived cap names the CNode the cap it came from names: a CNode cap
derives to itself, and no other cap derives to a CNode cap. -/
theorem derive_cap_cnode_ptr {ctes : Nat → cte_t} {slot : Nat} {c : cap} {r : deriveCap_ret}
    (h : cte_t.derive_cap ctes slot c = some r) : r.capability.cnode_ptr = c.cnode_ptr := by
  unfold cte_t.derive_cap at h
  split at h
  · unfold arch_derive_cap at h
    split at h <;> (try split at h) <;> cases h <;> rfl
  · split at h
    case h_2 =>
      simp only [Option.bind_eq_bind, Option.bind_eq_some_iff] at h
      obtain ⟨children, -, h⟩ := h
      split at h <;> cases h <;> rfl
    all_goals cases h; rfl

/-! ## What each invocation does to the slots -/

section Spec

variable {s s' : KernelState} {st : exception_t}

/-- The one store of `invoke_cnode_derive_insert` that reaches the slots: a
`cte_insert` of a derived cap that is not null, made from a cap that is not
null. -/
theorem invoke_cnode_derive_insert_ok {src dest : Nat} {c : cap}
    (h : invoke_cnode_derive_insert s src dest c = some (.ok (st, s'))) :
    s' = s ∨ ∃ d ctes, d ≠ .null_cap ∧ c ≠ .null_cap ∧ d.cnode_ptr = c.cnode_ptr ∧
      cte_insert d src dest s.ctes = some ctes ∧
      s' = { set_thread_state s s.ksCurThread ThreadStateRestart with ctes := ctes } := by
  simp only [invoke_cnode_derive_insert, Option.bind_eq_bind, Option.bind_eq_some_iff] at h
  obtain ⟨dc, hdc, h⟩ := h
  split_ifs at h with hst hnull
  · cases h
    exact .inl rfl
  · cases h
  · obtain ⟨ctes, hins, h⟩ := Option.bind_eq_some_iff.1 h
    cases h
    have hd : dc.capability ≠ .null_cap := fun he => hnull (by simp [he, cap.get_tag])
    refine .inr ⟨dc.capability, ctes, hd, ?_, derive_cap_cnode_ptr hdc, by simpa using hins, rfl⟩
    rintro rfl
    rw [derive_cap_null] at hdc
    cases hdc
    exact hd rfl

/-- The one store of `invoke_cnode_move_cap` that reaches the slots: a
`cte_move` of a cap that is not null. -/
theorem invoke_cnode_move_cap_ok {src dest : Nat} {c : cap}
    (h : invoke_cnode_move_cap s src dest c = some (.ok (st, s'))) :
    c ≠ .null_cap ∧ ∃ ctes, cte_move c src dest s.ctes = some ctes ∧
      s' = { set_thread_state s s.ksCurThread ThreadStateRestart with ctes := ctes } := by
  simp only [invoke_cnode_move_cap, Option.bind_eq_bind] at h
  split_ifs at h with hnull
  · cases h
  · obtain ⟨ctes, hmv, h⟩ := Option.bind_eq_some_iff.1 h
    cases h
    exact ⟨fun he => hnull (by simp [he, cap.get_tag]), ctes, by simpa using hmv, rfl⟩

end Spec

/-! ## Every invocation keeps the slots well formed -/

section Keep

variable {s s' : KernelState} {st : exception_t} (hwf : cspace_wf s.ctes)
include hwf

/-- The copy-and-mint body keeps the slots well formed, for a cap made from
the source's cap: null only if that was, and naming only the CNode it names. -/
theorem invoke_cnode_derive_insert_wf {src dest : Nat} {c : cap} (hsrc : src ≠ 0) (hdest : dest ≠ 0)
    (hc : cap_of s.ctes src = .null_cap → c = .null_cap)
    (hptr : ∀ q, c.cnode_ptr = some q → (cap_of s.ctes src).cnode_ptr = some q)
    (h : invoke_cnode_derive_insert s src dest c = some (.ok (st, s'))) : cspace_wf s'.ctes := by
  rcases invoke_cnode_derive_insert_ok h with rfl | ⟨d, ctes, hd, hcn, hdp, hins, rfl⟩
  · exact hwf
  · refine hwf.of_cte_insert (by simpa using hins) hsrc hdest hd (fun hn => hcn (hc hn)) ?_
    rw [hdp]
    exact fun h0 => hwf.cnode_ptr_ne src (hptr 0 h0)

/-- The move-and-mutate body keeps the slots well formed, for a cap made from
the source's cap as above. -/
theorem invoke_cnode_move_cap_wf {src dest : Nat} {c : cap} (hsrc : src ≠ 0) (hdest : dest ≠ 0)
    (hc : cap_of s.ctes src = .null_cap → c = .null_cap)
    (hptr : ∀ q, c.cnode_ptr = some q → (cap_of s.ctes src).cnode_ptr = some q)
    (h : invoke_cnode_move_cap s src dest c = some (.ok (st, s'))) : cspace_wf s'.ctes := by
  obtain ⟨hcn, ctes, hmv, rfl⟩ := invoke_cnode_move_cap_ok h
  exact hwf.of_cte_move (by simpa using hmv) hsrc hdest hcn (fun hn => hcn (hc hn))
    fun h0 => hwf.cnode_ptr_ne src (hptr 0 h0)

theorem invoke_cnode_copy_wf {src dest : Nat} {cap_right : seL4_CapRights} (hsrc : src ≠ 0)
    (hdest : dest ≠ 0) (h : invoke_cnode_copy s src dest cap_right = some (.ok (st, s'))) :
    cspace_wf s'.ctes :=
  invoke_cnode_derive_insert_wf hwf hsrc hdest (fun hn => by simp [capability_eq_cap_of, hn])
    (fun q hq => by rwa [mask_cap_rights_cnode_ptr] at hq) h

theorem invoke_cnode_mint_wf {src dest : Nat} {cap_right : seL4_CapRights} {cap_data : Nat}
    (hsrc : src ≠ 0) (hdest : dest ≠ 0)
    (h : invoke_cnode_mint s src dest cap_right cap_data = some (.ok (st, s'))) : cspace_wf s'.ctes :=
  invoke_cnode_derive_insert_wf hwf hsrc hdest (fun hn => by simp [capability_eq_cap_of, hn])
    (fun q hq => by rw [← mask_cap_rights_cnode_ptr cap_right]; exact update_data_cnode_ptr hq) h

theorem invoke_cnode_mutate_wf {src dest cap_data : Nat} (hsrc : src ≠ 0) (hdest : dest ≠ 0)
    (h : invoke_cnode_mutate s src dest cap_data = some (.ok (st, s'))) : cspace_wf s'.ctes :=
  invoke_cnode_move_cap_wf hwf hsrc hdest (fun hn => by simp [hn])
    (fun _ hq => update_data_cnode_ptr hq) h

theorem invoke_cnode_move_wf {src dest : Nat} (hsrc : src ≠ 0) (hdest : dest ≠ 0)
    (h : invoke_cnode_move s src dest = some (.ok (st, s'))) : cspace_wf s'.ctes :=
  invoke_cnode_move_cap_wf hwf hsrc hdest id (fun _ => id) h

theorem invoke_cnode_save_caller_wf {dest : Nat} (hdest : dest ≠ 0)
    (h : invoke_cnode_save_caller s dest = some (.ok (st, s'))) : cspace_wf s'.ctes := by
  simp only [invoke_cnode_save_caller, Option.bind_eq_bind] at h
  split_ifs at h
  · cases h
  · split at h
    next => cases h; simpa using hwf
    next tcb grant master hreply =>
      split_ifs at h
      · obtain ⟨ctes, hmv, h⟩ := Option.bind_eq_some_iff.1 h
        cases h
        simp only [set_thread_state_ctes] at hmv hreply
        refine hwf.of_cte_move hmv (tcb_cte_slot_ne_zero (by decide) _) hdest (by simp) ?_ (by simp [cap.cnode_ptr])
        simp [cap_of, hreply]
      · cases h
        simpa using hwf
    next => cases h

/-- Rotate keeps the slots well formed when its three slots are slots and
the source is not the pivot, as the decoder checks, and when a swap (the
destination being the source) is not of two neighbours in the tree. -/
theorem KernelState.invoke_cnode_rotate_wf {slot1 slot2 slot3 src_new_data pivot_new_data : Nat}
    (h1 : slot1 ≠ 0) (h2 : slot2 ≠ 0) (h3 : slot3 ≠ 0) (h12 : slot1 ≠ slot2)
    (hadj : slot1 = slot3 → mdb_next s.ctes slot1 ≠ slot2 ∧ mdb_next s.ctes slot2 ≠ slot1)
    (h : s.invoke_cnode_rotate slot1 slot2 slot3 src_new_data pivot_new_data = some (.ok (st, s'))) :
    cspace_wf s'.ctes := by
  simp only [KernelState.invoke_cnode_rotate, Option.bind_eq_bind] at h
  split_ifs at h with hn1 hn2 h13
  · cases h
  · cases h
  · cases h
    obtain ⟨a1, a2⟩ := hadj h13
    rw [cap.get_tag_eq_null] at hn1 hn2
    exact (by simpa using hwf : cspace_wf (set_thread_state s s.ksCurThread ThreadStateRestart).ctes).of_cte_swap
      h1 h2 h12 (by simpa using a1) (by simpa using a2) hn1 hn2
      (fun h0 => hwf.cnode_ptr_ne slot1 (update_data_cnode_ptr h0))
      (fun h0 => hwf.cnode_ptr_ne slot2 (update_data_cnode_ptr h0))
  · -- two moves: the pivot's cap to the destination, then the source's to the pivot
    obtain ⟨ctes1, hm1, h⟩ := Option.bind_eq_some_iff.1 h
    obtain ⟨ctes2, hm2, h⟩ := Option.bind_eq_some_iff.1 h
    cases h
    rw [cap.get_tag_eq_null] at hn1 hn2
    simp only [set_thread_state_ctes] at hm1
    have hsc2 : cap_of s.ctes slot2 ≠ .null_cap := fun hn => hn2 (by simp [capability_eq_cap_of, hn])
    have hsc1 : cap_of s.ctes slot1 ≠ .null_cap := fun hn => hn1 (by simp [capability_eq_cap_of, hn])
    have hwf1 := hwf.of_cte_move hm1 h2 h3 hn2 hsc2
      fun h0 => hwf.cnode_ptr_ne slot2 (update_data_cnode_ptr h0)
    have hcap1 : cap_of ctes1 slot1 = cap_of s.ctes slot1 := by
      rw [(cte_move_spec hm1).2.2.2.1]
      simp [h12, h13]
    exact hwf1.of_cte_move hm2 h1 h2 hn1 (hcap1 ▸ hsc1)
      fun h0 => hwf.cnode_ptr_ne slot1 (update_data_cnode_ptr h0)

theorem invoke_cnode_cancel_badged_sends_wf {fuel dest : Nat}
    (h : invoke_cnode_cancel_badged_sends fuel s dest = some (.ok (st, s'))) : cspace_wf s'.ctes := by
  simp only [invoke_cnode_cancel_badged_sends, Option.bind_eq_bind] at h
  split_ifs at h
  · cases h
  · split at h
    · split_ifs at h
      · obtain ⟨s'', hc, h⟩ := Option.bind_eq_some_iff.1 h
        cases h
        rw [cancel_badged_sends_ctes hc]
        simpa using hwf
      · cases h
        simpa using hwf
    · cases h
      simpa using hwf

end Keep

end Rel4Kernel
