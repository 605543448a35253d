/-
The message transfer of an IPC (`sel4_ipc/src/transfer.rs`, non-MCS), and the
lookups on a thread's IPC buffer and CSpace that it rests on
(`sel4_task/src/tcb.rs`).

`do_normal_transfer` copies the message registers, and through the IPC
buffers the words past them, and hands over the extra caps of a sender that
may grant (`set_transfer_caps`): an endpoint cap to the endpoint of the IPC
travels as its badge, and the first other cap is derived and inserted into
the receiver's receive slot, below its own slot; at most one cap moves.

Unlike `getReceiveSlots`, `get_receive_slot` does not ask that the receive
slot be empty, so a receive slot that holds a cap reaches `cte_insert`, whose
assertion panics (`do_normal_transfer_panics_of_full_receive_slot`). A
transfer that returns inserted into an empty slot, and keeps the slots well
formed (`do_normal_transfer_wf`); besides that slot it writes registers and
IPC buffers alone (`writes_msg`).

The model holds the user memory the transfer reads as the IPC buffers by
address, and each thread's `tcbIPCBuffer` word, beside the kernel state
(`ipc_state`). The arrays of the source are functions of their index.
-/
import Rel4Kernel.Syscall.DecodeCNode
import Rel4Kernel.Syscall.InvokeTcb

set_option autoImplicit false

namespace Rel4Kernel

open Function ThreadState cap_tag

/-! ## The IPC buffer and the message-info word -/

/-- `SEL4_MSG_MAX_LENGTH`. -/
def SEL4_MSG_MAX_LENGTH : Nat := 120

/-- `SEL4_MSG_MAX_EXTRA_CAPS`. -/
def SEL4_MSG_MAX_EXTRA_CAPS : Nat := 2 ^ SEL4_MSG_EXTRA_CAP_BITS - 1

/-- `MSG_REGISTER_NUM` on RISC-V. -/
def MSG_REGISTER_NUM : Nat := 4

/-- `ArchReg::MsgInfo.to_index()` on RISC-V. -/
def ArchReg.MsgInfo : Nat := 10

/-- `ArchReg::Msg(i).to_index()` on RISC-V, `MSG_REGISTER[i]`, for the
indices `i < MSG_REGISTER_NUM` the modelled code passes. -/
def ArchReg.Msg (i : Nat) : Nat := MSG_REGISTER_0 + i

/-- `seL4_IPCBuffer`, with the fields the modelled code reads or writes. -/
structure seL4_IPCBuffer where
  msg : Nat → Nat := fun _ => 0
  caps_or_badges : Nat → Nat := fun _ => 0
  receiveCNode : Nat := 0
  receiveIndex : Nat := 0
  receiveDepth : Nat := 0

/-- `seL4_IPCBuffer::get_extra_cptr`. -/
def seL4_IPCBuffer.get_extra_cptr (b : seL4_IPCBuffer) (i : Nat) : Nat := b.caps_or_badges i

/-- A field of `n` bits at bit `lo` of a word replaced by the low bits of
`v`, as `set_bits` writes a field that lies in one word. -/
def word_set_field (w lo n v : Nat) : Nat :=
  w - ((w >>> lo) % 2 ^ n) <<< lo + (v % 2 ^ n) <<< lo

namespace seL4_MessageInfo

/-- `seL4_MessageInfo::get_extraCaps`: field `extraCaps`, bits `7 .. 9`. -/
def get_extraCaps (w : Nat) : Nat := (w >>> SEL4_MSG_LENGTH_BITS) % 2 ^ SEL4_MSG_EXTRA_CAP_BITS

/-- `seL4_MessageInfo::get_capsUnwrapped`: field `capsUnwrapped`, bits `9 .. 12`. -/
def get_capsUnwrapped (w : Nat) : Nat := (w >>> 9) % 2 ^ 3

/-- `seL4_MessageInfo::set_extraCaps`. -/
def set_extraCaps (w v : Nat) : Nat := word_set_field w SEL4_MSG_LENGTH_BITS SEL4_MSG_EXTRA_CAP_BITS v

/-- `seL4_MessageInfo::set_length`. -/
def set_length (w v : Nat) : Nat := word_set_field w 0 SEL4_MSG_LENGTH_BITS v

/-- `seL4_MessageInfo::from_word_security`: a length past the longest
message is cut to it. -/
def from_word_security (w : Nat) : Nat :=
  if get_length w > SEL4_MSG_MAX_LENGTH then set_length w SEL4_MSG_MAX_LENGTH else w

/-- `seL4_MessageInfo::new(label, capsUnwrapped, extraCaps, length)`, each
field cut to its width. -/
def new (label capsUnwrapped extraCaps length : Nat) : Nat :=
  (label % 2 ^ 52) <<< 12 + (capsUnwrapped % 2 ^ 3) <<< 9 + (extraCaps % 2 ^ SEL4_MSG_EXTRA_CAP_BITS) <<< 7 +
    length % 2 ^ SEL4_MSG_LENGTH_BITS

end seL4_MessageInfo

/-! ## The state a transfer reads -/

/-! ## Faults -/

/-- `lookup_fault`, what a failed capability lookup leaves in a thread's
`tcbLookupFailure`, with the fields of each block. -/
inductive lookup_fault where
  | invalid_root
  | missing_capability (bitsLeft : Nat)
  | depth_mismatch (bitsLeft bitsFound : Nat)
  | guard_mismatch (guardFound bitsLeft bitsFound : Nat)
  deriving DecidableEq, Repr

/-- The tag `lufType` of a lookup fault. -/
def lookup_fault.get_tag : lookup_fault → Nat
  | .invalid_root => 0
  | .missing_capability .. => 1
  | .depth_mismatch .. => 2
  | .guard_mismatch .. => 3

/-- The fields of a thread's `tcbFault` beside its tag, which `tcb_t` holds,
as the getters of the fault's block return them; each fault reads its own. -/
structure seL4_Fault_fields where
  address : Nat := 0
  inReceivePhase : Nat := 0
  syscallNumber : Nat := 0
  number : Nat := 0
  code : Nat := 0
  instructionFault : Nat := 0
  FSR : Nat := 0

/-- `seL4_FaultType` of each tag in the non-MCS build on RISC-V; the timeout
fault of the MCS build has its MCS value. -/
def seL4_Fault_tag.val : seL4_Fault_tag → Nat
  | .seL4_Fault_NullFault => 0
  | .seL4_Fault_CapFault => 1
  | .seL4_Fault_UnknownSyscall => 2
  | .seL4_Fault_UserException => 3
  | .seL4_Fault_VMFault => 5
  | .seL4_Fault_Timeout => 5

def CAP_FAULT_IP : Nat := 0
def CAP_FAULT_ADDR : Nat := 1
def CAP_FAULT_IN_RECV_PHASE : Nat := 2
def CAP_FAULT_LOOKUP_FAILURE_TYPE : Nat := 3
def VM_FAULT_IP : Nat := 0
def VM_FAULT_ADDR : Nat := 1
def VM_FAULT_PREFETCH_FAULT : Nat := 2
def VM_FAULT_FSR : Nat := 3
def MESSAGE_ID_SYSCALL : Nat := 0
def MESSAGE_ID_EXCEPTION : Nat := 1
def N_SYSCALL_MESSAGE : Nat := 10
def N_EXCEPTON_MESSAGE : Nat := 2

/-- `FAULT_MESSAGES` of the non-MCS build on RISC-V: the registers that the
message of a syscall fault and of an exception carry, in order. -/
def FAULT_MESSAGES : List (List Nat) :=
  [[33, 1, 0, 9, 10, 11, 12, 13, 14, 15], [33, 1, 0, 0, 0, 0, 0, 0, 0, 0]]

/-- `ArchReg::FaultMessage(id, index).to_index()`. -/
def ArchReg.FaultMessage (id index : Nat) : Nat := (FAULT_MESSAGES.getD id []).getD index 0

/-! ## The state a transfer reads -/

/-- The kernel state with what a transfer reads beside it: each thread's
`tcbIPCBuffer` word, the fields of its fault and its `tcbLookupFailure`, and
the user memory, as the IPC buffer at each address. -/
structure ipc_state extends KernelState where
  tcbIPCBuffer : Nat → Nat := fun _ => 0
  tcbFaultFields : Nat → seL4_Fault_fields := fun _ => {}
  tcbLookupFailure : Nat → lookup_fault := fun _ => .invalid_root
  buffers : Nat → seL4_IPCBuffer := fun _ => {}

namespace ipc_state

/-- `tcbArch.set_register(reg, v)` of the thread at `t`. -/
def set_register (s : ipc_state) (t reg v : Nat) : ipc_state :=
  { s with toKernelState := Rel4Kernel.set_register s.toKernelState t reg v }

/-- A write of the IPC buffer at `buffer`. -/
def modify_buffer (s : ipc_state) (buffer : Nat) (f : seL4_IPCBuffer → seL4_IPCBuffer) : ipc_state :=
  { s with buffers := update s.buffers buffer (f (s.buffers buffer)) }

end ipc_state

/-! ## Lookups on a thread -/

/-- `tcb_t::lookup_ipc_buffer`: the address of the thread's IPC buffer, if
its buffer slot holds a frame cap, not of device memory, with the rights the
transfer needs. `none` is the panic of `pageBitsForSize`. -/
def tcb_t.lookup_ipc_buffer (s : ipc_state) (t : Nat) (is_receiver : Bool) : Option (Option Nat) :=
  match cap_of s.ctes (tcb_cte_slot t TCB_BUFFER) with
  | .frame_cap _ capFBasePtr capFSize capFVMRights capFIsDevice _ =>
    if capFIsDevice ≠ 0 then some none
    else if capFVMRights = VMReadWrite ∨ (!is_receiver ∧ capFVMRights = VMReadOnly) then
      (pageBitsForSize capFSize).map fun page_bits => some (capFBasePtr + (s.tcbIPCBuffer t &&& mask_bits page_bits))
    else some none
  | _ => some none

/-- `tcb_t::lookup_mut_ipc_buffer`: `lookup_ipc_buffer` without the check
for device memory. -/
def tcb_t.lookup_mut_ipc_buffer (s : ipc_state) (t : Nat) (is_receiver : Bool) : Option (Option Nat) :=
  match cap_of s.ctes (tcb_cte_slot t TCB_BUFFER) with
  | .frame_cap _ capFBasePtr capFSize capFVMRights _ _ =>
    if capFVMRights = VMReadWrite ∨ (!is_receiver ∧ capFVMRights = VMReadOnly) then
      (pageBitsForSize capFSize).map fun page_bits => some (capFBasePtr + (s.tcbIPCBuffer t &&& mask_bits page_bits))
    else some none
  | _ => some none

/-- `tcb_t::lookup_slot`: `cap_ptr` resolved in the thread's CSpace, all
`WORD_BITS` of it. -/
def tcb_t.lookup_slot (ctes : Nat → cte_t) (t cap_ptr : Nat) : Option resolveAddressBits_ret_t :=
  resolve_address_bits ctes (cap_of ctes (tcb_cte_slot t TCB_CTABLE)) cap_ptr WORD_BITS

/-- The loop of `tcb_t::lookup_extra_caps` over the indices it is given:
the slots of those extra caps, or `none` at the first that is not found. -/
def lookup_extra_caps_loop (ctes : Nat → cte_t) (t : Nat) (buffer : seL4_IPCBuffer) :
    List Nat → Option (Option (List Nat))
  | [] => some (some [])
  | i :: is => do
    let lu_ret ← tcb_t.lookup_slot ctes t (buffer.get_extra_cptr i)
    if lu_ret.status ≠ .EXCEPTION_NONE then pure none
    else (lookup_extra_caps_loop ctes t buffer is).map (Option.map (lu_ret.slot :: ·))

/-- `tcb_t::lookup_extra_caps`: the slots of the extra caps the message info
names, read from the IPC buffer; none without one. `none` inside is a
failed lookup, whose fault is not modelled. -/
def tcb_t.lookup_extra_caps (s : ipc_state) (t : Nat) : Option (Option (List Nat)) := do
  let info := seL4_MessageInfo.from_word_security ((s.tcbs t).tcbArch ArchReg.MsgInfo)
  match ← tcb_t.lookup_ipc_buffer s t false with
  | some buffer => lookup_extra_caps_loop s.ctes t (s.buffers buffer) (List.range (seL4_MessageInfo.get_extraCaps info))
  | none => pure (some [])

/-- `tcb_t::get_receive_slot`: the slot that the receiver's IPC buffer names
for a cap it is sent, if the lookups succeed. Nothing asks that it be
empty. -/
def tcb_t.get_receive_slot (s : ipc_state) (t : Nat) : Option (Option Nat) := do
  match ← tcb_t.lookup_ipc_buffer s t true with
  | none => pure none
  | some buffer_ptr =>
    let buffer := s.buffers buffer_ptr
    let lu_ret ← tcb_t.lookup_slot s.ctes t buffer.receiveCNode
    if lu_ret.status ≠ .EXCEPTION_NONE then pure none
    else
      let lus_ret ← resolve_address_bits s.ctes (cap_of s.ctes lu_ret.slot) buffer.receiveIndex buffer.receiveDepth
      if lus_ret.status ≠ .EXCEPTION_NONE ∨ lus_ret.bitsRemaining ≠ 0 then pure none
      else pure (some lus_ret.slot)

/-! ## Handing over the extra caps -/

/-- The badge that `set_transfer_caps` sends in place of a cap: that of an
endpoint cap to the endpoint `ep` of the IPC. -/
def cap.unwrapped_badge (ep : Option Nat) : cap → Option Nat
  | .endpoint_cap capEPBadge _ _ _ _ capEPPtr => if ep = some capEPPtr then some capEPBadge else none
  | _ => none

/-- The loop of `set_transfer_caps` from extra cap `i` on, with the receive
slot still free, if any, and the bits of `capsUnwrapped` so far. It stops
after `SEL4_MSG_MAX_EXTRA_CAPS` caps, at a null slot, at a cap it cannot
insert, and at a second cap to insert; it returns the state, the bits, and
the number of caps it went through. -/
def set_transfer_caps_loop (ep : Option Nat) (buffer : Nat) :
    List Nat → Nat → Option Nat → ipc_state → Nat → Option (ipc_state × Nat × Nat)
  | [], i, _, s, unwrapped => some (s, unwrapped, i)
  | slot :: rest, i, dest_slot, s, unwrapped =>
    if SEL4_MSG_MAX_EXTRA_CAPS ≤ i ∨ slot = 0 then some (s, unwrapped, i)
    else
      let capability_cpy := cap_of s.ctes slot
      match capability_cpy.unwrapped_badge ep with
      | some badge =>
        let s := s.modify_buffer buffer fun b => { b with caps_or_badges := update b.caps_or_badges i badge }
        set_transfer_caps_loop ep buffer rest (i + 1) dest_slot s (unwrapped ||| 1 <<< i)
      | none =>
        match dest_slot with
        | none => some (s, unwrapped, i)
        | some dest => do
          let dc_ret ← cte_t.derive_cap s.ctes slot capability_cpy
          if dc_ret.status ≠ .EXCEPTION_NONE ∨ dc_ret.capability.get_tag = cap_null_cap then
            some (s, unwrapped, i)
          else
            let ctes ← cte_insert dc_ret.capability slot dest s.ctes
            set_transfer_caps_loop ep buffer rest (i + 1) none { s with ctes := ctes } unwrapped

/-- `tcb_t::set_transfer_caps` of the receiver `receiver`, for an IPC on the
endpoint `ep` with the message info `info` and the slots of the extra caps. -/
def tcb_t.set_transfer_caps (s : ipc_state) (receiver : Nat) (ep : Option Nat) (info : Nat)
    (current_extra_caps : List Nat) : Option (ipc_state × Nat) := do
  let info := seL4_MessageInfo.set_capsUnwrapped (seL4_MessageInfo.set_extraCaps info 0) 0
  let ipc_buffer ← tcb_t.lookup_mut_ipc_buffer s receiver true
  match current_extra_caps.head?.getD 0, ipc_buffer with
  | 0, _ | _, none => pure (s, info)
  | _, some buffer =>
    let dest_slot ← tcb_t.get_receive_slot s receiver
    let (s, unwrapped, i) ←
      set_transfer_caps_loop ep buffer current_extra_caps 0 dest_slot s (seL4_MessageInfo.get_capsUnwrapped info)
    pure (s, seL4_MessageInfo.set_extraCaps (seL4_MessageInfo.set_capsUnwrapped info unwrapped) i)

/-! ## Copying the message -/

/-- `tcb_t::copy_mrs`: the first `length` words of the message, those past
the message registers through the IPC buffers if both threads have one. It
returns the number of words copied. -/
def tcb_t.copy_mrs (s : ipc_state) (sender receiver length : Nat) : Option (ipc_state × Nat) := do
  let i := min length MSG_REGISTER_NUM
  let s := { s with toKernelState := s.modifyTcb receiver fun tcb =>
    { tcb with tcbArch := copy_range tcb.tcbArch (s.tcbs sender).tcbArch (ArchReg.Msg 0) (ArchReg.Msg i) } }
  let send_buffer ← tcb_t.lookup_ipc_buffer s sender false
  let recv_buffer ← tcb_t.lookup_mut_ipc_buffer s receiver true
  match send_buffer, recv_buffer with
  | some send_ptr, some recv_ptr =>
    let s := s.modify_buffer recv_ptr fun b => { b with msg := copy_range b.msg (s.buffers send_ptr).msg i length }
    pure (s, max i length)
  | _, _ => pure (s, i)

/-- `tcb_t::do_normal_transfer`: the message, and the extra caps of a sender
that may grant, go to the receiver; its message-info and badge registers say
what arrived. -/
def tcb_t.do_normal_transfer (s : ipc_state) (sender receiver : Nat) (ep : Option Nat) (badge : Nat)
    (can_grant : Bool) : Option ipc_state := do
  let tag := seL4_MessageInfo.from_word_security ((s.tcbs sender).tcbArch ArchReg.MsgInfo)
  let current_extra_caps ← if can_grant then (tcb_t.lookup_extra_caps s sender).map (·.getD []) else pure []
  let (s, msg_transferred) ← tcb_t.copy_mrs s sender receiver (seL4_MessageInfo.get_length tag)
  let (s, tag) ← tcb_t.set_transfer_caps s receiver ep tag current_extra_caps
  let tag := seL4_MessageInfo.set_length tag msg_transferred
  let s := s.set_register receiver ArchReg.MsgInfo tag
  pure (s.set_register receiver ArchReg.Badge badge)

/-! ## The message of a fault -/

/-- `tcb_t::set_mr`: word `offset` of the thread's message, in a message
register or past them in its IPC buffer. It returns the next offset, or
`MSG_REGISTER_NUM` for a word that has nowhere to go. -/
def tcb_t.set_mr (s : ipc_state) (t offset reg : Nat) : Option (ipc_state × Nat) :=
  if offset ≥ MSG_REGISTER_NUM then do
    match ← tcb_t.lookup_mut_ipc_buffer s t true with
    | some buffer => pure (s.modify_buffer buffer fun b => { b with msg := update b.msg offset reg }, offset + 1)
    | none => pure (s, MSG_REGISTER_NUM)
  else pure (s.set_register t (ArchReg.Msg offset) reg, offset + 1)

/-- `tcb_t::set_lookup_fault_mrs`: the type and the fields of a lookup fault
from word `offset` on. At `CAP_FAULT_LOOKUP_FAILURE_TYPE` its assertions
compare constants, and hold; elsewhere it asserts that the offset is 1. -/
def tcb_t.set_lookup_fault_mrs (s : ipc_state) (t offset : Nat) (fault : lookup_fault) :
    Option (ipc_state × Nat) := do
  let (s, i) ← tcb_t.set_mr s t offset (fault.get_tag + 1)
  if offset ≠ CAP_FAULT_LOOKUP_FAILURE_TYPE ∧ offset ≠ 1 then none
  else
    match fault with
    | .invalid_root => pure (s, i)
    | .missing_capability bitsLeft => tcb_t.set_mr s t (offset + 1) bitsLeft
    | .depth_mismatch bitsLeft bitsFound => do
      let (s, _) ← tcb_t.set_mr s t (offset + 1) bitsLeft
      tcb_t.set_mr s t (offset + 2) bitsFound
    | .guard_mismatch guardFound bitsLeft bitsFound => do
      let (s, _) ← tcb_t.set_mr s t (offset + 1) bitsLeft
      let (s, _) ← tcb_t.set_mr s t (offset + 2) guardFound
      tcb_t.set_mr s t (offset + 3) bitsFound

/-- `tcb_t::copy_fault_mrs`: the registers of the fault message `id` of the
sender, the first `length` of them, into the message of the receiver. The
two are distinct threads at every call site, so the registers are read
before any is written. -/
def tcb_t.copy_fault_mrs (s : ipc_state) (sender receiver id length : Nat) : Option ipc_state := do
  let len := min length MSG_REGISTER_NUM
  let regs := (s.tcbs sender).tcbArch
  let s := (List.range len).foldl (fun s i => s.set_register receiver (ArchReg.Msg i) (regs (ArchReg.FaultMessage id i))) s
  match ← tcb_t.lookup_mut_ipc_buffer s receiver true with
  | some buffer =>
    let word := fun i => regs (ArchReg.FaultMessage id i)
    pure (s.modify_buffer buffer fun b => { b with msg := copy_range b.msg word len length })
  | none => pure s

/-- `tcb_t::do_fault_transfer`: the message that describes the sender's
fault goes to the receiver. A sender without a fault, or with the timeout
fault of the MCS build, panics. -/
def tcb_t.do_fault_transfer (s : ipc_state) (sender receiver badge : Nat) : Option ipc_state := do
  let f := s.tcbFaultFields sender
  let fault := (s.tcbs sender).tcbFault
  let (s, sent) ← match fault with
    | .seL4_Fault_CapFault => do
      let (s, _) ← tcb_t.set_mr s receiver CAP_FAULT_IP ((s.tcbs sender).tcbArch ArchReg.FaultIP)
      let (s, _) ← tcb_t.set_mr s receiver CAP_FAULT_ADDR f.address
      let (s, _) ← tcb_t.set_mr s receiver CAP_FAULT_IN_RECV_PHASE f.inReceivePhase
      tcb_t.set_lookup_fault_mrs s receiver CAP_FAULT_LOOKUP_FAILURE_TYPE (s.tcbLookupFailure sender)
    | .seL4_Fault_UnknownSyscall => do
      let s ← tcb_t.copy_fault_mrs s sender receiver MESSAGE_ID_SYSCALL N_SYSCALL_MESSAGE
      tcb_t.set_mr s receiver N_SYSCALL_MESSAGE f.syscallNumber
    | .seL4_Fault_UserException => do
      let s ← tcb_t.copy_fault_mrs s sender receiver MESSAGE_ID_EXCEPTION N_EXCEPTON_MESSAGE
      let (s, _) ← tcb_t.set_mr s receiver N_EXCEPTON_MESSAGE f.number
      tcb_t.set_mr s receiver (N_EXCEPTON_MESSAGE + 1) f.code
    | .seL4_Fault_VMFault => do
      let (s, _) ← tcb_t.set_mr s receiver VM_FAULT_IP ((s.tcbs sender).tcbArch ArchReg.FaultIP)
      let (s, _) ← tcb_t.set_mr s receiver VM_FAULT_ADDR f.address
      let (s, _) ← tcb_t.set_mr s receiver VM_FAULT_PREFETCH_FAULT f.instructionFault
      tcb_t.set_mr s receiver VM_FAULT_FSR f.FSR
    | _ => none
  let msg_info := seL4_MessageInfo.new fault.val 0 0 sent
  let s := s.set_register receiver ArchReg.MsgInfo msg_info
  pure (s.set_register receiver ArchReg.Badge badge)

/-- `tcb_t::do_ipc_transfer`: the message of the sender, or that of its
fault. -/
def tcb_t.do_ipc_transfer (s : ipc_state) (sender receiver : Nat) (ep : Option Nat) (badge : Nat) (grant : Bool) :
    Option ipc_state :=
  if (s.tcbs sender).tcbFault = .seL4_Fault_NullFault then tcb_t.do_normal_transfer s sender receiver ep badge grant
  else tcb_t.do_fault_transfer s sender receiver badge

/-- `tcb_t::copy_fault_mrs_for_reply`: the first `length` words of the
replier's message into the registers of the fault message `id` of the
receiver, those past the message registers from the replier's IPC buffer. -/
def tcb_t.copy_fault_mrs_for_reply (s : ipc_state) (replier receiver id length : Nat) : Option ipc_state := do
  let len := min length MSG_REGISTER_NUM
  let regs := (s.tcbs replier).tcbArch
  let s := (List.range len).foldl (fun s i => s.set_register receiver (ArchReg.FaultMessage id i) (regs (ArchReg.Msg i))) s
  match ← tcb_t.lookup_ipc_buffer s replier false with
  | some buffer =>
    let msg := (s.buffers buffer).msg
    pure ((List.range' len (length - len)).foldl
      (fun s i => s.set_register receiver (ArchReg.FaultMessage id i) (msg i)) s)
  | none => pure s

/-- `tcb_t::do_fault_reply_transfer`: the reply to a fault message, read
back into the receiver's registers. It returns whether the receiver may
restart: a reply of label 0 to a syscall or exception fault, or a reply to
any other fault. -/
def tcb_t.do_fault_reply_transfer (s : ipc_state) (replier receiver : Nat) : Option (ipc_state × Bool) := do
  let tag := seL4_MessageInfo.from_word_security ((s.tcbs replier).tcbArch ArchReg.MsgInfo)
  let label := tag >>> 12
  let length := seL4_MessageInfo.get_length tag
  match (s.tcbs receiver).tcbFault with
  | .seL4_Fault_UnknownSyscall => do
    let s ← tcb_t.copy_fault_mrs_for_reply s replier receiver MESSAGE_ID_SYSCALL (min length N_SYSCALL_MESSAGE)
    pure (s, label = 0)
  | .seL4_Fault_UserException => do
    let s ← tcb_t.copy_fault_mrs_for_reply s replier receiver MESSAGE_ID_EXCEPTION (min length N_EXCEPTON_MESSAGE)
    pure (s, label = 0)
  | _ => pure (s, true)

/-! ## What a transfer does to the slots -/

/-- The slots after the caps of a transfer are handed over: as they were,
or with a cap derived from the cap of a slot of an extra cap inserted into
the receive slot, below that slot. -/
def transfer_ctes (ctes ctes' : Nat → cte_t) (dest_slot : Option Nat) : Prop :=
  ctes' = ctes ∨ ∃ slot dest dc, dest_slot = some dest ∧ slot ≠ 0 ∧
    cte_t.derive_cap ctes slot (cap_of ctes slot) = some dc ∧ dc.capability ≠ .null_cap ∧
    cte_insert dc.capability slot dest ctes = some ctes'

@[simp] theorem ipc_state.modify_buffer_ctes (s : ipc_state) (buffer : Nat) (f : seL4_IPCBuffer → seL4_IPCBuffer) :
    (s.modify_buffer buffer f).ctes = s.ctes := rfl

@[simp] theorem ipc_state.set_register_ctes (s : ipc_state) (t reg v : Nat) :
    (s.set_register t reg v).ctes = s.ctes := rfl

/-! ## What a transfer writes to the kernel state -/

/-- The kernel state with the registers of the threads and the slots
forgotten: what a transfer leaves as it is. -/
def KernelState.erase_msg (s : KernelState) : KernelState :=
  { s with tcbs := fun t => { s.tcbs t with tcbArch := fun _ => 0 }, ctes := fun _ => {} }

/-- `s'` is `s` with other registers and other slots. -/
def writes_msg (s s' : KernelState) : Prop := s'.erase_msg = s.erase_msg

/-- `s'` is `s` with other registers. -/
def regs_only (s s' : KernelState) : Prop := writes_msg s s' ∧ s'.ctes = s.ctes

theorem writes_msg.trans {s₁ s₂ s₃ : KernelState} (h₁ : writes_msg s₁ s₂) (h₂ : writes_msg s₂ s₃) :
    writes_msg s₁ s₃ :=
  Eq.trans h₂ h₁

theorem regs_only.refl (s : KernelState) : regs_only s s := ⟨rfl, rfl⟩

theorem regs_only.trans {s₁ s₂ s₃ : KernelState} (h₁ : regs_only s₁ s₂) (h₂ : regs_only s₂ s₃) :
    regs_only s₁ s₃ :=
  ⟨h₁.1.trans h₂.1, h₂.2.trans h₁.2⟩

/-- A write of one thread's registers alone. -/
theorem regs_only_modifyTcb_tcbArch (s : KernelState) (t : Nat) (f : tcb_t → Nat → Nat) :
    regs_only s (s.modifyTcb t fun tcb => { tcb with tcbArch := f tcb }) := by
  refine ⟨?_, rfl⟩
  unfold writes_msg KernelState.erase_msg KernelState.modifyTcb
  congr 1
  funext a
  by_cases ha : a = t
  · subst ha
    simp
  · simp [ha]

theorem ipc_state.set_register_regs_only (s : ipc_state) (t reg v : Nat) :
    regs_only s.toKernelState (s.set_register t reg v).toKernelState :=
  regs_only_modifyTcb_tcbArch s.toKernelState t fun tcb => Function.update tcb.tcbArch reg v

@[simp] theorem ipc_state.modify_buffer_toKernelState (s : ipc_state) (buffer : Nat)
    (f : seL4_IPCBuffer → seL4_IPCBuffer) : (s.modify_buffer buffer f).toKernelState = s.toKernelState := rfl

/-- The two registers a transfer ends with: the message info and the badge. -/
theorem ipc_state.set_register_set_register_regs_only (s : ipc_state) (t r₁ v₁ r₂ v₂ : Nat) :
    regs_only s.toKernelState ((s.set_register t r₁ v₁).set_register t r₂ v₂).toKernelState :=
  (s.set_register_regs_only t r₁ v₁).trans (ipc_state.set_register_regs_only _ t r₂ v₂)

/-- Registers written one after another. -/
theorem ipc_state.foldl_set_register_regs_only (l : List Nat) (t : Nat) (reg val : Nat → Nat) (s : ipc_state) :
    regs_only s.toKernelState (l.foldl (fun s i => s.set_register t (reg i) (val i)) s).toKernelState := by
  induction l generalizing s with
  | nil => exact regs_only.refl _
  | cons i l ih => exact (s.set_register_regs_only t (reg i) (val i)).trans (ih _)

section Loop

variable {ep : Option Nat} {buffer : Nat}

/-- With no receive slot left, the loop only unwraps badges: the kernel
state stays. -/
theorem set_transfer_caps_loop_of_none {extra : List Nat} :
    ∀ {i : Nat} {s s' : ipc_state} {u u' k : Nat},
      set_transfer_caps_loop ep buffer extra i none s u = some (s', u', k) → s'.toKernelState = s.toKernelState := by
  induction extra with
  | nil =>
    intro i s s' u u' k h
    cases h
    rfl
  | cons slot rest ih =>
    intro i s s' u u' k h
    rw [set_transfer_caps_loop] at h
    split at h
    · cases h
      rfl
    dsimp only at h
    split at h
    · -- an endpoint cap to the endpoint: its badge goes to the buffer
      have hrest := ih h
      exact hrest
    · cases h
      rfl

/-- **Spec of the loop**: it inserts at most one cap, into the receive
slot, and writes no register. -/
theorem set_transfer_caps_loop_ctes {extra : List Nat} :
    ∀ {i : Nat} {dest_slot : Option Nat} {s s' : ipc_state} {u u' k : Nat},
      set_transfer_caps_loop ep buffer extra i dest_slot s u = some (s', u', k) →
        transfer_ctes s.ctes s'.ctes dest_slot ∧ writes_msg s.toKernelState s'.toKernelState := by
  induction extra with
  | nil =>
    intro i dest_slot s s' u u' k h
    cases h
    exact ⟨.inl rfl, rfl⟩
  | cons slot rest ih =>
    intro i dest_slot s s' u u' k h
    rw [set_transfer_caps_loop] at h
    split at h
    · cases h
      exact ⟨.inl rfl, rfl⟩
    rename_i hslot
    dsimp only at h
    split at h
    · have hrest := ih h
      exact hrest
    split at h
    · cases h
      exact ⟨.inl rfl, rfl⟩
    rename_i dest
    -- the one insertion: the loop goes on without a receive slot
    obtain ⟨dc, hdc, h⟩ := Option.bind_eq_some_iff.1 h
    split at h
    · cases h
      exact ⟨.inl rfl, rfl⟩
    rename_i hok
    obtain ⟨ctes, hins, h⟩ := Option.bind_eq_some_iff.1 h
    have hnull : dc.capability ≠ .null_cap := fun he => hok (.inr (by rw [he]; rfl))
    have hs' := set_transfer_caps_loop_of_none h
    refine ⟨.inr ⟨slot, dest, dc, rfl, fun h0 => hslot (.inr h0), hdc, hnull, ?_⟩, ?_⟩
    · rw [congrArg KernelState.ctes hs']
      exact hins
    · rw [writes_msg, hs']
      rfl

end Loop

/-! ## The receive slot is a slot -/

/-- A lookup that succeeds from a cap ends at a slot other than the null
pointer, when neither the cap nor a slot names a CNode at address 0. -/
theorem resolve_address_bits_slot_ne_zero {ctes : Nat → cte_t} (hptr : ∀ q, (cap_of ctes q).cnode_ptr ≠ some 0)
    {c : cap} (hc : c.cnode_ptr ≠ some 0) {cptr n : Nat} {ret : resolveAddressBits_ret_t}
    (h : resolve_address_bits ctes c cptr n = some ret) (hst : ret.status = .EXCEPTION_NONE) : ret.slot ≠ 0 := by
  cases c
  case cnode_cap g gs r p =>
    have hp : p ≠ 0 := fun he => hc (by simp [cap.cnode_ptr, he])
    exact resolve_address_bits_loop_slot_ne_zero hptr hp h hst
  -- from any other cap the lookup faults
  all_goals
    simp only [resolve_address_bits, Option.some.injEq] at h
    subst h
    simp at hst

/-- The receive slot a lookup finds is not the null pointer. -/
theorem tcb_t.get_receive_slot_ne_zero {s : ipc_state} {t d : Nat}
    (hptr : ∀ q, (cap_of s.ctes q).cnode_ptr ≠ some 0)
    (h : tcb_t.get_receive_slot s t = some (some d)) : d ≠ 0 := by
  simp only [tcb_t.get_receive_slot, Option.bind_eq_bind, Option.bind_eq_some_iff] at h
  obtain ⟨buffer, -, h⟩ := h
  split at h
  · cases h
  obtain ⟨lu_ret, -, h⟩ := Option.bind_eq_some_iff.1 h
  split at h
  · cases h
  obtain ⟨lus_ret, hlus, h⟩ := Option.bind_eq_some_iff.1 h
  split at h
  · cases h
  rename_i hst
  cases h
  exact resolve_address_bits_slot_ne_zero hptr (hptr _) hlus (not_not.1 (not_or.1 hst).1)

/-! ## A transfer keeps the slots well formed -/

/-- The slots after a transfer are well formed, if they were and the receive
slot is not the null pointer: the one insertion is of a cap derived from one
that a slot holds, into a slot `cte_insert` finds empty. -/
theorem transfer_ctes.wf {ctes ctes' : Nat → cte_t} {dest_slot : Option Nat} (hwf : cspace_wf ctes)
    (hd : ∀ d, dest_slot = some d → d ≠ 0) (h : transfer_ctes ctes ctes' dest_slot) : cspace_wf ctes' := by
  obtain rfl | ⟨slot, dest, dc, rfl, hslot, hdc, hnull, hins⟩ := h
  · exact hwf
  -- a cap derived from the null cap is the null cap
  have hsc : cap_of ctes slot ≠ .null_cap := by
    intro he
    rw [he, derive_cap_null] at hdc
    cases hdc
    exact hnull rfl
  have hptr : dc.capability.cnode_ptr ≠ some 0 := by
    rw [derive_cap_cnode_ptr hdc]
    exact hwf.cnode_ptr_ne slot
  exact hwf.of_cte_insert hins hslot (hd dest rfl) hnull hsc hptr

/-- A transfer stores a cap into an empty slot, and may mark the untyped cap
it is derived from as full: the cap of every other slot stays. -/
theorem transfer_ctes.cap_of_eq {ctes ctes' : Nat → cte_t} {dest_slot : Option Nat}
    (h : transfer_ctes ctes ctes' dest_slot) {q : Nat} (hq : cap_of ctes q ≠ .null_cap)
    (hu : (cap_of ctes q).get_tag ≠ cap_untyped_cap) : cap_of ctes' q = cap_of ctes q := by
  obtain rfl | ⟨slot, dest, dc, -, -, -, -, hins⟩ := h
  · rfl
  obtain ⟨hdest, -, -, ctes₁, hfull, hcap, -⟩ := cte_insert_spec hins
  have hqd : q ≠ dest := fun he => hq (he ▸ hdest)
  rw [hcap, update_of_ne hqd]
  -- only an untyped source is marked full
  by_cases hqs : q = slot
  · subst hqs
    rw [set_untyped_cap_as_full_of_not_untyped ctes hu] at hfull
    cases hfull
    rfl
  · exact congrArg cte_t.capability ((set_untyped_cap_as_full_frame hfull).1 q hqs)

/-- **Spec of `set_transfer_caps`**: the caps go as the loop hands them
over, to the receive slot the receiver's IPC buffer names. -/
theorem tcb_t.set_transfer_caps_ctes {s s' : ipc_state} {receiver : Nat} {ep : Option Nat} {info info' : Nat}
    {extra : List Nat} (h : tcb_t.set_transfer_caps s receiver ep info extra = some (s', info')) :
    transfer_ctes s.ctes s'.ctes (tcb_t.get_receive_slot s receiver).join ∧
      writes_msg s.toKernelState s'.toKernelState := by
  simp only [tcb_t.set_transfer_caps, Option.bind_eq_bind, Option.bind_eq_some_iff] at h
  obtain ⟨ipc_buffer, -, h⟩ := h
  split at h
  · cases h
    exact ⟨.inl rfl, rfl⟩
  · cases h
    exact ⟨.inl rfl, rfl⟩
  obtain ⟨dest_slot, hds, h⟩ := Option.bind_eq_some_iff.1 h
  obtain ⟨⟨s1, u, i⟩, hloop, h⟩ := Option.bind_eq_some_iff.1 h
  cases h
  rw [hds, Option.join_some]
  exact set_transfer_caps_loop_ctes hloop

/-- Copying the message writes registers and an IPC buffer, no slot. -/
theorem tcb_t.copy_mrs_regs_only {s s' : ipc_state} {sender receiver length n : Nat}
    (h : tcb_t.copy_mrs s sender receiver length = some (s', n)) : regs_only s.toKernelState s'.toKernelState := by
  simp only [tcb_t.copy_mrs, Option.bind_eq_bind, Option.bind_eq_some_iff] at h
  obtain ⟨send_buffer, -, recv_buffer, -, h⟩ := h
  -- only the receiver's registers are written, whether or not the buffers are
  split at h <;> cases h <;>
    exact regs_only_modifyTcb_tcbArch s.toKernelState receiver fun tcb =>
      copy_range tcb.tcbArch (s.tcbs sender).tcbArch (ArchReg.Msg 0) (ArchReg.Msg (min length MSG_REGISTER_NUM))

/-- **Spec of `do_normal_transfer`**: the caps go as `set_transfer_caps`
hands them over, once the message is copied, and besides them only
registers are written. -/
theorem tcb_t.do_normal_transfer_ctes {s s' : ipc_state} {sender receiver badge : Nat} {ep : Option Nat}
    {can_grant : Bool} (h : tcb_t.do_normal_transfer s sender receiver ep badge can_grant = some s') :
    (∃ s₁ : ipc_state, s₁.ctes = s.ctes ∧
        transfer_ctes s.ctes s'.ctes (tcb_t.get_receive_slot s₁ receiver).join) ∧
      writes_msg s.toKernelState s'.toKernelState := by
  simp only [tcb_t.do_normal_transfer, Option.bind_eq_bind] at h
  -- with the extra caps looked up or not, the rest is the same
  split at h
  all_goals
    obtain ⟨extra, -, h⟩ := Option.bind_eq_some_iff.1 h
    obtain ⟨⟨s₁, n⟩, hcopy, h⟩ := Option.bind_eq_some_iff.1 h
    obtain ⟨⟨s₂, tag⟩, hset, h⟩ := Option.bind_eq_some_iff.1 h
    cases h
    have hs₁ := tcb_t.copy_mrs_regs_only hcopy
    have ht := tcb_t.set_transfer_caps_ctes hset
    refine ⟨⟨s₁, hs₁.2, ?_⟩, ?_⟩
    · -- the registers written last hold no slot
      rw [← hs₁.2]
      exact ht.1
    · -- then the message info and the badge registers
      exact (hs₁.1.trans ht.2).trans (s₂.set_register_set_register_regs_only _ _ _ _ _).1

/-- **A message transfer keeps the slots well formed.** -/
theorem do_normal_transfer_wf {s s' : ipc_state} {sender receiver badge : Nat} {ep : Option Nat}
    {can_grant : Bool} (hwf : cspace_wf s.ctes)
    (h : tcb_t.do_normal_transfer s sender receiver ep badge can_grant = some s') : cspace_wf s'.ctes := by
  obtain ⟨⟨s₁, hs₁, ht⟩, -⟩ := tcb_t.do_normal_transfer_ctes h
  have hptr : ∀ q, (cap_of s₁.ctes q).cnode_ptr ≠ some 0 := by
    rw [hs₁]
    exact hwf.cnode_ptr_ne
  exact ht.wf hwf fun d hd => tcb_t.get_receive_slot_ne_zero hptr (Option.join_eq_some_iff.1 hd)

/-! ## A receive slot that holds a cap -/

/-- What the lookups of a transfer read agrees in two states: the slots, the
`tcbIPCBuffer` words, and where each IPC buffer asks for a cap. -/
structure same_lookups (s s' : ipc_state) : Prop where
  ctes : s'.ctes = s.ctes
  tcbIPCBuffer : s'.tcbIPCBuffer = s.tcbIPCBuffer
  receiveCNode : ∀ b, (s'.buffers b).receiveCNode = (s.buffers b).receiveCNode
  receiveIndex : ∀ b, (s'.buffers b).receiveIndex = (s.buffers b).receiveIndex
  receiveDepth : ∀ b, (s'.buffers b).receiveDepth = (s.buffers b).receiveDepth

section SameLookups

variable {s s' : ipc_state} (h : same_lookups s s')
include h

theorem same_lookups.lookup_ipc_buffer (t : Nat) (is_receiver : Bool) :
    tcb_t.lookup_ipc_buffer s' t is_receiver = tcb_t.lookup_ipc_buffer s t is_receiver := by
  simp only [tcb_t.lookup_ipc_buffer, h.ctes, h.tcbIPCBuffer]

theorem same_lookups.lookup_mut_ipc_buffer (t : Nat) (is_receiver : Bool) :
    tcb_t.lookup_mut_ipc_buffer s' t is_receiver = tcb_t.lookup_mut_ipc_buffer s t is_receiver := by
  simp only [tcb_t.lookup_mut_ipc_buffer, h.ctes, h.tcbIPCBuffer]

theorem same_lookups.get_receive_slot (t : Nat) :
    tcb_t.get_receive_slot s' t = tcb_t.get_receive_slot s t := by
  simp only [tcb_t.get_receive_slot, h.lookup_ipc_buffer, h.ctes, h.receiveCNode, h.receiveIndex, h.receiveDepth]

end SameLookups

theorem same_lookups.lookup_extra_caps {s s' : ipc_state} (h : same_lookups s s') {t : Nat}
    (hb : s'.buffers = s.buffers) (hregs : (s'.tcbs t).tcbArch = (s.tcbs t).tcbArch) :
    tcb_t.lookup_extra_caps s' t = tcb_t.lookup_extra_caps s t := by
  simp only [tcb_t.lookup_extra_caps, h.lookup_ipc_buffer, h.ctes, hb, hregs]

/-- Copying the message writes the words of a message only. -/
theorem tcb_t.copy_mrs_same_lookups {s s' : ipc_state} {sender receiver length n : Nat}
    (h : tcb_t.copy_mrs s sender receiver length = some (s', n)) : same_lookups s s' := by
  simp only [tcb_t.copy_mrs, Option.bind_eq_bind, Option.bind_eq_some_iff] at h
  obtain ⟨send_buffer, -, recv_buffer, -, h⟩ := h
  split at h
  · rename_i send_ptr recv_ptr
    cases h
    refine ⟨rfl, rfl, fun b => ?_, fun b => ?_, fun b => ?_⟩ <;>
      by_cases hb : b = recv_ptr <;> simp [ipc_state.modify_buffer, hb]
  · cases h
    exact ⟨rfl, rfl, fun _ => rfl, fun _ => rfl, fun _ => rfl⟩

/-- `cte_insert` into a slot that holds a cap panics. -/
theorem cte_insert_of_full {c : cap} {src dest : Nat} {ctes : Nat → cte_t} (hfull : cap_of ctes dest ≠ .null_cap) :
    cte_insert c src dest ctes = none :=
  Option.eq_none_iff_forall_ne_some.2 fun _ hr => hfull (cte_insert_spec hr).1

/-- **`set_transfer_caps` panics on a receive slot that holds a cap**, when
the first extra cap is one it hands over as a cap. -/
theorem tcb_t.set_transfer_caps_of_full {s : ipc_state} {receiver : Nat} {ep : Option Nat} {info slot buffer dest : Nat}
    {rest : List Nat} {dc : deriveCap_ret} (hbuf : tcb_t.lookup_mut_ipc_buffer s receiver true = some (some buffer))
    (hdest : tcb_t.get_receive_slot s receiver = some (some dest)) (hfull : cap_of s.ctes dest ≠ .null_cap)
    (hslot : slot ≠ 0) (hwrap : (cap_of s.ctes slot).unwrapped_badge ep = none)
    (hdc : cte_t.derive_cap s.ctes slot (cap_of s.ctes slot) = some dc) (hok : dc.status = .EXCEPTION_NONE)
    (hnull : dc.capability ≠ .null_cap) :
    tcb_t.set_transfer_caps s receiver ep info (slot :: rest) = none := by
  have hfirst : set_transfer_caps_loop ep buffer (slot :: rest) 0 (some dest) s
      (seL4_MessageInfo.get_capsUnwrapped
        (seL4_MessageInfo.set_capsUnwrapped (seL4_MessageInfo.set_extraCaps info 0) 0)) =
      none := by
    have hlt : ¬(SEL4_MSG_MAX_EXTRA_CAPS ≤ 0 ∨ slot = 0) := by
      simp [SEL4_MSG_MAX_EXTRA_CAPS, SEL4_MSG_EXTRA_CAP_BITS, hslot]
    have hcheck : ¬(dc.status ≠ .EXCEPTION_NONE ∨ dc.capability.get_tag = cap_null_cap) := by
      simp [hok, hnull]
    simp only [set_transfer_caps_loop, if_neg hlt, hwrap, hdc, Option.bind_eq_bind, Option.bind_some, if_neg hcheck,
      cte_insert_of_full hfull, Option.bind_none]
  simp only [tcb_t.set_transfer_caps, Option.bind_eq_bind, hbuf, Option.bind_some, List.head?_cons, Option.getD_some,
    hdest]
  rw [hfirst]
  rfl

/-- Two threads at `0x10000` and `0x20000` that share the CSpace of a CNode
of 16 slots at `0x40000`, each with an IPC buffer. The sender's message
carries one extra cap, a notification cap in slot 1; the receiver's buffer
names slot 3 of the CNode at `0x50000`, which slot 2 holds a cap to, as its
receive slot. With `full`, an endpoint cap already sits there. -/
def grantState (full : Bool) : ipc_state where
  ctes := fun p =>
    if p = 0x10000 ∨ p = 0x20000 then { capability := .cnode_cap 0 60 4 0x40000 }
    else if p = 0x10080 then { capability := .frame_cap 0 0x80000 0 VMReadWrite 0 0 }
    else if p = 0x20080 then { capability := .frame_cap 0 0x90000 0 VMReadWrite 0 0 }
    else if p = 0x40020 then { capability := .notification_cap 5 1 1 0x6000 }
    else if p = 0x40040 then { capability := .cnode_cap 0 0 4 0x50000 }
    else if full ∧ p = 0x50060 then { capability := .endpoint_cap 0 0 0 0 1 0x7000 } else {}
  tcbs := fun t => if t = 0x10000 then { tcbArch := fun r => if r = ArchReg.MsgInfo then 0x80 else 0 } else {}
  buffers := fun b =>
    if b = 0x80000 then { caps_or_badges := fun i => if i = 0 then 1 else 0 }
    else if b = 0x90000 then { receiveCNode := 2, receiveIndex := 3, receiveDepth := 4 } else {}

/-- **A message transfer panics on a receive slot that holds a cap.**
Unlike `getReceiveSlots`, `get_receive_slot` does not look at what the slot
holds. For every state in which a sender that may grant has a first extra
cap that `set_transfer_caps` hands over as a cap, and the receive slot of
the receiver holds a cap, the transfer reaches the assertion of
`cte_insert` and panics. -/
theorem do_normal_transfer_panics_of_full_receive_slot {s : ipc_state} {sender receiver badge slot buffer dest : Nat}
    {ep : Option Nat} {rest : List Nat} {dc : deriveCap_ret}
    (hextra : tcb_t.lookup_extra_caps s sender = some (some (slot :: rest)))
    (hbuf : tcb_t.lookup_mut_ipc_buffer s receiver true = some (some buffer))
    (hdest : tcb_t.get_receive_slot s receiver = some (some dest)) (hfull : cap_of s.ctes dest ≠ .null_cap)
    (hslot : slot ≠ 0) (hwrap : (cap_of s.ctes slot).unwrapped_badge ep = none)
    (hdc : cte_t.derive_cap s.ctes slot (cap_of s.ctes slot) = some dc) (hok : dc.status = .EXCEPTION_NONE)
    (hnull : dc.capability ≠ .null_cap) :
    tcb_t.do_normal_transfer s sender receiver ep badge true = none := by
  simp only [tcb_t.do_normal_transfer, Option.bind_eq_bind, if_true, hextra, Option.map_some, Option.getD_some,
    Option.bind_some]
  rw [Option.bind_eq_none_iff]
  rintro ⟨s₁, n⟩ hcopy
  -- copying the message changes nothing the lookups read
  have hs := tcb_t.copy_mrs_same_lookups hcopy
  have hset : tcb_t.set_transfer_caps s₁ receiver ep (seL4_MessageInfo.from_word_security
      ((s.tcbs sender).tcbArch ArchReg.MsgInfo)) (slot :: rest) = none := by
    refine tcb_t.set_transfer_caps_of_full ((hs.lookup_mut_ipc_buffer receiver true).trans hbuf)
      ((hs.get_receive_slot receiver).trans hdest) (by rw [hs.ctes]; exact hfull) hslot
      (by rw [hs.ctes]; exact hwrap) (by rw [hs.ctes]; exact hdc) hok hnull
  rw [hset]
  rfl

/-- With the receive slot empty the notification cap arrives in it; with a
cap there, the same transfer panics. -/
example :
    (tcb_t.do_normal_transfer (grantState false) 0x10000 0x20000 (some 0x3000) 9 true).map
        (fun s => cap_of s.ctes 0x50060) = some (.notification_cap 5 1 1 0x6000) ∧
      tcb_t.do_normal_transfer (grantState true) 0x10000 0x20000 (some 0x3000) 9 true = none :=
  ⟨by decide +kernel, @do_normal_transfer_panics_of_full_receive_slot (grantState true) 0x10000 0x20000 9 0x40020
    0x90000 0x50060 (some 0x3000) [] ⟨.EXCEPTION_NONE, .notification_cap 5 1 1 0x6000⟩ (by decide +kernel)
    (by decide +kernel) (by decide +kernel) (by decide) (by decide) (by decide) (by decide) rfl (by decide)⟩

/-! ## A fault message writes registers alone -/

section FaultRegs

variable {s s' : ipc_state}

theorem tcb_t.set_mr_regs_only {t offset reg n : Nat} (h : tcb_t.set_mr s t offset reg = some (s', n)) :
    regs_only s.toKernelState s'.toKernelState := by
  unfold tcb_t.set_mr at h
  split at h
  · obtain ⟨buffer, -, h⟩ := Option.bind_eq_some_iff.1 h
    split at h <;> cases h <;> exact regs_only.refl _
  · cases h
    exact s.set_register_regs_only _ _ _

theorem tcb_t.set_lookup_fault_mrs_regs_only {t offset n : Nat} {fault : lookup_fault}
    (h : tcb_t.set_lookup_fault_mrs s t offset fault = some (s', n)) :
    regs_only s.toKernelState s'.toKernelState := by
  simp only [tcb_t.set_lookup_fault_mrs, Option.bind_eq_bind] at h
  obtain ⟨⟨s₁, i⟩, h₁, h⟩ := Option.bind_eq_some_iff.1 h
  refine (tcb_t.set_mr_regs_only h₁).trans ?_
  split at h
  · cases h
  -- one more word for each field of the lookup fault
  split at h
  · cases h
    exact regs_only.refl _
  · exact tcb_t.set_mr_regs_only h
  · obtain ⟨⟨s₂, _⟩, h₂, h⟩ := Option.bind_eq_some_iff.1 h
    exact (tcb_t.set_mr_regs_only h₂).trans (tcb_t.set_mr_regs_only h)
  · obtain ⟨⟨s₂, _⟩, h₂, h⟩ := Option.bind_eq_some_iff.1 h
    obtain ⟨⟨s₃, _⟩, h₃, h⟩ := Option.bind_eq_some_iff.1 h
    exact ((tcb_t.set_mr_regs_only h₂).trans (tcb_t.set_mr_regs_only h₃)).trans (tcb_t.set_mr_regs_only h)

theorem tcb_t.copy_fault_mrs_regs_only {sender receiver id length : Nat}
    (h : tcb_t.copy_fault_mrs s sender receiver id length = some s') :
    regs_only s.toKernelState s'.toKernelState := by
  simp only [tcb_t.copy_fault_mrs, Option.bind_eq_bind] at h
  obtain ⟨buffer, -, h⟩ := Option.bind_eq_some_iff.1 h
  split at h <;> cases h <;> exact ipc_state.foldl_set_register_regs_only _ _ _ _ _

theorem tcb_t.do_fault_transfer_regs_only {sender receiver badge : Nat}
    (h : tcb_t.do_fault_transfer s sender receiver badge = some s') :
    regs_only s.toKernelState s'.toKernelState := by
  simp only [tcb_t.do_fault_transfer, Option.bind_eq_bind] at h
  -- each fault's words, one after another, then the tag and the badge
  split at h
  · -- a cap fault: three words, then the lookup fault
    obtain ⟨⟨s₂, _⟩, h₂, h⟩ := Option.bind_eq_some_iff.1 h
    obtain ⟨⟨s₃, _⟩, h₃, h⟩ := Option.bind_eq_some_iff.1 h
    obtain ⟨⟨s₄, _⟩, h₄, h⟩ := Option.bind_eq_some_iff.1 h
    obtain ⟨⟨s₅, _⟩, h₅, h⟩ := Option.bind_eq_some_iff.1 h
    cases h
    have hwords :=
      ((tcb_t.set_mr_regs_only h₂).trans (tcb_t.set_mr_regs_only h₃)).trans (tcb_t.set_mr_regs_only h₄)
    exact (hwords.trans (tcb_t.set_lookup_fault_mrs_regs_only h₅)).trans
      (ipc_state.set_register_set_register_regs_only _ _ _ _ _ _)
  · -- an unknown syscall: the fault registers, then the syscall number
    obtain ⟨s₂, h₂, h⟩ := Option.bind_eq_some_iff.1 h
    obtain ⟨⟨s₃, _⟩, h₃, h⟩ := Option.bind_eq_some_iff.1 h
    cases h
    exact ((tcb_t.copy_fault_mrs_regs_only h₂).trans (tcb_t.set_mr_regs_only h₃)).trans
      (ipc_state.set_register_set_register_regs_only _ _ _ _ _ _)
  · -- a user exception: the fault registers, then its number and code
    obtain ⟨s₂, h₂, h⟩ := Option.bind_eq_some_iff.1 h
    obtain ⟨⟨s₃, _⟩, h₃, h⟩ := Option.bind_eq_some_iff.1 h
    obtain ⟨⟨s₄, _⟩, h₄, h⟩ := Option.bind_eq_some_iff.1 h
    cases h
    exact (((tcb_t.copy_fault_mrs_regs_only h₂).trans (tcb_t.set_mr_regs_only h₃)).trans
      (tcb_t.set_mr_regs_only h₄)).trans
      (ipc_state.set_register_set_register_regs_only _ _ _ _ _ _)
  · -- a VM fault: four words
    obtain ⟨⟨s₂, _⟩, h₂, h⟩ := Option.bind_eq_some_iff.1 h
    obtain ⟨⟨s₃, _⟩, h₃, h⟩ := Option.bind_eq_some_iff.1 h
    obtain ⟨⟨s₄, _⟩, h₄, h⟩ := Option.bind_eq_some_iff.1 h
    obtain ⟨⟨s₅, _⟩, h₅, h⟩ := Option.bind_eq_some_iff.1 h
    cases h
    have hwords :=
      ((tcb_t.set_mr_regs_only h₂).trans (tcb_t.set_mr_regs_only h₃)).trans (tcb_t.set_mr_regs_only h₄)
    exact (hwords.trans (tcb_t.set_mr_regs_only h₅)).trans
      (ipc_state.set_register_set_register_regs_only _ _ _ _ _ _)
  · -- no fault to describe: the panic
    simp at h

theorem tcb_t.copy_fault_mrs_for_reply_regs_only {replier receiver id length : Nat}
    (h : tcb_t.copy_fault_mrs_for_reply s replier receiver id length = some s') :
    regs_only s.toKernelState s'.toKernelState := by
  simp only [tcb_t.copy_fault_mrs_for_reply, Option.bind_eq_bind] at h
  obtain ⟨buffer, -, h⟩ := Option.bind_eq_some_iff.1 h
  split at h <;> cases h
  · -- the words in registers, then those from the replier's IPC buffer
    exact (ipc_state.foldl_set_register_regs_only _ _ _ _ _).trans
      (ipc_state.foldl_set_register_regs_only _ _ _ _ _)
  · exact ipc_state.foldl_set_register_regs_only _ _ _ _ _

theorem tcb_t.do_fault_reply_transfer_regs_only {replier receiver : Nat} {restart : Bool}
    (h : tcb_t.do_fault_reply_transfer s replier receiver = some (s', restart)) :
    regs_only s.toKernelState s'.toKernelState := by
  simp only [tcb_t.do_fault_reply_transfer, Option.bind_eq_bind] at h
  split at h
  · obtain ⟨s₁, h₁, h⟩ := Option.bind_eq_some_iff.1 h
    cases h
    exact tcb_t.copy_fault_mrs_for_reply_regs_only h₁
  · obtain ⟨s₁, h₁, h⟩ := Option.bind_eq_some_iff.1 h
    cases h
    exact tcb_t.copy_fault_mrs_for_reply_regs_only h₁
  · cases h
    exact regs_only.refl _

end FaultRegs

/-- A transfer writes registers and slots, and nothing else of the kernel
state. -/
theorem tcb_t.do_ipc_transfer_writes_msg {s s' : ipc_state} {sender receiver badge : Nat} {ep : Option Nat}
    {grant : Bool} (h : tcb_t.do_ipc_transfer s sender receiver ep badge grant = some s') :
    writes_msg s.toKernelState s'.toKernelState := by
  unfold tcb_t.do_ipc_transfer at h
  split at h
  · exact (tcb_t.do_normal_transfer_ctes h).2
  · exact (tcb_t.do_fault_transfer_regs_only h).1

/-- A transfer keeps the cap of every slot that holds one, but an untyped
cap it hands over from. -/
theorem tcb_t.do_ipc_transfer_cap_of {s s' : ipc_state} {sender receiver badge : Nat} {ep : Option Nat}
    {grant : Bool} (h : tcb_t.do_ipc_transfer s sender receiver ep badge grant = some s') {q : Nat}
    (hq : cap_of s.ctes q ≠ .null_cap) (hu : (cap_of s.ctes q).get_tag ≠ cap_untyped_cap) :
    cap_of s'.ctes q = cap_of s.ctes q := by
  unfold tcb_t.do_ipc_transfer at h
  split at h
  · obtain ⟨⟨s₁, -, ht⟩, -⟩ := tcb_t.do_normal_transfer_ctes h
    exact ht.cap_of_eq hq hu
  · rw [(tcb_t.do_fault_transfer_regs_only h).2]

/-- **A message transfer, of a message or of a fault, keeps the slots well
formed.** -/
theorem do_ipc_transfer_wf {s s' : ipc_state} {sender receiver badge : Nat} {ep : Option Nat} {grant : Bool}
    (hwf : cspace_wf s.ctes) (h : tcb_t.do_ipc_transfer s sender receiver ep badge grant = some s') :
    cspace_wf s'.ctes := by
  unfold tcb_t.do_ipc_transfer at h
  split at h
  · exact do_normal_transfer_wf hwf h
  · rw [(tcb_t.do_fault_transfer_regs_only h).2]
    exact hwf

end Rel4Kernel
