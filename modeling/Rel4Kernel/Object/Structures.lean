/-
The kernel objects and the kernel state they live in.

The objects are the bitfield blocks of `sel4_common/pbf` (`cap`, `mdb_node`,
`endpoint`, `notification`, `thread_state`) and the Rust structs built from
them (`cte_t`, `tcb_t`). A block is modelled at the level of its fields, in
the order the block declares them, which is the order the generated `new`
constructors take them in; the packing into words only shows up where the
kernel writes a whole word at once (the fast path's `0.arr[0] = ...` stores),
and those writes get one named definition each beside the object they touch.
Pointers are plain `Nat`s with `0` for none, as `usize` is in the source.

The configuration is the one the repository builds by default for `spike`:
RISC-V, three page-table levels, no MCS, no SMP, no FPU.

The kernel state is a typed heap: one map per object type from pointers to
objects. `convert_to_mut_type_ref::<tcb_t>(p)` reads `tcbs p`; that every
pointer the kernel dereferences does hold an object of that type is the usual
well-typed-heap reading of the source and is not checked here.
-/
import Mathlib

set_option autoImplicit false

namespace Rel4Kernel

/-! ## Configuration -/

def WORD_RADIX : Nat := 6
def WORD_BITS : Nat := 2 ^ WORD_RADIX
def SEL4_TCB_BITS : Nat := 10
def TCB_CTABLE : Nat := 0
def TCB_VTABLE : Nat := 1
def TCB_REPLY : Nat := 2
def TCB_CALLER : Nat := 3
def TCB_BUFFER : Nat := 4
def TCB_CNODE_ENTRIES : Nat := 5
/-- `core::mem::size_of::<cte_t>()`: a `cap` and an `mdb_node`, two words each. -/
def CTE_SIZE : Nat := 32
def SEL4_MSG_LENGTH_BITS : Nat := 7
def SEL4_MSG_EXTRA_CAP_BITS : Nat := 2
def CONFIG_NUM_PRIORITIES : Nat := 256
def CONFIG_NUM_DOMAINS : Nat := 1
def CONFIG_TIME_SLICE : Nat := 5
def L2_BITMAP_SIZE : Nat := (CONFIG_NUM_PRIORITIES + WORD_BITS - 1) / WORD_BITS
/-- `MSG_REGISTER[0]` of the RISC-V register file (`a2`). -/
def MSG_REGISTER_0 : Nat := 11

/-! ## Machine words

`usize` arithmetic as the release build compiles it: shifts take their amount
modulo the word size, and results wrap. -/

/-- `x << n` on `usize`. -/
def wshl (x n : Nat) : Nat := (x <<< (n % WORD_BITS)) % 2 ^ WORD_BITS

/-- `x >> n` on `usize`. -/
def wshr (x n : Nat) : Nat := (x % 2 ^ WORD_BITS) >>> (n % WORD_BITS)

/-- `!x` on `usize`. -/
def wnot (x : Nat) : Nat := 2 ^ WORD_BITS - 1 - x % 2 ^ WORD_BITS

/-- `x - y` on `usize`. -/
def wsub (x y : Nat) : Nat := (x % 2 ^ WORD_BITS + (2 ^ WORD_BITS - y % 2 ^ WORD_BITS)) % 2 ^ WORD_BITS

/-- `x + y` on `usize`. -/
def wadd (x y : Nat) : Nat := (x + y) % 2 ^ WORD_BITS

/-! ## Results and errors of kernel operations -/

/-- `exception_t`. -/
inductive exception_t where
  | EXCEPTION_NONE
  | EXCEPTION_FAULT
  | EXCEPTION_LOOKUP_FAULT
  | EXCEPTION_SYSCALL_ERROR
  | EXCEPTION_PREEMTED
  deriving DecidableEq, Repr

/-- `current_syscall_error`: its `_type`, with the fields a decoder sets for
that type. -/
inductive syscall_error where
  | SEL4_INVALID_ARGUMENT (invalidArgumentNumber : Nat)
  | SEL4_INVALID_CAPABILITY (invalidCapNumber : Nat)
  | SEL4_ILLEGAL_OPERATION
  | SEL4_RANGE_ERROR (rangeErrorMin rangeErrorMax : Nat)
  | SEL4_ALIGNMENT_ERROR
  | SEL4_FAILED_LOOKUP (failedLookupWasSource : Nat)
  | SEL4_TRUNCATED_MESSAGE
  | SEL4_DELETE_FIRST
  | SEL4_REVOKE_FIRST
  | SEL4_NOT_ENOUGH_MEMORY (memoryLeft : Nat)
  deriving DecidableEq, Repr

/-- A result that, mapped by `f`, is `b`: an invocation that went through,
or what `decide` evaluates of a run on fixed slots. -/
theorem exists_of_map_ok {ε α β : Type} {x : Option (Except ε α)} {f : α → β} {b : β}
    (h : x.map (Except.map f) = some (.ok b)) : ∃ a, x = some (.ok a) ∧ f a = b := by
  obtain ⟨r, hr, he⟩ := Option.map_eq_some_iff.mp h
  cases r with
  | error e => cases he
  | ok a => exact ⟨a, hr, Except.ok.inj he⟩

/-! ## Thread state -/

/-- `sel4_task::ThreadState`, in the order of its discriminants. -/
inductive ThreadState where
  | ThreadStateInactive
  | ThreadStateRunning
  | ThreadStateRestart
  | ThreadStateBlockedOnReceive
  | ThreadStateBlockedOnSend
  | ThreadStateBlockedOnReply
  | ThreadStateBlockedOnNotification
  | ThreadStateIdleThreadState
  | ThreadStateExited
  deriving DecidableEq, Repr

open ThreadState

/-- The `thread_state` block (non-MCS layout). -/
structure thread_state where
  blockingIPCBadge : Nat := 0
  blockingIPCCanGrant : Nat := 0
  blockingIPCCanGrantReply : Nat := 0
  blockingIPCIsCall : Nat := 0
  tcbQueued : Nat := 0
  blockingObject : Nat := 0
  tsType : ThreadState := ThreadStateInactive
  deriving DecidableEq, Repr

/-- `thread_state_ptr_mset_blockingObject_tsType`, and the fast path's
`tcbState.0.arr[0] = ts` with `ep = 0`: word 0 of the block holds exactly
`blockingObject` and `tsType`. -/
def thread_state.set_word0 (ts : thread_state) (ep : Nat) (t : ThreadState) : thread_state :=
  { ts with blockingObject := ep, tsType := t }

/-- `seL4_Fault_tag`: the fast paths and the transfer code only read the tag
of a thread's fault. `seL4_Fault_Timeout` is the MCS build's. -/
inductive seL4_Fault_tag where
  | seL4_Fault_NullFault
  | seL4_Fault_CapFault
  | seL4_Fault_UnknownSyscall
  | seL4_Fault_UserException
  | seL4_Fault_VMFault
  | seL4_Fault_Timeout
  deriving DecidableEq, Repr

/-! ## Capabilities -/

/-- `cap_tag`, with the tag values of `tagged_union cap capType`. -/
inductive cap_tag where
  | cap_null_cap | cap_untyped_cap | cap_endpoint_cap | cap_notification_cap
  | cap_reply_cap | cap_cnode_cap | cap_thread_cap | cap_irq_control_cap
  | cap_irq_handler_cap | cap_zombie_cap | cap_domain_cap
  | cap_frame_cap | cap_page_table_cap | cap_asid_control_cap | cap_asid_pool_cap
  deriving DecidableEq, Repr

open cap_tag

def cap_tag.val : cap_tag → Nat
  | cap_null_cap => 0
  | cap_untyped_cap => 2
  | cap_endpoint_cap => 4
  | cap_notification_cap => 6
  | cap_reply_cap => 8
  | cap_cnode_cap => 10
  | cap_thread_cap => 12
  | cap_irq_control_cap => 14
  | cap_irq_handler_cap => 16
  | cap_zombie_cap => 18
  | cap_domain_cap => 20
  | cap_frame_cap => 1
  | cap_page_table_cap => 3
  | cap_asid_control_cap => 11
  | cap_asid_pool_cap => 13

/-- The `cap` tagged union, one constructor per block, fields in block order. -/
inductive cap where
  | null_cap
  | untyped_cap (capFreeIndex capIsDevice capBlockSize capPtr : Nat)
  | endpoint_cap (capEPBadge capCanGrantReply capCanGrant capCanReceive capCanSend
      capEPPtr : Nat)
  | notification_cap (capNtfnBadge capNtfnCanReceive capNtfnCanSend capNtfnPtr : Nat)
  | reply_cap (capTCBPtr capReplyCanGrant capReplyMaster : Nat)
  | cnode_cap (capCNodeGuard capCNodeGuardSize capCNodeRadix capCNodePtr : Nat)
  | thread_cap (capTCBPtr : Nat)
  | irq_control_cap
  | irq_handler_cap (capIRQ : Nat)
  | zombie_cap (capZombieID capZombieType : Nat)
  | domain_cap
  | frame_cap (capFMappedASID capFBasePtr capFSize capFVMRights capFIsDevice
      capFMappedAddress : Nat)
  | page_table_cap (capPTMappedASID capPTBasePtr capPTIsMapped capPTMappedAddress : Nat)
  | asid_control_cap
  | asid_pool_cap (capASIDBase capASIDPool : Nat)
  deriving DecidableEq, Repr

def cap.get_tag : cap → cap_tag
  | .null_cap => cap_null_cap
  | .untyped_cap .. => cap_untyped_cap
  | .endpoint_cap .. => cap_endpoint_cap
  | .notification_cap .. => cap_notification_cap
  | .reply_cap .. => cap_reply_cap
  | .cnode_cap .. => cap_cnode_cap
  | .thread_cap .. => cap_thread_cap
  | .irq_control_cap => cap_irq_control_cap
  | .irq_handler_cap .. => cap_irq_handler_cap
  | .zombie_cap .. => cap_zombie_cap
  | .domain_cap => cap_domain_cap
  | .frame_cap .. => cap_frame_cap
  | .page_table_cap .. => cap_page_table_cap
  | .asid_control_cap => cap_asid_control_cap
  | .asid_pool_cap .. => cap_asid_pool_cap

/-- `cap_func::is_arch_cap`: arch caps have odd tags. -/
def cap.is_arch_cap (c : cap) : Bool := c.get_tag.val % 2 != 0

/-! ## Capability slots -/

/-- The `mdb_node` block. -/
structure mdb_node where
  mdbNext : Nat := 0
  mdbRevocable : Nat := 0
  mdbFirstBadged : Nat := 0
  mdbPrev : Nat := 0
  deriving DecidableEq, Repr

/-- `mdb_node_ptr_mset_mdbNext_mdbRevocable_mdbFirstBadged`: word 1 of the
block holds exactly these three fields. -/
def mdb_node.mset_mdbNext_mdbRevocable_mdbFirstBadged (m : mdb_node)
    (mdbNext mdbRevocable mdbFirstBadged : Nat) : mdb_node :=
  { m with mdbNext := mdbNext, mdbRevocable := mdbRevocable, mdbFirstBadged := mdbFirstBadged }

structure cte_t where
  capability : cap := .null_cap
  cteMDBNode : mdb_node := {}
  deriving DecidableEq, Repr

/-! ## Threads and IPC objects -/

/-- `tcb_t`: the fields the modelled code reads or writes. `tcbArch` is the
user register file, by register index. -/
structure tcb_t where
  tcbArch : Nat → Nat := fun _ => 0
  tcbState : thread_state := {}
  tcbBoundNotification : Nat := 0
  tcbFault : seL4_Fault_tag := .seL4_Fault_NullFault
  domain : Nat := 0
  tcbPriority : Nat := 0
  tcbTimeSlice : Nat := 0
  tcbSchedNext : Nat := 0
  tcbSchedPrev : Nat := 0
  tcbEPNext : Nat := 0
  tcbEPPrev : Nat := 0

/-- `tcb_t::get_state`. -/
def tcb_t.get_state (t : tcb_t) : ThreadState := t.tcbState.tsType

/-- `ArchTCB::copy_range`: registers `lo .. hi` are copied from `src`. -/
def copy_range (dest src : Nat → Nat) (lo hi : Nat) : Nat → Nat :=
  fun i => if lo ≤ i ∧ i < hi then src i else dest i

/-- `EPState`. -/
inductive EPState where
  | Idle | Send | Recv
  deriving DecidableEq, Repr

/-- The `endpoint` block. -/
structure endpoint where
  epQueue_head : Nat := 0
  epQueue_tail : Nat := 0
  state : EPState := .Idle
  deriving DecidableEq, Repr

/-- `endpoint_ptr_mset_epQueue_tail_state`: word 0 of the block. -/
def endpoint.mset_epQueue_tail_state (e : endpoint) (tail : Nat) (st : EPState) : endpoint :=
  { e with epQueue_tail := tail, state := st }

/-- `NtfnState`. -/
inductive NtfnState where
  | Idle | Waiting | Active
  deriving DecidableEq, Repr

/-- The `notification` block (non-MCS layout). -/
structure notification where
  ntfnBoundTCB : Nat := 0
  ntfnMsgIdentifier : Nat := 0
  ntfnQueue_head : Nat := 0
  ntfnQueue_tail : Nat := 0
  state : NtfnState := .Idle
  deriving DecidableEq, Repr

/-! ## Queues -/

/-- `tcb_queue_t`: the two ends of a queue whose links live in the members. -/
structure tcb_queue_t where
  head : Nat
  tail : Nat
  deriving DecidableEq, Repr

/-! ## The kernel state -/

/-- The kernel's global state. Every field has the value a freshly zeroed
kernel image has, so that a concrete state names only what it sets. -/
structure KernelState where
  tcbs : Nat → tcb_t := fun _ => {}
  eps : Nat → endpoint := fun _ => {}
  ntfns : Nat → notification := fun _ => {}
  ctes : Nat → cte_t := fun _ => {}
  ksCurThread : Nat := 0
  ksReadyQueuesL1Bitmap : Nat → Nat := fun _ => 0
  ksReadyQueuesL2Bitmap : Nat → Nat → Nat := fun _ _ => 0
  ksReadyQueues : Nat → tcb_queue_t := fun _ => ⟨0, 0⟩
  ksSchedulerAction : Nat := 0
  ksIdleThread : Nat := 0
  ksCurDomain : Nat := 0
  ksDomainTime : Nat := 0
  ksDomScheduleIdx : Nat := 0
  /-- The address-space root and ASID that `set_vspace_root` last wrote. -/
  vspaceRoot : Nat × Nat := (0, 0)

namespace KernelState

variable (s : KernelState)

def modifyTcb (p : Nat) (f : tcb_t → tcb_t) : KernelState :=
  { s with tcbs := Function.update s.tcbs p (f (s.tcbs p)) }

def modifyEp (p : Nat) (f : endpoint → endpoint) : KernelState :=
  { s with eps := Function.update s.eps p (f (s.eps p)) }

def modifyCte (p : Nat) (f : cte_t → cte_t) : KernelState :=
  { s with ctes := Function.update s.ctes p (f (s.ctes p)) }

def modifyNtfn (p : Nat) (f : notification → notification) : KernelState :=
  { s with ntfns := Function.update s.ntfns p (f (s.ntfns p)) }

variable {s}

@[simp] theorem modifyTcb_tcbs (p : Nat) (f : tcb_t → tcb_t) (q : Nat) :
    (s.modifyTcb p f).tcbs q = if q = p then f (s.tcbs p) else s.tcbs q := by
  simp only [modifyTcb, Function.update_apply]

@[simp] theorem modifyEp_eps (p : Nat) (f : endpoint → endpoint) (q : Nat) :
    (s.modifyEp p f).eps q = if q = p then f (s.eps p) else s.eps q := by
  simp only [modifyEp, Function.update_apply]

@[simp] theorem modifyCte_ctes (p : Nat) (f : cte_t → cte_t) (q : Nat) :
    (s.modifyCte p f).ctes q = if q = p then f (s.ctes p) else s.ctes q := by
  simp only [modifyCte, Function.update_apply]

@[simp] theorem modifyTcb_eps (p : Nat) (f : tcb_t → tcb_t) : (s.modifyTcb p f).eps = s.eps := rfl
@[simp] theorem modifyTcb_ctes (p : Nat) (f : tcb_t → tcb_t) : (s.modifyTcb p f).ctes = s.ctes := rfl
@[simp] theorem modifyTcb_ksCurThread (p : Nat) (f : tcb_t → tcb_t) :
    (s.modifyTcb p f).ksCurThread = s.ksCurThread := rfl
@[simp] theorem modifyEp_tcbs (p : Nat) (f : endpoint → endpoint) : (s.modifyEp p f).tcbs = s.tcbs := rfl
@[simp] theorem modifyEp_ctes (p : Nat) (f : endpoint → endpoint) : (s.modifyEp p f).ctes = s.ctes := rfl
@[simp] theorem modifyEp_ksCurThread (p : Nat) (f : endpoint → endpoint) :
    (s.modifyEp p f).ksCurThread = s.ksCurThread := rfl
@[simp] theorem modifyCte_tcbs (p : Nat) (f : cte_t → cte_t) : (s.modifyCte p f).tcbs = s.tcbs := rfl
@[simp] theorem modifyCte_eps (p : Nat) (f : cte_t → cte_t) : (s.modifyCte p f).eps = s.eps := rfl
@[simp] theorem modifyCte_ksCurThread (p : Nat) (f : cte_t → cte_t) :
    (s.modifyCte p f).ksCurThread = s.ksCurThread := rfl

@[simp] theorem modifyNtfn_ntfns (p : Nat) (f : notification → notification) (q : Nat) :
    (s.modifyNtfn p f).ntfns q = if q = p then f (s.ntfns p) else s.ntfns q := by
  simp only [modifyNtfn, Function.update_apply]

@[simp] theorem modifyNtfn_tcbs (p : Nat) (f : notification → notification) :
    (s.modifyNtfn p f).tcbs = s.tcbs := rfl
@[simp] theorem modifyNtfn_eps (p : Nat) (f : notification → notification) :
    (s.modifyNtfn p f).eps = s.eps := rfl
@[simp] theorem modifyNtfn_ctes (p : Nat) (f : notification → notification) :
    (s.modifyNtfn p f).ctes = s.ctes := rfl
@[simp] theorem modifyTcb_ntfns (p : Nat) (f : tcb_t → tcb_t) : (s.modifyTcb p f).ntfns = s.ntfns := rfl
@[simp] theorem modifyEp_ntfns (p : Nat) (f : endpoint → endpoint) : (s.modifyEp p f).ntfns = s.ntfns := rfl
@[simp] theorem modifyCte_ntfns (p : Nat) (f : cte_t → cte_t) : (s.modifyCte p f).ntfns = s.ntfns := rfl

end KernelState

/-- `tcb_t::get_cspace_mut_ref`: slot `i` of the CNode at the start of the
block that holds the TCB (`tcb & !mask_bits!(SEL4_TCB_BITS)`, plus `i` slots). -/
def tcb_cte_slot (tcb i : Nat) : Nat :=
  tcb - tcb % 2 ^ SEL4_TCB_BITS + i * CTE_SIZE

end Rel4Kernel
