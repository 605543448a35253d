/-
`UntypedRetype`: the decoder's checks and the retype that carves new objects
out of an untyped region (`decode_untyped_invocation.rs`,
`invoke_untyped.rs`, and the free-index helpers of `syscall/utils.rs`).

An untyped cap covers `[capPtr, capPtr + 2 ^ capBlockSize)`; its free index
counts the 16-byte units already handed out. A retype of `node_window`
objects of `2 ^ obj_size` bytes starts at the free pointer rounded up to the
object size (at the base when the cap has no children: the region is reset
first), and moves the free index past the last object. The capacity test
compares the whole objects that fit in the bytes left with the window
before the pointer is rounded; it is enough because the base is aligned to
the whole region (`Align.roundUp_add_floor_le`).

The arithmetic is the release build's: additions and shifts of `usize`
wrap at `2 ^ 64`. An aligned region at a word address ends at `2 ^ 64` at
the latest, so the object addresses never wrap (the layout theorem); the
sums that reach `2 ^ 64` for the region at the top of the address space,
the one inside `alignUp` and the free pointer past the last object, do wrap
to 0, and the wrapping subtractions that follow them take them back.

Of the objects' contents only the new threads are modelled
(`create_tcb_object`): otherwise `create_object` is the cap it returns, and
the clearing of memory in `reset_untyped_cap` is left out. Its preemption
points are, through an oracle that says whether an interrupt is pending at
each chunk.
-/
import Rel4Kernel.CSpace.Lookup
import Rel4Kernel.CSpace.MdbInvariant
import Rel4Kernel.Task.Schedule
import Rel4Kernel.VSpace.InvokeMmu
import Rel4Kernel.Lib.Align

set_option autoImplicit false

namespace Rel4Kernel

open ThreadState

/-! ## Object types -/

/-- `ObjectType` (RISC-V, without MCS). -/
inductive ObjectType where
  | UnytpedObject
  | TCBObject
  | EndpointObject
  | NotificationObject
  | CapTableObject
  | GigaPageObject
  | NormalPageObject
  | MegaPageObject
  | PageTableObject
  deriving DecidableEq, Repr

def SEL4_LARGE_PAGE_BITS : Nat := 21
def SEL4_HUGE_PAGE_BITS : Nat := 30
def MAX_UNTYPED_BITS : Nat := 38
def CONFIG_RETYPE_FAN_OUT_LIMIT : Nat := 256
def CONFIG_RESET_CHUNK_BITS : Nat := 8
def TCB_OFFSET : Nat := 2 ^ (SEL4_TCB_BITS - 1)
def ASID_INVALID : Nat := 0
def RISCV_4K_PAGE : Nat := 0
def RISCV_MEGA_PAGE : Nat := 1
def RISCV_GIGA_PAGE : Nat := 2
/-- `vm_rights_t::VMReadWrite`. -/
def VMReadWrite : Nat := 3

namespace ObjectType

/-- `ObjectType::from_usize`: the type with that number, below `OBJECT_TYPE_COUNT`. -/
def from_usize : Nat → Option ObjectType
  | 0 => some UnytpedObject
  | 1 => some TCBObject
  | 2 => some EndpointObject
  | 3 => some NotificationObject
  | 4 => some CapTableObject
  | 5 => some GigaPageObject
  | 6 => some NormalPageObject
  | 7 => some MegaPageObject
  | 8 => some PageTableObject
  | _ => none

/-- `get_object_size`, with `arch_get_object_size` for the RISC-V types. -/
def get_object_size (t : ObjectType) (user_object_size : Nat) : Nat :=
  match t with
  | UnytpedObject => user_object_size
  | TCBObject => SEL4_TCB_BITS
  | EndpointObject => SEL4_ENDPOINT_BITS
  | NotificationObject => SEL4_NOTIFICATION_BITS
  | CapTableObject => SEL4_SLOT_BITS + user_object_size
  | GigaPageObject => SEL4_HUGE_PAGE_BITS
  | NormalPageObject => SEL4_PAGE_BITS
  | MegaPageObject => SEL4_LARGE_PAGE_BITS
  | PageTableObject => SEL4_PAGE_BITS

/-- `is_arch_type`: the frame types (a page table is not one). -/
def is_arch_type (t : ObjectType) : Bool :=
  match t with
  | GigaPageObject | NormalPageObject | MegaPageObject => true
  | _ => false

end ObjectType

open ObjectType

/-- `create_object` with `arch_create_object`: the cap to a new object of
type `obj_type` at `region_base`. -/
def create_object (obj_type : ObjectType) (region_base user_size device_mem : Nat) : cap :=
  match obj_type with
  | TCBObject => .thread_cap (region_base + TCB_OFFSET)
  | CapTableObject => .cnode_cap 0 0 user_size region_base
  | NotificationObject => .notification_cap 0 1 1 region_base
  | EndpointObject => .endpoint_cap 0 1 1 1 1 region_base
  | UnytpedObject => .untyped_cap 0 device_mem user_size region_base
  | PageTableObject => .page_table_cap ASID_INVALID region_base 0 0
  | NormalPageObject => .frame_cap ASID_INVALID region_base RISCV_4K_PAGE VMReadWrite device_mem 0
  | MegaPageObject => .frame_cap ASID_INVALID region_base RISCV_MEGA_PAGE VMReadWrite device_mem 0
  | GigaPageObject => .frame_cap ASID_INVALID region_base RISCV_GIGA_PAGE VMReadWrite device_mem 0

/-- `SSTATUS`, the index of the status register in a thread's context. -/
def SSTATUS : Nat := 32

/-- `ArchTCB::default()`: every register 0 but `sstatus`, which gets
`0x00040020`, the SPIE and SUM bits. -/
def ArchTCB.default : Nat → Nat := fun r => if r = SSTATUS then 0x00040020 else 0

/-- The `TCBObject` arm of `create_object` on the object's memory, in the
build without MCS. An untyped keeps the memory past its free index cleared,
so the new thread reads as the zero `tcb_t` until `tcb_t::init` sets its
registers to `ArchTCB::default()` and the domain is set. The time slice is
written only under `#[cfg(feature = "kernel_mcs")]`, and stays 0. -/
def create_tcb_object (s : KernelState) (region_base : Nat) : KernelState :=
  let tcb : tcb_t := {}
  let tcb := { tcb with tcbArch := ArchTCB.default }
  { s with tcbs := Function.update s.tcbs (region_base + TCB_OFFSET) { tcb with domain := s.ksCurDomain } }

/-! ## Free indices and alignment (`syscall/utils.rs`) -/

/-- `alignUp(baseValue, alignment)`. -/
def alignUp (baseValue alignment : Nat) : Nat :=
  wsub (wadd baseValue (wshl 1 alignment)) 1 &&& wnot (mask_bits alignment)

def FREE_INDEX_TO_OFFSET (freeIndex : Nat) : Nat := wshl freeIndex SEL4_MIN_UNTYPED_BITS

def GET_FREE_REF (base freeIndex : Nat) : Nat := wadd base (FREE_INDEX_TO_OFFSET freeIndex)

def GET_FREE_INDEX (base free : Nat) : Nat := wshr (wsub free base) SEL4_MIN_UNTYPED_BITS

def OFFSET_TO_FREE_IDNEX (offset : Nat) : Nat := wshr offset SEL4_MIN_UNTYPED_BITS

/-! ## The retype (`invoke_untyped.rs`) -/

/-- The chunks of `reset_untyped_cap`'s loop from chunk `k` down to chunk 0:
each is cleared, the free index is set to its offset, and a preemption point
is taken, at which `preempt offset` says whether an interrupt is pending.
The status and the last free index written. -/
def reset_untyped_chunks (preempt : Nat → Bool) (chunk : Nat) : Nat → exception_t × Nat
  | 0 => (if preempt 0 then .EXCEPTION_PREEMTED else .EXCEPTION_NONE, OFFSET_TO_FREE_IDNEX 0)
  | k + 1 =>
    let offset := (k + 1) * 2 ^ chunk
    if preempt offset then (.EXCEPTION_PREEMTED, OFFSET_TO_FREE_IDNEX offset)
    else reset_untyped_chunks preempt chunk k

/-- `reset_untyped_cap(srcSlot)` on the untyped cap with these fields: the
status and the cap's free index afterwards. -/
def reset_untyped_cap (preempt : Nat → Bool) (capFreeIndex capIsDevice capBlockSize : Nat) :
    exception_t × Nat :=
  let chunk := CONFIG_RESET_CHUNK_BITS
  let offset := FREE_INDEX_TO_OFFSET capFreeIndex
  if offset = 0 then (.EXCEPTION_NONE, capFreeIndex)
  else if capIsDevice ≠ 0 ∨ capBlockSize < chunk then (.EXCEPTION_NONE, 0)
  -- `round_down!(offset - 1, chunk)`, counted in chunks
  else reset_untyped_chunks preempt chunk ((offset - 1) >>> chunk)

/-- `create_new_objects`: object `i` of the window at `region_base + (i <<
object_size)`, its cap inserted below `parent` into slot `dest_offset + i` of
the CNode at `dest_cnode`. -/
def create_new_objects (obj_type : ObjectType) (parent dest_cnode dest_offset dest_length region_base
    user_size device_mem : Nat) (ctes : Nat → cte_t) : Nat → cte_t :=
  let object_size := obj_type.get_object_size user_size
  (List.range dest_length).foldl
    (fun ctes i =>
      insert_new_cap parent (dest_cnode + (dest_offset + i) * CTE_SIZE)
        (create_object obj_type (wadd region_base (wshl i object_size)) user_size device_mem) ctes)
    ctes

/-- The objects' memory that `create_new_objects` writes through
`create_object`: the threads of a window of `TCBObject`s. -/
def create_new_tcbs (obj_type : ObjectType) (dest_length region_base user_size : Nat) (s : KernelState) :
    KernelState :=
  match obj_type with
  | TCBObject =>
    let object_size := obj_type.get_object_size user_size
    (List.range dest_length).foldl (fun s i => create_tcb_object s (wadd region_base (wshl i object_size))) s
  | _ => s

/-- `invoke_untyped_retype`, for the untyped cap with these fields in
`src_slot`: reset it if asked (which may be preempted), move its free index
past the new objects, and create them. -/
def invoke_untyped_retype (preempt : Nat → Bool) (s : KernelState) (src_slot : Nat)
    (capFreeIndex capIsDevice capBlockSize capPtr : Nat) (reset : Bool) (retype_base : Nat)
    (new_type : ObjectType) (user_size dest_cnode dest_offset dest_length device_mem : Nat) :
    exception_t × KernelState :=
  let region_base := capPtr
  let (status, capFreeIndex) :=
    if reset then reset_untyped_cap preempt capFreeIndex capIsDevice capBlockSize
    else (.EXCEPTION_NONE, capFreeIndex)
  let s := { s with
    ctes := set_cap s.ctes src_slot (.untyped_cap capFreeIndex capIsDevice capBlockSize capPtr) }
  if status ≠ .EXCEPTION_NONE then (status, s)
  else
    let total_object_size := wshl dest_length (new_type.get_object_size user_size)
    let free_ref := wadd retype_base total_object_size
    let ctes := set_cap s.ctes src_slot
      (.untyped_cap (GET_FREE_INDEX region_base free_ref) capIsDevice capBlockSize capPtr)
    (.EXCEPTION_NONE, create_new_tcbs new_type dest_length retype_base user_size { s with
      ctes := create_new_objects new_type src_slot dest_cnode dest_offset dest_length retype_base
        user_size device_mem ctes })

/-! ## The decoder (`decode_untyped_invocation.rs`) -/

/-- `MessageLabel::UntypedRetype`. -/
def UntypedRetype : Nat := 1

/-- `check_object_type`. -/
def check_object_type (new_type : ObjectType) (user_obj_size : Nat) : Except syscall_error Unit :=
  if new_type = CapTableObject ∧ user_obj_size = 0 then .error (.SEL4_INVALID_ARGUMENT 1)
  else if new_type = UnytpedObject ∧ user_obj_size < SEL4_MIN_UNTYPED_BITS then
    .error (.SEL4_INVALID_ARGUMENT 1)
  else .ok ()

/-- `get_target_cnode`, from the cap in slot `root` (the first extra cap):
the radix and the pointer of the CNode cap the new caps go into. -/
def get_target_cnode (ctes : Nat → cte_t) (root node_index node_depth : Nat) :
    Option (Except syscall_error (Nat × Nat)) := do
  let target_node_cap : Except syscall_error cap ←
    if node_depth = 0 then pure (.ok (ctes root).capability)
    else do
      match ← lookup_slot_for_cnode_op ctes false (ctes root).capability node_index node_depth with
      | .error e => pure (.error e)
      | .ok slot => pure (.ok (ctes slot).capability)
  match target_node_cap with
  | .error e => pure (.error e)
  | .ok (.cnode_cap _ _ capCNodeRadix capCNodePtr) => pure (.ok (capCNodeRadix, capCNodePtr))
  | .ok _ => pure (.error (.SEL4_FAILED_LOOKUP 0))

/-- `check_cnode_slot`: the window of slots fits in the CNode and is empty. -/
def check_cnode_slot (ctes : Nat → cte_t) (capCNodeRadix capCNodePtr node_offset node_window : Nat) :
    Except syscall_error Unit :=
  let node_size := wshl 1 capCNodeRadix
  if node_offset > node_size - 1 then .error (.SEL4_RANGE_ERROR 0 (node_size - 1))
  else if node_window < 1 ∨ node_window > CONFIG_RETYPE_FAN_OUT_LIMIT then
    .error (.SEL4_RANGE_ERROR 1 CONFIG_RETYPE_FAN_OUT_LIMIT)
  else if node_window > node_size - node_offset then .error (.SEL4_RANGE_ERROR 1 (node_size - node_offset))
  else if (List.range' node_offset node_window).any
      (fun i => (ctes (capCNodePtr + i * CTE_SIZE)).capability ≠ .null_cap) then
    .error .SEL4_DELETE_FIRST
  else .ok ()

/-- `decode_untyed_invocation` for the untyped cap with these fields in
`slot`, the message words `args` and the slots `current_extra_caps` of the
extra caps: the syscall error it reports, or the status and the state the
retype leaves. `none` is a panic on the way. -/
def decode_untyed_invocation (preempt : Nat → Bool) (s : KernelState) (inv_label length : Nat)
    (current_extra_caps : List Nat) (args : Nat → Nat) (slot : Nat)
    (capFreeIndex capIsDevice capBlockSize capPtr : Nat) :
    Option (Except syscall_error (exception_t × KernelState)) := do
  if inv_label ≠ UntypedRetype then return .error .SEL4_ILLEGAL_OPERATION
  let some root := current_extra_caps[0]? | return .error .SEL4_TRUNCATED_MESSAGE
  if length < 6 then return .error .SEL4_TRUNCATED_MESSAGE
  let some new_type := ObjectType.from_usize (args 0) | return .error (.SEL4_INVALID_ARGUMENT 0)
  let user_obj_size := args 1
  let node_index := args 2
  let node_depth := args 3
  let node_offset := args 4
  let node_window := args 5
  let obj_size := new_type.get_object_size user_obj_size
  if user_obj_size ≥ WORD_BITS ∨ obj_size > MAX_UNTYPED_BITS then
    return .error (.SEL4_RANGE_ERROR 0 MAX_UNTYPED_BITS)
  if let .error e := check_object_type new_type user_obj_size then return .error e
  let (capCNodeRadix, capCNodePtr) ← match ← get_target_cnode s.ctes root node_index node_depth with
    | .error e => return .error e
    | .ok node => pure node
  if let .error e := check_cnode_slot s.ctes capCNodeRadix capCNodePtr node_offset node_window then
    return .error e
  -- `ensure_no_children` fails: the cap has children, and the free index stays
  let children ← ensure_no_children s.ctes slot
  let (free_index, reset) := if children then (capFreeIndex, false) else (0, true)
  let free_ref := GET_FREE_REF capPtr free_index
  let untyped_free_bytes := wsub (wshl 1 capBlockSize) (FREE_INDEX_TO_OFFSET free_index)
  if wshr untyped_free_bytes obj_size < node_window then
    return .error (.SEL4_NOT_ENOUGH_MEMORY untyped_free_bytes)
  let device_mem := capIsDevice ≠ 0
  if device_mem ∧ !new_type.is_arch_type ∧ new_type ≠ UnytpedObject then
    return .error (.SEL4_INVALID_ARGUMENT 1)
  let aligned_free_ref := alignUp free_ref obj_size
  let s := set_thread_state s s.ksCurThread ThreadStateRestart
  return .ok (invoke_untyped_retype preempt s slot capFreeIndex capIsDevice capBlockSize capPtr reset
    aligned_free_ref new_type user_obj_size capCNodePtr node_offset node_window
    (if device_mem then 1 else 0))

/-! ## Words that do not wrap -/

section Words

variable {x y s a : Nat}

theorem wadd_of_lt (h : x + y < 2 ^ WORD_BITS) : wadd x y = x + y := Nat.mod_eq_of_lt h

theorem wshl_of_lt (hs : s < WORD_BITS) (h : x * 2 ^ s < 2 ^ WORD_BITS) : wshl x s = x * 2 ^ s := by
  rw [wshl_eq hs, Nat.mod_eq_of_lt h]

theorem wsub_of_le (h : y ≤ x) (hx : x < 2 ^ WORD_BITS) : wsub x y = x - y := by
  have hy : y < 2 ^ WORD_BITS := Nat.lt_of_le_of_lt h hx
  have hsum : x + (2 ^ WORD_BITS - y) = x - y + 2 ^ WORD_BITS := by omega
  rw [wsub, Nat.mod_eq_of_lt hx, Nat.mod_eq_of_lt hy, hsum, Nat.add_mod_right,
    Nat.mod_eq_of_lt (Nat.lt_of_le_of_lt (Nat.sub_le x y) hx)]

theorem wshr_of_lt (hs : s < WORD_BITS) (hx : x < 2 ^ WORD_BITS) : wshr x s = x / 2 ^ s := by
  rw [wshr, Nat.mod_eq_of_lt hx, Nat.mod_eq_of_lt hs, Nat.shiftRight_eq_div_pow]

/-- `!mask_bits!(a)` clears the bits below `a`. -/
theorem wnot_mask_bits (ha : a ≤ WORD_BITS) : wnot (mask_bits a) = 2 ^ WORD_BITS - 2 ^ a := by
  have hpos := Nat.two_pow_pos a
  have hle : 2 ^ a ≤ 2 ^ WORD_BITS := Nat.pow_le_pow_right (by decide) ha
  rw [wnot, mask_bits, Nat.mod_eq_of_lt (by omega)]
  omega

/-- Taking `x` off `x + y` gives `y` back, also when the addition wrapped. -/
theorem wsub_wadd_left (hy : y < 2 ^ WORD_BITS) : wsub (wadd x y) x = y := by
  have hM : (2 : Nat) ^ WORD_BITS = 18446744073709551616 := rfl
  rw [hM] at hy
  simp only [wsub, wadd, hM]
  omega

/-- One off a sum of at most `2 ^ 64`: the sum wraps to 0 when it reaches
`2 ^ 64`, and the subtraction wraps it back. -/
theorem wsub_wadd_one (hpos : 0 < x + y) (h : x + y ≤ 2 ^ WORD_BITS) : wsub (wadd x y) 1 = x + y - 1 := by
  have hM : (2 : Nat) ^ WORD_BITS = 18446744073709551616 := rfl
  rw [hM] at h
  simp only [wsub, wadd, hM]
  omega

/-- `alignUp` rounds up to the alignment whenever `x + 2 ^ a` is at most
`2 ^ 64`: at `2 ^ 64` the sum inside it wraps, and the subtraction of one
brings it back before the mask. -/
theorem alignUp_eq (ha : a < WORD_BITS) (h : x + 2 ^ a ≤ 2 ^ WORD_BITS) : alignUp x a = Align.roundUp x a := by
  have hpos := Nat.two_pow_pos a
  have hlt : 2 ^ a < 2 ^ WORD_BITS := Nat.pow_lt_pow_right (by decide) ha
  have hone : wshl 1 a = 2 ^ a := (wshl_of_lt ha (by rw [Nat.one_mul]; exact hlt)).trans (Nat.one_mul _)
  rw [alignUp, hone, wsub_wadd_one (by omega) h, wnot_mask_bits (Nat.le_of_lt ha),
    Align.and_two_pow_sub_two_pow (by omega) (Nat.le_of_lt ha), Align.roundUp]

end Words

/-! ## Object sizes -/

/-- Every object a retype accepts is at least a free-index unit large. -/
theorem get_object_size_ge {new_type : ObjectType} {user_obj_size : Nat}
    (h : check_object_type new_type user_obj_size = .ok ()) :
    SEL4_MIN_UNTYPED_BITS ≤ new_type.get_object_size user_obj_size := by
  cases new_type with
  | UnytpedObject =>
    -- the only size the user chooses freely is refused below the unit
    by_contra hlt
    simp [check_object_type, get_object_size] at h hlt
    omega
  | CapTableObject =>
    simp only [get_object_size, SEL4_SLOT_BITS, SEL4_MIN_UNTYPED_BITS]
    omega
  | _ =>
    simp only [get_object_size]
    decide

/-! ## The caps a retype writes -/

section CreateNewObjects

variable (obj_type : ObjectType) (parent dest_cnode dest_offset region_base user_size device_mem : Nat)

theorem create_new_objects_succ (n : Nat) (ctes : Nat → cte_t) :
    create_new_objects obj_type parent dest_cnode dest_offset (n + 1) region_base user_size device_mem ctes =
      insert_new_cap parent (dest_cnode + (dest_offset + n) * CTE_SIZE)
        (create_object obj_type (wadd region_base (wshl n (obj_type.get_object_size user_size))) user_size
          device_mem)
        (create_new_objects obj_type parent dest_cnode dest_offset n region_base user_size device_mem ctes) := by
  simp only [create_new_objects, List.range_succ, List.foldl_append, List.foldl_cons, List.foldl_nil]

variable {obj_type parent dest_cnode dest_offset region_base user_size device_mem}

/-- A slot outside the window keeps its cap. -/
theorem cap_of_create_new_objects_of_ne {n q : Nat} {ctes : Nat → cte_t}
    (hq : ∀ i < n, q ≠ dest_cnode + (dest_offset + i) * CTE_SIZE) :
    cap_of (create_new_objects obj_type parent dest_cnode dest_offset n region_base user_size device_mem ctes) q =
      cap_of ctes q := by
  induction n with
  | zero => rfl
  | succ n ih =>
    rw [create_new_objects_succ, cap_of_insert_new_cap, Function.update_of_ne (hq n (Nat.lt_succ_self n)),
      ih (fun i hi => hq i (Nat.lt_succ_of_lt hi))]

/-- Slot `i` of the window holds the cap to object `i`: the later objects
go to other slots. -/
theorem cap_of_create_new_objects_of_lt {n i : Nat} {ctes : Nat → cte_t} (hi : i < n) :
    cap_of (create_new_objects obj_type parent dest_cnode dest_offset n region_base user_size device_mem ctes)
        (dest_cnode + (dest_offset + i) * CTE_SIZE) =
      create_object obj_type (wadd region_base (wshl i (obj_type.get_object_size user_size))) user_size
        device_mem := by
  induction n with
  | zero => omega
  | succ n ih =>
    rw [create_new_objects_succ, cap_of_insert_new_cap]
    by_cases hin : i = n
    · rw [hin, Function.update_self]
    · have hne : dest_cnode + (dest_offset + i) * CTE_SIZE ≠ dest_cnode + (dest_offset + n) * CTE_SIZE := by
        rw [CTE_SIZE]
        omega
      rw [Function.update_of_ne hne, ih (by omega)]

/-- The new threads are written into the threads only. -/
theorem create_new_tcbs_ctes (obj_type : ObjectType) (dest_length region_base user_size : Nat)
    (s : KernelState) : (create_new_tcbs obj_type dest_length region_base user_size s).ctes = s.ctes := by
  cases obj_type
  case TCBObject =>
    simp only [create_new_tcbs]
    induction dest_length with
    | zero => rfl
    | succ n ih =>
      rw [List.range_succ, List.foldl_append, List.foldl_cons, List.foldl_nil]
      exact ih
  all_goals rfl

end CreateNewObjects

/-- A retype that is not preempted writes the cap back with the free index
past the new objects, then creates them. -/
theorem invoke_untyped_retype_of_none {preempt : Nat → Bool} {s : KernelState}
    {src_slot capFreeIndex capIsDevice capBlockSize capPtr : Nat} {reset : Bool} {retype_base : Nat}
    {new_type : ObjectType} {user_size dest_cnode dest_offset dest_length device_mem : Nat}
    (h : (invoke_untyped_retype preempt s src_slot capFreeIndex capIsDevice capBlockSize capPtr reset retype_base
      new_type user_size dest_cnode dest_offset dest_length device_mem).1 = .EXCEPTION_NONE) :
    cap_of (invoke_untyped_retype preempt s src_slot capFreeIndex capIsDevice capBlockSize capPtr reset
        retype_base new_type user_size dest_cnode dest_offset dest_length device_mem).2.ctes =
      cap_of (create_new_objects new_type src_slot dest_cnode dest_offset dest_length retype_base user_size
        device_mem (set_cap s.ctes src_slot (.untyped_cap
          (GET_FREE_INDEX capPtr (wadd retype_base (wshl dest_length (new_type.get_object_size user_size))))
          capIsDevice capBlockSize capPtr))) := by
  unfold invoke_untyped_retype at h ⊢
  obtain ⟨status, idx, hreset⟩ : ∃ status idx,
      (if reset then reset_untyped_cap preempt capFreeIndex capIsDevice capBlockSize
        else (.EXCEPTION_NONE, capFreeIndex)) = (status, idx) := ⟨_, _, rfl⟩
  rw [hreset] at h ⊢
  dsimp only at h ⊢
  split
  · -- a preempted reset is the only way out before the objects
    rw [if_pos ‹_›] at h
    exact absurd h ‹_›
  · -- the index the reset left is overwritten
    rw [create_new_tcbs_ctes]
    apply funext
    intro q
    by_cases hq : ∃ i < dest_length, q = dest_cnode + (dest_offset + i) * CTE_SIZE
    · obtain ⟨i, hi, rfl⟩ := hq
      rw [cap_of_create_new_objects_of_lt hi, cap_of_create_new_objects_of_lt hi]
    · have hq' : ∀ i < dest_length, q ≠ dest_cnode + (dest_offset + i) * CTE_SIZE :=
        fun i hi heq => hq ⟨i, hi, heq⟩
      rw [cap_of_create_new_objects_of_ne hq', cap_of_create_new_objects_of_ne hq']
      simp

/-! ## What the decoder lets through -/

/-- A window `check_cnode_slot` accepts holds at least one slot, all empty. -/
theorem check_cnode_slot_ok {ctes : Nat → cte_t} {capCNodeRadix capCNodePtr node_offset node_window : Nat}
    (h : check_cnode_slot ctes capCNodeRadix capCNodePtr node_offset node_window = .ok ()) :
    1 ≤ node_window ∧
      ∀ i < node_window, (ctes (capCNodePtr + (node_offset + i) * CTE_SIZE)).capability = .null_cap := by
  unfold check_cnode_slot at h
  dsimp only at h
  split at h
  · cases h
  split at h
  · cases h
  rename_i hwindow
  split at h
  · cases h
  split at h
  · cases h
  rename_i hempty
  refine ⟨by omega, fun i hi => ?_⟩
  simp only [List.any_eq_true, List.mem_range'_1, decide_eq_true_eq, not_exists, not_and,
    Classical.not_not] at hempty
  exact hempty (node_offset + i) ⟨by omega, by omega⟩

/-- A check that reports no error passed. -/
theorem check_ok_of_no_error {ε : Type} {c : Except ε Unit} (h : ∀ e, c = .error e → False) : c = .ok () := by
  cases c with
  | error e => exact absurd rfl (h e)
  | ok u => rfl

/-- The last steps of `decode_untyed_invocation`, for the free index and the
reset flag the children fix: the capacity test and the device test pass, and
what is left is the retype. -/
theorem decode_untyed_tail_ok {preempt : Nat → Bool} {s : KernelState} {args : Nat → Nat}
    {slot capFreeIndex capIsDevice capBlockSize capPtr capCNodePtr : Nat} {new_type : ObjectType}
    {r : exception_t × KernelState} (free_index : Nat) (reset : Bool)
    (h : (if wshr (wsub (wshl 1 capBlockSize) (FREE_INDEX_TO_OFFSET free_index)) (new_type.get_object_size (args 1)) <
          args 5 then
        some (Except.error (syscall_error.SEL4_NOT_ENOUGH_MEMORY
          (wsub (wshl 1 capBlockSize) (FREE_INDEX_TO_OFFSET free_index))))
      else if capIsDevice ≠ 0 ∧ (!new_type.is_arch_type) = true ∧ new_type ≠ UnytpedObject then
        some (Except.error (syscall_error.SEL4_INVALID_ARGUMENT 1))
      else some (Except.ok (invoke_untyped_retype preempt (set_thread_state s s.ksCurThread ThreadStateRestart)
        slot capFreeIndex capIsDevice capBlockSize capPtr reset
        (alignUp (GET_FREE_REF capPtr free_index) (new_type.get_object_size (args 1))) new_type (args 1)
        capCNodePtr (args 4) (args 5) (if capIsDevice ≠ 0 then 1 else 0)))) = some (.ok r)) :
    args 5 ≤ wshr (wsub (wshl 1 capBlockSize) (FREE_INDEX_TO_OFFSET free_index))
        (new_type.get_object_size (args 1)) ∧
      r = invoke_untyped_retype preempt (set_thread_state s s.ksCurThread ThreadStateRestart) slot
        capFreeIndex capIsDevice capBlockSize capPtr reset
        (alignUp (GET_FREE_REF capPtr free_index) (new_type.get_object_size (args 1))) new_type (args 1)
        capCNodePtr (args 4) (args 5) (if capIsDevice ≠ 0 then 1 else 0) := by
  split at h
  · simp at h
  split at h
  · simp at h
  exact ⟨Nat.le_of_not_lt ‹_›, (Except.ok.inj (Option.some.inj h)).symm⟩

/-- **What `decode_untyed_invocation` does when it succeeds.** Every check
passed, for the CNode found through the first extra cap and the children the
cap has, and the result is the retype of the window from the free pointer
rounded up to the object size. -/
theorem decode_untyed_invocation_ok {preempt : Nat → Bool} {s : KernelState} {inv_label length : Nat}
    {current_extra_caps : List Nat} {args : Nat → Nat}
    {slot capFreeIndex capIsDevice capBlockSize capPtr : Nat} {r : exception_t × KernelState}
    (h : decode_untyed_invocation preempt s inv_label length current_extra_caps args slot capFreeIndex
      capIsDevice capBlockSize capPtr = some (.ok r)) :
    ∃ root new_type capCNodeRadix capCNodePtr children,
      current_extra_caps[0]? = some root ∧ ObjectType.from_usize (args 0) = some new_type ∧
      args 1 < WORD_BITS ∧ new_type.get_object_size (args 1) ≤ MAX_UNTYPED_BITS ∧
      check_object_type new_type (args 1) = .ok () ∧
      get_target_cnode s.ctes root (args 2) (args 3) = some (.ok (capCNodeRadix, capCNodePtr)) ∧
      check_cnode_slot s.ctes capCNodeRadix capCNodePtr (args 4) (args 5) = .ok () ∧
      ensure_no_children s.ctes slot = some children ∧
      args 5 ≤ wshr (wsub (wshl 1 capBlockSize) (FREE_INDEX_TO_OFFSET (if children then capFreeIndex else 0)))
        (new_type.get_object_size (args 1)) ∧
      r = invoke_untyped_retype preempt (set_thread_state s s.ksCurThread ThreadStateRestart) slot
        capFreeIndex capIsDevice capBlockSize capPtr (!children)
        (alignUp (GET_FREE_REF capPtr (if children then capFreeIndex else 0)) (new_type.get_object_size (args 1)))
        new_type (args 1) capCNodePtr (args 4) (args 5) (if capIsDevice ≠ 0 then 1 else 0) := by
  unfold decode_untyed_invocation at h
  simp only [] at h
  split at h
  · simp at h
  split at h
  rotate_left
  · simp at h
  rename_i root hroot
  split at h
  · simp at h
  split at h
  rotate_left
  · simp at h
  rename_i new_type htype
  split at h
  · simp at h
  rename_i hsize
  split at h
  · simp at h
  rename_i hnot
  have hcheck : check_object_type new_type (args 1) = .ok () := check_ok_of_no_error hnot
  cases hg : get_target_cnode s.ctes root (args 2) (args 3) with
  | none => simp [hg] at h
  | some v =>
  cases v with
  | error e => simp [hg] at h
  | ok node =>
  obtain ⟨capCNodeRadix, capCNodePtr⟩ := node
  simp only [hg, Option.bind_some, bind, pure] at h
  split at h
  · simp at h
  rename_i hnot'
  have hcnode : check_cnode_slot s.ctes capCNodeRadix capCNodePtr (args 4) (args 5) = .ok () :=
    check_ok_of_no_error hnot'
  cases hch : ensure_no_children s.ctes slot with
  | none => simp [hch] at h
  | some children =>
  simp only [hch, Option.bind_some] at h
  refine ⟨root, new_type, capCNodeRadix, capCNodePtr, children, hroot, htype, by omega, by omega, hcheck, hg,
    hcnode, rfl, ?_⟩
  -- the children fix the free index and whether the cap is reset
  cases children
  · exact decode_untyed_tail_ok 0 true h
  · exact decode_untyed_tail_ok capFreeIndex false h

/-! ## Where the objects go -/

/-- Where a retype puts `n` objects of `2 ^ o` bytes, from `base` on, in the
untyped region of `2 ^ capBlockSize` bytes at `capPtr` whose first `start`
bytes were in use, leaving the free index `freeIndex`: aligned to the
object size, past `start`, inside the region, and the free index just past
the last object. -/
structure retype_layout (capPtr capBlockSize start base o n freeIndex : Nat) : Prop where
  aligned : 2 ^ o ∣ base
  above_start : capPtr + start ≤ base
  within : base + n * 2 ^ o ≤ capPtr + 2 ^ capBlockSize
  free_index : capPtr + freeIndex * 2 ^ SEL4_MIN_UNTYPED_BITS = base + n * 2 ^ o
  free_index_le : freeIndex ≤ max_free_index capBlockSize

namespace retype_layout

variable {capPtr capBlockSize start base o n freeIndex : Nat}

/-- Object `i` of the window lies between `start` and the end of the region. -/
theorem object_within (hl : retype_layout capPtr capBlockSize start base o n freeIndex) {i : Nat} (hi : i < n) :
    capPtr + start ≤ base + i * 2 ^ o ∧ base + i * 2 ^ o + 2 ^ o ≤ capPtr + 2 ^ capBlockSize := by
  have hle : base + i * 2 ^ o + 2 ^ o ≤ base + n * 2 ^ o := Align.block_disjoint hi
  exact ⟨Nat.le_trans hl.above_start (Nat.le_add_right _ _), Nat.le_trans hle hl.within⟩

/-- Every object is aligned to its size. -/
theorem object_aligned (hl : retype_layout capPtr capBlockSize start base o n freeIndex) (i : Nat) :
    2 ^ o ∣ base + i * 2 ^ o :=
  Nat.dvd_add hl.aligned (Nat.dvd_mul_left _ _)

/-- Two objects of the window do not overlap. -/
theorem objects_disjoint (_ : retype_layout capPtr capBlockSize start base o n freeIndex) {i j : Nat}
    (hij : i ≠ j) :
    base + i * 2 ^ o + 2 ^ o ≤ base + j * 2 ^ o ∨ base + j * 2 ^ o + 2 ^ o ≤ base + i * 2 ^ o := by
  rcases Nat.lt_or_gt_of_ne hij with h | h
  · exact Or.inl (Align.block_disjoint h)
  · exact Or.inr (Align.block_disjoint h)

end retype_layout

/-- **The retype's arithmetic on an untyped region at a word address.**
With `off` bytes of the region in use and a window of `n ≥ 1` objects of
`2 ^ o` bytes that passes the capacity test, the rounded free pointer and
the object addresses are what they are over the integers, and the new free
index lays the objects out inside the region. The region, aligned to its
size, ends at `2 ^ 64` at the latest; the free pointer past the last object
is the one sum that can reach it and wrap to 0, and the wrapping subtraction
in `GET_FREE_INDEX` takes it back to the right index. -/
theorem retype_arith {capPtr capBlockSize off o n : Nat} (hB : capBlockSize ≤ MAX_UNTYPED_BITS)
    (halign : 2 ^ capBlockSize ∣ capPtr) (htop : capPtr < 2 ^ WORD_BITS)
    (hoff : off ≤ 2 ^ capBlockSize) (ho : SEL4_MIN_UNTYPED_BITS ≤ o) (ho' : o ≤ MAX_UNTYPED_BITS)
    (hn : 1 ≤ n) (hcap : n ≤ wshr (wsub (wshl 1 capBlockSize) off) o) :
    alignUp (wadd capPtr off) o = capPtr + Align.roundUp off o ∧
      (∀ i < n, wadd (capPtr + Align.roundUp off o) (wshl i o) = capPtr + Align.roundUp off o + i * 2 ^ o) ∧
      retype_layout capPtr capBlockSize off (capPtr + Align.roundUp off o) o n
        (GET_FREE_INDEX capPtr (wadd (capPtr + Align.roundUp off o) (wshl n o))) := by
  rw [MAX_UNTYPED_BITS] at hB ho'
  rw [SEL4_MIN_UNTYPED_BITS] at ho
  have hw : WORD_BITS = 64 := rfl
  have hB64 : capBlockSize < WORD_BITS := by omega
  have hBpow : 2 ^ capBlockSize < 2 ^ WORD_BITS := Nat.pow_lt_pow_right (by decide) hB64
  have hend : capPtr + 2 ^ capBlockSize ≤ 2 ^ WORD_BITS :=
    Align.add_le_of_dvd_of_lt halign (Nat.pow_dvd_pow 2 (Nat.le_of_lt hB64)) htop
  -- the capacity test over the integers
  have hone : wshl 1 capBlockSize = 2 ^ capBlockSize :=
    (wshl_of_lt hB64 (by rw [Nat.one_mul]; exact hBpow)).trans (Nat.one_mul _)
  rw [hone, wsub_of_le hoff hBpow, wshr_of_lt (by omega) (by omega)] at hcap
  -- one object fits, so the object is no larger than the region
  have hpos := Nat.two_pow_pos o
  have hfit : 1 * 2 ^ o ≤ 2 ^ capBlockSize - off := (Nat.le_div_iff_mul_le hpos).mp (Nat.le_trans hn hcap)
  rw [Nat.one_mul] at hfit
  have hoB : o ≤ capBlockSize := (Nat.pow_le_pow_iff_right (show 1 < 2 by decide)).mp (by omega)
  have hdvd : 2 ^ o ∣ 2 ^ capBlockSize := Nat.pow_dvd_pow 2 hoB
  have hdvdp : 2 ^ o ∣ capPtr := Nat.dvd_trans hdvd halign
  -- the rounded offset and the window stay inside the region
  have hR := Align.roundUp_add_mul_le hdvd hoff hcap
  have hoffR : off ≤ Align.roundUp off o := Align.le_roundUp
  have hn1 : 2 ^ o ≤ n * 2 ^ o := Nat.le_mul_of_pos_left _ hn
  have hbase : alignUp (wadd capPtr off) o = capPtr + Align.roundUp off o := by
    rw [wadd_of_lt (by omega), alignUp_eq (by omega) (by omega), Align.roundUp_add_of_dvd hdvdp]
  have hobj : ∀ i < n, wadd (capPtr + Align.roundUp off o) (wshl i o) = capPtr + Align.roundUp off o + i * 2 ^ o := by
    intro i hi
    have hi2 : i * 2 ^ o < n * 2 ^ o := Nat.mul_lt_mul_of_pos_right hi hpos
    rw [wshl_of_lt (by omega) (by omega), wadd_of_lt (by omega)]
  -- the free index: whole units, since objects are at least one unit; the
  -- free pointer itself may have wrapped to 0
  have hunit : 2 ^ SEL4_MIN_UNTYPED_BITS ∣ Align.roundUp off o + n * 2 ^ o :=
    Nat.dvd_trans (Nat.pow_dvd_pow 2 ho) (Nat.dvd_add Align.dvd_roundUp (Nat.dvd_mul_left _ _))
  have hfree : wsub (wadd (capPtr + Align.roundUp off o) (wshl n o)) capPtr = Align.roundUp off o + n * 2 ^ o := by
    rw [wshl_of_lt (by omega) (by omega), wadd, Nat.add_assoc, ← wadd]
    exact wsub_wadd_left (by omega)
  have hidx : GET_FREE_INDEX capPtr (wadd (capPtr + Align.roundUp off o) (wshl n o)) * 2 ^ SEL4_MIN_UNTYPED_BITS =
      Align.roundUp off o + n * 2 ^ o := by
    rw [GET_FREE_INDEX, hfree, wshr_of_lt (by decide) (by omega), Nat.div_mul_cancel hunit]
  refine ⟨hbase, hobj, ⟨Nat.dvd_add hdvdp Align.dvd_roundUp, by omega, by omega, ?_, ?_⟩⟩
  · rw [hidx, Nat.add_assoc]
  · -- a free index of at most `2 ^ capBlockSize` bytes
    rw [max_free_index]
    apply Nat.le_of_mul_le_mul_right _ (Nat.two_pow_pos SEL4_MIN_UNTYPED_BITS)
    rw [hidx, ← Nat.pow_add, Nat.sub_add_cancel (by rw [SEL4_MIN_UNTYPED_BITS]; omega)]
    omega

/-- The retype starts after the bytes in use when the cap has children, and
from the start of the region when it has none and is reset. -/
theorem FREE_INDEX_TO_OFFSET_of_children {ctes : Nat → cte_t} {slot : Nat} {children : Bool} (capFreeIndex : Nat)
    (hch : ensure_no_children ctes slot = some children) :
    FREE_INDEX_TO_OFFSET (if children then capFreeIndex else 0) =
      if ensure_no_children ctes slot = some true then FREE_INDEX_TO_OFFSET capFreeIndex else 0 := by
  rw [hch]
  cases children <;> rfl

/-- **A retype stays inside its untyped.** For an untyped cap in `slot` at
a word address, its region aligned to its size and its free index inside
it, every retype `decode_untyed_invocation` accepts and runs to the end lays
its objects out as `retype_layout` says: aligned, after the bytes in use
(none when the cap has no children), inside the region, the free index just
past the last object; the cap's free index is that one, and slot `i` of the
window of the CNode the first extra cap names holds object `i`, at an
address computed without wrapping. Only the free pointer past the last
object can wrap, for a region that ends at `2 ^ 64`
(`decode_untyed_invocation_top_untyped_wraps`), and the index read off it is
right all the same. -/
theorem decode_untyed_invocation_retype_in_bounds {preempt : Nat → Bool} {s s' : KernelState}
    {inv_label length : Nat} {current_extra_caps : List Nat} {args : Nat → Nat}
    {slot capFreeIndex capIsDevice capBlockSize capPtr : Nat}
    (hslot : cap_of s.ctes slot = .untyped_cap capFreeIndex capIsDevice capBlockSize capPtr)
    (hB : capBlockSize ≤ MAX_UNTYPED_BITS) (halign : 2 ^ capBlockSize ∣ capPtr)
    (hfree : FREE_INDEX_TO_OFFSET capFreeIndex ≤ 2 ^ capBlockSize)
    (htop : capPtr < 2 ^ WORD_BITS)
    (h : decode_untyed_invocation preempt s inv_label length current_extra_caps args slot capFreeIndex
      capIsDevice capBlockSize capPtr = some (.ok (.EXCEPTION_NONE, s'))) :
    ∃ new_type root capCNodeRadix capCNodePtr base freeIndex,
      ObjectType.from_usize (args 0) = some new_type ∧ current_extra_caps[0]? = some root ∧
      get_target_cnode s.ctes root (args 2) (args 3) = some (.ok (capCNodeRadix, capCNodePtr)) ∧
      retype_layout capPtr capBlockSize
        (if ensure_no_children s.ctes slot = some true then FREE_INDEX_TO_OFFSET capFreeIndex else 0)
        base (new_type.get_object_size (args 1)) (args 5) freeIndex ∧
      (∀ i < args 5, 2 ^ new_type.get_object_size (args 1) ∣ base + i * 2 ^ new_type.get_object_size (args 1) ∧
        capPtr + (if ensure_no_children s.ctes slot = some true then FREE_INDEX_TO_OFFSET capFreeIndex else 0) ≤
          base + i * 2 ^ new_type.get_object_size (args 1) ∧
        base + i * 2 ^ new_type.get_object_size (args 1) + 2 ^ new_type.get_object_size (args 1) ≤
          capPtr + 2 ^ capBlockSize) ∧
      (∀ i j, i ≠ j →
        base + i * 2 ^ new_type.get_object_size (args 1) + 2 ^ new_type.get_object_size (args 1) ≤
          base + j * 2 ^ new_type.get_object_size (args 1) ∨
        base + j * 2 ^ new_type.get_object_size (args 1) + 2 ^ new_type.get_object_size (args 1) ≤
          base + i * 2 ^ new_type.get_object_size (args 1)) ∧
      cap_of s'.ctes slot = .untyped_cap freeIndex capIsDevice capBlockSize capPtr ∧
      ∀ i < args 5, cap_of s'.ctes (capCNodePtr + (args 4 + i) * CTE_SIZE) =
        create_object new_type (base + i * 2 ^ new_type.get_object_size (args 1)) (args 1)
          (if capIsDevice ≠ 0 then 1 else 0) := by
  obtain ⟨root, new_type, capCNodeRadix, capCNodePtr, children, hroot, htype, -, hsize, hcheck, hg, hcnode,
    hch, hcap, hr⟩ := decode_untyed_invocation_ok h
  have hoff_eq := FREE_INDEX_TO_OFFSET_of_children capFreeIndex hch
  have hoff : (if ensure_no_children s.ctes slot = some true then FREE_INDEX_TO_OFFSET capFreeIndex else 0) ≤
      2 ^ capBlockSize := by
    split <;> omega
  rw [hoff_eq] at hcap
  obtain ⟨hn, hnull⟩ := check_cnode_slot_ok hcnode
  obtain ⟨hbase, hobj, hlayout⟩ := retype_arith hB halign htop hoff (get_object_size_ge hcheck) hsize hn hcap
  -- the retype the decoder runs starts at the rounded free pointer
  rw [GET_FREE_REF, hoff_eq, hbase] at hr
  have hnone := congrArg Prod.fst hr
  have hs' := congrArg Prod.snd hr
  have hcaps := invoke_untyped_retype_of_none hnone.symm
  rw [← hs', set_thread_state_ctes] at hcaps
  -- each object of the window is aligned, inside the region and apart from the others
  have hwithin := fun i (hi : i < args 5) => hlayout.object_within hi
  refine ⟨new_type, root, capCNodeRadix, capCNodePtr, _, _, htype, hroot, hg, hlayout,
    fun i hi => ⟨hlayout.object_aligned i, (hwithin i hi).1, (hwithin i hi).2⟩,
    fun i j hij => hlayout.objects_disjoint hij, ?_, fun i hi => ?_⟩
  · -- the source slot is not in the window: the window was empty
    have hq : ∀ i < args 5, slot ≠ capCNodePtr + (args 4 + i) * CTE_SIZE := by
      intro i hi heq
      have hempty := hnull i hi
      rw [← heq] at hempty
      simp [cap_of, hempty] at hslot
    rw [hcaps, cap_of_create_new_objects_of_ne hq, cap_of_set_cap, Function.update_self]
  · rw [hcaps, cap_of_create_new_objects_of_lt hi, hobj i hi]

/-- A run of the decoder whose result `P` accepts, read back from a
computation that `decide` can evaluate. -/
theorem exists_of_decode_run {r : Option (Except syscall_error (exception_t × KernelState))}
    {P : KernelState → Prop} [DecidablePred P]
    (h : (match r with
      | some (.ok (.EXCEPTION_NONE, s')) => decide (P s')
      | _ => false) = true) :
    ∃ s', r = some (.ok (.EXCEPTION_NONE, s')) ∧ P s' := by
  split at h
  · exact ⟨_, rfl, of_decide_eq_true h⟩
  · cases h

/-- A CSpace with an untyped cap of `2 ^ capBlockSize` bytes at `capPtr`,
free and without children, in slot `0x100`, and in slot `0x200` a cap to a
CNode of two slots at `0x1000`. -/
def retype_test_ctes (capBlockSize capPtr : Nat) : Nat → cte_t := fun p =>
  if p = 0x100 then { capability := .untyped_cap 0 0 capBlockSize capPtr }
  else if p = 0x200 then { capability := .cnode_cap 0 0 1 0x1000 } else {}

/-- Retype one untyped of `2 ^ 38` bytes into slot 0. -/
def whole_untyped_args : Nat → Nat := fun i => if i = 1 then 38 else if i = 5 then 1 else 0

/-- The layout theorem at the untyped that ends at `2 ^ 64`, retyped whole
into one untyped. -/
theorem decode_untyed_invocation_top_untyped_in_bounds :
    ∃ s', decode_untyed_invocation (fun _ => false) { ctes := retype_test_ctes 38 0xFFFFFFC000000000 }
        UntypedRetype 6 [0x200] whole_untyped_args 0x100 0 0 38 0xFFFFFFC000000000 =
        some (.ok (.EXCEPTION_NONE, s')) ∧
      ∃ new_type root capCNodeRadix capCNodePtr base freeIndex,
        ObjectType.from_usize (whole_untyped_args 0) = some new_type ∧ [0x200][0]? = some root ∧
        get_target_cnode (retype_test_ctes 38 0xFFFFFFC000000000) root (whole_untyped_args 2)
          (whole_untyped_args 3) = some (.ok (capCNodeRadix, capCNodePtr)) ∧
        retype_layout 0xFFFFFFC000000000 38
          (if ensure_no_children (retype_test_ctes 38 0xFFFFFFC000000000) 0x100 = some true then
            FREE_INDEX_TO_OFFSET 0 else 0)
          base (new_type.get_object_size (whole_untyped_args 1)) (whole_untyped_args 5) freeIndex ∧
        (∀ i < whole_untyped_args 5,
          2 ^ new_type.get_object_size (whole_untyped_args 1) ∣
            base + i * 2 ^ new_type.get_object_size (whole_untyped_args 1) ∧
          0xFFFFFFC000000000 + (if ensure_no_children (retype_test_ctes 38 0xFFFFFFC000000000) 0x100 = some true
              then FREE_INDEX_TO_OFFSET 0 else 0) ≤
            base + i * 2 ^ new_type.get_object_size (whole_untyped_args 1) ∧
          base + i * 2 ^ new_type.get_object_size (whole_untyped_args 1) +
              2 ^ new_type.get_object_size (whole_untyped_args 1) ≤ 0xFFFFFFC000000000 + 2 ^ 38) ∧
        (∀ i j, i ≠ j →
          base + i * 2 ^ new_type.get_object_size (whole_untyped_args 1) +
              2 ^ new_type.get_object_size (whole_untyped_args 1) ≤
            base + j * 2 ^ new_type.get_object_size (whole_untyped_args 1) ∨
          base + j * 2 ^ new_type.get_object_size (whole_untyped_args 1) +
              2 ^ new_type.get_object_size (whole_untyped_args 1) ≤
            base + i * 2 ^ new_type.get_object_size (whole_untyped_args 1)) ∧
        cap_of s'.ctes 0x100 = .untyped_cap freeIndex 0 38 0xFFFFFFC000000000 ∧
        ∀ i < whole_untyped_args 5, cap_of s'.ctes (capCNodePtr + (whole_untyped_args 4 + i) * CTE_SIZE) =
          create_object new_type (base + i * 2 ^ new_type.get_object_size (whole_untyped_args 1))
            (whole_untyped_args 1) (if (0 : Nat) ≠ 0 then 1 else 0) := by
  obtain ⟨s', h, -⟩ := exists_of_decode_run (P := fun _ => True) (r := decode_untyed_invocation (fun _ => false)
    { ctes := retype_test_ctes 38 0xFFFFFFC000000000 } UntypedRetype 6 [0x200] whole_untyped_args 0x100 0 0 38
    0xFFFFFFC000000000) (by decide)
  exact ⟨s', h, decode_untyed_invocation_retype_in_bounds (by decide) (by decide) (by decide) (by decide)
    (by decide) h⟩

/-- **The untyped that ends at `2 ^ 64`.** An untyped of `2 ^ 38` bytes at
`0xFFFFFFC000000000`, aligned to its size, retyped whole into one untyped:
the decoder accepts, and the free pointer past the new object,
`capPtr + 2 ^ 38`, is `2 ^ 64`, which the addition wraps to 0. The free
index comes out as the full `2 ^ 34` all the same, since the subtraction
that follows wraps back. -/
theorem decode_untyed_invocation_top_untyped_wraps :
    (∃ s', decode_untyed_invocation (fun _ => false) { ctes := retype_test_ctes 38 0xFFFFFFC000000000 }
        UntypedRetype 6 [0x200] whole_untyped_args 0x100 0 0 38 0xFFFFFFC000000000 =
        some (.ok (.EXCEPTION_NONE, s')) ∧
      cap_of s'.ctes 0x100 = .untyped_cap (2 ^ 34) 0 38 0xFFFFFFC000000000) ∧
    alignUp (GET_FREE_REF 0xFFFFFFC000000000 0) 38 + wshl 1 38 = 2 ^ WORD_BITS ∧
    wadd (alignUp (GET_FREE_REF 0xFFFFFFC000000000 0) 38) (wshl 1 38) = 0 :=
  ⟨exists_of_decode_run (by decide), by decide, by decide⟩

end Rel4Kernel
