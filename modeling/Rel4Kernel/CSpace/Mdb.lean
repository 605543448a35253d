/-
`sel4_cspace::cte`: the capability derivation tree (MDB) and the operations
that put caps into it and take them out.

Every slot carries an `mdb_node` whose `mdbPrev`/`mdbNext` thread the slots
into doubly linked lists, ordered so that a cap's descendants follow it. The
operations work on the slot heap `ctes` and return it, with the stores in the
order the source makes them; a field read through a reference the source
holds (`let mdb = &self.cteMDBNode`) is read from the heap again after the
stores before it, a `clone()` is read once. Failed `assert!`s are `none`.

`set_empty` ends in `post_cap_deletion`, which only touches the IRQ state of
an IRQ handler cap, not a slot: it is left out here.
-/
import Rel4Kernel.CSpace.Capability

set_option autoImplicit false

namespace Rel4Kernel

open cap_tag

/-! ## Stores into one slot -/

section Stores

variable (ctes : Nat → cte_t) (p : Nat)

/-- `slot.capability = c`. -/
def set_cap (c : cap) : Nat → cte_t :=
  Function.update ctes p { ctes p with capability := c }

/-- `slot.cteMDBNode = m`. -/
def set_mdb (m : mdb_node) : Nat → cte_t :=
  Function.update ctes p { ctes p with cteMDBNode := m }

/-- `slot.cteMDBNode.set_mdbNext(v)`. -/
def set_mdbNext (v : Nat) : Nat → cte_t :=
  set_mdb ctes p { (ctes p).cteMDBNode with mdbNext := v }

/-- `slot.cteMDBNode.set_mdbPrev(v)`. -/
def set_mdbPrev (v : Nat) : Nat → cte_t :=
  set_mdb ctes p { (ctes p).cteMDBNode with mdbPrev := v }

/-- `slot.cteMDBNode.set_mdbFirstBadged(v)`. -/
def set_mdbFirstBadged (v : Nat) : Nat → cte_t :=
  set_mdb ctes p { (ctes p).cteMDBNode with mdbFirstBadged := v }

@[simp] theorem set_cap_apply (c : cap) (q : Nat) :
    set_cap ctes p c q = if q = p then { ctes p with capability := c } else ctes q := by
  simp only [set_cap, Function.update_apply]

@[simp] theorem set_mdb_apply (m : mdb_node) (q : Nat) :
    set_mdb ctes p m q = if q = p then { ctes p with cteMDBNode := m } else ctes q := by
  simp only [set_mdb, Function.update_apply]

end Stores

/-! ## The derivation-tree operations -/

/-- `set_untyped_cap_as_full`: a derived untyped cap that covers the whole
block of its source leaves the source with no free space. -/
def set_untyped_cap_as_full (srcCap newCap : cap) (srcSlot : Nat) (ctes : Nat → cte_t) :
    Option (Nat → cte_t) :=
  match srcCap, newCap with
  | .untyped_cap _ _ blockS ptrS, .untyped_cap _ _ blockN ptrN =>
    match (ctes srcSlot).capability with
    | .untyped_cap _ dev block ptr =>
      if ptrS = ptrN ∧ blockS = blockN then
        some (set_cap ctes srcSlot (.untyped_cap (max_free_index blockS) dev block ptr))
      else some ctes
    | _ => none
  | _, _ => some ctes

/-- `cte_insert`: put `new_cap` into the empty `dest_slot`, right after
`src_slot` in the tree. -/
def cte_insert (new_cap : cap) (src_slot dest_slot : Nat) (ctes : Nat → cte_t) :
    Option (Nat → cte_t) := do
  let srcMDB := (ctes src_slot).cteMDBNode
  let srcCap := (ctes src_slot).capability
  let newCapIsRevocable ← is_cap_revocable new_cap srcCap
  let rev := if newCapIsRevocable then 1 else 0
  let newMDB := { srcMDB with mdbPrev := src_slot, mdbRevocable := rev, mdbFirstBadged := rev }
  if (ctes dest_slot).capability.get_tag ≠ cap_null_cap then none
  if (ctes dest_slot).cteMDBNode.mdbNext ≠ 0 ∨ (ctes dest_slot).cteMDBNode.mdbPrev ≠ 0 then none
  let ctes ← set_untyped_cap_as_full srcCap new_cap src_slot ctes
  let ctes := set_cap ctes dest_slot new_cap
  let ctes := set_mdb ctes dest_slot newMDB
  let ctes := set_mdbNext ctes src_slot dest_slot
  return if newMDB.mdbNext ≠ 0 then set_mdbPrev ctes newMDB.mdbNext dest_slot else ctes

/-- `insert_new_cap`: put a freshly created object's cap into `slot`, as the
first child of `parent`. -/
def insert_new_cap (parent slot : Nat) (capability : cap) (ctes : Nat → cte_t) : Nat → cte_t :=
  let next := (ctes parent).cteMDBNode.mdbNext
  let ctes := set_cap ctes slot capability
  let ctes := set_mdb ctes slot
    { mdbNext := next, mdbRevocable := 1, mdbFirstBadged := 1, mdbPrev := parent }
  let ctes := if next ≠ 0 then set_mdbPrev ctes next slot else ctes
  set_mdbNext ctes parent slot

/-- `cte_move`: `dest_slot` takes over `src_slot`'s place in the tree. -/
def cte_move (new_cap : cap) (src_slot dest_slot : Nat) (ctes : Nat → cte_t) :
    Option (Nat → cte_t) := do
  if (ctes dest_slot).capability.get_tag ≠ cap_null_cap then none
  if (ctes dest_slot).cteMDBNode.mdbNext ≠ 0 ∨ (ctes dest_slot).cteMDBNode.mdbPrev ≠ 0 then none
  let mdb := (ctes src_slot).cteMDBNode
  let ctes := set_cap ctes dest_slot new_cap
  let ctes := set_cap ctes src_slot .null_cap
  let ctes := set_mdb ctes dest_slot mdb
  let ctes := set_mdb ctes src_slot {}
  let ctes := if mdb.mdbPrev ≠ 0 then set_mdbNext ctes mdb.mdbPrev dest_slot else ctes
  return if mdb.mdbNext ≠ 0 then set_mdbPrev ctes mdb.mdbNext dest_slot else ctes

/-- `cte_swap`: exchange the places of two slots in the tree, `slot1`
receiving `cap2` and `slot2` receiving `cap1`. Both nodes are copied before
any store. -/
def cte_swap (cap1 : cap) (slot1 : Nat) (cap2 : cap) (slot2 : Nat) (ctes : Nat → cte_t) :
    Nat → cte_t :=
  let mdb1 := (ctes slot1).cteMDBNode
  let mdb2 := (ctes slot2).cteMDBNode
  let ctes := if mdb1.mdbPrev ≠ 0 then set_mdbNext ctes mdb1.mdbPrev slot2 else ctes
  let ctes := if mdb1.mdbNext ≠ 0 then set_mdbPrev ctes mdb1.mdbNext slot2 else ctes
  let ctes := set_cap ctes slot1 cap2
  let ctes := set_cap ctes slot2 cap1
  let ctes := set_mdb ctes slot1 mdb2
  let ctes := set_mdb ctes slot2 mdb1
  let ctes := if mdb2.mdbPrev ≠ 0 then set_mdbNext ctes mdb2.mdbPrev slot1 else ctes
  if mdb2.mdbNext ≠ 0 then set_mdbPrev ctes mdb2.mdbNext slot1 else ctes

/-- `cte_t::set_empty`: unlink the slot and clear it. `mdb` is a reference
to the slot's own node, so its `mdbFirstBadged` is read after the stores to
the neighbours. -/
def set_empty (slot : Nat) (ctes : Nat → cte_t) : Nat → cte_t :=
  if (ctes slot).capability.get_tag ≠ cap_null_cap then
    let prev_addr := (ctes slot).cteMDBNode.mdbPrev
    let next_addr := (ctes slot).cteMDBNode.mdbNext
    let ctes := if prev_addr ≠ 0 then set_mdbNext ctes prev_addr next_addr else ctes
    let ctes :=
      if next_addr ≠ 0 then
        let ctes := set_mdbPrev ctes next_addr prev_addr
        let first_badged := (ctes next_addr).cteMDBNode.mdbFirstBadged ≠ 0 ∨
          (ctes slot).cteMDBNode.mdbFirstBadged ≠ 0
        set_mdbFirstBadged ctes next_addr (if first_badged then 1 else 0)
      else ctes
    set_mdb (set_cap ctes slot .null_cap) slot {}
  else ctes

/-- `invoke_cnode_rotate` on the slot heap: the cap of `slot1` (the source)
moves to `slot2` (the pivot), whose cap moves to `slot3` (the destination).
With `slot3 = slot1` the two are swapped. `none` is an updated cap that came
out null (the source's `SEL4_ILLEGAL_OPERATION`) or a failed assertion of a
`cte_move`; the store of the caller's thread state is not a slot and is left
out. -/
def invoke_cnode_rotate (slot1 slot2 slot3 src_new_data pivot_new_data : Nat)
    (ctes : Nat → cte_t) : Option (Nat → cte_t) :=
  let new_src_cap := (ctes slot1).capability.update_data true src_new_data
  let new_pivot_cap := (ctes slot2).capability.update_data true pivot_new_data
  if new_src_cap.get_tag = cap_null_cap then none
  else if new_pivot_cap.get_tag = cap_null_cap then none
  else if slot1 = slot3 then some (cte_swap new_src_cap slot1 new_pivot_cap slot2 ctes)
  else do
    let ctes ← cte_move new_pivot_cap slot2 slot3 ctes
    cte_move new_src_cap slot1 slot2 ctes

/-! ## Questions asked of the tree -/

/-- `cte_t::is_final_cap`: neither neighbour holds a cap to the same
object. -/
def is_final_cap (ctes : Nat → cte_t) (slot : Nat) : Bool :=
  let mdb := (ctes slot).cteMDBNode
  let prev_is_same_obj :=
    if mdb.mdbPrev = 0 then false
    else same_object_as (ctes mdb.mdbPrev).capability (ctes slot).capability
  if prev_is_same_obj then false
  else if mdb.mdbNext = 0 then true
  else !same_object_as (ctes slot).capability (ctes mdb.mdbNext).capability

/-- `cte_t::is_mdb_parent_of`; `none` is a failed `assert_eq!`. -/
def is_mdb_parent_of (ctes : Nat → cte_t) (self next : Nat) : Option Bool :=
  if (ctes self).cteMDBNode.mdbRevocable = 0 then some false
  else if !same_region_as (ctes self).capability (ctes next).capability then some false
  else
    match (ctes self).capability, (ctes next).capability with
    | .endpoint_cap badge .., .endpoint_cap badge' .. =>
      some (badge == 0 || (badge == badge' && (ctes next).cteMDBNode.mdbFirstBadged == 0))
    | .endpoint_cap .., _ => none
    | .notification_cap badge .., .notification_cap badge' .. =>
      some (badge == 0 || (badge == badge' && (ctes next).cteMDBNode.mdbFirstBadged == 0))
    | .notification_cap .., _ => none
    | _, _ => some true

/-- `cte_t::ensure_no_children`: `some true` where the next slot is a child,
the source's `EXCEPTION_SYSCALL_ERROR`. -/
def ensure_no_children (ctes : Nat → cte_t) (slot : Nat) : Option Bool :=
  if (ctes slot).cteMDBNode.mdbNext ≠ 0 then is_mdb_parent_of ctes slot (ctes slot).cteMDBNode.mdbNext
  else some false

end Rel4Kernel
