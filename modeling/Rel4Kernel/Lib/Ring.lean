/-
Ring buffers read as lists.

A ring of `max` slots keeps its elements in the slots from `head` to `tail`,
both included, going round from the last slot to the first. `toList` reads
them in order. Moving the head on drops the first element, moving the tail
on to a slot just written appends that slot, and writing the head or the tail
slot replaces the first or the last element; a write to a slot outside the
ring changes nothing. Everything turns on one fact: the slots of a ring are
distinct (`slots_nodup`). Nothing in this file knows what the elements are.
-/
import Mathlib

set_option autoImplicit false

namespace Ring

open Function

variable {α : Type*}

/-- The slot after `i`, wrapping at `max`. -/
def next (max i : Nat) : Nat := if i = max - 1 then 0 else i + 1

/-- The number of slots from `head` to `tail`, both included. -/
def size (max head tail : Nat) : Nat :=
  if head ≤ tail then tail - head + 1 else tail + 1 + (max - head)

/-- The `n` slots from `i` on. -/
def slots (max i : Nat) : Nat → List Nat
  | 0 => []
  | n + 1 => i :: slots max (next max i) n

/-- The elements from `head` to `tail`. -/
def toList (buf : Nat → α) (max head tail : Nat) : List α :=
  (slots max head (size max head tail)).map buf

variable {max head tail : Nat}

/-! ## Slots -/

theorem next_lt {i : Nat} (hi : i < max) : next max i < max := by
  unfold next
  split <;> omega

/-- The slot `k` steps after `i`, for at most one turn. -/
theorem iterate_next {i : Nat} (hi : i < max) {k : Nat} (hk : k ≤ max) :
    (next max)^[k] i = if i + k < max then i + k else i + k - max := by
  induction k with
  | zero => simp [hi]
  | succ k ih =>
    rw [iterate_succ_apply', ih (by omega)]
    unfold next
    split_ifs <;> omega

theorem slots_eq_map (i n : Nat) : slots max i n = (List.range n).map fun k => (next max)^[k] i := by
  induction n generalizing i with
  | zero => rfl
  | succ n ih =>
    rw [slots, ih, List.range_succ_eq_map, List.map_cons, List.map_map]
    rfl

theorem slots_snoc (i n : Nat) : slots max i (n + 1) = slots max i n ++ [(next max)^[n] i] := by
  rw [slots_eq_map, slots_eq_map, List.range_succ, List.map_append, List.map_singleton]

/-- The slots of less than a turn are distinct. -/
theorem slots_nodup {i n : Nat} (hi : i < max) (hn : n ≤ max) : (slots max i n).Nodup := by
  rw [slots_eq_map]
  refine (List.nodup_range).map_on fun a ha b hb hab => ?_
  rw [List.mem_range] at ha hb
  rw [iterate_next hi (by omega), iterate_next hi (by omega)] at hab
  split_ifs at hab <;> omega

/-! ## Size -/

theorem size_pos : 0 < size max head tail := by
  unfold size
  split <;> omega

theorem slots_size : slots max head (size max head tail) =
    head :: slots max (next max head) (size max head tail - 1) := by
  obtain ⟨n, hn⟩ : ∃ n, size max head tail = n + 1 := ⟨_, (Nat.succ_pred_eq_of_pos size_pos).symm⟩
  rw [hn]
  rfl

theorem toList_length (buf : Nat → α) : (toList buf max head tail).length = size max head tail := by
  rw [toList, List.length_map, slots_eq_map, List.length_map, List.length_range]

theorem toList_eq_cons (buf : Nat → α) :
    toList buf max head tail = buf head :: (slots max (next max head) (size max head tail - 1)).map buf := by
  rw [toList, slots_size, List.map_cons]

/-- A ring of one slot. -/
theorem toList_self (buf : Nat → α) : toList buf max head head = [buf head] := by
  have hs : size max head head = 1 := by simp [size]
  rw [toList, hs]
  rfl

/-- A ring of one slot has its head at its tail. -/
theorem eq_of_size_eq_one (hh : head < max) (h : size max head tail = 1) : head = tail := by
  unfold size at h
  split at h <;> omega

variable (hh : head < max) (ht : tail < max)
include hh ht

theorem size_le : size max head tail ≤ max := by
  unfold size
  split <;> omega

/-- The last slot of the ring is its tail. -/
theorem iterate_size_pred : (next max)^[size max head tail - 1] head = tail := by
  rw [iterate_next hh (by have := size_le hh ht; omega)]
  unfold size
  split_ifs <;> omega

/-- The slot after the ring is the one after its tail. -/
theorem iterate_size : (next max)^[size max head tail] head = next max tail := by
  have h := iterate_size_pred hh ht
  obtain ⟨n, hn⟩ : ∃ n, size max head tail = n + 1 := ⟨_, (Nat.succ_pred_eq_of_pos size_pos).symm⟩
  rw [hn, Nat.add_sub_cancel] at h
  rw [hn, iterate_succ_apply', h]

/-- Moving the head on takes one slot off the front. -/
theorem size_next_head (hne : head ≠ tail) : size max (next max head) tail + 1 = size max head tail := by
  unfold size next
  split_ifs <;> omega

/-- Moving the tail on into a free slot adds one at the back. -/
theorem size_next_tail (hlt : size max head tail < max) :
    size max head (next max tail) = size max head tail + 1 := by
  unfold size next at *
  split_ifs at * <;> omega

theorem slots_size_snoc : slots max head (size max head tail) =
    slots max head (size max head tail - 1) ++ [tail] := by
  have h := @slots_snoc max head (size max head tail - 1)
  rwa [Nat.sub_add_cancel size_pos, iterate_size_pred hh ht] at h

/-! ## The ring as a list -/

variable (buf : Nat → α)

theorem toList_eq_snoc :
    toList buf max head tail = (slots max head (size max head tail - 1)).map buf ++ [buf tail] := by
  rw [toList, slots_size_snoc hh ht, List.map_append, List.map_singleton]

/-- **Moving the head on** drops the first element. -/
theorem toList_next_head (hne : head ≠ tail) :
    toList buf max (next max head) tail = (toList buf max head tail).tail := by
  rw [@toList_eq_cons _ max head tail buf, List.tail_cons, toList, ← size_next_head hh ht hne,
    Nat.add_sub_cancel]

/-- **Writing the head slot** replaces the first element. -/
theorem toList_update_head (x : α) :
    toList (update buf head x) max head tail = x :: (toList buf max head tail).tail := by
  have hnd := slots_nodup (n := size max head tail) hh (size_le hh ht)
  rw [slots_size, List.nodup_cons] at hnd
  rw [toList_eq_cons, toList_eq_cons, update_self, List.tail_cons]
  congr 1
  refine List.map_congr_left fun j hj => update_of_ne ?_ _ _
  rintro rfl
  exact hnd.1 hj

/-- A write to the slot the head just left leaves the ring as it is. -/
theorem toList_update_next_head (hne : head ≠ tail) (x : α) :
    toList (update buf head x) max (next max head) tail = toList buf max (next max head) tail := by
  rw [toList_next_head hh ht _ hne, toList_next_head hh ht _ hne, toList_update_head hh ht,
    List.tail_cons]

/-- **Writing the tail slot** replaces the last element. -/
theorem toList_update_tail (x : α) :
    toList (update buf tail x) max head tail = (toList buf max head tail).dropLast ++ [x] := by
  have hnd := slots_nodup (n := size max head tail) hh (size_le hh ht)
  rw [slots_size_snoc hh ht, List.nodup_append] at hnd
  rw [toList_eq_snoc hh ht, toList_eq_snoc hh ht, update_self, List.dropLast_concat]
  congr 1
  exact List.map_congr_left fun j hj => update_of_ne (fun e => hnd.2.2 j hj tail (by simp) e) _ _

/-- A write to the slot after the tail of a ring that is not full leaves the
ring as it is. -/
theorem toList_update_next_tail (hlt : size max head tail < max) (x : α) :
    toList (update buf (next max tail) x) max head tail = toList buf max head tail := by
  have hnd := slots_nodup (n := size max head tail + 1) hh hlt
  rw [slots_snoc, iterate_size hh ht, List.nodup_append] at hnd
  exact List.map_congr_left fun j hj => update_of_ne (fun e => hnd.2.2 j hj _ (by simp) e) _ _

/-- **Moving the tail on** to a slot just written appends it. -/
theorem toList_next_tail (hlt : size max head tail < max) :
    toList buf max head (next max tail) = toList buf max head tail ++ [buf (next max tail)] := by
  rw [toList, size_next_tail hh ht hlt, slots_snoc, iterate_size hh ht, List.map_append,
    List.map_singleton]
  rfl

end Ring
