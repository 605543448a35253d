/-
The well-formedness of the capability derivation tree, and what the
operations of `Rel4Kernel.CSpace.Mdb` do to it.

The proofs read the slot heap through three views: the forward links
`mdb_next`, the backward links `mdb_prev` and the caps `cap_of`. Every store
of the operations is one `Function.update` of one view and leaves the other
two alone, so an operation's effect on a view is computed by `simp` from the
lemmas below, never by unfolding records.
-/
import Rel4Kernel.CSpace.Mdb

set_option autoImplicit false

namespace Rel4Kernel

/-! ## The three views -/

/-- The forward links of the tree. -/
def mdb_next (ctes : Nat → cte_t) : Nat → Nat := fun p => (ctes p).cteMDBNode.mdbNext

/-- The backward links of the tree. -/
def mdb_prev (ctes : Nat → cte_t) : Nat → Nat := fun p => (ctes p).cteMDBNode.mdbPrev

/-- The cap each slot holds. -/
def cap_of (ctes : Nat → cte_t) : Nat → cap := fun p => (ctes p).capability

section Views

variable (ctes : Nat → cte_t) (p : Nat)

@[simp] theorem mdb_next_set_cap (c : cap) : mdb_next (set_cap ctes p c) = mdb_next ctes := by
  funext q; by_cases h : q = p <;> simp [mdb_next, h]

@[simp] theorem mdb_prev_set_cap (c : cap) : mdb_prev (set_cap ctes p c) = mdb_prev ctes := by
  funext q; by_cases h : q = p <;> simp [mdb_prev, h]

@[simp] theorem cap_of_set_cap (c : cap) :
    cap_of (set_cap ctes p c) = Function.update (cap_of ctes) p c := by
  funext q; by_cases h : q = p <;> simp [cap_of, h]

@[simp] theorem mdb_next_set_mdb (m : mdb_node) :
    mdb_next (set_mdb ctes p m) = Function.update (mdb_next ctes) p m.mdbNext := by
  funext q; by_cases h : q = p <;> simp [mdb_next, h]

@[simp] theorem mdb_prev_set_mdb (m : mdb_node) :
    mdb_prev (set_mdb ctes p m) = Function.update (mdb_prev ctes) p m.mdbPrev := by
  funext q; by_cases h : q = p <;> simp [mdb_prev, h]

@[simp] theorem cap_of_set_mdb (m : mdb_node) : cap_of (set_mdb ctes p m) = cap_of ctes := by
  funext q; by_cases h : q = p <;> simp [cap_of, h]

@[simp] theorem mdb_next_set_mdbNext (v : Nat) :
    mdb_next (set_mdbNext ctes p v) = Function.update (mdb_next ctes) p v := by
  simp [set_mdbNext]

@[simp] theorem mdb_prev_set_mdbNext (v : Nat) :
    mdb_prev (set_mdbNext ctes p v) = mdb_prev ctes := by
  simp only [set_mdbNext, mdb_prev_set_mdb]
  exact Function.update_eq_self p (mdb_prev ctes)

@[simp] theorem cap_of_set_mdbNext (v : Nat) : cap_of (set_mdbNext ctes p v) = cap_of ctes := by
  simp [set_mdbNext]

@[simp] theorem mdb_next_set_mdbPrev (v : Nat) :
    mdb_next (set_mdbPrev ctes p v) = mdb_next ctes := by
  simp only [set_mdbPrev, mdb_next_set_mdb]
  exact Function.update_eq_self p (mdb_next ctes)

@[simp] theorem mdb_prev_set_mdbPrev (v : Nat) :
    mdb_prev (set_mdbPrev ctes p v) = Function.update (mdb_prev ctes) p v := by
  simp [set_mdbPrev]

@[simp] theorem cap_of_set_mdbPrev (v : Nat) : cap_of (set_mdbPrev ctes p v) = cap_of ctes := by
  simp [set_mdbPrev]

@[simp] theorem mdb_next_set_mdbFirstBadged (v : Nat) :
    mdb_next (set_mdbFirstBadged ctes p v) = mdb_next ctes := by
  simp only [set_mdbFirstBadged, mdb_next_set_mdb]
  exact Function.update_eq_self p (mdb_next ctes)

@[simp] theorem mdb_prev_set_mdbFirstBadged (v : Nat) :
    mdb_prev (set_mdbFirstBadged ctes p v) = mdb_prev ctes := by
  simp only [set_mdbFirstBadged, mdb_prev_set_mdb]
  exact Function.update_eq_self p (mdb_prev ctes)

@[simp] theorem cap_of_set_mdbFirstBadged (v : Nat) :
    cap_of (set_mdbFirstBadged ctes p v) = cap_of ctes := by
  simp [set_mdbFirstBadged]

/-- Reading a field through the heap is reading the view; the spec proofs
below rewrite with these after unfolding an operation. -/
theorem mdbNext_eq_mdb_next : (ctes p).cteMDBNode.mdbNext = mdb_next ctes p := rfl

theorem mdbPrev_eq_mdb_prev : (ctes p).cteMDBNode.mdbPrev = mdb_prev ctes p := rfl

theorem capability_eq_cap_of : (ctes p).capability = cap_of ctes p := rfl

end Views

@[simp] theorem cap.get_tag_eq_null (c : cap) : c.get_tag = cap_tag.cap_null_cap ↔ c = .null_cap := by
  cases c <;> simp [cap.get_tag]

/-! ## One spec lemma per operation, on the views -/

open Function

section Spec

variable (ctes : Nat → cte_t)

theorem cap_of_cte_swap (cap1 cap2 : cap) (slot1 slot2 : Nat) :
    cap_of (cte_swap cap1 slot1 cap2 slot2 ctes) =
      update (update (cap_of ctes) slot1 cap2) slot2 cap1 := by
  by_cases ha : mdb_prev ctes slot1 = 0 <;> by_cases hb : mdb_next ctes slot1 = 0 <;>
  by_cases hc : mdb_prev ctes slot2 = 0 <;> by_cases hd : mdb_next ctes slot2 = 0 <;>
  simp [cte_swap, mdbNext_eq_mdb_next, mdbPrev_eq_mdb_prev, ha, hb, hc, hd]

/-- `cte_swap` on the forward links: the neighbours of `slot1` are pointed at
`slot2`, the nodes are exchanged, then the neighbours `slot2` had before the
swap are pointed at `slot1`. -/
theorem mdb_next_cte_swap (cap1 cap2 : cap) (slot1 slot2 : Nat) :
    mdb_next (cte_swap cap1 slot1 cap2 slot2 ctes) =
      let N₁ := if mdb_prev ctes slot1 ≠ 0 then update (mdb_next ctes) (mdb_prev ctes slot1) slot2
        else mdb_next ctes
      let N₂ := update (update N₁ slot1 (mdb_next ctes slot2)) slot2 (mdb_next ctes slot1)
      if mdb_prev ctes slot2 ≠ 0 then update N₂ (mdb_prev ctes slot2) slot1 else N₂ := by
  by_cases ha : mdb_prev ctes slot1 = 0 <;> by_cases hb : mdb_next ctes slot1 = 0 <;>
  by_cases hc : mdb_prev ctes slot2 = 0 <;> by_cases hd : mdb_next ctes slot2 = 0 <;>
  simp [cte_swap, mdbNext_eq_mdb_next, mdbPrev_eq_mdb_prev, ha, hb, hc, hd]

theorem mdb_prev_cte_swap (cap1 cap2 : cap) (slot1 slot2 : Nat) :
    mdb_prev (cte_swap cap1 slot1 cap2 slot2 ctes) =
      let P₁ := if mdb_next ctes slot1 ≠ 0 then update (mdb_prev ctes) (mdb_next ctes slot1) slot2
        else mdb_prev ctes
      let P₂ := update (update P₁ slot1 (mdb_prev ctes slot2)) slot2 (mdb_prev ctes slot1)
      if mdb_next ctes slot2 ≠ 0 then update P₂ (mdb_next ctes slot2) slot1 else P₂ := by
  by_cases ha : mdb_prev ctes slot1 = 0 <;> by_cases hb : mdb_next ctes slot1 = 0 <;>
  by_cases hc : mdb_prev ctes slot2 = 0 <;> by_cases hd : mdb_next ctes slot2 = 0 <;>
  simp [cte_swap, mdbNext_eq_mdb_next, mdbPrev_eq_mdb_prev, ha, hb, hc, hd]

@[simp] theorem cap_of_insert_new_cap (parent slot : Nat) (c : cap) (ctes : Nat → cte_t) :
    cap_of (insert_new_cap parent slot c ctes) = update (cap_of ctes) slot c := by
  unfold insert_new_cap
  dsimp only
  split <;> simp

theorem cap_of_set_empty (slot : Nat) :
    cap_of (set_empty slot ctes) =
      if cap_of ctes slot = .null_cap then cap_of ctes else update (cap_of ctes) slot .null_cap := by
  by_cases h0 : cap_of ctes slot = .null_cap
  · simp [set_empty, capability_eq_cap_of, h0]
  · by_cases ha : mdb_prev ctes slot = 0 <;> by_cases hb : mdb_next ctes slot = 0 <;>
    simp [set_empty, capability_eq_cap_of, mdbNext_eq_mdb_next, mdbPrev_eq_mdb_prev, h0, ha, hb]

/-- `set_empty` on the forward links: the predecessor skips the slot, whose
own links are cleared. -/
theorem mdb_next_set_empty (slot : Nat) :
    mdb_next (set_empty slot ctes) =
      if cap_of ctes slot = .null_cap then mdb_next ctes
      else update (if mdb_prev ctes slot ≠ 0 then
          update (mdb_next ctes) (mdb_prev ctes slot) (mdb_next ctes slot)
        else mdb_next ctes) slot 0 := by
  by_cases h0 : cap_of ctes slot = .null_cap
  · simp [set_empty, capability_eq_cap_of, h0]
  · by_cases ha : mdb_prev ctes slot = 0 <;> by_cases hb : mdb_next ctes slot = 0 <;>
    simp [set_empty, capability_eq_cap_of, mdbNext_eq_mdb_next, mdbPrev_eq_mdb_prev, h0, ha, hb]

theorem mdb_prev_set_empty (slot : Nat) :
    mdb_prev (set_empty slot ctes) =
      if cap_of ctes slot = .null_cap then mdb_prev ctes
      else update (if mdb_next ctes slot ≠ 0 then
          update (mdb_prev ctes) (mdb_next ctes slot) (mdb_prev ctes slot)
        else mdb_prev ctes) slot 0 := by
  by_cases h0 : cap_of ctes slot = .null_cap
  · simp [set_empty, capability_eq_cap_of, h0]
  · by_cases ha : mdb_prev ctes slot = 0 <;> by_cases hb : mdb_next ctes slot = 0 <;>
    simp [set_empty, capability_eq_cap_of, mdbNext_eq_mdb_next, mdbPrev_eq_mdb_prev, h0, ha, hb]

/-- A neighbour holding a cap to the same object makes the slot's cap not
final, whichever side it is on. -/
theorem is_final_cap_of_prev {slot : Nat} (h : mdb_prev ctes slot ≠ 0)
    (hs : same_object_as (cap_of ctes (mdb_prev ctes slot)) (cap_of ctes slot) = true) :
    is_final_cap ctes slot = false := by
  simp only [mdb_prev, cap_of] at h hs
  simp [is_final_cap, h, hs]

theorem is_final_cap_of_next {slot : Nat} (h : mdb_next ctes slot ≠ 0)
    (hs : same_object_as (cap_of ctes slot) (cap_of ctes (mdb_next ctes slot)) = true) :
    is_final_cap ctes slot = false := by
  simp only [mdb_next, cap_of] at h hs
  simp [is_final_cap, h, hs]

/-- `set_untyped_cap_as_full` stores only a cap. -/
theorem set_untyped_cap_as_full_links {srcCap newCap : cap} {srcSlot : Nat} {ctes ctes' : Nat → cte_t}
    (h : set_untyped_cap_as_full srcCap newCap srcSlot ctes = some ctes') :
    mdb_next ctes' = mdb_next ctes ∧ mdb_prev ctes' = mdb_prev ctes := by
  unfold set_untyped_cap_as_full at h
  split at h
  · split at h
    · split at h
      · cases h; simp
      · cases h; simp
    · cases h
  · cases h; simp

theorem set_untyped_cap_as_full_of_not_untyped {srcCap newCap : cap} {srcSlot : Nat}
    (ctes : Nat → cte_t) (h : srcCap.get_tag ≠ cap_tag.cap_untyped_cap) :
    set_untyped_cap_as_full srcCap newCap srcSlot ctes = some ctes := by
  unfold set_untyped_cap_as_full
  split
  · simp [cap.get_tag] at h
  · rfl

/-- `cte_insert` succeeds only into an empty, unlinked slot, and links it
right after the source. -/
theorem cte_insert_spec {new_cap : cap} {src dest : Nat} {ctes r : Nat → cte_t}
    (h : cte_insert new_cap src dest ctes = some r) :
    cap_of ctes dest = .null_cap ∧ mdb_next ctes dest = 0 ∧ mdb_prev ctes dest = 0 ∧
      ∃ ctes', set_untyped_cap_as_full (cap_of ctes src) new_cap src ctes = some ctes' ∧
        cap_of r = update (cap_of ctes') dest new_cap ∧
        mdb_next r = update (update (mdb_next ctes) dest (mdb_next ctes src)) src dest ∧
        mdb_prev r =
          if mdb_next ctes src ≠ 0 then
            update (update (mdb_prev ctes) dest src) (mdb_next ctes src) dest
          else update (mdb_prev ctes) dest src := by
  simp only [cte_insert, Option.bind_eq_bind, Option.bind_eq_some_iff] at h
  obtain ⟨rev, -, h⟩ := h
  -- the two assertions on the destination
  split at h
  · simp at h
  rename_i hnull
  split at h
  · simp at h
  rename_i hlinks
  rw [Option.bind_eq_some_iff] at h
  obtain ⟨ctes', hset, h⟩ := h
  cases h
  simp only [ne_eq, cap.get_tag_eq_null, not_not, not_or] at hnull hlinks
  obtain ⟨hn', hp'⟩ := set_untyped_cap_as_full_links hset
  refine ⟨hnull, hlinks.1, hlinks.2, ctes', hset, ?_, ?_, ?_⟩
  · by_cases hn : mdb_next ctes src = 0 <;> simp [mdbNext_eq_mdb_next, hn]
  · by_cases hn : mdb_next ctes src = 0 <;> simp [mdbNext_eq_mdb_next, hn, hn']
  · by_cases hn : mdb_next ctes src = 0 <;> simp [mdbNext_eq_mdb_next, hn, hp']

/-- Copying the cap of a slot into an empty, unlinked slot succeeds, and
the destination then holds the copy. -/
theorem cte_insert_self {c : cap} {src dest : Nat} {ctes : Nat → cte_t} (hsrc : cap_of ctes src = c)
    (hdest : ctes dest = {}) : ∃ r, cte_insert c src dest ctes = some r ∧ cap_of r dest = c := by
  have hsrc' : (ctes src).capability = c := hsrc
  -- a cap is always revocable from itself, and a copy of an untyped cap
  -- finds the source slot holding one
  obtain ⟨rev, hrev⟩ : ∃ rev, is_cap_revocable c c = some rev := by
    cases c <;> simp [is_cap_revocable, cap.is_arch_cap, cap.get_tag, cap_tag.val]
  obtain ⟨ctes', hset⟩ : ∃ ctes', set_untyped_cap_as_full c c src ctes = some ctes' := by
    cases c with
    | untyped_cap fi dev block ptr => simp [set_untyped_cap_as_full, hsrc']
    | _ => exact ⟨ctes, rfl⟩
  have hsome : (cte_insert c src dest ctes).isSome := by
    simp [cte_insert, hsrc', hrev, hdest, hset, cap.get_tag]
  obtain ⟨r, hr⟩ := Option.isSome_iff_exists.mp hsome
  obtain ⟨-, -, -, _, -, hcap, -⟩ := cte_insert_spec hr
  exact ⟨r, hr, by rw [hcap, update_self]⟩

/-- A rotation whose destination is its source is a `cte_swap` of the
updated caps. -/
theorem invoke_cnode_rotate_swap {slot1 slot2 d1 d2 : Nat} {ctes r : Nat → cte_t}
    (h : invoke_cnode_rotate slot1 slot2 slot1 d1 d2 ctes = some r) :
    r = cte_swap ((cap_of ctes slot1).update_data true d1) slot1
      ((cap_of ctes slot2).update_data true d2) slot2 ctes := by
  simp only [invoke_cnode_rotate, if_true] at h
  split at h
  · cases h
  split at h
  · cases h
  exact (Option.some.inj h).symm

end Spec

/-! ## Well-formedness -/

/-- **The derivation tree is well formed**: the links of every slot agree in
both directions, following `mdbNext` from any slot reaches the null pointer,
and a slot holding no cap has an all-zero node. Pointer `0` is no slot. -/
structure mdb_wf (ctes : Nat → cte_t) : Prop where
  next_prev : ∀ p, p ≠ 0 → mdb_next ctes p ≠ 0 → mdb_prev ctes (mdb_next ctes p) = p
  prev_next : ∀ p, p ≠ 0 → mdb_prev ctes p ≠ 0 → mdb_next ctes (mdb_prev ctes p) = p
  next_terminates : ∀ p, ∃ n, (mdb_next ctes)^[n] p = 0
  null_unlinked : ∀ p, p ≠ 0 → cap_of ctes p = .null_cap → (ctes p).cteMDBNode = {}

namespace mdb_wf

variable {ctes : Nat → cte_t} (hwf : mdb_wf ctes)
include hwf

/-- No slot is its own successor: following it would never end. -/
theorem next_ne_self {p : Nat} (hp : p ≠ 0) : mdb_next ctes p ≠ p := by
  intro hloop
  obtain ⟨n, hn⟩ := hwf.next_terminates p
  rw [Function.iterate_fixed hloop] at hn
  exact hp hn

/-- No slot is its own predecessor: it would then be its own successor. -/
theorem prev_ne_self {p : Nat} (hp : p ≠ 0) : mdb_prev ctes p ≠ p := by
  intro hloop
  have h := hwf.prev_next p hp (by rw [hloop]; exact hp)
  rw [hloop] at h
  exact hwf.next_ne_self hp h

end mdb_wf

/-! ## `cte_swap` of neighbours -/

/-- When `slot1` is `slot2`'s predecessor, `cte_swap` leaves `slot1` its own
neighbour both ways: it copies `slot2`'s node, whose `mdbPrev` is `slot1`,
before the stores that would have redirected it. -/
theorem cte_swap_of_prev (ctes : Nat → cte_t) (cap1 cap2 : cap) {slot1 slot2 : Nat}
    (h1 : slot1 ≠ 0) (h12 : slot1 ≠ slot2) (hp : mdb_prev ctes slot2 = slot1) :
    mdb_next (cte_swap cap1 slot1 cap2 slot2 ctes) slot1 = slot1 ∧
      mdb_prev (cte_swap cap1 slot1 cap2 slot2 ctes) slot1 = slot1 := by
  rw [mdb_next_cte_swap, mdb_prev_cte_swap]
  by_cases hn : mdb_next ctes slot2 = 0 <;> simp [hp, h1, h12, hn, Function.update_apply]

/-- **Swapping two neighbours breaks the tree.** In every well-formed tree,
`cte_swap` of a slot and its successor makes the slot its own neighbour. -/
theorem cte_swap_adjacent_breaks_mdb {ctes : Nat → cte_t} (cap1 cap2 : cap) {slot1 slot2 : Nat}
    (hwf : mdb_wf ctes) (h1 : slot1 ≠ 0) (h2 : slot2 ≠ 0) (hadj : mdb_next ctes slot1 = slot2) :
    mdb_next (cte_swap cap1 slot1 cap2 slot2 ctes) slot1 = slot1 ∧
      mdb_prev (cte_swap cap1 slot1 cap2 slot2 ctes) slot1 = slot1 ∧
      ¬ mdb_wf (cte_swap cap1 slot1 cap2 slot2 ctes) := by
  have hp : mdb_prev ctes slot2 = slot1 := by
    simpa [hadj] using hwf.next_prev slot1 h1 (by rw [hadj]; exact h2)
  have h12 : slot1 ≠ slot2 := fun h => hwf.next_ne_self h1 (hadj.trans h.symm)
  obtain ⟨hnext, hprev⟩ := cte_swap_of_prev ctes cap1 cap2 h1 h12 hp
  exact ⟨hnext, hprev, fun hwf' => hwf'.next_ne_self h1 hnext⟩


/-- Slot `0x100` holds a thread cap and slot `0x120` a copy of it, linked
right after it. -/
def copiedThreadCap : Nat → cte_t := fun p =>
  if p = 0x100 then { capability := .thread_cap 0x2200, cteMDBNode := { mdbNext := 0x120 } }
  else if p = 0x120 then { capability := .thread_cap 0x2200, cteMDBNode := { mdbPrev := 0x100 } }
  else {}

theorem copiedThreadCap_wf : mdb_wf copiedThreadCap where
  next_prev p _ hn := by
    by_cases h1 : p = 0x100 <;> by_cases h2 : p = 0x120 <;>
      simp_all [mdb_next, mdb_prev, copiedThreadCap]
  prev_next p _ hn := by
    by_cases h1 : p = 0x100 <;> by_cases h2 : p = 0x120 <;>
      simp_all [mdb_next, mdb_prev, copiedThreadCap]
  -- two steps reach the null pointer from every slot
  next_terminates p := ⟨2, by
    by_cases h1 : p = 0x100 <;> by_cases h2 : p = 0x120 <;> simp [mdb_next, copiedThreadCap, h1, h2]⟩
  null_unlinked p _ hn := by
    by_cases h1 : p = 0x100 <;> by_cases h2 : p = 0x120 <;>
      simp_all [cap_of, copiedThreadCap]

theorem cte_swap_copied_thread_cap :
    mdb_next (cte_swap (.thread_cap 0x2200) 0x100 (.thread_cap 0x2200) 0x120 copiedThreadCap) 0x100 =
        0x100 ∧
      mdb_prev (cte_swap (.thread_cap 0x2200) 0x100 (.thread_cap 0x2200) 0x120 copiedThreadCap)
        0x100 = 0x100 ∧
      ¬ mdb_wf (cte_swap (.thread_cap 0x2200) 0x100 (.thread_cap 0x2200) 0x120 copiedThreadCap) :=
  cte_swap_adjacent_breaks_mdb _ _ copiedThreadCap_wf (by decide) (by decide) rfl

/-! ## Rotating a cap onto its own copy

A CNode Copy puts the copy `Y` of `X`'s cap right after `X`; a CNode Rotate
with `X` as both source and destination and `Y` as pivot then swaps the two
neighbours. After that `Y` is its own successor, and deleting `Y` (which
`is_final_cap` does not see as the last cap, so no object is torn down)
leaves `X` as its own predecessor: `X`'s cap is the only cap to its object,
and `is_final_cap` says it is not final. -/

theorem rotate_onto_copy_leaves_cap_not_final {ctes r r' : Nat → cte_t} {X Y d : Nat} {c : cap}
    (hwf : mdb_wf ctes) (hX : X ≠ 0) (hY : Y ≠ 0) (hXY : X ≠ Y)
    (hc : cap_of ctes X = c) (hsame : same_object_as c c = true)
    (hupd : c.update_data true d = c)
    (hsole : ∀ z, z ≠ X →
      same_object_as (cap_of ctes z) c = false ∧ same_object_as c (cap_of ctes z) = false)
    (hins : cte_insert c X Y ctes = some r) (hrot : invoke_cnode_rotate X Y X d d r = some r') :
    is_final_cap r' Y = false ∧ is_final_cap (set_empty Y r') X = false ∧
      cap_of (set_empty Y r') X = c ∧
      ∀ z, z ≠ X → same_object_as (cap_of (set_empty Y r') z) c = false ∧
        same_object_as c (cap_of (set_empty Y r') z) = false := by
  obtain ⟨hYnull, -, hYp, ctes', hset, hcap, hnext, hprev⟩ := cte_insert_spec hins
  -- a cap that is its own object is not untyped: the insert leaves the source alone
  have hcu : c.get_tag ≠ cap_tag.cap_untyped_cap := fun h => by
    simp [same_object_as, h] at hsame
  rw [hc, set_untyped_cap_as_full_of_not_untyped ctes hcu] at hset
  cases hset
  have hc0 : c ≠ .null_cap := by
    rintro rfl
    simp at hsame
  -- the rotation with the source as destination swaps two copies of `c`
  have hr' : r' = cte_swap c X c Y r := by
    rw [invoke_cnode_rotate_swap hrot]
    simp [hcap, hXY, hc, hupd]
  subst hr'
  -- before the insert `X`'s successor is not the unlinked `Y`
  have hnXY : mdb_next ctes X ≠ Y := fun h => by
    have hb := hwf.next_prev X hX (by rw [h]; exact hY)
    rw [h, hYp] at hb
    exact hX hb.symm
  -- after it `Y` follows `X`
  have hpY : mdb_prev r Y = X := by
    rw [hprev]
    split <;> simp [Ne.symm hnXY]
  have hnX : mdb_next r X = Y := by
    simp [hnext]
  -- the swap makes `X` its own neighbour and `Y` its own successor
  obtain ⟨-, hsp⟩ := cte_swap_of_prev r c c hX hXY hpY
  have hsY : mdb_next (cte_swap c X c Y r) Y = Y := by
    rw [mdb_next_cte_swap]
    simp [hpY, hX, hnX, Ne.symm hXY]
  have hcY : cap_of (cte_swap c X c Y r) Y = c := by simp [cap_of_cte_swap]
  -- deleting `Y` leaves `X` as it was
  have hprevX : mdb_prev (set_empty Y (cte_swap c X c Y r)) X = X := by
    rw [mdb_prev_set_empty]
    simp [hcY, hc0, hsY, hY, hXY, hsp]
  have hcapX : cap_of (set_empty Y (cte_swap c X c Y r)) X = c := by
    simp [cap_of_set_empty, cap_of_cte_swap, hc0, hXY]
  refine ⟨is_final_cap_of_next _ (by rw [hsY]; exact hY) (by rw [hsY, hcY]; exact hsame),
    is_final_cap_of_prev _ (by rw [hprevX]; exact hX) (by rw [hprevX, hcapX]; exact hsame),
    hcapX, fun z hz => ?_⟩
  by_cases hzY : z = Y
  · subst hzY
    simp [cap_of_set_empty, hcY, hc0]
  · have hz' : cap_of (set_empty Y (cte_swap c X c Y r)) z = cap_of ctes z := by
      simp [cap_of_set_empty, cap_of_cte_swap, hcap, hc0, hz, hzY]
    rw [hz']
    exact hsole z hz

/-- Slot `0x100` holds the one thread cap to the TCB at `0x2200`. -/
def singleThreadCap : Nat → cte_t := fun p =>
  if p = 0x100 then { capability := .thread_cap 0x2200 } else {}

theorem singleThreadCap_wf : mdb_wf singleThreadCap where
  next_prev p _ hn := by
    by_cases h : p = 0x100 <;> simp [mdb_next, singleThreadCap, h] at hn
  prev_next p _ hn := by
    by_cases h : p = 0x100 <;> simp [mdb_prev, singleThreadCap, h] at hn
  next_terminates p := ⟨1, by by_cases h : p = 0x100 <;> simp [mdb_next, singleThreadCap, h]⟩
  null_unlinked p _ hn := by
    by_cases h : p = 0x100 <;> simp [cap_of, singleThreadCap, h] at hn ⊢

theorem rotate_onto_copy_of_thread_cap :
    ∃ r r', cte_insert (.thread_cap 0x2200) 0x100 0x120 singleThreadCap = some r ∧
      invoke_cnode_rotate 0x100 0x120 0x100 0 0 r = some r' ∧
      is_final_cap r' 0x120 = false ∧ is_final_cap (set_empty 0x120 r') 0x100 = false ∧
      cap_of (set_empty 0x120 r') 0x100 = .thread_cap 0x2200 ∧
      ∀ z, z ≠ 0x100 → same_object_as (cap_of (set_empty 0x120 r') z) (.thread_cap 0x2200) = false ∧
        same_object_as (.thread_cap 0x2200) (cap_of (set_empty 0x120 r') z) = false :=
  ⟨_, _, rfl, rfl, rotate_onto_copy_leaves_cap_not_final singleThreadCap_wf (by decide) (by decide)
    (by decide) rfl (by decide) rfl
    (fun z hz => by simp [cap_of, singleThreadCap, hz]) rfl rfl⟩

end Rel4Kernel
