/-
What keeps the capability derivation tree well formed.

`mdb_wf` is, on the views `mdb_next` and `mdb_prev`, a pair of pointer chains
(`PointerChain.Linked` and `PointerChain.Terminates` with `0` for null), and
a condition on the slots that hold no cap. Each operation of
`Rel4Kernel.CSpace.Mdb` rewrites the chains by one of the library's splices:

* `cte_insert` and `insert_new_cap` put a fresh slot after another
  (`PointerChain.insert_after`);
* `set_empty` cuts a slot out (`PointerChain.remove`);
* `cte_move` renames the source as the fresh destination, and `cte_swap`,
  when the two slots are not neighbours, renames each as the other
  (`PointerChain.conj` with `Equiv.swap`).

The work here is to show that the stores each function makes compute the
splice on the views, and that a slot left with no cap is left unlinked. A
swap of neighbours is no renaming (`cte_swap_adjacent_breaks_mdb`), which is
why `cte_swap_mdb_wf` asks that the slots not be neighbours.

`cspace_wf` adds to the tree that no CNode cap names address 0, so that a
lookup only reaches slots. The operations keep it (`cspace_wf.of_cte_insert`
and the like), and so does emptying slots one after another (`empties`), which
is all that finalising a cap does to the slots; emptying also puts no slot
after another in the tree's list (`empties.follows`).
-/
import Rel4Kernel.CSpace.MdbInvariant
import Rel4Kernel.Lib.PointerChain

set_option autoImplicit false

namespace Rel4Kernel

open Function PointerChain

/-! ## Stores that miss a slot -/

section Frame

variable (ctes : Nat → cte_t) {p q : Nat}

theorem set_cap_of_ne (c : cap) (h : q ≠ p) : set_cap ctes p c q = ctes q := by simp [h]

theorem set_mdb_of_ne (m : mdb_node) (h : q ≠ p) : set_mdb ctes p m q = ctes q := by simp [h]

theorem set_mdbNext_of_ne (v : Nat) (h : q ≠ p) : set_mdbNext ctes p v q = ctes q := by
  simp [set_mdbNext, h]

theorem set_mdbPrev_of_ne (v : Nat) (h : q ≠ p) : set_mdbPrev ctes p v q = ctes q := by
  simp [set_mdbPrev, h]

end Frame

/-! ## The tree as pointer chains -/

namespace mdb_wf

variable {ctes : Nat → cte_t}

theorem linked (hwf : mdb_wf ctes) : Linked (mdb_next ctes) (mdb_prev ctes) 0 :=
  ⟨hwf.next_prev, hwf.prev_next⟩

/-- A well-formed tree from well-formed chains and unlinked empty slots. -/
theorem of_chains (hl : Linked (mdb_next ctes) (mdb_prev ctes) 0) (ht : Terminates (mdb_next ctes) 0)
    (hnull : ∀ p, p ≠ 0 → cap_of ctes p = .null_cap → (ctes p).cteMDBNode = {}) : mdb_wf ctes :=
  ⟨hl.next_prev, hl.prev_next, ht, hnull⟩

variable (hwf : mdb_wf ctes)
include hwf

/-- A slot with a successor holds a cap. -/
theorem cap_ne_null_of_next {p : Nat} (hp : p ≠ 0) (hn : mdb_next ctes p ≠ 0) : cap_of ctes p ≠ .null_cap :=
  fun hc => hn (by simp [mdb_next, hwf.null_unlinked p hp hc])

/-- A slot with a predecessor holds a cap. -/
theorem cap_ne_null_of_prev {p : Nat} (hp : p ≠ 0) (hn : mdb_prev ctes p ≠ 0) : cap_of ctes p ≠ .null_cap :=
  fun hc => hn (by simp [mdb_prev, hwf.null_unlinked p hp hc])

/-- The successor of a slot holds a cap: it has that slot as predecessor. -/
theorem cap_next_ne_null {p : Nat} (hp : p ≠ 0) (hn : mdb_next ctes p ≠ 0) :
    cap_of ctes (mdb_next ctes p) ≠ .null_cap :=
  hwf.cap_ne_null_of_prev hn (by rw [hwf.next_prev p hp hn]; exact hp)

theorem cap_prev_ne_null {p : Nat} (hp : p ≠ 0) (hn : mdb_prev ctes p ≠ 0) :
    cap_of ctes (mdb_prev ctes p) ≠ .null_cap :=
  hwf.cap_ne_null_of_next hn (by rw [hwf.prev_next p hp hn]; exact hp)

/-- An empty slot is unlinked: no slot points at it either way. -/
theorem unlinked_of_null {d : Nat} (hd : d ≠ 0) (hc : cap_of ctes d = .null_cap) :
    mdb_next ctes d = 0 ∧ mdb_prev ctes d = 0 := by
  simp [mdb_next, mdb_prev, hwf.null_unlinked d hd hc]

/-- The condition on empty slots carries over to a heap that differs only in
slots that end up holding a cap or unlinked. -/
theorem null_unlinked_of {ctes' : Nat → cte_t}
    (h : ∀ p, p ≠ 0 → cap_of ctes' p = .null_cap → ctes' p = ctes p ∨ (ctes' p).cteMDBNode = {}) :
    ∀ p, p ≠ 0 → cap_of ctes' p = .null_cap → (ctes' p).cteMDBNode = {} := by
  intro p hp hc
  rcases h p hp hc with he | he
  · have hc' : cap_of ctes p = .null_cap := by
      show (ctes p).capability = _
      rw [← he]
      exact hc
    rw [he]
    exact hwf.null_unlinked p hp hc'
  · exact he

end mdb_wf

/-! ## `set_empty` cuts a slot out -/

section SetEmpty

variable (ctes : Nat → cte_t) (slot : Nat)

theorem set_empty_of_null (h : cap_of ctes slot = .null_cap) : set_empty slot ctes = ctes := by
  simp [set_empty, capability_eq_cap_of, h]

/-- `set_empty` writes the slot and its two neighbours, and no other slot. -/
theorem set_empty_apply_of_ne {p : Nat} (hs : p ≠ slot) (hp : p ≠ mdb_prev ctes slot)
    (hn : p ≠ mdb_next ctes slot) : set_empty slot ctes p = ctes p := by
  unfold set_empty
  dsimp only
  split_ifs <;>
    simp [set_mdbNext, set_mdbPrev, set_mdbFirstBadged, mdbNext_eq_mdb_next, mdbPrev_eq_mdb_prev, hs, hp, hn]

theorem mdb_next_set_empty_eq (h : cap_of ctes slot ≠ .null_cap) :
    mdb_next (set_empty slot ctes) = remove_next (mdb_next ctes) (mdb_prev ctes) 0 slot := by
  rw [mdb_next_set_empty, if_neg h, remove_next]

theorem mdb_prev_set_empty_eq (h : cap_of ctes slot ≠ .null_cap) :
    mdb_prev (set_empty slot ctes) = remove_prev (mdb_next ctes) (mdb_prev ctes) 0 slot := by
  rw [mdb_prev_set_empty, if_neg h, remove_prev]

theorem set_empty_self_node (h : cap_of ctes slot ≠ .null_cap) : (set_empty slot ctes slot).cteMDBNode = {} := by
  simp [set_empty, capability_eq_cap_of, h]

/-- **`set_empty` keeps the tree well formed.** The slot is cut out of its
chain and left empty and unlinked. -/
theorem set_empty_mdb_wf {ctes : Nat → cte_t} {slot : Nat} (hwf : mdb_wf ctes) (hs : slot ≠ 0) :
    mdb_wf (set_empty slot ctes) := by
  by_cases hc : cap_of ctes slot = .null_cap
  · rwa [set_empty_of_null ctes slot hc]
  refine mdb_wf.of_chains ?_ ?_ (hwf.null_unlinked_of fun p hp hpc => ?_)
  · rw [mdb_next_set_empty_eq ctes slot hc, mdb_prev_set_empty_eq ctes slot hc]
    exact hwf.linked.remove hwf.next_terminates hs
  · rw [mdb_next_set_empty_eq ctes slot hc]
    exact Terminates.remove hwf.linked hwf.next_terminates hs
  · -- an empty slot is the emptied one, or was empty and is no neighbour
    by_cases hps : p = slot
    · exact .inr (hps ▸ set_empty_self_node ctes slot hc)
    rw [cap_of_set_empty, if_neg hc, update_of_ne hps] at hpc
    refine .inl (set_empty_apply_of_ne ctes slot hps (fun he => ?_) (fun he => ?_))
    · exact hwf.cap_prev_ne_null hs (he ▸ hp) (he ▸ hpc)
    · exact hwf.cap_next_ne_null hs (he ▸ hp) (he ▸ hpc)

end SetEmpty

/-! ## `cte_insert` and `insert_new_cap` put a fresh slot after another -/

section Insert

/-- `set_untyped_cap_as_full` writes only the source slot, and leaves a cap
there if there was one. -/
theorem set_untyped_cap_as_full_frame {srcCap newCap : cap} {srcSlot : Nat} {ctes ctes' : Nat → cte_t}
    (h : set_untyped_cap_as_full srcCap newCap srcSlot ctes = some ctes') :
    (∀ q, q ≠ srcSlot → ctes' q = ctes q) ∧
      (cap_of ctes srcSlot ≠ .null_cap → cap_of ctes' srcSlot ≠ .null_cap) := by
  unfold set_untyped_cap_as_full at h
  split at h
  · split at h
    · split at h
      · cases h
        exact ⟨fun q hq => by simp [hq], fun _ => by simp [cap_of]⟩
      · cases h
        exact ⟨fun _ _ => rfl, id⟩
    · cases h
  · cases h
    exact ⟨fun _ _ => rfl, id⟩

/-- `cte_insert` writes the source, the destination and the source's old
successor, and no other slot. -/
theorem cte_insert_apply_of_ne {new_cap : cap} {src dest p : Nat} {ctes r : Nat → cte_t}
    (h : cte_insert new_cap src dest ctes = some r) (hps : p ≠ src) (hpd : p ≠ dest)
    (hpn : p ≠ mdb_next ctes src) : r p = ctes p := by
  simp only [cte_insert, Option.bind_eq_bind, Option.bind_eq_some_iff] at h
  obtain ⟨rev, -, h⟩ := h
  split at h
  · simp at h
  split at h
  · simp at h
  rw [Option.bind_eq_some_iff] at h
  obtain ⟨ctes', hset, h⟩ := h
  cases h
  have hf := (set_untyped_cap_as_full_frame hset).1 p hps
  split_ifs <;> simp [set_mdbNext, set_mdbPrev, mdbNext_eq_mdb_next, hps, hpd, hpn, hf]

variable {ctes r : Nat → cte_t} {new_cap : cap} {src dest : Nat}

/-- **`cte_insert` keeps the tree well formed.** The new cap goes into the
empty destination, linked right after the source; a source that holds a cap,
and a cap that is not null, are what every caller passes. -/
theorem cte_insert_mdb_wf (hwf : mdb_wf ctes) (h : cte_insert new_cap src dest ctes = some r)
    (hsrc : src ≠ 0) (hdest : dest ≠ 0) (hcap : new_cap ≠ .null_cap) (hsc : cap_of ctes src ≠ .null_cap) :
    mdb_wf r := by
  obtain ⟨hdc, hdn, hdp, ctes', hset, hcapr, hnext, hprev⟩ := cte_insert_spec h
  have hsd : src ≠ dest := fun he => hsc (he ▸ hdc)
  have hnext' : mdb_next r = insert_next (mdb_next ctes) src dest := hnext
  have hprev' : mdb_prev r = insert_prev (mdb_next ctes) (mdb_prev ctes) 0 src dest := by
    rw [hprev, insert_prev]
  refine mdb_wf.of_chains ?_ ?_ (hwf.null_unlinked_of fun p hp hpc => .inl ?_)
  · rw [hnext', hprev']
    exact hwf.linked.insert_after hsrc hdest hsd hdn hdp
  · rw [hnext']
    exact Terminates.insert_after hwf.linked hsrc hdest hsd hdp hwf.next_terminates
  · -- an empty slot after the insertion is none of the three written
    have hpd : p ≠ dest := by
      rintro rfl
      rw [hcapr, update_self] at hpc
      exact hcap hpc
    rw [hcapr, update_of_ne hpd] at hpc
    have hps : p ≠ src := by
      rintro rfl
      exact (set_untyped_cap_as_full_frame hset).2 hsc hpc
    have hpc' : cap_of ctes p = .null_cap := by
      rwa [cap_of, (set_untyped_cap_as_full_frame hset).1 p hps] at hpc
    have hpn : p ≠ mdb_next ctes src := by
      rintro rfl
      exact hwf.cap_next_ne_null hsrc (fun h0 => hp (by rw [h0])) hpc'
    exact cte_insert_apply_of_ne h hps hpd hpn

/-- `insert_new_cap` on the forward links: the slot goes right after the
parent. -/
theorem mdb_next_insert_new_cap (parent slot : Nat) (c : cap) (ctes : Nat → cte_t) :
    mdb_next (insert_new_cap parent slot c ctes) = insert_next (mdb_next ctes) parent slot := by
  by_cases hn : mdb_next ctes parent = 0 <;>
    simp [insert_new_cap, insert_next, mdbNext_eq_mdb_next, hn]

theorem mdb_prev_insert_new_cap (parent slot : Nat) (c : cap) (ctes : Nat → cte_t) :
    mdb_prev (insert_new_cap parent slot c ctes) = insert_prev (mdb_next ctes) (mdb_prev ctes) 0 parent slot := by
  by_cases hn : mdb_next ctes parent = 0 <;>
    simp [insert_new_cap, insert_prev, mdbNext_eq_mdb_next, hn]

/-- `insert_new_cap` writes the parent, the slot and the parent's old
successor, and no other slot. -/
theorem insert_new_cap_apply_of_ne {parent slot p : Nat} (c : cap) (ctes : Nat → cte_t) (hpp : p ≠ parent)
    (hps : p ≠ slot) (hpn : p ≠ mdb_next ctes parent) : insert_new_cap parent slot c ctes p = ctes p := by
  unfold insert_new_cap
  split_ifs <;> simp [set_mdbNext, set_mdbPrev, mdbNext_eq_mdb_next, hpp, hps, hpn]

/-- **`insert_new_cap` keeps the tree well formed**, for a cap put into an
empty slot as the first child of a parent that holds a cap. -/
theorem insert_new_cap_mdb_wf {parent slot : Nat} {c : cap} (hwf : mdb_wf ctes) (hparent : parent ≠ 0)
    (hslot : slot ≠ 0) (hc : c ≠ .null_cap) (hpc : cap_of ctes parent ≠ .null_cap)
    (hsc : cap_of ctes slot = .null_cap) : mdb_wf (insert_new_cap parent slot c ctes) := by
  obtain ⟨hsn, hsp⟩ := hwf.unlinked_of_null hslot hsc
  have hps : parent ≠ slot := fun he => hpc (he ▸ hsc)
  refine mdb_wf.of_chains ?_ ?_ (hwf.null_unlinked_of fun p hp hpn => .inl ?_)
  · rw [mdb_next_insert_new_cap, mdb_prev_insert_new_cap]
    exact hwf.linked.insert_after hparent hslot hps hsn hsp
  · rw [mdb_next_insert_new_cap]
    exact Terminates.insert_after hwf.linked hparent hslot hps hsp hwf.next_terminates
  · rw [cap_of_insert_new_cap] at hpn
    have hp_slot : p ≠ slot := by
      rintro rfl
      rw [update_self] at hpn
      exact hc hpn
    rw [update_of_ne hp_slot] at hpn
    refine insert_new_cap_apply_of_ne c ctes (fun he => hpc (he ▸ hpn)) hp_slot ?_
    rintro rfl
    exact hwf.cap_next_ne_null hparent (fun h0 => hp (by rw [h0])) hpn

end Insert

/-! ## `cte_move` renames a slot as a fresh one -/

section Move

variable {ctes r : Nat → cte_t} {new_cap : cap} {src dest : Nat}

/-- `cte_move` succeeds only into an empty, unlinked slot; on the views it is
the library's move, and it writes the two slots and the source's neighbours
only. -/
theorem cte_move_spec (h : cte_move new_cap src dest ctes = some r) :
    cap_of ctes dest = .null_cap ∧ mdb_next ctes dest = 0 ∧ mdb_prev ctes dest = 0 ∧
      cap_of r = update (update (cap_of ctes) dest new_cap) src .null_cap ∧
      mdb_next r = move_next (mdb_next ctes) (mdb_prev ctes) 0 src dest ∧
      mdb_prev r = move_prev (mdb_next ctes) (mdb_prev ctes) 0 src dest ∧
      (mdb_prev ctes src ≠ src → mdb_next ctes src ≠ src → (r src).cteMDBNode = {}) ∧
      ∀ p, p ≠ src → p ≠ dest → p ≠ mdb_prev ctes src → p ≠ mdb_next ctes src → r p = ctes p := by
  unfold cte_move at h
  -- the two assertions on the destination
  by_cases hnull : (ctes dest).capability.get_tag ≠ cap_tag.cap_null_cap
  · simp [hnull] at h
  by_cases hlinks : (ctes dest).cteMDBNode.mdbNext ≠ 0 ∨ (ctes dest).cteMDBNode.mdbPrev ≠ 0
  · simp [hlinks] at h
  simp only [hnull, hlinks, if_false, Option.pure_def, Option.some.injEq] at h
  subst h
  simp only [ne_eq, cap.get_tag_eq_null, not_not, not_or] at hnull hlinks
  refine ⟨hnull, hlinks.1, hlinks.2, ?_, ?_, ?_, fun hp hn => ?_, fun p hps hpd hpp hpn => ?_⟩
  · by_cases hp : mdb_prev ctes src = 0 <;> by_cases hn : mdb_next ctes src = 0 <;>
      simp [mdbNext_eq_mdb_next, mdbPrev_eq_mdb_prev, hp, hn]
  · by_cases hp : mdb_prev ctes src = 0 <;> by_cases hn : mdb_next ctes src = 0 <;>
      simp [move_next, mdbNext_eq_mdb_next, mdbPrev_eq_mdb_prev, hp, hn]
  · by_cases hp : mdb_prev ctes src = 0 <;> by_cases hn : mdb_next ctes src = 0 <;>
      simp [move_prev, move_next, mdbNext_eq_mdb_next, mdbPrev_eq_mdb_prev, hp, hn]
  · -- the neighbours' stores miss the source
    simp only [mdb_prev, mdb_next] at hp hn
    split_ifs <;> simp [set_mdbNext_of_ne _ _ (Ne.symm hp), set_mdbPrev_of_ne _ _ (Ne.symm hn)]
  · simp only [mdb_prev, mdb_next] at hpp hpn
    split_ifs <;> simp only [set_mdbNext_of_ne _ _ hpp, set_mdbPrev_of_ne _ _ hpn, set_mdb_of_ne _ _ hps,
      set_mdb_of_ne _ _ hpd, set_cap_of_ne _ _ hps, set_cap_of_ne _ _ hpd]

/-- **`cte_move` keeps the tree well formed.** The destination, empty and
unlinked, takes the source's place in its chain with the new cap, and the
source is left empty and unlinked. -/
theorem cte_move_mdb_wf (hwf : mdb_wf ctes) (h : cte_move new_cap src dest ctes = some r)
    (hsrc : src ≠ 0) (hdest : dest ≠ 0) (hsd : src ≠ dest) (hcap : new_cap ≠ .null_cap) : mdb_wf r := by
  obtain ⟨-, hdn, hdp, hcapr, hnext, hprev, hself, hframe⟩ := cte_move_spec h
  have hl := hwf.linked
  have ht : Terminates (mdb_next ctes) 0 := hwf.next_terminates
  refine mdb_wf.of_chains ?_ ?_ (hwf.null_unlinked_of fun p hp hpc => ?_)
  · rw [hnext, hprev]
    exact hl.move ht hsrc hdest hsd hdn hdp
  · rw [hnext]
    exact Terminates.move hl ht hsrc hdest hsd hdn hdp
  · -- an empty slot is the source, or was empty and is no neighbour
    by_cases hps : p = src
    · exact .inr (hps ▸ hself (hl.prev_ne_self ht hsrc) (ht.next_ne_self hsrc))
    have hpd : p ≠ dest := by
      rintro rfl
      rw [hcapr, update_of_ne hps, update_self] at hpc
      exact hcap hpc
    rw [hcapr, update_of_ne hps, update_of_ne hpd] at hpc
    refine .inl (hframe p hps hpd (fun he => ?_) (fun he => ?_))
    · exact hwf.cap_prev_ne_null hsrc (he ▸ hp) (he ▸ hpc)
    · exact hwf.cap_next_ne_null hsrc (he ▸ hp) (he ▸ hpc)

end Move

/-! ## `cte_swap` renames two slots as each other -/

section Swap

variable (ctes : Nat → cte_t) (cap1 cap2 : cap) (slot1 slot2 : Nat)

theorem mdb_next_cte_swap_eq :
    mdb_next (cte_swap cap1 slot1 cap2 slot2 ctes) = swap_next (mdb_next ctes) (mdb_prev ctes) 0 slot1 slot2 := by
  rw [mdb_next_cte_swap]
  rfl

theorem mdb_prev_cte_swap_eq :
    mdb_prev (cte_swap cap1 slot1 cap2 slot2 ctes) = swap_prev (mdb_next ctes) (mdb_prev ctes) 0 slot1 slot2 := by
  rw [mdb_prev_cte_swap]
  rfl

/-- `cte_swap` writes the two slots and their neighbours only. -/
theorem cte_swap_apply_of_ne {p : Nat} (h₁ : p ≠ slot1) (h₂ : p ≠ slot2) (hp₁ : p ≠ mdb_prev ctes slot1)
    (hn₁ : p ≠ mdb_next ctes slot1) (hp₂ : p ≠ mdb_prev ctes slot2) (hn₂ : p ≠ mdb_next ctes slot2) :
    cte_swap cap1 slot1 cap2 slot2 ctes p = ctes p := by
  simp only [mdb_prev, mdb_next] at hp₁ hn₁ hp₂ hn₂
  unfold cte_swap
  split_ifs <;> simp only [set_mdbNext_of_ne _ _ hp₁, set_mdbNext_of_ne _ _ hp₂, set_mdbPrev_of_ne _ _ hn₁,
    set_mdbPrev_of_ne _ _ hn₂, set_mdb_of_ne _ _ h₁, set_mdb_of_ne _ _ h₂, set_cap_of_ne _ _ h₁, set_cap_of_ne _ _ h₂]

/-- The node a slot ends with is the one the other slot had, when the stores
to the neighbours that come after miss it. -/
theorem cte_swap_node_left (h₁₂ : slot1 ≠ slot2) (hp : mdb_prev ctes slot2 ≠ slot1)
    (hn : mdb_next ctes slot2 ≠ slot1) :
    (cte_swap cap1 slot1 cap2 slot2 ctes slot1).cteMDBNode = (ctes slot2).cteMDBNode := by
  simp only [mdb_prev, mdb_next] at hp hn
  unfold cte_swap
  split_ifs <;> simp only [set_mdbNext_of_ne _ _ (Ne.symm hp), set_mdbPrev_of_ne _ _ (Ne.symm hn),
    set_mdb_of_ne _ _ h₁₂, set_mdb_apply, if_pos]

theorem cte_swap_node_right (hp : mdb_prev ctes slot2 ≠ slot2) (hn : mdb_next ctes slot2 ≠ slot2) :
    (cte_swap cap1 slot1 cap2 slot2 ctes slot2).cteMDBNode = (ctes slot1).cteMDBNode := by
  simp only [mdb_prev, mdb_next] at hp hn
  unfold cte_swap
  split_ifs <;> simp [set_mdbNext_of_ne _ _ (Ne.symm hp), set_mdbPrev_of_ne _ _ (Ne.symm hn)]

variable {ctes cap1 cap2 slot1 slot2}

/-- **`cte_swap` of two slots that are not neighbours keeps the tree well
formed.** A cap that comes out null must come from an unlinked slot, as
every slot's own cap does. -/
theorem cte_swap_mdb_wf (hwf : mdb_wf ctes) (hs₁ : slot1 ≠ 0) (hs₂ : slot2 ≠ 0) (h₁₂ : slot1 ≠ slot2)
    (hadj₁ : mdb_next ctes slot1 ≠ slot2) (hadj₂ : mdb_next ctes slot2 ≠ slot1)
    (hc₁ : cap1 = .null_cap → (ctes slot1).cteMDBNode = {})
    (hc₂ : cap2 = .null_cap → (ctes slot2).cteMDBNode = {}) :
    mdb_wf (cte_swap cap1 slot1 cap2 slot2 ctes) := by
  have hl := hwf.linked
  have ht : Terminates (mdb_next ctes) 0 := hwf.next_terminates
  -- read backwards, the two slots are not neighbours either
  have hpa₁ : mdb_prev ctes slot1 ≠ slot2 := fun he =>
    hadj₂ (by rw [← he, hwf.prev_next slot1 hs₁ (he ▸ hs₂)])
  have hpa₂ : mdb_prev ctes slot2 ≠ slot1 := fun he =>
    hadj₁ (by rw [← he, hwf.prev_next slot2 hs₂ (he ▸ hs₁)])
  refine mdb_wf.of_chains ?_ ?_ (hwf.null_unlinked_of fun p hp hpc => ?_)
  · rw [mdb_next_cte_swap_eq, mdb_prev_cte_swap_eq]
    exact hl.swap ht hs₁ hs₂ h₁₂ hadj₁ hadj₂
  · rw [mdb_next_cte_swap_eq]
    exact Terminates.swap hl ht hs₁ hs₂ h₁₂ hadj₁ hadj₂
  · rw [cap_of_cte_swap] at hpc
    by_cases hp₂ : p = slot2
    · -- `slot2` ends with `cap1` and `slot1`'s node
      subst hp₂
      rw [update_self] at hpc
      exact .inr (by
        rw [cte_swap_node_right ctes cap1 cap2 slot1 p (hl.prev_ne_self ht hs₂) (ht.next_ne_self hs₂), hc₁ hpc])
    by_cases hp₁ : p = slot1
    · subst hp₁
      rw [update_of_ne hp₂, update_self] at hpc
      exact .inr (by rw [cte_swap_node_left ctes cap1 cap2 p slot2 h₁₂ hpa₂ hadj₂, hc₂ hpc])
    rw [update_of_ne hp₂, update_of_ne hp₁] at hpc
    refine .inl (cte_swap_apply_of_ne ctes cap1 cap2 slot1 slot2 hp₁ hp₂ ?_ ?_ ?_ ?_) <;> intro he
    · exact hwf.cap_prev_ne_null hs₁ (he ▸ hp) (he ▸ hpc)
    · exact hwf.cap_next_ne_null hs₁ (he ▸ hp) (he ▸ hpc)
    · exact hwf.cap_prev_ne_null hs₂ (he ▸ hp) (he ▸ hpc)
    · exact hwf.cap_next_ne_null hs₂ (he ▸ hp) (he ▸ hpc)

end Swap

/-! ## The slots as the operations keep them -/

/-- The CNode a cap names, if it is a CNode cap. -/
def cap.cnode_ptr : cap → Option Nat
  | .cnode_cap _ _ _ capCNodePtr => some capCNodePtr
  | _ => none

/-- **The slots are well formed**: the derivation tree is, and no CNode cap
names address 0, which is no slot; every slot a lookup reaches is then a
slot. -/
structure cspace_wf (ctes : Nat → cte_t) : Prop where
  mdb : mdb_wf ctes
  cnode_ptr_ne : ∀ p, (cap_of ctes p).cnode_ptr ≠ some 0

/-- Slots that hold caps but no link of the tree are well formed, as long
as no cap names a CNode at address 0. -/
theorem cspace_wf_of_unlinked {ctes : Nat → cte_t} (hl : ∀ p, (ctes p).cteMDBNode = {})
    (hptr : ∀ p, (cap_of ctes p).cnode_ptr ≠ some 0) : cspace_wf ctes where
  mdb :=
    { next_prev := fun p _ hn => absurd (by simp [mdb_next, hl p]) hn
      prev_next := fun p _ hn => absurd (by simp [mdb_prev, hl p]) hn
      next_terminates := fun p => ⟨1, by simp [mdb_next, hl p]⟩
      null_unlinked := fun p _ _ => hl p }
  cnode_ptr_ne := hptr

/-- Storing a cap that names no CNode at address 0 keeps the second half. -/
theorem cnode_ptr_ne_update {f : Nat → cap} (hf : ∀ p, (f p).cnode_ptr ≠ some 0) {c : cap}
    (hc : c.cnode_ptr ≠ some 0) (q : Nat) : ∀ p, (Function.update f q c p).cnode_ptr ≠ some 0 := by
  intro p
  by_cases hp : p = q
  · subst hp
    simpa using hc
  · simpa [hp] using hf p

/-- `set_untyped_cap_as_full` rewrites an untyped cap as an untyped cap. -/
theorem set_untyped_cap_as_full_cnode_ptr {srcCap newCap : cap} {srcSlot : Nat} {ctes ctes' : Nat → cte_t}
    (h : set_untyped_cap_as_full srcCap newCap srcSlot ctes = some ctes') (q : Nat) :
    (cap_of ctes' q).cnode_ptr = (cap_of ctes q).cnode_ptr := by
  unfold set_untyped_cap_as_full at h
  split at h
  · split at h
    case h_1 hsrc =>
      split_ifs at h
      · cases h
        by_cases hq : q = srcSlot
        · subst hq
          simp [cap_of, hsrc, cap.cnode_ptr]
        · simp [hq, cap_of]
      · cases h
        rfl
    · cases h
  · cases h
    rfl

namespace cspace_wf

variable {ctes r : Nat → cte_t} (hwf : cspace_wf ctes)
include hwf

/-- `cte_insert` of a cap into a slot keeps the slots well formed. -/
theorem of_cte_insert {c : cap} {src dest : Nat} (h : cte_insert c src dest ctes = some r)
    (hsrc : src ≠ 0) (hdest : dest ≠ 0) (hc : c ≠ .null_cap) (hsc : cap_of ctes src ≠ .null_cap)
    (hptr : c.cnode_ptr ≠ some 0) : cspace_wf r := by
  refine ⟨cte_insert_mdb_wf hwf.mdb h hsrc hdest hc hsc, ?_⟩
  obtain ⟨-, -, -, ctes', hset, hcapr, -⟩ := cte_insert_spec h
  rw [hcapr]
  refine cnode_ptr_ne_update (fun p => ?_) hptr dest
  rw [set_untyped_cap_as_full_cnode_ptr hset p]
  exact hwf.cnode_ptr_ne p

/-- `cte_move` of a cap out of a slot that holds one keeps the slots well
formed: the destination is empty, so it is another slot. -/
theorem of_cte_move {c : cap} {src dest : Nat} (h : cte_move c src dest ctes = some r)
    (hsrc : src ≠ 0) (hdest : dest ≠ 0) (hc : c ≠ .null_cap) (hsc : cap_of ctes src ≠ .null_cap)
    (hptr : c.cnode_ptr ≠ some 0) : cspace_wf r := by
  obtain ⟨hdc, -, -, hcapr, -⟩ := cte_move_spec h
  have hsd : src ≠ dest := fun he => hsc (he ▸ hdc)
  refine ⟨cte_move_mdb_wf hwf.mdb h hsrc hdest hsd hc, ?_⟩
  rw [hcapr]
  exact cnode_ptr_ne_update (cnode_ptr_ne_update hwf.cnode_ptr_ne hptr dest) (by simp [cap.cnode_ptr]) src

/-- `cte_swap` of two caps between slots that are not neighbours keeps the
slots well formed. -/
theorem of_cte_swap {cap1 cap2 : cap} {slot1 slot2 : Nat} (hs₁ : slot1 ≠ 0) (hs₂ : slot2 ≠ 0)
    (h₁₂ : slot1 ≠ slot2) (hadj₁ : mdb_next ctes slot1 ≠ slot2) (hadj₂ : mdb_next ctes slot2 ≠ slot1)
    (hc₁ : cap1 ≠ .null_cap) (hc₂ : cap2 ≠ .null_cap) (hptr₁ : cap1.cnode_ptr ≠ some 0)
    (hptr₂ : cap2.cnode_ptr ≠ some 0) : cspace_wf (cte_swap cap1 slot1 cap2 slot2 ctes) := by
  refine ⟨cte_swap_mdb_wf hwf.mdb hs₁ hs₂ h₁₂ hadj₁ hadj₂ (absurd · hc₁) (absurd · hc₂), ?_⟩
  rw [cap_of_cte_swap]
  exact cnode_ptr_ne_update (cnode_ptr_ne_update hwf.cnode_ptr_ne hptr₂ slot1) hptr₁ slot2

/-- `set_empty` keeps the slots well formed. -/
theorem of_set_empty {slot : Nat} (hs : slot ≠ 0) : cspace_wf (set_empty slot ctes) := by
  refine ⟨set_empty_mdb_wf hwf.mdb hs, ?_⟩
  rw [cap_of_set_empty]
  split
  · exact hwf.cnode_ptr_ne
  · exact cnode_ptr_ne_update hwf.cnode_ptr_ne (by simp [cap.cnode_ptr]) slot

end cspace_wf

/-- Slot heaps that differ by emptying slots one after another, none of
them address 0: what finalising caps does to the slots. -/
inductive empties (ctes : Nat → cte_t) : (Nat → cte_t) → Prop
  | refl : empties ctes ctes
  | tail {ctes' : Nat → cte_t} {q : Nat} : empties ctes ctes' → q ≠ 0 → empties ctes (set_empty q ctes')

namespace empties

variable {ctes ctes' ctes'' : Nat → cte_t}

theorem of_eq (h : ctes' = ctes) : empties ctes ctes' := h ▸ .refl

theorem single {q : Nat} (hq : q ≠ 0) : empties ctes (set_empty q ctes) := .tail .refl hq

theorem trans (h₁ : empties ctes ctes') (h₂ : empties ctes' ctes'') : empties ctes ctes'' := by
  induction h₂ with
  | refl => exact h₁
  | tail _ hq ih => exact .tail ih hq

end empties

/-- Emptying slots keeps the slots well formed. -/
theorem cspace_wf.of_empties {ctes r : Nat → cte_t} (hwf : cspace_wf ctes) (h : empties ctes r) :
    cspace_wf r := by
  induction h with
  | refl => exact hwf
  | tail _ hq ih => exact ih.of_set_empty hq

/-! ## What follows a slot in the tree's list -/

/-- Emptying a slot puts no slot after another. -/
theorem follows_set_empty {ctes : Nat → cte_t} {slot p q : Nat} (hwf : mdb_wf ctes) (hs : slot ≠ 0)
    (h : Follows (mdb_next (set_empty slot ctes)) 0 p q) : Follows (mdb_next ctes) 0 p q := by
  by_cases hc : cap_of ctes slot = .null_cap
  · rwa [set_empty_of_null ctes slot hc] at h
  rw [mdb_next_set_empty_eq ctes slot hc] at h
  exact Follows.of_remove hwf.linked hs h

namespace empties

variable {ctes r : Nat → cte_t}

/-- Emptying slots puts no slot after another. -/
theorem follows (hwf : cspace_wf ctes) (he : empties ctes r) {p q : Nat}
    (h : Follows (mdb_next r) 0 p q) : Follows (mdb_next ctes) 0 p q := by
  induction he with
  | refl => exact h
  | tail he' hx ih => exact ih (follows_set_empty (hwf.of_empties he').mdb hx h)

/-- Emptying slots leaves each slot its cap, or no cap. -/
theorem cap_of_eq (he : empties ctes r) (q : Nat) :
    cap_of r q = cap_of ctes q ∨ cap_of r q = .null_cap := by
  induction he with
  | refl => exact .inl rfl
  | @tail ctes' x _ _ ih =>
    rw [cap_of_set_empty]
    split
    · exact ih
    · by_cases hq : q = x
      · subst hq
        exact .inr (update_self ..)
      · rw [update_of_ne hq]
        exact ih

end empties

end Rel4Kernel
