/-
Pointer chains: nodes of a heap threaded by a forward map `next` and a
backward map `prev`, with a null pointer `nil` that ends every chain.

Two properties make such a heap a set of well-formed doubly linked chains:
the links agree both ways (`Linked`), and following `next` from any node
reaches `nil` (`Terminates`). Termination is awkward to carry through a write,
since a write can lengthen every chain that passes the written node. It is
carried instead as a rank that every link from a node to a node lowers
(`Ranked`): a terminating map has one (`Terminates.ranked`), and a map with
one terminates (`terminates_of_ranked`). Each splice below then builds the
new rank from the old one in a line.

The splices are the three ways a chain is rewritten in place: a fresh node
put after another (`insert_after`), a node cut out (`remove`), and a
renaming of nodes (`conj`), which is what moving a node to a fresh place or
exchanging two nodes amounts to. Each keeps both properties. A removal also
puts no node on any chain: what follows a node afterwards (`Follows`, the
transitive closure of the links) followed it before (`Follows.of_remove`).
-/
import Mathlib

set_option autoImplicit false

namespace PointerChain

open Function

variable {α : Type*}

section Defs

variable (next prev : α → α) (nil : α)

/-- Following `next` from any node reaches `nil`. -/
def Terminates : Prop := ∀ p, ∃ n, next^[n] p = nil

/-- A rank that every link from a node to a node lowers. -/
def Ranked (r : α → ℕ) : Prop := ∀ p, p ≠ nil → next p ≠ nil → r (next p) < r p

/-- The forward and backward links agree between nodes. -/
structure Linked : Prop where
  next_prev : ∀ p, p ≠ nil → next p ≠ nil → prev (next p) = p
  prev_next : ∀ p, p ≠ nil → prev p ≠ nil → next (prev p) = p

/-- A forward link from a node to a node. -/
def Link (p q : α) : Prop := p ≠ nil ∧ q ≠ nil ∧ next p = q

/-- `q` lies further down `p`'s chain. -/
def Follows : α → α → Prop := Relation.TransGen (Link next nil)

end Defs

/-! ## Ranks -/

section Rank

variable {next : α → α} {nil : α}

/-- A rank that every link lowers bounds the walk: it reaches `nil`. -/
theorem terminates_of_ranked {r : α → ℕ} (h : Ranked next nil r) : Terminates next nil := by
  intro p
  -- strong induction on the rank of the start
  induction hk : r p using Nat.strong_induction_on generalizing p with
  | _ k ih =>
    by_cases hp : p = nil
    · exact ⟨0, hp⟩
    by_cases hn : next p = nil
    · exact ⟨1, hn⟩
    obtain ⟨n, hn'⟩ := ih (r (next p)) (hk ▸ h p hp hn) (next p) rfl
    exact ⟨n + 1, by rw [iterate_succ_apply]; exact hn'⟩

/-- A terminating map is ranked by the length of the walk from each node. -/
theorem Terminates.ranked (h : Terminates next nil) : ∃ r, Ranked next nil r := by
  classical
  refine ⟨fun p => Nat.find (h p), fun p hp hn => ?_⟩
  -- the walk from `p` is one step longer than the walk from `next p`
  obtain ⟨k, hk⟩ : ∃ k, Nat.find (h p) = k + 1 := by
    refine Nat.exists_eq_succ_of_ne_zero fun h0 => hp ?_
    have := Nat.find_spec (h p)
    rwa [h0, iterate_zero_apply] at this
  have hwalk : next^[k] (next p) = nil := by
    have := Nat.find_spec (h p)
    rwa [hk, iterate_succ_apply] at this
  show Nat.find (h (next p)) < Nat.find (h p)
  rw [hk]
  exact Nat.lt_succ_of_le (Nat.find_min' _ hwalk)

/-- No node is its own successor: the walk from it would never end. -/
theorem Terminates.next_ne_self (h : Terminates next nil) {p : α} (hp : p ≠ nil) : next p ≠ p := by
  intro hloop
  obtain ⟨n, hn⟩ := h p
  rw [iterate_fixed hloop] at hn
  exact hp hn

theorem Link.rank_lt {r : α → ℕ} (h : Ranked next nil r) {p q : α} (hl : Link next nil p q) : r q < r p := by
  obtain ⟨hp, hq, rfl⟩ := hl
  exact h p hp hq

/-- A rank that every link lowers is lower further down the chain. -/
theorem Follows.rank_lt {r : α → ℕ} (h : Ranked next nil r) {p q : α} (hpq : Follows next nil p q) :
    r q < r p := by
  induction hpq with
  | single hl => exact Link.rank_lt h hl
  | tail _ hl ih => exact lt_trans (Link.rank_lt h hl) ih

/-- A terminating chain has no cycle: no node lies further down its own
chain. -/
theorem Terminates.not_follows_self (h : Terminates next nil) (p : α) : ¬ Follows next nil p p := by
  obtain ⟨r, hr⟩ := h.ranked
  exact fun hp => lt_irrefl _ (Follows.rank_lt hr hp)

end Rank

/-! ## Linked chains -/

namespace Linked

variable {next prev : α → α} {nil : α} (hl : Linked next prev nil)
include hl

/-- A node with no predecessor is no node's successor. -/
theorem not_next_of_prev_nil {d : α} (hd : d ≠ nil) (hprev : prev d = nil) {q : α} (hq : q ≠ nil) :
    next q ≠ d := by
  intro he
  have := hl.next_prev q hq (he ▸ hd)
  rw [he, hprev] at this
  exact hq this.symm

/-- A node with no successor is no node's predecessor. -/
theorem not_prev_of_next_nil {d : α} (hd : d ≠ nil) (hnext : next d = nil) {q : α} (hq : q ≠ nil) :
    prev q ≠ d := by
  intro he
  have := hl.prev_next q hq (he ▸ hd)
  rw [he, hnext] at this
  exact hq this.symm

/-- Two nodes with the same successor are the same node. -/
theorem next_inj {p q : α} (hp : p ≠ nil) (hq : q ≠ nil) (hn : next p ≠ nil) (he : next p = next q) :
    p = q := by
  rw [← hl.next_prev p hp hn, ← hl.next_prev q hq (he ▸ hn), he]

/-- Two nodes with the same predecessor are the same node. -/
theorem prev_inj {p q : α} (hp : p ≠ nil) (hq : q ≠ nil) (hn : prev p ≠ nil) (he : prev p = prev q) :
    p = q := by
  rw [← hl.prev_next p hp hn, ← hl.prev_next q hq (he ▸ hn), he]

/-- With terminating forward links, no node is its own predecessor either. -/
theorem prev_ne_self (ht : Terminates next nil) {p : α} (hp : p ≠ nil) : prev p ≠ p := by
  intro hloop
  have h := hl.prev_next p hp (by rw [hloop]; exact hp)
  rw [hloop] at h
  exact ht.next_ne_self hp h

end Linked

/-! ## Putting a fresh node after another -/

section Insert

variable [DecidableEq α] {next prev : α → α} {nil s d p : α}

/-- The forward links once `d` is put after `s`. -/
def insert_next (next : α → α) (s d : α) : α → α := update (update next d (next s)) s d

/-- The backward links once `d` is put after `s`. -/
def insert_prev (next prev : α → α) (nil s d : α) : α → α :=
  if next s ≠ nil then update (update prev d s) (next s) d else update prev d s

@[simp] theorem insert_next_self : insert_next next s d s = d := update_self _ _ _

theorem insert_next_new (hsd : s ≠ d) : insert_next next s d d = next s := by
  simp [insert_next, Ne.symm hsd]

theorem insert_next_of_ne (hps : p ≠ s) (hpd : p ≠ d) : insert_next next s d p = next p := by
  simp [insert_next, hps, hpd]

theorem insert_prev_new (hsn : next s ≠ d) : insert_prev next prev nil s d d = s := by
  unfold insert_prev
  split_ifs <;> simp [Ne.symm hsn]

theorem insert_prev_next (hns : next s ≠ nil) : insert_prev next prev nil s d (next s) = d := by
  simp [insert_prev, hns]

theorem insert_prev_of_ne (hpd : p ≠ d) (hpn : p ≠ next s) : insert_prev next prev nil s d p = prev p := by
  unfold insert_prev
  split_ifs <;> simp [hpd, hpn]

section
variable (hl : Linked next prev nil) (hs : s ≠ nil) (hd : d ≠ nil) (hsd : s ≠ d)
  (hdn : next d = nil) (hdp : prev d = nil)
include hl hs hd hsd hdn hdp

/-- **Insertion keeps the links agreeing.** A fresh node, linked to nothing,
put after `s`. -/
theorem Linked.insert_after : Linked (insert_next next s d) (insert_prev next prev nil s d) nil := by
  have hsn : next s ≠ d := hl.not_next_of_prev_nil hd hdp hs
  constructor
  · intro p hp hn
    by_cases hps : p = s
    · rw [hps, insert_next_self, insert_prev_new hsn]
    by_cases hpd : p = d
    · -- the successor of `d` is the old successor of `s`
      rw [hpd, insert_next_new hsd] at hn ⊢
      exact insert_prev_next hn
    · -- any other node keeps its successor and is still its predecessor
      rw [insert_next_of_ne hps hpd] at hn ⊢
      have hpd' : next p ≠ d := hl.not_next_of_prev_nil hd hdp hp
      have hps' : next p ≠ next s := fun he => hps (hl.next_inj hp hs hn he)
      rw [insert_prev_of_ne hpd' hps', hl.next_prev p hp hn]
  · intro p hp hn
    by_cases hpn : p = next s ∧ next s ≠ nil
    · obtain ⟨rfl, hns⟩ := hpn
      rw [insert_prev_next hns, insert_next_new hsd]
    by_cases hpd : p = d
    · rw [hpd, insert_prev_new hsn, insert_next_self]
    · -- any other node keeps its predecessor, which is neither `s` nor `d`
      have hpn' : p ≠ next s := fun h => hpn ⟨h, h ▸ hp⟩
      rw [insert_prev_of_ne hpd hpn'] at hn ⊢
      have hpd' : prev p ≠ d := hl.not_prev_of_next_nil hd hdn hp
      have hps' : prev p ≠ s := by
        intro he
        have := hl.prev_next p hp hn
        rw [he] at this
        exact hpn' this.symm
      rw [insert_next_of_ne hps' hpd', hl.prev_next p hp hn]

omit hdn in
/-- **Insertion keeps the chains finite.** Every old node's rank doubles
and gains one; `d` sits just below `s`. -/
theorem Terminates.insert_after (ht : Terminates next nil) : Terminates (insert_next next s d) nil := by
  obtain ⟨r, hr⟩ := ht.ranked
  refine terminates_of_ranked (r := fun q => if q = d then 2 * r s else 2 * r q + 1) fun p hp hn => ?_
  by_cases hps : p = s
  · rw [hps, insert_next_self]
    beta_reduce
    rw [if_pos rfl, if_neg hsd]
    omega
  by_cases hpd : p = d
  · -- `d` points at the old successor of `s`, below `s`
    rw [hpd, insert_next_new hsd] at hn ⊢
    have hns' : next s ≠ d := hl.not_next_of_prev_nil hd hdp hs
    have := hr s hs hn
    beta_reduce
    rw [if_neg hns', if_pos rfl]
    omega
  · rw [insert_next_of_ne hps hpd] at hn ⊢
    have hpd' : next p ≠ d := hl.not_next_of_prev_nil hd hdp hp
    have := hr p hp hn
    beta_reduce
    rw [if_neg hpd', if_neg hpd]
    omega

end

end Insert

/-! ## Cutting a node out -/

section Remove

variable [DecidableEq α] {next prev : α → α} {nil x : α}

/-- The forward links once `x` is cut out: its predecessor skips it, and its
own link is cleared. -/
def remove_next (next prev : α → α) (nil x : α) : α → α :=
  update (if prev x ≠ nil then update next (prev x) (next x) else next) x nil

/-- The backward links once `x` is cut out. -/
def remove_prev (next prev : α → α) (nil x : α) : α → α :=
  update (if next x ≠ nil then update prev (next x) (prev x) else prev) x nil

/-- What `x`'s predecessor points at after the cut: `x`'s old successor. -/
theorem remove_next_of_ne {p : α} (hpx : p ≠ x) :
    remove_next next prev nil x p = if p = prev x ∧ prev x ≠ nil then next x else next p := by
  unfold remove_next
  rw [update_of_ne hpx]
  split_ifs with h₁ h₂ h₂ <;> simp_all

theorem remove_prev_of_ne {p : α} (hpx : p ≠ x) :
    remove_prev next prev nil x p = if p = next x ∧ next x ≠ nil then prev x else prev p := by
  unfold remove_prev
  rw [update_of_ne hpx]
  split_ifs with h₁ h₂ h₂ <;> simp_all

section
variable (hl : Linked next prev nil) (ht : Terminates next nil) (hx : x ≠ nil)
include hl ht hx

/-- **Removal keeps the links agreeing.** -/
theorem Linked.remove : Linked (remove_next next prev nil x) (remove_prev next prev nil x) nil := by
  have hxn : next x ≠ x := ht.next_ne_self hx
  have hxp : prev x ≠ x := hl.prev_ne_self ht hx
  constructor
  · intro p hp hn
    have hpx : p ≠ x := by rintro rfl; simp [remove_next] at hn
    rw [remove_next_of_ne hpx] at hn ⊢
    split_ifs at hn ⊢ with hpp
    · -- the predecessor now points at `x`'s successor
      obtain ⟨rfl, -⟩ := hpp
      rw [remove_prev_of_ne hxn, if_pos ⟨rfl, hn⟩]
    · -- another node keeps its successor, which is not `x`'s
      have hnx : next p ≠ x := by
        intro he
        have hpx' : prev x = p := he ▸ hl.next_prev p hp hn
        exact hpp ⟨hpx'.symm, hpx' ▸ hp⟩
      have hnn : ¬(next p = next x ∧ next x ≠ nil) := fun ⟨he, _⟩ => hpx (hl.next_inj hp hx hn he)
      rw [remove_prev_of_ne hnx, if_neg hnn, hl.next_prev p hp hn]
  · intro p hp hn
    have hpx : p ≠ x := by rintro rfl; simp [remove_prev] at hn
    rw [remove_prev_of_ne hpx] at hn ⊢
    split_ifs at hn ⊢ with hpn
    · obtain ⟨rfl, -⟩ := hpn
      rw [remove_next_of_ne hxp, if_pos ⟨rfl, hn⟩]
    · have hpx' : prev p ≠ x := by
        intro he
        have hnx : next x = p := he ▸ hl.prev_next p hp hn
        exact hpn ⟨hnx.symm, hnx ▸ hp⟩
      have hpp : ¬(prev p = prev x ∧ prev x ≠ nil) := fun ⟨he, _⟩ => hpx (hl.prev_inj hp hx hn he)
      rw [remove_next_of_ne hpx', if_neg hpp, hl.prev_next p hp hn]

/-- **Removal keeps the chains finite**, under the same rank: the
predecessor's new successor lies further down its old chain. -/
theorem Terminates.remove : Terminates (remove_next next prev nil x) nil := by
  obtain ⟨r, hr⟩ := ht.ranked
  refine terminates_of_ranked (r := r) fun p hp hn => ?_
  have hpx : p ≠ x := by rintro rfl; simp [remove_next] at hn
  rw [remove_next_of_ne hpx] at hn ⊢
  split_ifs at hn ⊢ with hpp
  · obtain ⟨rfl, hpx'⟩ := hpp
    calc r (next x) < r x := hr x hx hn
      _ = r (next (prev x)) := by rw [hl.prev_next x hx hpx']
      _ < r (prev x) := hr (prev x) hpx' (by rw [hl.prev_next x hx hpx']; exact hx)
  · exact hr p hp hn

end

section
variable (hl : Linked next prev nil) (hx : x ≠ nil)
include hl hx

/-- A link left after the cut stands for one or two old links: the
predecessor's new link passes over `x`. -/
theorem Follows.of_remove_link {a b : α} (h : Link (remove_next next prev nil x) nil a b) :
    Follows next nil a b := by
  obtain ⟨ha, hb, hab⟩ := h
  have hax : a ≠ x := by
    rintro rfl
    simp [remove_next] at hab
    exact hb hab.symm
  rw [remove_next_of_ne hax] at hab
  split_ifs at hab with hpx
  · obtain ⟨rfl, hpn⟩ := hpx
    exact .tail (.single ⟨ha, hx, hl.prev_next x hx hpn⟩) ⟨hx, hb, hab⟩
  · exact .single ⟨ha, hb, hab⟩

/-- **Removal puts no node on a chain**: what follows a node after the cut
followed it before. -/
theorem Follows.of_remove {p q : α} (h : Follows (remove_next next prev nil x) nil p q) :
    Follows next nil p q := by
  induction h with
  | single hab => exact Follows.of_remove_link hl hx hab
  | tail _ hbc ih => exact ih.trans (Follows.of_remove_link hl hx hbc)

end

end Remove

/-! ## Renaming nodes -/

section Conj

variable {next prev next' prev' : α → α} {nil : α} (σ : Equiv.Perm α) (hσ : σ nil = nil)
include hσ

theorem symm_apply_ne_nil {p : α} (hp : p ≠ nil) : σ.symm p ≠ nil := fun h =>
  hp (by rw [← σ.apply_symm_apply p, h, hσ])

/-- **Renaming keeps the links agreeing.** Links that are those of the old
chains read through a renaming of the nodes, wherever they leave a node. -/
theorem Linked.conj (hl : Linked next prev nil) (hn : ∀ p, p ≠ nil → next' p = σ (next (σ.symm p)))
    (hp : ∀ p, p ≠ nil → prev' p = σ (prev (σ.symm p))) : Linked next' prev' nil := by
  have hne : ∀ q, σ q ≠ nil → q ≠ nil := fun q h hq => h (by rw [hq, hσ])
  constructor
  · intro p hp0 hn0
    rw [hn p hp0] at hn0 ⊢
    rw [hp _ hn0, Equiv.symm_apply_apply,
      hl.next_prev _ (symm_apply_ne_nil σ hσ hp0) (hne _ hn0), Equiv.apply_symm_apply]
  · intro p hp0 hn0
    rw [hp p hp0] at hn0 ⊢
    rw [hn _ hn0, Equiv.symm_apply_apply,
      hl.prev_next _ (symm_apply_ne_nil σ hσ hp0) (hne _ hn0), Equiv.apply_symm_apply]

/-- **Renaming keeps the chains finite**, under the renamed rank. -/
theorem Terminates.conj (ht : Terminates next nil) (hn : ∀ p, p ≠ nil → next' p = σ (next (σ.symm p))) :
    Terminates next' nil := by
  obtain ⟨r, hr⟩ := ht.ranked
  refine terminates_of_ranked (r := fun p => r (σ.symm p)) fun p hp0 hn0 => ?_
  rw [hn p hp0] at hn0 ⊢
  have hq : next (σ.symm p) ≠ nil := fun h => hn0 (by rw [h, hσ])
  simpa using hr _ (symm_apply_ne_nil σ hσ hp0) hq

end Conj

/-! ## Linked chains read backwards -/

/-- The backward links of linked chains are linked chains with the forward
ones as their backward links. -/
theorem Linked.symm {next prev : α → α} {nil : α} (hl : Linked next prev nil) : Linked prev next nil :=
  ⟨hl.prev_next, hl.next_prev⟩

/-! ## Moving a node to a fresh place -/

section Move

variable [DecidableEq α] {next prev : α → α} {nil s d : α}

/-- A store made under a condition, read at a node it does not write. -/
theorem ite_update_apply_of_ne {f : α → α} {a b p : α} {c : Prop} [Decidable c] (h : c → p ≠ a) :
    (if c then update f a b else f) p = f p := by
  split_ifs with hc
  · exact update_of_ne (h hc) _ _
  · rfl

/-- The forward links once `s` has moved to the fresh `d`: `d` takes the
successor of `s`, `s` is cleared, and the predecessor of `s` points at `d`. -/
def move_next (next prev : α → α) (nil s d : α) : α → α :=
  let N := update (update next d (next s)) s nil
  if prev s ≠ nil then update N (prev s) d else N

/-- The backward links after the move are the forward ones read backwards. -/
def move_prev (next prev : α → α) (nil s d : α) : α → α := move_next prev next nil s d

/-- The move is the renaming of `s` as `d`, wherever a link leaves a node. -/
theorem move_next_eq (hl : Linked next prev nil) (hs : s ≠ nil) (hd : d ≠ nil) (hsd : s ≠ d)
    (hdn : next d = nil) (hdp : prev d = nil) (hns : next s ≠ s) (hps : prev s ≠ s) {p : α} (hp : p ≠ nil) :
    move_next next prev nil s d p = Equiv.swap s d (next (Equiv.swap s d p)) := by
  have hnd : next s ≠ d := hl.not_next_of_prev_nil hd hdp hs
  have hpd : prev s ≠ d := hl.not_prev_of_next_nil hd hdn hs
  have hnil : Equiv.swap s d nil = nil := Equiv.swap_apply_of_ne_of_ne (Ne.symm hs) (Ne.symm hd)
  unfold move_next
  by_cases hp_s : p = s
  · -- the old place is cleared
    subst hp_s
    rw [ite_update_apply_of_ne (fun _ => Ne.symm hps), update_self, Equiv.swap_apply_left, hdn, hnil]
  by_cases hpd' : p = d
  · -- the new place takes the old successor
    subst hpd'
    rw [ite_update_apply_of_ne (fun _ => Ne.symm hpd), update_of_ne hsd.symm, update_self,
      Equiv.swap_apply_right, Equiv.swap_apply_of_ne_of_ne hns hnd]
  rw [Equiv.swap_apply_of_ne_of_ne hp_s hpd']
  by_cases hpp : p = prev s ∧ prev s ≠ nil
  · -- the old predecessor points at the new place
    obtain ⟨rfl, hne⟩ := hpp
    rw [hl.prev_next s hs hne, Equiv.swap_apply_left, if_pos hne, update_self]
  · -- any other node keeps its successor, which is neither `s` nor `d`
    have hns' : next p ≠ s := by
      intro he
      have hps' : prev s = p := he ▸ hl.next_prev p hp (he ▸ hs)
      exact hpp ⟨hps'.symm, hps' ▸ hp⟩
    rw [Equiv.swap_apply_of_ne_of_ne hns' (hl.not_next_of_prev_nil hd hdp hp),
      ite_update_apply_of_ne (fun hne he => hpp ⟨he, hne⟩), update_of_ne hp_s, update_of_ne hpd']

section
variable (hl : Linked next prev nil) (ht : Terminates next nil) (hs : s ≠ nil) (hd : d ≠ nil) (hsd : s ≠ d)
  (hdn : next d = nil) (hdp : prev d = nil)
include hl ht hs hd hsd hdn hdp

theorem move_next_eq' {p : α} (hp : p ≠ nil) :
    move_next next prev nil s d p = (Equiv.swap s d) (next ((Equiv.swap s d).symm p)) := by
  rw [Equiv.symm_swap]
  exact move_next_eq hl hs hd hsd hdn hdp (ht.next_ne_self hs) (hl.prev_ne_self ht hs) hp

theorem move_prev_eq' {p : α} (hp : p ≠ nil) :
    move_prev next prev nil s d p = (Equiv.swap s d) (prev ((Equiv.swap s d).symm p)) := by
  rw [Equiv.symm_swap]
  exact move_next_eq hl.symm hs hd hsd hdp hdn (hl.prev_ne_self ht hs) (ht.next_ne_self hs) hp

/-- **A move keeps the links agreeing.** -/
theorem Linked.move : Linked (move_next next prev nil s d) (move_prev next prev nil s d) nil :=
  hl.conj (Equiv.swap s d) (Equiv.swap_apply_of_ne_of_ne (Ne.symm hs) (Ne.symm hd))
    (fun _ hp => move_next_eq' hl ht hs hd hsd hdn hdp hp) (fun _ hp => move_prev_eq' hl ht hs hd hsd hdn hdp hp)

/-- **A move keeps the chains finite.** -/
theorem Terminates.move : Terminates (move_next next prev nil s d) nil :=
  ht.conj (Equiv.swap s d) (Equiv.swap_apply_of_ne_of_ne (Ne.symm hs) (Ne.symm hd))
    (fun _ hp => move_next_eq' hl ht hs hd hsd hdn hdp hp)

end

end Move

/-! ## Exchanging two nodes -/

section Swap

variable [DecidableEq α] {next prev : α → α} {nil s₁ s₂ : α}

/-- The forward links once `s₁` and `s₂` have exchanged places, in the order
`cte_swap` makes its stores: the neighbours of `s₁` are pointed at `s₂`,
the two nodes' links are exchanged, then the neighbours `s₂` had are
pointed at `s₁`. -/
def swap_next (next prev : α → α) (nil s₁ s₂ : α) : α → α :=
  let N₁ := if prev s₁ ≠ nil then update next (prev s₁) s₂ else next
  let N₂ := update (update N₁ s₁ (next s₂)) s₂ (next s₁)
  if prev s₂ ≠ nil then update N₂ (prev s₂) s₁ else N₂

/-- The backward links after the exchange are the forward ones read backwards. -/
def swap_prev (next prev : α → α) (nil s₁ s₂ : α) : α → α := swap_next prev next nil s₁ s₂

/-- Between two nodes that are not neighbours, the exchange is the renaming
of each as the other, wherever a link leaves a node. -/
theorem swap_next_eq (hl : Linked next prev nil) (hs₁ : s₁ ≠ nil) (hs₂ : s₂ ≠ nil) (h₁₂ : s₁ ≠ s₂)
    (hn₁ : next s₁ ≠ s₁) (hn₂ : next s₂ ≠ s₂) (hp₂ : prev s₂ ≠ s₂)
    (hadj₁ : next s₁ ≠ s₂) (hadj₂ : next s₂ ≠ s₁) {p : α} (hp : p ≠ nil) :
    swap_next next prev nil s₁ s₂ p = Equiv.swap s₁ s₂ (next (Equiv.swap s₁ s₂ p)) := by
  -- the predecessor of `s₂` is not `s₁`: they are not neighbours
  have hpa₂ : prev s₂ ≠ s₁ := fun he => hadj₁ (by rw [← he, hl.prev_next s₂ hs₂ (he ▸ hs₁)])
  unfold swap_next
  by_cases hq₁ : p = s₁
  · subst hq₁
    rw [ite_update_apply_of_ne (fun _ => Ne.symm hpa₂), update_of_ne h₁₂, update_self,
      Equiv.swap_apply_left, Equiv.swap_apply_of_ne_of_ne hadj₂ hn₂]
  by_cases hq₂ : p = s₂
  · subst hq₂
    rw [ite_update_apply_of_ne (fun _ => Ne.symm hp₂), update_self,
      Equiv.swap_apply_right, Equiv.swap_apply_of_ne_of_ne hn₁ hadj₁]
  rw [Equiv.swap_apply_of_ne_of_ne hq₁ hq₂]
  by_cases hr₂ : p = prev s₂ ∧ prev s₂ ≠ nil
  · -- the old predecessor of `s₂` points at `s₁`
    obtain ⟨rfl, hne⟩ := hr₂
    rw [hl.prev_next s₂ hs₂ hne, Equiv.swap_apply_right, if_pos hne, update_self]
  rw [ite_update_apply_of_ne (fun hne he => hr₂ ⟨he, hne⟩), update_of_ne hq₂, update_of_ne hq₁]
  by_cases hr₁ : p = prev s₁ ∧ prev s₁ ≠ nil
  · -- the old predecessor of `s₁` points at `s₂`
    obtain ⟨rfl, hne⟩ := hr₁
    rw [hl.prev_next s₁ hs₁ hne, Equiv.swap_apply_left, if_pos hne, update_self]
  · -- any other node keeps its successor, which is neither node
    rw [ite_update_apply_of_ne (fun hne he => hr₁ ⟨he, hne⟩)]
    have hn₁' : next p ≠ s₁ := by
      intro he
      have h' : prev s₁ = p := he ▸ hl.next_prev p hp (he ▸ hs₁)
      exact hr₁ ⟨h'.symm, h' ▸ hp⟩
    have hn₂' : next p ≠ s₂ := by
      intro he
      have h' : prev s₂ = p := he ▸ hl.next_prev p hp (he ▸ hs₂)
      exact hr₂ ⟨h'.symm, h' ▸ hp⟩
    rw [Equiv.swap_apply_of_ne_of_ne hn₁' hn₂']

section
variable (hl : Linked next prev nil) (ht : Terminates next nil) (hs₁ : s₁ ≠ nil) (hs₂ : s₂ ≠ nil)
  (h₁₂ : s₁ ≠ s₂) (hadj₁ : next s₁ ≠ s₂) (hadj₂ : next s₂ ≠ s₁)
include hl ht hs₁ hs₂ h₁₂ hadj₁ hadj₂

theorem swap_next_eq' {p : α} (hp : p ≠ nil) :
    swap_next next prev nil s₁ s₂ p = Equiv.swap s₁ s₂ (next ((Equiv.swap s₁ s₂).symm p)) := by
  rw [Equiv.symm_swap]
  exact swap_next_eq hl hs₁ hs₂ h₁₂ (ht.next_ne_self hs₁) (ht.next_ne_self hs₂) (hl.prev_ne_self ht hs₂)
    hadj₁ hadj₂ hp

theorem swap_prev_eq' {p : α} (hp : p ≠ nil) :
    swap_prev next prev nil s₁ s₂ p = Equiv.swap s₁ s₂ (prev ((Equiv.swap s₁ s₂).symm p)) := by
  rw [Equiv.symm_swap]
  -- read backwards, neighbours are still neighbours
  have hpa₁ : prev s₁ ≠ s₂ := fun he => hadj₂ (by rw [← he, hl.prev_next s₁ hs₁ (he ▸ hs₂)])
  have hpa₂ : prev s₂ ≠ s₁ := fun he => hadj₁ (by rw [← he, hl.prev_next s₂ hs₂ (he ▸ hs₁)])
  exact swap_next_eq hl.symm hs₁ hs₂ h₁₂ (hl.prev_ne_self ht hs₁) (hl.prev_ne_self ht hs₂)
    (ht.next_ne_self hs₂) hpa₁ hpa₂ hp

/-- **Exchanging two nodes that are not neighbours keeps the links agreeing.** -/
theorem Linked.swap : Linked (swap_next next prev nil s₁ s₂) (swap_prev next prev nil s₁ s₂) nil :=
  hl.conj (Equiv.swap s₁ s₂) (Equiv.swap_apply_of_ne_of_ne (Ne.symm hs₁) (Ne.symm hs₂))
    (fun _ hp => swap_next_eq' hl ht hs₁ hs₂ h₁₂ hadj₁ hadj₂ hp)
    (fun _ hp => swap_prev_eq' hl ht hs₁ hs₂ h₁₂ hadj₁ hadj₂ hp)

/-- **Exchanging two nodes that are not neighbours keeps the chains finite.** -/
theorem Terminates.swap : Terminates (swap_next next prev nil s₁ s₂) nil :=
  ht.conj (Equiv.swap s₁ s₂) (Equiv.swap_apply_of_ne_of_ne (Ne.symm hs₁) (Ne.symm hs₂))
    (fun _ hp => swap_next_eq' hl ht hs₁ hs₂ h₁₂ hadj₁ hadj₂ hp)

end

end Swap

end PointerChain
