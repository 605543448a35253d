/-
Doubly linked lists threaded through a heap.

A kernel queue is not a value: it is a pair of end pointers together with a
forward and a backward link stored inside every member, all of them plain
words in which a distinguished `nil` means "none". `Seg next prev p xs q`
says that the heap, read through `next` and `prev`, threads the list `xs`
between the outside neighbours `p` (before the first member) and `q` (after
the last one). `Queue` adds the two end pointers and what a well-formed queue
needs besides the links: no member twice, and `nil` not a member.

Everything a queue implementation does is one of three pointer surgeries:
link a node between two neighbours (at the back and at the front are the two
extreme cases), or unlink a node. Each has one lemma here, stated over the
`next`/`prev` functions after the surgery, so that an implementation only has
to show that its writes produce those functions. Nothing in this file knows
what the nodes are.
-/
import Mathlib

set_option autoImplicit false

namespace HeapList

variable {α : Type*}

/-! ## Segments -/

section Seg

variable (next prev : α → α)

/-- The list `xs` is threaded through `next`/`prev`: each member points back at
its predecessor (`p` for the first) and forward at its successor (`q` for the
last). -/
def Seg : α → List α → α → Prop
  | _, [], _ => True
  | p, a :: l, q => prev a = p ∧ next a = l.head?.getD q ∧ Seg a l q

@[simp] theorem seg_nil (p q : α) : Seg next prev p [] q := trivial

@[simp] theorem seg_cons (p a q : α) (l : List α) :
    Seg next prev p (a :: l) q ↔ prev a = p ∧ next a = l.head?.getD q ∧ Seg next prev a l q :=
  Iff.rfl

theorem seg_singleton (p a q : α) :
    Seg next prev p [a] q ↔ prev a = p ∧ next a = q := by
  simp

private theorem head?_append_getD (l ys : List α) (q : α) :
    (l ++ ys).head?.getD q = l.head?.getD (ys.head?.getD q) := by
  cases l <;> simp

/-- **Splitting a segment.** The two halves of `xs ++ ys` meet at the last
member of `xs` and the first member of `ys`. Every surgery lemma below is this
equivalence applied on both sides of the node that changes. -/
theorem seg_append (p q : α) (xs ys : List α) :
    Seg next prev p (xs ++ ys) q ↔
      Seg next prev p xs (ys.head?.getD q) ∧ Seg next prev (xs.getLast?.getD p) ys q := by
  induction xs generalizing p with
  | nil => simp
  | cons a l ih =>
      simp only [List.cons_append, seg_cons, ih, head?_append_getD]
      have hlast : (a :: l).getLast?.getD p = l.getLast?.getD a := by
        rw [← List.getLastD_eq_getLast?, ← List.getLastD_eq_getLast?, List.getLastD_cons]
      rw [hlast]
      tauto

end Seg

variable {next prev next' prev' : α → α}

private theorem eq_nil_or_snoc (xs : List α) : xs = [] ∨ ∃ ys x, xs = ys ++ [x] := by
  rcases List.eq_nil_or_concat xs with h | ⟨ys, x, h⟩
  · exact .inl h
  · exact .inr ⟨ys, x, by rw [h, List.concat_eq_append]⟩

/-- **Frame.** A segment only reads the links of its own members. -/
theorem seg_congr {p q : α} {xs : List α}
    (hn : ∀ a ∈ xs, next' a = next a) (hp : ∀ a ∈ xs, prev' a = prev a)
    (h : Seg next prev p xs q) : Seg next' prev' p xs q := by
  induction xs generalizing p with
  | nil => trivial
  | cons a l ih =>
      obtain ⟨h1, h2, h3⟩ := h
      refine ⟨?_, ?_, ih (fun b hb => hn b (by simp [hb])) (fun b hb => hp b (by simp [hb])) h3⟩
      · rw [hp a (by simp), h1]
      · rw [hn a (by simp), h2]

/-- Moving the forward end of a segment: only the last member's forward link
changes. -/
theorem seg_retarget {p q q' : α} {xs : List α} (hnd : xs.Nodup)
    (h : Seg next prev p xs q)
    (hn : ∀ a ∈ xs, a ≠ xs.getLast?.getD p → next' a = next a)
    (hlast : xs ≠ [] → next' (xs.getLast?.getD p) = q')
    (hp : ∀ a ∈ xs, prev' a = prev a) : Seg next' prev' p xs q' := by
  rcases eq_nil_or_snoc xs with rfl | ⟨ys, x, rfl⟩
  · trivial
  · have hx : (ys ++ [x]).getLast?.getD p = x := by simp
    rw [hx] at hn hlast
    have hxys : x ∉ ys := by
      have := List.nodup_append.mp hnd
      intro hmem
      exact this.2.2 x hmem x (by simp) rfl
    rw [seg_append] at h ⊢
    obtain ⟨hys, hxseg⟩ := h
    refine ⟨seg_congr (fun a ha => hn a (by simp [ha]) (fun e => hxys (e ▸ ha)))
      (fun a ha => hp a (by simp [ha])) hys, ?_⟩
    rw [seg_singleton] at hxseg ⊢
    exact ⟨by rw [hp x (by simp), hxseg.1], hlast (by simp)⟩

/-- Moving the backward end of a segment: only the first member's backward
link changes. -/
theorem seg_reanchor {p p' q : α} {xs : List α}
    (h : Seg next prev p xs q)
    (hn : ∀ a ∈ xs, next' a = next a)
    (hp : ∀ a ∈ xs, a ≠ xs.head?.getD q → prev' a = prev a)
    (hfirst : xs ≠ [] → prev' (xs.head?.getD q) = p')
    (hnd : xs.Nodup) : Seg next' prev' p' xs q := by
  cases xs with
  | nil => trivial
  | cons a l =>
      obtain ⟨_, h2, h3⟩ := h
      have hal : a ∉ l := (List.nodup_cons.mp hnd).1
      refine ⟨hfirst (by simp), by rw [hn a (by simp), h2], ?_⟩
      exact seg_congr (fun b hb => hn b (by simp [hb]))
        (fun b hb => hp b (by simp [hb]) (by simp; rintro rfl; exact hal hb)) h3

/-! ## Queues -/

/-- A queue with end pointers `hd` and `tl` holding exactly the list `xs`. -/
structure Queue (next prev : α → α) (nil hd tl : α) (xs : List α) : Prop where
  seg : Seg next prev nil xs nil
  nodup : xs.Nodup
  nil_not_mem : nil ∉ xs
  head_eq : hd = xs.head?.getD nil
  tail_eq : tl = xs.getLast?.getD nil

namespace Queue

variable {nil hd tl : α} {xs : List α}

/-- Both ends at `nil` hold the empty queue. -/
theorem empty : Queue next prev nil nil nil [] :=
  ⟨trivial, List.nodup_nil, List.not_mem_nil, rfl, rfl⟩

theorem eq_nil_iff (hq : Queue next prev nil hd tl xs) : hd = nil ↔ xs = [] := by
  constructor
  · intro h
    cases xs with
    | nil => rfl
    | cons a l =>
        have : a = nil := by simpa [hq.head_eq] using h
        exact absurd (this ▸ List.mem_cons_self) hq.nil_not_mem
  · rintro rfl
    simpa using hq.head_eq

/-- The first member of a non-empty queue has no predecessor. -/
theorem prev_head (hq : Queue next prev nil hd tl xs) (hne : xs ≠ []) : prev hd = nil := by
  cases xs with
  | nil => exact absurd rfl hne
  | cons a l =>
      have h := hq.seg
      simp only [seg_cons] at h
      rw [hq.head_eq]
      simpa using h.1

theorem mem_ne_nil (hq : Queue next prev nil hd tl xs) {a : α} (ha : a ∈ xs) : a ≠ nil := by
  rintro rfl
  exact hq.nil_not_mem ha

/-! ## The two surgeries -/

private theorem ne_of_mem_append_left {l r : List α} (hnd : (l ++ r).Nodup) {a b : α}
    (ha : a ∈ l) (hb : b ∈ r) : a ≠ b := by
  rintro rfl
  exact (List.nodup_append.mp hnd).2.2 a ha a hb rfl

theorem getLast?_getD_mem {l : List α} {nil : α} (hne : l ≠ []) :
    l.getLast?.getD nil ∈ l := by
  obtain ⟨ys, x, rfl⟩ := (eq_nil_or_snoc l).resolve_left hne
  simp

theorem head?_getD_mem {l : List α} {nil : α} (hne : l ≠ []) :
    l.head?.getD nil ∈ l := by
  cases l with
  | nil => exact absurd rfl hne
  | cons a l => simp

/-- A run of members has a `nil` last exactly when it is empty. -/
theorem getLast?_getD_eq_nil_iff (hq : Queue next prev nil hd tl xs) {l : List α} (hl : l ⊆ xs) :
    l.getLast?.getD nil = nil ↔ l = [] := by
  refine ⟨fun h => ?_, fun h => by rw [h]; rfl⟩
  by_contra hne
  exact hq.mem_ne_nil (hl (getLast?_getD_mem hne)) h

/-- A run of members has a `nil` first exactly when it is empty. -/
theorem head?_getD_eq_nil_iff (hq : Queue next prev nil hd tl xs) {r : List α} (hr : r ⊆ xs) :
    r.head?.getD nil = nil ↔ r = [] := by
  refine ⟨fun h => ?_, fun h => by rw [h]; rfl⟩
  by_contra hne
  exact hq.mem_ne_nil (hr (head?_getD_mem hne)) h

/-- Of a split of members with no repeats, a member on the left is not the
first on the right, `nil` when there is none. -/
theorem ne_head_of_mem_left {l r : List α} (hnd : (l ++ r).Nodup) (hnil : ∀ a ∈ l ++ r, a ≠ nil)
    {a : α} (ha : a ∈ l) : a ≠ r.head?.getD nil := by
  by_cases hr : r = []
  · subst hr
    simpa using hnil a (List.mem_append_left _ ha)
  · exact ne_of_mem_append_left hnd ha (head?_getD_mem hr)

/-- Of a split of members with no repeats, a member on the right is not the
last on the left, `nil` when there is none. -/
theorem ne_getLast_of_mem_right {l r : List α} (hnd : (l ++ r).Nodup) (hnil : ∀ a ∈ l ++ r, a ≠ nil)
    {a : α} (ha : a ∈ r) : a ≠ l.getLast?.getD nil := by
  by_cases hl : l = []
  · subst hl
    simpa using hnil a (List.mem_append_right _ ha)
  · exact (ne_of_mem_append_left hnd (getLast?_getD_mem hl) ha).symm

theorem tail_mem (hq : Queue next prev nil hd tl xs) (hne : xs ≠ []) : tl ∈ xs :=
  hq.tail_eq ▸ getLast?_getD_mem hne

theorem head_mem (hq : Queue next prev nil hd tl xs) (hne : xs ≠ []) : hd ∈ xs :=
  hq.head_eq ▸ head?_getD_mem hne

/-- **Linking a node between two neighbours.** `before` is the last member of
`l` and `after` the first of `r` (`nil` when there is none); the node `t` gets
them as its links, they get `t`, and the end pointers move when a neighbour is
missing. Appending at the back is `r = []`. -/
theorem insert [DecidableEq α] (next' prev' : α → α) {l r : List α}
    (hq : Queue next prev nil hd tl (l ++ r))
    {t : α} (ht : t ∉ l ++ r) (htn : t ≠ nil)
    (hn : ∀ a ∈ l ++ r, a ≠ l.getLast?.getD nil → next' a = next a)
    (hp : ∀ a ∈ l ++ r, a ≠ r.head?.getD nil → prev' a = prev a)
    (hbefore : l ≠ [] → next' (l.getLast?.getD nil) = t)
    (hafter : r ≠ [] → prev' (r.head?.getD nil) = t)
    (hnt : next' t = r.head?.getD nil) (hpt : prev' t = l.getLast?.getD nil) :
    Queue next' prev' nil (if l = [] then t else hd) (if r = [] then t else tl)
      (l ++ t :: r) := by
  have hnd := hq.nodup
  have hseg := (seg_append next prev nil nil l r).mp hq.seg
  -- a member of `l` is not the first of `r`, a member of `r` is not the last of `l`
  have hl_after : ∀ a ∈ l, a ≠ r.head?.getD nil := fun a ha =>
    ne_head_of_mem_left hnd (fun b hb => hq.mem_ne_nil hb) ha
  have hr_before : ∀ a ∈ r, a ≠ l.getLast?.getD nil := fun a ha =>
    ne_getLast_of_mem_right hnd (fun b hb => hq.mem_ne_nil hb) ha
  refine ⟨?_, ?_, ?_, ?_, ?_⟩
  · rw [seg_append]
    refine ⟨?_, ?_⟩
    · exact seg_retarget (List.nodup_append.mp hnd).1 hseg.1
        (fun a ha hne => hn a (List.mem_append_left _ ha) hne) hbefore
        (fun a ha => hp a (List.mem_append_left _ ha) (hl_after a ha))
    · refine ⟨hpt, hnt, ?_⟩
      exact seg_reanchor hseg.2
        (fun a ha => hn a (List.mem_append_right _ ha) (hr_before a ha))
        (fun a ha hne => hp a (List.mem_append_right _ ha) hne) hafter
        (List.nodup_append.mp hnd).2.1
  · rw [List.nodup_append] at hnd ⊢
    refine ⟨hnd.1, List.nodup_cons.mpr ⟨fun h => ht (by simp [h]), hnd.2.1⟩, ?_⟩
    intro a ha b hb
    rcases List.mem_cons.mp hb with rfl | hb
    · rintro rfl; exact ht (by simp [ha])
    · exact hnd.2.2 a ha b hb
  · intro h
    rcases List.mem_append.mp h with h | h
    · exact hq.nil_not_mem (List.mem_append_left _ h)
    · rcases List.mem_cons.mp h with h | h
      · exact htn h.symm
      · exact hq.nil_not_mem (List.mem_append_right _ h)
  · cases l with
    | nil => simp
    | cons a l => simp [hq.head_eq]
  · rcases eq_nil_or_snoc r with rfl | ⟨ys, x, rfl⟩
    · simp
    · rw [if_neg (by simp), hq.tail_eq,
        show l ++ t :: (ys ++ [x]) = (l ++ t :: ys) ++ [x] by simp,
        show l ++ (ys ++ [x]) = (l ++ ys) ++ [x] by simp,
        List.getLast?_concat, List.getLast?_concat]

/-- A member's links are its neighbours in the list, `nil` at an end. -/
theorem links_of_split {l r : List α} {t : α} (hq : Queue next prev nil hd tl (l ++ t :: r)) :
    prev t = l.getLast?.getD nil ∧ next t = r.head?.getD nil := by
  obtain ⟨-, htprev, htnext, -⟩ := (seg_append next prev nil nil l (t :: r)).mp hq.seg
  exact ⟨htprev, htnext⟩

theorem prev_ne_self {l r : List α} {t : α} (hq : Queue next prev nil hd tl (l ++ t :: r)) :
    prev t ≠ t := by
  rw [(links_of_split hq).1]
  by_cases hl : l = []
  · subst hl
    exact (hq.mem_ne_nil (by simp)).symm
  · exact ne_of_mem_append_left hq.nodup (getLast?_getD_mem hl) (by simp)

/-- **Unlinking a node.** Its predecessor takes its forward link and its
successor its backward link, an end pointer moving where one of them is
missing; the node's own links are not touched. -/
theorem unlink [DecidableEq α] (next' prev' : α → α) {l r : List α} {t : α}
    (hq : Queue next prev nil hd tl (l ++ t :: r))
    (hn : ∀ a ∈ l ++ r, a ≠ prev t → next' a = next a)
    (hp : ∀ a ∈ l ++ r, a ≠ next t → prev' a = prev a)
    (hprev : prev t ≠ nil → next' (prev t) = next t)
    (hnext : next t ≠ nil → prev' (next t) = prev t) :
    Queue next' prev' nil (if prev t = nil then next t else hd)
      (if next t = nil then prev t else tl) (l ++ r) := by
  have hnd := hq.nodup
  have hseg := (seg_append next prev nil nil l (t :: r)).mp hq.seg
  obtain ⟨hsl, htprev, htnext, hsr⟩ := hseg
  simp only [List.head?_cons, Option.getD_some] at hsl
  have hnd' : (l ++ r).Nodup := List.Nodup.sublist (by simp) hnd
  have htl : t ∉ l := by
    intro h; exact (List.nodup_append.mp hnd).2.2 t h t (by simp) rfl
  have htr : t ∉ r := by
    intro h; exact (List.nodup_cons.mp (List.nodup_append.mp hnd).2.1).1 h
  have hnil : ∀ a ∈ l ++ r, a ≠ nil := fun a ha => hq.mem_ne_nil (by
    rcases List.mem_append.mp ha with h | h
    · exact List.mem_append_left _ h
    · exact List.mem_append_right _ (List.mem_cons_of_mem _ h))
  have hl_after : ∀ a ∈ l, a ≠ next t := fun a ha => htnext ▸ ne_head_of_mem_left hnd' hnil ha
  have hr_before : ∀ a ∈ r, a ≠ prev t := fun a ha => htprev ▸ ne_getLast_of_mem_right hnd' hnil ha
  refine ⟨?_, hnd', fun h => hnil nil h rfl, ?_, ?_⟩
  · rw [seg_append]
    refine ⟨?_, ?_⟩
    · refine seg_retarget (List.nodup_append.mp hnd).1 hsl
        (fun a ha hne => hn a (List.mem_append_left _ ha) (htprev ▸ hne)) ?_
        (fun a ha => hp a (List.mem_append_left _ ha) (hl_after a ha))
      intro hl
      rw [← htnext, ← htprev]
      exact hprev (htprev ▸ hnil _ (List.mem_append_left _ (getLast?_getD_mem hl)))
    · refine seg_reanchor hsr
        (fun a ha => hn a (List.mem_append_right _ ha) (hr_before a ha))
        (fun a ha hne => hp a (List.mem_append_right _ ha) (htnext ▸ hne)) ?_
        (List.nodup_cons.mp (List.nodup_append.mp hnd).2.1).2
      intro hr
      rw [← htnext, ← htprev]
      exact hnext (htnext ▸ hnil _ (List.mem_append_right _ (head?_getD_mem hr)))
  · rw [hq.head_eq, htprev]
    cases l with
    | nil => simp [htnext]
    | cons a l =>
        have : (a :: l).getLast?.getD nil ≠ nil :=
          hnil _ (List.mem_append_left _ (getLast?_getD_mem (by simp)))
        simp [this]
  · rw [hq.tail_eq, htnext]
    rcases eq_nil_or_snoc r with rfl | ⟨ys, x, rfl⟩
    · simp [htprev]
    · have : (ys ++ [x]).head?.getD nil ≠ nil :=
        hnil _ (List.mem_append_right _ (head?_getD_mem (by simp)))
      rw [if_neg this,
        show l ++ t :: (ys ++ [x]) = (l ++ t :: ys) ++ [x] by simp,
        show l ++ (ys ++ [x]) = (l ++ ys) ++ [x] by simp,
        List.getLast?_concat, List.getLast?_concat]

/-- **Frame.** A queue only reads the links of its own members. -/
theorem congr (hq : Queue next prev nil hd tl xs) (hn : ∀ a ∈ xs, next' a = next a)
    (hp : ∀ a ∈ xs, prev' a = prev a) : Queue next' prev' nil hd tl xs :=
  ⟨seg_congr hn hp hq.seg, hq.nodup, hq.nil_not_mem, hq.head_eq, hq.tail_eq⟩

section Split

variable {l r : List α} {t : α} (hq : Queue next prev nil hd tl (l ++ t :: r))
include hq

/-- A member has no predecessor exactly when it is the first. -/
theorem prev_eq_nil_iff : prev t = nil ↔ l = [] := by
  rw [(links_of_split hq).1]
  exact hq.getLast?_getD_eq_nil_iff (List.subset_append_left l (t :: r))

/-- A member has no successor exactly when it is the last. -/
theorem next_eq_nil_iff : next t = nil ↔ r = [] := by
  rw [(links_of_split hq).2]
  exact hq.head?_getD_eq_nil_iff fun a ha => List.mem_append_right l (List.mem_cons_of_mem t ha)

/-- A predecessor is a member before. -/
theorem prev_mem (h : prev t ≠ nil) : prev t ∈ l := by
  rw [(links_of_split hq).1] at h ⊢
  by_cases hl : l = []
  · subst hl; exact absurd rfl h
  · exact getLast?_getD_mem hl

/-- A successor is a member after. -/
theorem next_mem (h : next t ≠ nil) : next t ∈ r := by
  rw [(links_of_split hq).2] at h ⊢
  by_cases hr : r = []
  · subst hr; exact absurd rfl h
  · exact head?_getD_mem hr

theorem next_ne_self : next t ≠ t := by
  intro h
  by_cases hn : next t = nil
  · exact hq.mem_ne_nil (by simp) (h ▸ hn)
  · -- `t` would occur after itself
    have hmem := next_mem hq hn
    rw [h] at hmem
    exact (List.nodup_cons.mp (List.nodup_append.mp hq.nodup).2.1).1 hmem

/-- A member is the head exactly when it is the first. -/
theorem head_eq_iff : hd = t ↔ l = [] := by
  rw [hq.head_eq]
  cases l with
  | nil => simp
  | cons a l =>
      simp only [List.cons_append, List.head?_cons, Option.getD_some, reduceCtorEq, iff_false]
      rintro rfl
      -- `a` would occur twice
      have hnd := hq.nodup
      rw [List.cons_append, List.nodup_cons] at hnd
      exact hnd.1 (by simp)

/-- A member is the tail exactly when it is the last. -/
theorem tail_eq_iff : tl = t ↔ r = [] := by
  rw [hq.tail_eq]
  rcases eq_nil_or_snoc r with rfl | ⟨ys, x, rfl⟩
  · simp
  · have hsplit : l ++ t :: (ys ++ [x]) = (l ++ t :: ys) ++ [x] := by simp
    have hnd := hq.nodup
    rw [hsplit] at hnd ⊢
    simp only [List.getLast?_concat, Option.getD_some, List.append_eq_nil_iff, List.cons_ne_nil,
      and_false, iff_false]
    rintro rfl
    -- `x` would occur twice
    exact (List.nodup_append.mp hnd).2.2 x (by simp) x (by simp) rfl

end Split

end Queue

/-- The last member of a list, or `nil` for the empty list: a member unless
it is `nil`. -/
theorem getLast?_getD_mem_of_ne {l : List α} {nil : α} (h : l.getLast?.getD nil ≠ nil) :
    l.getLast?.getD nil ∈ l := by
  cases l with
  | nil => exact absurd rfl h
  | cons a l => exact Queue.getLast?_getD_mem (List.cons_ne_nil a l)

/-- The first member of a list, or `nil`: a member unless it is `nil`. -/
theorem head?_getD_mem_of_ne {l : List α} {nil : α} (h : l.head?.getD nil ≠ nil) :
    l.head?.getD nil ∈ l := by
  cases l with
  | nil => exact absurd rfl h
  | cons a l => simp

/-! ## Walking a queue -/

private theorem rdropWhile_append_of_forall {P : α → Bool} {l zs : List α} (hz : ∀ z ∈ zs, P z) :
    (l ++ zs).rdropWhile P = l.rdropWhile P := by
  simp only [List.rdropWhile, List.reverse_append]
  rw [List.dropWhile_append_of_pos (by simpa using hz)]

private theorem rtakeWhile_append_of_forall {P : α → Bool} {l zs : List α} (hz : ∀ z ∈ zs, P z) :
    (l ++ zs).rtakeWhile P = l.rtakeWhile P ++ zs := by
  simp only [List.rtakeWhile, List.reverse_append]
  rw [List.takeWhile_append_of_pos (by simpa using hz), List.reverse_append, List.reverse_reverse]

section Walk

variable {σ : Type*} [DecidableEq α] (nil : α) (step : σ → α → σ × α)

/-- A loop over the nodes of a list threaded through a heap: from node `p`
until `nil`, `step` updates the state and names the next node. It runs at
most `fuel` turns and gives `none` when they run out. -/
def walk : Nat → σ → α → Option σ
  | 0, s, p => if p = nil then some s else none
  | n + 1, s, p => if p = nil then some s else walk n (step s p).1 (step s p).2

variable {nil step}

section Rule

variable (P : σ → List α → Prop)
  (hstep : ∀ s a ys, P s (a :: ys) → (step s a).2 = ys.head?.getD nil ∧ P (step s a).1 ys)
include hstep

/-- **The loop rule.** `P s ys` says that `ys` are the nodes still to visit
from state `s`. If each step visits the first of them and keeps `P` for the
rest, a walk from the first node of `xs` that returns has visited them all. -/
theorem walk_spec {xs : List α} (hnil : nil ∉ xs) {fuel : Nat} {s s' : σ} (h : P s xs)
    (hw : walk nil step fuel s (xs.head?.getD nil) = some s') : P s' [] := by
  induction xs generalizing fuel s with
  | nil =>
    cases fuel <;> simp only [walk, List.head?_nil, Option.getD_none, if_true, Option.some.injEq] at hw <;>
      exact hw ▸ h
  | cons a ys ih =>
    have ha : a ≠ nil := fun e => hnil (e ▸ List.mem_cons_self)
    obtain ⟨hnext, hP⟩ := hstep s a ys h
    cases fuel with
    | zero => simp [walk, ha] at hw
    | succ n =>
      simp only [walk, List.head?_cons, Option.getD_some, ha, if_false, hnext] at hw
      exact ih (fun e => hnil (List.mem_cons_of_mem _ e)) hP hw

/-- **The loop visits the nodes in order.** A walk from the first node of
`xs` is the fold of the step over `xs` when the fuel covers every node, and
runs out when it does not. -/
theorem walk_eq_foldl {xs : List α} (hnil : nil ∉ xs) (fuel : Nat) {s : σ} (h : P s xs) :
    walk nil step fuel s (xs.head?.getD nil) =
      if xs.length ≤ fuel then some (xs.foldl (fun s a => (step s a).1) s) else none := by
  induction xs generalizing fuel s with
  | nil => cases fuel <;> simp [walk]
  | cons a ys ih =>
    have ha : a ≠ nil := fun e => hnil (e ▸ List.mem_cons_self)
    obtain ⟨hnext, hP⟩ := hstep s a ys h
    cases fuel with
    | zero => simp [walk, ha]
    | succ n =>
      simp only [walk, List.head?_cons, Option.getD_some, ha, if_false, hnext, List.length_cons,
        List.foldl_cons, Nat.add_le_add_iff_right]
      exact ih (fun e => hnil (List.mem_cons_of_mem _ e)) n hP

end Rule

/-- **A walk keeps what every step keeps**, whatever the nodes it visits. -/
theorem walk_inv (I : σ → Prop) (hstep : ∀ s a, I s → I (step s a).1) {fuel : Nat} {s s' : σ} {p : α}
    (h : I s) (hw : walk nil step fuel s p = some s') : I s' := by
  induction fuel generalizing s p with
  | zero =>
    simp only [walk] at hw
    split at hw
    · exact Option.some.inj hw ▸ h
    · cases hw
  | succ n ih =>
    simp only [walk] at hw
    split at hw
    · exact Option.some.inj hw ▸ h
    · exact ih (hstep s p h) hw

variable (nil) in
/-- A loop from node `before`, reached from `after`, back along `prev` while
`P` holds of the node: it stops at the first node that fails `P`, or at
`nil`, and gives the pair it stopped at. It runs at most `fuel` turns. -/
def walk_back (prev : α → α) (P : α → Bool) : Nat → α → α → Option (α × α)
  | 0, before, after => if before ≠ nil ∧ P before then none else some (before, after)
  | n + 1, before, after =>
    if before ≠ nil ∧ P before then walk_back prev P n (prev before) before else some (before, after)

/-- A walk back that returns gives the same pair with more fuel. -/
theorem walk_back_mono {prev : α → α} {P : α → Bool} {n m : Nat} {before after : α} {x : α × α}
    (h : walk_back nil prev P n before after = some x) (hnm : n ≤ m) :
    walk_back nil prev P m before after = some x := by
  induction n generalizing m before after with
  | zero =>
    cases m with
    | zero => exact h
    | succ m =>
      simp only [walk_back] at h ⊢
      split_ifs at h with hc
      rw [if_neg hc]
      exact h
  | succ n ih =>
    cases m with
    | zero => omega
    | succ m =>
      simp only [walk_back] at h ⊢
      split_ifs at h with hc
      · rw [if_pos hc]
        exact ih h (by omega)
      · rw [if_neg hc]
        exact h

/-- **The walk back finds the split.** On a queue, a walk back from the last
node of `ys`, with the nodes `zs` behind it all passing `P`, stops at the
last node that fails `P` and the first node behind it: the ends of the
`rdropWhile` and the `rtakeWhile` of the whole list. -/
theorem walk_back_split {prev next : α → α} {hd tl : α} {P : α → Bool} (ys zs : List α)
    (hq : Queue next prev nil hd tl (ys ++ zs)) (hz : ∀ z ∈ zs, P z) {fuel : Nat}
    (hfuel : ys.length ≤ fuel) :
    walk_back nil prev P fuel (ys.getLast?.getD nil) (zs.head?.getD nil) =
      some (((ys ++ zs).rdropWhile P).getLast?.getD nil, ((ys ++ zs).rtakeWhile P).head?.getD nil) := by
  induction ys using List.reverseRecOn generalizing zs fuel with
  | nil =>
    have hdrop : zs.rdropWhile P = [] := List.rdropWhile_eq_nil_iff.mpr hz
    have htake : zs.rtakeWhile P = zs := List.rtakeWhile_eq_self_iff.mpr hz
    cases fuel <;> simp [walk_back, hdrop, htake]
  | append_singleton ys b ih =>
    have hb : b ≠ nil := hq.mem_ne_nil (by simp)
    have hq' : Queue next prev nil hd tl (ys ++ b :: zs) := by simpa using hq
    by_cases hPb : P b
    · -- `b` joins the nodes behind, and the walk goes on from its predecessor
      cases fuel with
      | zero => simp at hfuel
      | succ n =>
        have hprev : prev b = ys.getLast?.getD nil := (Queue.links_of_split hq').1
        have hz' : ∀ z ∈ b :: zs, P z := by
          intro z hz'
          rcases List.mem_cons.mp hz' with rfl | hz'
          · exact hPb
          · exact hz z hz'
        have := ih (b :: zs) hq' hz' (by simpa using hfuel)
        simp only [List.getLast?_append, List.getLast?_singleton, Option.some_or, Option.getD_some,
          walk_back, hb, ne_eq, not_false_eq_true, hPb, and_self, ↓reduceIte, hprev]
        simpa using this
    · have hdrop : (ys ++ [b] ++ zs).rdropWhile P = ys ++ [b] := by
        rw [rdropWhile_append_of_forall hz, List.rdropWhile_concat_neg _ _ _ hPb]
      have htake : (ys ++ [b] ++ zs).rtakeWhile P = zs := by
        rw [rtakeWhile_append_of_forall hz, List.rtakeWhile_concat_neg _ _ _ hPb, List.nil_append]
      rw [hdrop, htake]
      cases fuel <;> simp [walk_back, hPb]

end Walk

/-! ## Lists sorted by a key

A timer queue keeps its members in order of a key, each no later than the
ones after it. The first member then bounds every key from below and the last
from above, and a node placed between two parts stays in order when it sits
between their keys. -/

section Sorted

variable {f : α → Nat} {xs : List α}

theorem head_le_of_sorted (hs : xs.Pairwise fun a b => f a ≤ f b) (d : α) {a : α} (ha : a ∈ xs) :
    f (xs.head?.getD d) ≤ f a := by
  cases xs with
  | nil => simp at ha
  | cons x rest =>
    rcases List.mem_cons.mp ha with rfl | ha
    · simp
    · simpa using List.rel_of_pairwise_cons hs ha

theorem le_last_of_sorted (hs : xs.Pairwise fun a b => f a ≤ f b) (d : α) {a : α} (ha : a ∈ xs) :
    f a ≤ f (xs.getLast?.getD d) := by
  have hne : xs ≠ [] := List.ne_nil_of_mem ha
  have hsplit := List.dropLast_append_getLast hne
  rw [List.getLast?_eq_some_getLast hne, Option.getD_some]
  rw [← hsplit, List.pairwise_append] at hs
  rw [← hsplit, List.mem_append, List.mem_singleton] at ha
  rcases ha with ha | rfl
  · exact hs.2.2 a ha _ (List.mem_singleton_self _)
  · exact Nat.le_refl _

/-- **Inserting in order**, for any order: a node placed between `l` and `r`
that comes after every member of `l` and before every member of `r`. -/
theorem pairwise_insert {R : α → α → Prop} {l r : List α} {t : α} (hs : (l ++ r).Pairwise R)
    (hl : ∀ a ∈ l, R a t) (hr : ∀ b ∈ r, R t b) : (l ++ t :: r).Pairwise R := by
  rw [List.pairwise_append] at hs ⊢
  obtain ⟨hl', hr', hlr⟩ := hs
  refine ⟨hl', List.pairwise_cons.mpr ⟨hr, hr'⟩, fun a ha b hb => ?_⟩
  rcases List.mem_cons.mp hb with rfl | hb
  · exact hl a ha
  · exact hlr a ha b hb

/-- **Inserting in order.** A node placed between `l` and `r` whose key is
no less than those of `l` and no more than those of `r` keeps the list
sorted. -/
theorem sorted_insert {l r : List α} {t : α} (hs : (l ++ r).Pairwise fun a b => f a ≤ f b)
    (hl : ∀ a ∈ l, f a ≤ f t) (hr : ∀ b ∈ r, f t ≤ f b) :
    (l ++ t :: r).Pairwise fun a b => f a ≤ f b :=
  pairwise_insert hs hl hr

end Sorted

/-! ## Queues served by a key, first come first served among equals

A queue that serves the highest key first keeps its members in descending
order of the key, and those of one key in the order they came: `Ahead f g`
orders by the key `f`, then by the time `g` a member was linked in. A new
node goes behind the last member whose key is at least its own, which is
where a walk back from the end stops (`insert_back`). -/

section Ahead

variable (f g : α → Nat)

/-- `a` is served before `b`: a higher key, or the same key and an earlier
time. -/
def Ahead (a b : α) : Prop := f b < f a ∨ (f b = f a ∧ g a < g b)

/-- `t` linked in behind the last member of `xs` that fails `P`. -/
def insert_back (P : α → Bool) (t : α) (xs : List α) : List α :=
  xs.rdropWhile P ++ t :: xs.rtakeWhile P

variable {f g}

theorem Ahead.key_le {a b : α} (h : Ahead f g a b) : f b ≤ f a := by
  rcases h with h | h
  · exact Nat.le_of_lt h
  · exact Nat.le_of_eq h.1

/-- The order of a list reads the key and the time of its members only. -/
theorem pairwise_ahead_congr {f' g' : α → Nat} {xs : List α} (h : ∀ a ∈ xs, f' a = f a ∧ g' a = g a)
    (hs : xs.Pairwise (Ahead f g)) : xs.Pairwise (Ahead f' g') :=
  hs.imp_of_mem fun ha hb hab => by
    unfold Ahead at hab ⊢
    rw [(h _ ha).1, (h _ hb).1, (h _ ha).2, (h _ hb).2]
    exact hab

theorem insert_back_eq (P : α → Bool) (t : α) (xs : List α) :
    ∃ l r, xs = l ++ r ∧ insert_back P t xs = l ++ t :: r ∧ l = xs.rdropWhile P ∧
      r = xs.rtakeWhile P :=
  ⟨_, _, List.rdropWhile_append_rtakeWhile.symm, rfl, rfl, rfl⟩

theorem mem_insert_back {P : α → Bool} {t a : α} {xs : List α} :
    a ∈ insert_back P t xs ↔ a = t ∨ a ∈ xs := by
  conv_rhs => rw [← List.rdropWhile_append_rtakeWhile (p := P) (l := xs)]
  simp only [insert_back, List.mem_append, List.mem_cons]
  tauto

/-- **The walk back keeps the order.** A node whose time is later than every
member's, linked in behind the last member of at least its key, is served
after those and before every member of a lower key. -/
theorem insert_back_ahead {t : α} {xs : List α} (hs : xs.Pairwise (Ahead f g))
    (hg : ∀ a ∈ xs, g a < g t) : (insert_back (fun b => decide (f b < f t)) t xs).Pairwise (Ahead f g) := by
  obtain ⟨l, r, hxs, hins, hl, hr⟩ := insert_back_eq (fun b => decide (f b < f t)) t xs
  rw [hins]
  have hsl : l.Pairwise (Ahead f g) := hs.sublist (hxs ▸ List.sublist_append_left l r)
  refine pairwise_insert (hxs ▸ hs) (fun a ha => ?_) (fun b hb => ?_)
  · -- the last member of `l` has a key at least `t`'s, and every member of `l` at least the last's
    have hne : l ≠ [] := List.ne_nil_of_mem ha
    have hlast : f t ≤ f (l.getLast hne) := by
      have h := List.rdropWhile_last_not (fun b => decide (f b < f t)) xs (hl ▸ hne)
      simp only [decide_eq_true_eq, Nat.not_lt] at h
      simpa [hl] using h
    have hle : f (l.getLast hne) ≤ f a := by
      obtain ⟨init, last, hsplit⟩ := (List.eq_nil_or_concat l).resolve_left hne
      simp only [hsplit, List.concat_eq_append, List.getLast_append_singleton] at hsl ha ⊢
      rcases List.mem_append.mp ha with ha | ha
      · exact (List.pairwise_append.mp hsl).2.2 a ha last (List.mem_singleton_self _) |>.key_le
      · rw [List.mem_singleton.mp ha]
    have hag : g a < g t := hg a (hxs ▸ List.mem_append_left r ha)
    rcases Nat.lt_or_eq_of_le (Nat.le_trans hlast hle) with h | h
    · exact .inl h
    · exact .inr ⟨h, hag⟩
  · have h := List.mem_rtakeWhile_imp (hr ▸ hb)
    exact .inl (of_decide_eq_true h)

/-- The first member of a queue in this order has the highest key. -/
theorem key_le_head {xs : List α} (hs : xs.Pairwise (Ahead f g)) (d : α) {a : α} (ha : a ∈ xs) :
    f a ≤ f (xs.head?.getD d) := by
  cases xs with
  | nil => simp at ha
  | cons x rest =>
    rcases List.mem_cons.mp ha with rfl | ha
    · simp
    · simpa using (List.rel_of_pairwise_cons hs ha).key_le

end Ahead

end HeapList
