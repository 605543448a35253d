/-
Pointers that come in pairs.

Kernel objects often point at each other two by two: one object names the
other, and the other names it back. With a distinguished `na` (and `nb`) for
"none", two maps `f : α → β` and `g : β → α` are `Paired` when away from none
`f a = b` holds exactly when `g b = a`. Each map is then injective away from
none, and every pointer has its back pointer.

Three writes keep the pairing: binding two objects that point at nothing
(`link`), unbinding two that point at each other (`unlink`), and writing a
pointer that already holds its value. A write that gives one object a partner
without the partner's pointer back breaks it (`not_paired_of`). Nothing in
this file knows what the objects are.
-/
import Mathlib

set_option autoImplicit false

namespace BackPointer

open Function

variable {α β : Type*}

/-- `f` and `g` point back at each other away from `na` and `nb`. -/
def Paired (na : α) (nb : β) (f : α → β) (g : β → α) : Prop :=
  ∀ a b, a ≠ na → b ≠ nb → (f a = b ↔ g b = a)

variable {na : α} {nb : β} {f : α → β} {g : β → α}

namespace Paired

theorem symm (h : Paired na nb f g) : Paired nb na g f := fun b a hb ha => (h a b ha hb).symm

variable [DecidableEq α] [DecidableEq β]

/-- **Binding** two objects that point at nothing. -/
theorem link (h : Paired na nb f g) {a : α} {b : β} (hfa : f a = nb) (hgb : g b = na) :
    Paired na nb (update f a b) (update g b a) := by
  intro x y hx hy
  by_cases hxa : x = a <;> by_cases hyb : y = b
  · rw [hxa, hyb, update_self, update_self]
    exact ⟨fun _ => rfl, fun _ => rfl⟩
  · -- `y` did not point at `a`, which pointed at nothing
    rw [hxa, update_self, update_of_ne hyb]
    have hgy : g y ≠ a := fun e => hy (((h a y (hxa ▸ hx) hy).mpr e).symm.trans hfa)
    exact ⟨fun e => absurd e.symm hyb, fun e => absurd e hgy⟩
  · rw [hyb, update_of_ne hxa, update_self]
    have hfx : f x ≠ b := fun e => hx (((h x b hx (hyb ▸ hy)).mp e).symm.trans hgb)
    exact ⟨fun e => absurd e hfx, fun e => absurd e.symm hxa⟩
  · rw [update_of_ne hxa, update_of_ne hyb]
    exact h x y hx hy

/-- **Unbinding** two objects that point at each other. -/
theorem unlink (h : Paired na nb f g) {a : α} {b : β} (ha : a ≠ na) (hb : b ≠ nb)
    (hab : f a = b) : Paired na nb (update f a nb) (update g b na) := by
  have hba : g b = a := (h a b ha hb).mp hab
  intro x y hx hy
  by_cases hxa : x = a <;> by_cases hyb : y = b
  · rw [hxa, hyb, update_self, update_self]
    exact ⟨fun e => absurd e.symm hb, fun e => absurd e.symm ha⟩
  · -- the old partner of `a` was `b`, not `y`
    rw [hxa, update_self, update_of_ne hyb]
    have hgy : g y ≠ a := fun e => hyb (((h a y ha hy).mpr e).symm.trans hab)
    exact ⟨fun e => absurd e.symm hy, fun e => absurd e hgy⟩
  · rw [hyb, update_of_ne hxa, update_self]
    have hfx : f x ≠ b := fun e => hxa (((h x b hx hb).mp e).symm.trans hba)
    exact ⟨fun e => absurd e hfx, fun e => absurd e.symm hx⟩
  · rw [update_of_ne hxa, update_of_ne hyb]
    exact h x y hx hy

/-- **Moving** `b` from `a` to `a'`, which pointed at nothing. -/
theorem move (h : Paired na nb f g) {a a' : α} {b : β} (ha : a ≠ na) (hb : b ≠ nb) (hab : f a = b)
    (hfa' : f a' = nb) (ha' : a' ≠ a) :
    Paired na nb (update (update f a nb) a' b) (update g b a') := by
  have hlink := (h.unlink ha hb hab).link (a := a') (b := b)
    (by rw [update_of_ne ha', hfa']) (update_self b na g)
  rwa [update_idem] at hlink

end Paired

/-- **A one-sided write breaks the pairing**: if `a` points at `b` while `b`
points at another object, the maps are not paired. -/
theorem not_paired_of {a : α} {b : β} (ha : a ≠ na) (hb : b ≠ nb) (hfa : f a = b) (hgb : g b ≠ a) :
    ¬ Paired na nb f g := fun h => hgb ((h a b ha hb).mp hfa)

end BackPointer
