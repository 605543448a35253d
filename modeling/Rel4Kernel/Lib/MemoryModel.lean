/-
Happens-before and data races over an interleaved trace, after the C++20
memory model that Rust's atomics follow.

A trace is the list of memory accesses of one interleaving, each tagged with
the thread that made it. Reads take their value from the latest write to the
same location before them, so the trace is a sequentially consistent
execution, and a data race in it is a data race of the program. An access is
plain or atomic; an atomic one, and a fence, carries an ordering.

`sw` is the standard synchronises-with: a release write (or an atomic write
after a release fence) heads a release sequence of later read-modify-writes
of the location, and an acquire read (or an atomic read before an acquire
fence) that reads from that sequence synchronises with its head.
Happens-before is the transitive closure of program order and `sw`; two
conflicting accesses of different threads, one of them plain, race when
neither happens before the other.

The one way to show that nothing happens before an access is to find a set of
events that holds it, is closed backward under both kinds of edge, and misses
the other access. `race_of_confined` is that argument for the set made of a
prefix of the trace and one thread, when every acquire read of the thread
reads a location that only the prefix and the thread itself write
(`AcquireConfined`). Nothing in this file knows what the threads and
locations are.
-/
import Mathlib

set_option autoImplicit false

namespace MemModel

/-! ## Accesses -/

/-- The orderings of an atomic access or a fence. -/
inductive MemOrder where
  | Relaxed | Release | Acquire | AcqRel | SeqCst
  deriving DecidableEq, Repr

def MemOrder.isRelease : MemOrder → Bool
  | .Release | .AcqRel | .SeqCst => true
  | _ => false

def MemOrder.isAcquire : MemOrder → Bool
  | .Acquire | .AcqRel | .SeqCst => true
  | _ => false

/-- How a load or a store is made. -/
inductive Mode where
  | plain
  | atomic (o : MemOrder)
  deriving DecidableEq, Repr

inductive Access (L : Type) where
  | read (l : L) (m : Mode)
  | write (l : L) (m : Mode)
  | rmw (l : L) (o : MemOrder)
  | fence (o : MemOrder)
  deriving DecidableEq, Repr

namespace Access

variable {L : Type}

/-- The location accessed; a fence has none. -/
def loc? : Access L → Option L
  | read l _ | write l _ | rmw l _ => some l
  | fence _ => none

/-- The location read, for a load or a read-modify-write. -/
def reads? : Access L → Option L
  | read l _ | rmw l _ => some l
  | _ => none

def writesTo [DecidableEq L] (a : Access L) (l : L) : Bool :=
  match a with
  | write l' _ | rmw l' _ => decide (l' = l)
  | _ => false

def isWrite : Access L → Bool
  | write .. | rmw .. => true
  | _ => false

def isPlain : Access L → Bool
  | read _ .plain | write _ .plain => true
  | _ => false

def isRmw : Access L → Bool
  | rmw .. => true
  | _ => false

def isAtomicWrite : Access L → Bool
  | write _ (.atomic _) | rmw .. => true
  | _ => false

def isAtomicRead : Access L → Bool
  | read _ (.atomic _) | rmw .. => true
  | _ => false

def isReleaseWrite : Access L → Bool
  | write _ (.atomic o) | rmw _ o => o.isRelease
  | _ => false

def isAcquireRead : Access L → Bool
  | read _ (.atomic o) | rmw _ o => o.isAcquire
  | _ => false

def isReleaseFence : Access L → Bool
  | fence o => o.isRelease
  | _ => false

def isAcquireFence : Access L → Bool
  | fence o => o.isAcquire
  | _ => false

end Access

structure Event (T L : Type) where
  thread : T
  access : Access L
  deriving DecidableEq, Repr

/-! ## Relations of a trace -/

section Relations

variable {T L : Type} [DecidableEq L] (tr : List (Event T L))

/-- Event `i` exists and its access satisfies `p`. -/
def evIs (i : Nat) (p : Access L → Bool) : Prop := ∃ e, tr[i]? = some e ∧ p e.access = true

/-- Program order: the same thread, earlier. -/
def po (i j : Nat) : Prop :=
  i < j ∧ ∃ a b, tr[i]? = some a ∧ tr[j]? = some b ∧ a.thread = b.thread

def writes (k : Nat) (l : L) : Prop := evIs tr k (fun a => a.writesTo l)

/-- Reads-from in a sequentially consistent trace: the latest write before. -/
def rf (w r : Nat) : Prop :=
  w < r ∧ ∃ e l, tr[r]? = some e ∧ e.access.reads? = some l ∧ writes tr w l ∧
    ∀ k, w < k → k < r → ¬ writes tr k l

/-- `w` is in the release sequence headed by `h`: the writes to the location
after `h` up to `w` are all read-modify-writes. -/
def relSeq (h w : Nat) : Prop :=
  h ≤ w ∧ ∃ l, writes tr h l ∧ writes tr w l ∧
    ∀ k, h < k → k ≤ w → writes tr k l → evIs tr k Access.isRmw

def sw (a b : Nat) : Prop :=
  ∃ h w r, relSeq tr h w ∧ rf tr w r ∧ evIs tr h Access.isAtomicWrite ∧
    evIs tr r Access.isAtomicRead ∧
    (a = h ∧ evIs tr h Access.isReleaseWrite ∨ evIs tr a Access.isReleaseFence ∧ po tr a h) ∧
    (b = r ∧ evIs tr r Access.isAcquireRead ∨ evIs tr b Access.isAcquireFence ∧ po tr r b)

def hb : Nat → Nat → Prop := Relation.TransGen (fun i j => po tr i j ∨ sw tr i j)

/-- A data race: conflicting accesses of two threads, one of them plain,
neither happening before the other. -/
def race (i j : Nat) : Prop :=
  ∃ ei ej l, tr[i]? = some ei ∧ tr[j]? = some ej ∧ ei.thread ≠ ej.thread ∧
    ei.access.loc? = some l ∧ ej.access.loc? = some l ∧
    (ei.access.isWrite || ej.access.isWrite) = true ∧
    (ei.access.isPlain || ej.access.isPlain) = true ∧ ¬ hb tr i j ∧ ¬ hb tr j i

end Relations

/-! ## Happens-before follows the trace -/

section Order

variable {T L : Type} [DecidableEq L] {tr : List (Event T L)}

theorem sw_lt {a b : Nat} (h : sw tr a b) : a < b := by
  obtain ⟨h, w, r, ⟨hhw, -⟩, ⟨hwr, -⟩, -, -, ha, hb⟩ := h
  have hah : a ≤ h := by
    rcases ha with ⟨rfl, -⟩ | ⟨-, hpo, -⟩
    · exact Nat.le_refl _
    · exact Nat.le_of_lt hpo
  have hrb : r ≤ b := by
    rcases hb with ⟨rfl, -⟩ | ⟨-, hpo, -⟩
    · exact Nat.le_refl _
    · exact Nat.le_of_lt hpo
  omega

theorem hb_lt {i j : Nat} (h : hb tr i j) : i < j := by
  induction h with
  | single hs => exact hs.elim (·.1) sw_lt
  | tail _ hs ih => exact Nat.lt_trans ih (hs.elim (·.1) sw_lt)

/-- A set closed backward under both kinds of edge holds everything that
happens before one of its members. -/
theorem hb_closed (S : Nat → Prop) (hpo : ∀ a b, po tr a b → S b → S a)
    (hsw : ∀ a b, sw tr a b → S b → S a) {i j : Nat} (h : hb tr i j) (hj : S j) : S i := by
  induction h using Relation.TransGen.head_induction_on with
  | single hs => exact hs.elim (hpo _ _ · hj) (hsw _ _ · hj)
  | head hs _ ih => exact hs.elim (hpo _ _ · ih) (hsw _ _ · ih)

end Order

/-! ## Races through a confined thread -/

section Confined

variable {T L : Type} [DecidableEq L] (tr : List (Event T L))

/-- Thread `t` makes no acquire fence, and every acquire read of it reads a
location that only the first `m + 1` events and `t` itself write. -/
def AcquireConfined (m : Nat) (t : T) : Prop :=
  ∀ (r : Nat) (e : Event T L), tr[r]? = some e → e.thread = t →
    e.access.isAcquireFence = false ∧
      (e.access.isAcquireRead = true → ∀ l, e.access.reads? = some l →
        ∀ k, writes tr k l → k ≤ m ∨ ∃ e', tr[k]? = some e' ∧ e'.thread = t)

variable {tr}

theorem writes_loc_eq {k : Nat} {l l' : L} (h : writes tr k l) (h' : writes tr k l') : l = l' := by
  obtain ⟨e, he, hw⟩ := h
  obtain ⟨e', he', hw'⟩ := h'
  rw [he] at he'
  cases he'
  cases hA : e.access <;> simp_all [Access.writesTo]

/-- **The prefix and a confined thread are closed under happens-before.** -/
theorem hb_confined {m : Nat} {t : T} (hc : AcquireConfined tr m t) {i j : Nat}
    (h : hb tr i j) (hj : j ≤ m ∨ ∃ e, tr[j]? = some e ∧ e.thread = t) :
    i ≤ m ∨ ∃ e, tr[i]? = some e ∧ e.thread = t := by
  refine hb_closed (fun k => k ≤ m ∨ ∃ e, tr[k]? = some e ∧ e.thread = t) ?_ ?_ h hj
  · -- program order keeps the thread and goes backward in the trace
    rintro a b ⟨hab, ea, eb, ha, hb, hth⟩ (hbm | ⟨e, he, het⟩)
    · exact Or.inl (by omega)
    · rw [hb] at he
      cases he
      exact Or.inr ⟨ea, ha, hth.trans het⟩
  · rintro a b hs (hbm | ⟨e, he, het⟩)
    · exact Or.inl (by have := sw_lt hs; omega)
    obtain ⟨h, w, r, ⟨-, l, hwh, hww, -⟩, ⟨-, er, l', her, hrl, hwl', -⟩, -, -, ha, hb'⟩ := hs
    obtain ⟨hfence, hconf⟩ := hc b e he het
    -- `t` makes no acquire fence, so `b` is the acquire read itself
    obtain ⟨rfl, er', her', hacq⟩ : b = r ∧ evIs tr r Access.isAcquireRead := by
      rcases hb' with hb' | ⟨⟨e', he', hf⟩, -⟩
      · exact hb'
      · rw [he] at he'
        cases he'
        rw [hfence] at hf
        cases hf
    rw [he] at her her'
    cases her
    cases her'
    -- the head of the release sequence writes the location `b` reads
    obtain rfl := writes_loc_eq hwl' hww
    have hS := hconf hacq l' hrl h hwh
    rcases ha with ⟨rfl, -⟩ | ⟨-, hpo⟩
    · exact hS
    · rcases hS with hm | ⟨eh, heh, hth⟩
      · exact Or.inl (by have := hpo.1; omega)
      · obtain ⟨-, ea, eb, ha', hb'', hth'⟩ := hpo
        rw [heh] at hb''
        cases hb''
        exact Or.inr ⟨ea, ha', hth'.trans hth⟩

/-- **Races through a confined thread.** An access after the prefix by
another thread and a later conflicting access of `t`, one of them plain,
race. -/
theorem race_of_confined {m : Nat} {t : T} (hc : AcquireConfined tr m t) {i j : Nat}
    {ei ej : Event T L} {l : L} (hi : tr[i]? = some ei) (hj : tr[j]? = some ej) (hmi : m < i)
    (hij : i < j) (hti : ei.thread ≠ t) (htj : ej.thread = t) (hli : ei.access.loc? = some l)
    (hlj : ej.access.loc? = some l) (hw : (ei.access.isWrite || ej.access.isWrite) = true)
    (hp : (ei.access.isPlain || ej.access.isPlain) = true) : race tr i j := by
  refine ⟨ei, ej, l, hi, hj, by rw [htj]; exact hti, hli, hlj, hw, hp, fun h => ?_,
    fun h => absurd (hb_lt h) (by omega)⟩
  rcases hb_confined hc h (Or.inr ⟨ej, hj, htj⟩) with hm | ⟨e, he, het⟩
  · omega
  · rw [hi] at he
    cases he
    exact hti het

end Confined

end MemModel
