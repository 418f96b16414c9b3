import Mathlib.Data.List.Forall2
import Mathlib.Data.List.Induction

/-!
# Hash chains

A chain is a list of blocks, each naming the digest of its predecessor; the first one
names a fixed root.  The digest of the last block, the tip, then commits to the whole
chain, as far as digests tell blocks apart.

Main results:

- Theorem `Linked.append`: extending a chain at its tip.
- Theorem `Linked.determined`: chains of equal length with one tip are related block by
  block, when equal digests relate the blocks and relate what they name.
-/

set_option autoImplicit false

namespace HashChain

variable {B H : Type} (previous digest : B → H)

/-- Every block names the digest of its predecessor, the first one the root. -/
def Linked : H → List B → Prop
  | _, [] => True
  | root, b :: rest => previous b = root ∧ Linked (digest b) rest

/-- The digest of the last block, or the root. -/
def tip : H → List B → H
  | root, [] => root
  | _, b :: rest => tip (digest b) rest

variable {previous digest}

@[simp]
theorem tip_nil (root : H) : tip digest root [] = root :=
  rfl

@[simp]
theorem tip_append (root : H) (xs ys : List B) :
    tip digest root (xs ++ ys) = tip digest (tip digest root xs) ys := by
  induction xs generalizing root with
  | nil => rfl
  | cons x xs ih => exact ih (digest x)

theorem tip_append_singleton (root : H) (blocks : List B) (b : B) :
    tip digest root (blocks ++ [b]) = digest b := by
  simp [tip]

/-- A chain is extended by a chain rooted at its tip. -/
theorem linked_append {root : H} {xs ys : List B} :
    Linked previous digest root (xs ++ ys) ↔
      Linked previous digest root xs ∧ Linked previous digest (tip digest root xs) ys := by
  induction xs generalizing root with
  | nil => simp [Linked]
  | cons x xs ih => simp [Linked, tip, ih, and_assoc]

/-- A chain is extended by a block that names its tip. -/
theorem linked_append_singleton {root : H} {blocks : List B} {b : B} :
    Linked previous digest root (blocks ++ [b]) ↔
      Linked previous digest root blocks ∧ previous b = tip digest root blocks := by
  simp [linked_append, Linked]

/-- Chains of one length and one tip are related block by block. -/
theorem Linked.determined {R : B → B → Prop} {root : H} {xs ys : List B}
    (hxs : Linked previous digest root xs) (hys : Linked previous digest root ys)
    (hdigest : ∀ x ∈ xs, ∀ y ∈ ys, digest x = digest y → R x y)
    (hprevious : ∀ x y, R x y → previous x = previous y)
    (hlength : xs.length = ys.length) (htip : tip digest root xs = tip digest root ys) :
    List.Forall₂ R xs ys := by
  -- Backwards from the tip: a block settles the digest its predecessor must have.
  induction xs using List.reverseRecOn generalizing ys with
  | nil =>
      rw [List.length_eq_zero_iff.mp hlength.symm]
      exact .nil
  | append_singleton xs x ih =>
      rcases List.eq_nil_or_concat ys with rfl | ⟨ys, y, rfl⟩
      · simp at hlength
      · rw [List.concat_eq_append] at *
        rw [linked_append_singleton] at hxs hys
        simp only [tip_append_singleton] at htip
        have hlast : R x y := hdigest x (by simp) y (by simp) htip
        have hrest : List.Forall₂ R xs ys := by
          refine ih hxs.1 hys.1 ?_ (by simpa using hlength) ?_
          · exact fun a ha b hb => hdigest a (by simp [ha]) b (by simp [hb])
          · rw [← hxs.2, ← hys.2, hprevious x y hlast]
        exact List.rel_append hrest (.cons hlast .nil)

end HashChain
