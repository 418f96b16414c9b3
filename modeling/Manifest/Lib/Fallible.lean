import Mathlib.Data.List.Basic

/-!
# Computations that may fail

Sequencing and traversals of computations that return a value or an error.

Main results:

- Theorems `bind_eq_ok_iff` and `bind_eq_error_iff`: a sequence returns when both parts do,
  and fails in its first part or in the rest.
- Theorem `mem_of_mapM`: the elements and the results of a traversal.
-/

set_option autoImplicit false

namespace Fallible

variable {ε α β : Type}

/-- A sequence returns when both parts do. -/
theorem bind_eq_ok_iff {r : Except ε α} {f : α → Except ε β} {b : β} :
    (r >>= f) = .ok b ↔ ∃ a, r = .ok a ∧ f a = .ok b := by
  cases r <;> simp [bind, Except.bind]

/-- A sequence fails in its first part or in the rest. -/
theorem bind_eq_error_iff {r : Except ε α} {f : α → Except ε β} {x : ε} :
    (r >>= f) = .error x ↔ r = .error x ∨ ∃ a, r = .ok a ∧ f a = .error x := by
  cases r <;> simp [bind, Except.bind]

/-- Every element of a traversal has a result, and every result an element. -/
theorem mem_of_mapM {f : α → Except ε β} {xs : List α} {ys : List β}
    (h : xs.mapM f = .ok ys) :
    (∀ x ∈ xs, ∃ y ∈ ys, f x = .ok y) ∧ ∀ y ∈ ys, ∃ x ∈ xs, f x = .ok y := by
  induction xs generalizing ys with
  | nil =>
      obtain rfl : ys = [] := (Except.ok.inj h).symm
      simp
  | cons x rest ih =>
      rw [List.mapM_cons] at h
      obtain ⟨y, hy, h⟩ := bind_eq_ok_iff.mp h
      obtain ⟨others, hothers, h⟩ := bind_eq_ok_iff.mp h
      obtain rfl : ys = y :: others := (Except.ok.inj h).symm
      obtain ⟨hresults, helements⟩ := ih hothers
      constructor
      · intro x' hx'
        rcases List.mem_cons.mp hx' with rfl | hx'
        · exact ⟨y, List.mem_cons_self, hy⟩
        · obtain ⟨y', hy', hf⟩ := hresults x' hx'
          exact ⟨y', List.mem_cons_of_mem _ hy', hf⟩
      · intro y' hy'
        rcases List.mem_cons.mp hy' with rfl | hy'
        · exact ⟨x, List.mem_cons_self, hy⟩
        · obtain ⟨x', hx', hf⟩ := helements y' hy'
          exact ⟨x', List.mem_cons_of_mem _ hx', hf⟩

/-- A traversal whose steps all return. -/
theorem mapM_ok_of_forall {f : α → Except ε β} {xs : List α}
    (h : ∀ x ∈ xs, ∃ y, f x = .ok y) : ∃ ys, xs.mapM f = .ok ys := by
  induction xs with
  | nil => exact ⟨[], rfl⟩
  | cons x rest ih =>
      obtain ⟨y, hy⟩ := h x List.mem_cons_self
      obtain ⟨ys, hys⟩ := ih fun other hother => h other (List.mem_cons_of_mem _ hother)
      refine ⟨y :: ys, ?_⟩
      rw [List.mapM_cons, hy, hys]
      rfl

/-- A traversal that returns at every element what a function gives. -/
theorem mapM_ok_map {f : α → Except ε β} {g : α → β} {xs : List α}
    (h : ∀ x ∈ xs, f x = .ok (g x)) : xs.mapM f = .ok (xs.map g) := by
  induction xs with
  | nil => rfl
  | cons x rest ih =>
      rw [List.mapM_cons, h x List.mem_cons_self,
        ih fun other hother => h other (List.mem_cons_of_mem _ hother)]
      rfl

theorem length_of_mapM {f : α → Except ε β} {xs : List α} {ys : List β}
    (h : xs.mapM f = .ok ys) : ys.length = xs.length := by
  induction xs generalizing ys with
  | nil =>
      obtain rfl := Except.ok.inj h
      rfl
  | cons x rest ih =>
      rw [List.mapM_cons] at h
      obtain ⟨y, -, h⟩ := bind_eq_ok_iff.mp h
      obtain ⟨others, hothers, h⟩ := bind_eq_ok_iff.mp h
      obtain rfl := Except.ok.inj h
      simp [ih hothers]

/-- Two traversals with one result, of lists that differ in one element, return the same there. -/
theorem eq_of_mapM_replace {f : α → Except ε β} {front back : List α} {x y : α} {zs : List β}
    (hx : (front ++ x :: back).mapM f = .ok zs) (hy : (front ++ y :: back).mapM f = .ok zs) :
    ∃ z, f x = .ok z ∧ f y = .ok z := by
  induction front generalizing zs with
  | nil =>
      rw [List.nil_append, List.mapM_cons] at hx hy
      obtain ⟨z, hz, hx⟩ := bind_eq_ok_iff.mp hx
      obtain ⟨others, -, hx⟩ := bind_eq_ok_iff.mp hx
      obtain ⟨z', hz', hy⟩ := bind_eq_ok_iff.mp hy
      obtain ⟨others', -, hy⟩ := bind_eq_ok_iff.mp hy
      obtain rfl := Except.ok.inj hx
      obtain ⟨rfl, -⟩ := List.cons.inj (Except.ok.inj hy)
      exact ⟨z', hz, hz'⟩
  | cons first front ih =>
      rw [List.cons_append, List.mapM_cons] at hx hy
      obtain ⟨z, -, hx⟩ := bind_eq_ok_iff.mp hx
      obtain ⟨others, hothers, hx⟩ := bind_eq_ok_iff.mp hx
      obtain ⟨z', -, hy⟩ := bind_eq_ok_iff.mp hy
      obtain ⟨others', hothers', hy⟩ := bind_eq_ok_iff.mp hy
      obtain rfl := Except.ok.inj hx
      obtain ⟨-, rfl⟩ := List.cons.inj (Except.ok.inj hy)
      exact ih hothers hothers'

/-- Two traversals one after the other return what one traversal does. -/
theorem mapM_bind_mapM {γ : Type} {f : α → Except ε β} {g : β → Except ε γ} {xs : List α}
    {zs : List γ} :
    (xs.mapM f >>= fun ys => ys.mapM g) = .ok zs ↔ xs.mapM (fun x => f x >>= g) = .ok zs := by
  induction xs generalizing zs with
  | nil => exact Iff.rfl
  | cons x rest ih =>
      rw [List.mapM_cons, List.mapM_cons]
      constructor
      · intro h
        obtain ⟨ys, hys, h⟩ := bind_eq_ok_iff.mp h
        obtain ⟨y, hy, hys⟩ := bind_eq_ok_iff.mp hys
        obtain ⟨others, hothers, hys⟩ := bind_eq_ok_iff.mp hys
        obtain rfl := Except.ok.inj hys
        rw [List.mapM_cons] at h
        obtain ⟨z, hz, h⟩ := bind_eq_ok_iff.mp h
        obtain ⟨zs', hzs, h⟩ := bind_eq_ok_iff.mp h
        obtain rfl := Except.ok.inj h
        refine bind_eq_ok_iff.mpr ⟨z, bind_eq_ok_iff.mpr ⟨y, hy, hz⟩, ?_⟩
        exact bind_eq_ok_iff.mpr ⟨zs', ih.mp (bind_eq_ok_iff.mpr ⟨others, hothers, hzs⟩), rfl⟩
      · intro h
        obtain ⟨z, hz, h⟩ := bind_eq_ok_iff.mp h
        obtain ⟨zs', hzs, h⟩ := bind_eq_ok_iff.mp h
        obtain rfl := Except.ok.inj h
        obtain ⟨y, hy, hz⟩ := bind_eq_ok_iff.mp hz
        obtain ⟨others, hothers, hzs⟩ := bind_eq_ok_iff.mp (ih.mpr hzs)
        refine bind_eq_ok_iff.mpr ⟨y :: others, ?_, ?_⟩
        · exact bind_eq_ok_iff.mpr ⟨y, hy, bind_eq_ok_iff.mpr ⟨others, hothers, rfl⟩⟩
        · rw [List.mapM_cons]
          exact bind_eq_ok_iff.mpr ⟨z, hz, bind_eq_ok_iff.mpr ⟨zs', hzs, rfl⟩⟩

/-- A traversal fails in its first element to fail. -/
theorem mapM_error_iff {f : α → Except ε β} {xs : List α} {x : ε} :
    xs.mapM f = .error x ↔ ∃ before a after, xs = before ++ a :: after ∧
      (∀ b ∈ before, ∃ y, f b = .ok y) ∧ f a = .error x := by
  induction xs with
  | nil =>
      constructor
      · intro h
        cases h
      · rintro ⟨before, a, after, heq, -⟩
        simp at heq
  | cons first rest ih =>
      rw [List.mapM_cons]
      constructor
      · intro h
        rcases bind_eq_error_iff.mp h with h | ⟨y, hy, h⟩
        · exact ⟨[], first, rest, rfl, by simp, h⟩
        · rcases bind_eq_error_iff.mp h with h | ⟨ys, -, h⟩
          · obtain ⟨before, a, after, rfl, hbefore, ha⟩ := ih.mp h
            refine ⟨first :: before, a, after, rfl, fun b hb => ?_, ha⟩
            rcases List.mem_cons.mp hb with rfl | hb
            · exact ⟨y, hy⟩
            · exact hbefore b hb
          · cases h
      · rintro ⟨before, a, after, heq, hbefore, ha⟩
        cases before with
        | nil =>
            obtain ⟨rfl, rfl⟩ := List.cons.inj heq
            exact bind_eq_error_iff.mpr (.inl ha)
        | cons b before =>
            obtain ⟨rfl, rfl⟩ := List.cons.inj heq
            obtain ⟨y, hy⟩ := hbefore first List.mem_cons_self
            have hrest := ih.mpr ⟨before, a, after, rfl,
              fun c hc => hbefore c (List.mem_cons_of_mem _ hc), ha⟩
            exact bind_eq_error_iff.mpr
              (.inr ⟨y, hy, bind_eq_error_iff.mpr (.inl hrest)⟩)

theorem map_eq_error_iff {r : Except ε α} {f : α → β} {x : ε} :
    r.map f = .error x ↔ r = .error x := by
  cases r <;> simp [Except.map]

theorem map_eq_ok_iff {r : Except ε α} {f : α → β} {b : β} :
    r.map f = .ok b ↔ ∃ a, r = .ok a ∧ f a = b := by
  cases r <;> simp [Except.map]

end Fallible
