import Mathlib.Algebra.BigOperators.Group.List.Basic
import Mathlib.Algebra.Order.BigOperators.Group.List
import Mathlib.Algebra.Order.Ring.Int
import Mathlib.Algebra.Ring.Nat
import Mathlib.Data.List.Nodup
import Mathlib.Tactic.Tauto

/-!
# Insertion-ordered dictionaries

A dictionary is a list of entries with distinct keys.  Assignment replaces the
value of a present key in place and appends an absent key, so iteration follows
the order of first insertion.

Main results:

- Theorem `Dict.get?_set`: reading after one assignment.
- Theorem `Dict.total_set`: how one assignment moves a sum over the entries.
- Theorem `Dict.le_total_of_get?`: a sum of nonnegative terms bounds each term.
-/

set_option autoImplicit false

universe u v

/-- An insertion-ordered dictionary; its keys are distinct. -/
structure Dict (κ : Type u) (α : Type v) where
  entries : List (κ × α)
  nodup : (entries.map Prod.fst).Nodup

namespace Dict

variable {κ : Type u} {α : Type v}

instance [DecidableEq κ] [DecidableEq α] : DecidableEq (Dict κ α) := fun d d' =>
  decidable_of_iff (d.entries = d'.entries) <| by
    cases d
    cases d'
    simp

/-- The dictionary without entries. -/
def empty : Dict κ α := ⟨[], List.nodup_nil⟩

instance : EmptyCollection (Dict κ α) := ⟨empty⟩

instance : Inhabited (Dict κ α) := ⟨empty⟩

@[simp]
theorem entries_empty : (∅ : Dict κ α).entries = [] :=
  rfl

/-- Values in insertion order. -/
def values (d : Dict κ α) : List α :=
  d.entries.map Prod.snd

/-- Number of entries. -/
def size (d : Dict κ α) : Nat :=
  d.entries.length

/-- Sum of a weight over the entries. -/
def total (f : α → Int) (d : Dict κ α) : Int :=
  (d.entries.map fun entry => f entry.2).sum

@[simp]
theorem total_empty (f : α → Int) : (∅ : Dict κ α).total f = 0 :=
  rfl

variable [DecidableEq κ]

/-! ## Reading and assigning -/

/-- The value of the first entry of `k`. -/
def lookupEntries (k : κ) : List (κ × α) → Option α
  | [] => none
  | (k', v) :: rest => if k' = k then some v else lookupEntries k rest

/-- Look a key up. -/
def get? (d : Dict κ α) (k : κ) : Option α :=
  lookupEntries k d.entries

/-- Key membership. -/
def contains (d : Dict κ α) (k : κ) : Bool :=
  (d.get? k).isSome

/-- Replace the first entry of `k`, or append one. -/
def setEntries (k : κ) (v : α) : List (κ × α) → List (κ × α)
  | [] => [(k, v)]
  | (k', v') :: rest =>
      if k' = k then (k, v) :: rest else (k', v') :: setEntries k v rest

theorem mem_keys_setEntries {k : κ} {v : α} {entries : List (κ × α)} {j : κ} :
    j ∈ (setEntries k v entries).map Prod.fst ↔
      j = k ∨ j ∈ entries.map Prod.fst := by
  induction entries with
  | nil => simp [setEntries]
  | cons entry rest ih =>
      obtain ⟨k', v'⟩ := entry
      by_cases hk : k' = k
      · simp [setEntries, hk]
      · simp only [setEntries, hk, if_false, List.map_cons, List.mem_cons]
        rw [ih]
        tauto

theorem setEntries_of_not_mem {k : κ} {entries : List (κ × α)}
    (h : k ∉ entries.map Prod.fst) (v : α) : setEntries k v entries = entries ++ [(k, v)] := by
  induction entries with
  | nil => rfl
  | cons entry rest ih =>
      simp only [List.map_cons, List.mem_cons, not_or] at h
      rw [setEntries, if_neg fun heq => h.1 heq.symm, ih h.2, List.cons_append]

theorem nodup_setEntries {k : κ} {v : α} {entries : List (κ × α)}
    (hnodup : (entries.map Prod.fst).Nodup) :
    ((setEntries k v entries).map Prod.fst).Nodup := by
  induction entries with
  | nil => simp [setEntries]
  | cons entry rest ih =>
      obtain ⟨k', v'⟩ := entry
      rw [List.map_cons, List.nodup_cons] at hnodup
      by_cases hk : k' = k
      · subst hk
        simpa [setEntries] using hnodup
      · simp only [setEntries, hk, if_false, List.map_cons, List.nodup_cons]
        refine ⟨fun hmem => ?_, ih hnodup.2⟩
        rcases mem_keys_setEntries.mp hmem with h | h
        · exact hk h
        · exact hnodup.1 h

/-- Assign `d[k] = v`. -/
def set (d : Dict κ α) (k : κ) (v : α) : Dict κ α :=
  ⟨setEntries k v d.entries, nodup_setEntries d.nodup⟩

@[simp]
theorem get?_empty (k : κ) : (∅ : Dict κ α).get? k = none :=
  rfl

theorem lookupEntries_setEntries (k : κ) (v : α) (entries : List (κ × α)) (j : κ) :
    lookupEntries j (setEntries k v entries) =
      if j = k then some v else lookupEntries j entries := by
  induction entries with
  | nil => simp [setEntries, lookupEntries, eq_comm]
  | cons entry rest ih =>
      obtain ⟨k', v'⟩ := entry
      by_cases hk : k' = k
      · subst hk
        by_cases hj : k' = j
        · simp [setEntries, lookupEntries, hj]
        · have hj' : ¬ j = k' := fun h => hj h.symm
          simp [setEntries, lookupEntries, hj, hj']
      · simp only [setEntries, hk, if_false, lookupEntries, ih]
        by_cases hj : k' = j
        · subst hj
          simp [hk]
        · simp [hj]

/-- Reading after an assignment. -/
theorem get?_set (d : Dict κ α) (k : κ) (v : α) (j : κ) :
    (d.set k v).get? j = if j = k then some v else d.get? j :=
  lookupEntries_setEntries k v d.entries j

@[simp]
theorem get?_set_self (d : Dict κ α) (k : κ) (v : α) :
    (d.set k v).get? k = some v := by
  simp [get?_set]

@[simp]
theorem get?_set_ne (d : Dict κ α) {k j : κ} (v : α) (hne : j ≠ k) :
    (d.set k v).get? j = d.get? j := by
  simp [get?_set, hne]

theorem lookupEntries_eq_some_iff {entries : List (κ × α)}
    (hnodup : (entries.map Prod.fst).Nodup) {k : κ} {v : α} :
    lookupEntries k entries = some v ↔ (k, v) ∈ entries := by
  induction entries with
  | nil => simp [lookupEntries]
  | cons entry rest ih =>
      obtain ⟨k', v'⟩ := entry
      rw [List.map_cons, List.nodup_cons] at hnodup
      by_cases hk : k' = k
      · subst hk
        have hnot : (k', v) ∉ rest := fun hmem =>
          hnodup.1 (List.mem_map.mpr ⟨(k', v), hmem, rfl⟩)
        simp [lookupEntries, hnot, eq_comm]
      · have hk' : ¬ k = k' := fun h => hk h.symm
        simp [lookupEntries, hk, hk', ih hnodup.2]

/-- Lookup is membership, as the keys are distinct. -/
theorem get?_eq_some_iff (d : Dict κ α) {k : κ} {v : α} :
    d.get? k = some v ↔ (k, v) ∈ d.entries :=
  lookupEntries_eq_some_iff d.nodup

theorem mem_values_iff (d : Dict κ α) {v : α} :
    v ∈ d.values ↔ ∃ k, d.get? k = some v := by
  simp only [values, List.mem_map, get?_eq_some_iff]
  constructor
  · rintro ⟨⟨k, v'⟩, hmem, rfl⟩
    exact ⟨k, hmem⟩
  · rintro ⟨k, hmem⟩
    exact ⟨(k, v), hmem, rfl⟩

/-- The values rewritten, under their keys. -/
def mapValues {β : Type v} (f : α → β) (d : Dict κ α) : Dict κ β :=
  ⟨d.entries.map fun entry => (entry.1, f entry.2), by
    rw [List.map_map]
    exact d.nodup⟩

omit [DecidableEq κ] in
@[simp]
theorem entries_mapValues {β : Type v} (f : α → β) (d : Dict κ α) :
    (d.mapValues f).entries = d.entries.map fun entry => (entry.1, f entry.2) :=
  rfl

@[simp]
theorem get?_mapValues {β : Type v} (f : α → β) (d : Dict κ α) (k : κ) :
    (d.mapValues f).get? k = (d.get? k).map f := by
  unfold get?
  rw [entries_mapValues]
  induction d.entries with
  | nil => rfl
  | cons entry rest ih =>
      simp only [List.map_cons, lookupEntries, ih]
      split <;> rfl

/-! ## Sums over the entries -/

theorem sum_setEntries (f : α → Int) (k : κ) (v : α) (entries : List (κ × α)) :
    ((setEntries k v entries).map fun entry => f entry.2).sum =
      (entries.map fun entry => f entry.2).sum + f v -
        ((lookupEntries k entries).map f).getD 0 := by
  induction entries with
  | nil => simp [setEntries, lookupEntries]
  | cons entry rest ih =>
      obtain ⟨k', v'⟩ := entry
      by_cases hk : k' = k
      · subst hk
        simp [setEntries, lookupEntries]
        omega
      · simp only [setEntries, hk, if_false, List.map_cons, List.sum_cons, ih,
          lookupEntries]
        omega

/-- An assignment adds the new weight and takes the replaced one away. -/
theorem total_set (f : α → Int) (d : Dict κ α) (k : κ) (v : α) :
    (d.set k v).total f = d.total f + f v - ((d.get? k).map f).getD 0 :=
  sum_setEntries f k v d.entries

/-- Nonnegative weights: every entry weighs at most the total. -/
theorem le_total_of_get? (f : α → Int) (d : Dict κ α) {k : κ} {v : α}
    (hnonneg : ∀ j w, d.get? j = some w → 0 ≤ f w) (hget : d.get? k = some v) :
    f v ≤ d.total f := by
  have hmem : f v ∈ d.entries.map fun entry => f entry.2 :=
    List.mem_map.mpr ⟨(k, v), d.get?_eq_some_iff.mp hget, rfl⟩
  refine List.single_le_sum ?_ (f v) hmem
  intro x hx
  obtain ⟨⟨j, w⟩, hentry, rfl⟩ := List.mem_map.mp hx
  exact hnonneg j w (d.get?_eq_some_iff.mpr hentry)

/-! ## Dropping keys -/

/-- Drop the entries of some keys. -/
def without (d : Dict κ α) (keys : List κ) : Dict κ α where
  entries := d.entries.filter fun entry => decide (entry.1 ∉ keys)
  nodup := d.nodup.sublist (List.filter_sublist.map Prod.fst)

theorem lookupEntries_without (keys : List κ) (k : κ) (entries : List (κ × α)) :
    lookupEntries k (entries.filter fun entry => decide (entry.1 ∉ keys)) =
      if k ∈ keys then none else lookupEntries k entries := by
  induction entries with
  | nil => simp [lookupEntries]
  | cons entry rest ih =>
      obtain ⟨k', v⟩ := entry
      by_cases hdropped : k' ∈ keys
      · rw [List.filter_cons_of_neg (by simpa using hdropped), ih]
        by_cases hk : k' = k
        · subst hk
          rw [if_pos hdropped, if_pos hdropped]
        · simp [lookupEntries, hk]
      · rw [List.filter_cons_of_pos (by simpa using hdropped)]
        by_cases hk : k' = k
        · subst hk
          simp [lookupEntries, hdropped]
        · simpa [lookupEntries, hk] using ih

theorem get?_without (d : Dict κ α) (keys : List κ) (k : κ) :
    (d.without keys).get? k = if k ∈ keys then none else d.get? k :=
  lookupEntries_without keys k d.entries

end Dict
