import Manifest.Lib.Dict
import Mathlib.Data.List.Induction

/-!
# Runs of assignments

Many entries assigned to a dictionary one after the other.

Main results:

- Theorem `Dict.get?_setAll`: the last assignment to a key is the one read.
- Theorem `Dict.setAll_holds_iff`: everything assigned can be read afterwards when no key is
  assigned two values.
- Theorem `Dict.setAll_eq_self_iff`: when a run changes nothing.
-/

set_option autoImplicit false

universe u v

namespace Dict

variable {κ : Type u} {α : Type v} [DecidableEq κ]

/-- Assign every entry in order. -/
def setAll (d : Dict κ α) (entries : List (κ × α)) : Dict κ α :=
  entries.foldl (fun d entry => d.set entry.1 entry.2) d

/-- The last value a run assigns to `k`. -/
def lastEntry (k : κ) (entries : List (κ × α)) : Option α :=
  lookupEntries k entries.reverse

@[simp]
theorem setAll_nil (d : Dict κ α) : d.setAll [] = d :=
  rfl

@[simp]
theorem setAll_append_singleton (d : Dict κ α) (entries : List (κ × α)) (entry : κ × α) :
    d.setAll (entries ++ [entry]) = (d.setAll entries).set entry.1 entry.2 := by
  simp [setAll]

/-- Keys that are new to the dictionary and to each other are appended. -/
theorem entries_setAll (d : Dict κ α) (entries : List (κ × α))
    (hnodup : ((d.entries ++ entries).map Prod.fst).Nodup) :
    (d.setAll entries).entries = d.entries ++ entries := by
  induction entries generalizing d with
  | nil => simp
  | cons entry rest ih =>
      have hfresh : entry.1 ∉ d.entries.map Prod.fst := by
        rw [List.map_append, List.nodup_append] at hnodup
        intro hmem
        exact hnodup.2.2 _ hmem _ (by simp) rfl
      have hset : (d.set entry.1 entry.2).entries = d.entries ++ [entry] :=
        setEntries_of_not_mem hfresh entry.2
      show ((d.set entry.1 entry.2).setAll rest).entries = _
      rw [ih _ (by rw [hset]; simpa using hnodup), hset]
      simp

theorem lastEntry_append_singleton (k : κ) (entries : List (κ × α)) (entry : κ × α) :
    lastEntry k (entries ++ [entry]) =
      if entry.1 = k then some entry.2 else lastEntry k entries := by
  simp [lastEntry, lookupEntries]

/-- Reading after a run of assignments. -/
theorem get?_setAll (d : Dict κ α) (entries : List (κ × α)) (k : κ) :
    (d.setAll entries).get? k = (lastEntry k entries).or (d.get? k) := by
  induction entries using List.reverseRecOn with
  | nil => rfl
  | append_singleton entries entry ih =>
      rw [setAll_append_singleton, get?_set, lastEntry_append_singleton, ih]
      by_cases hk : k = entry.1
      · rw [if_pos hk, if_pos hk.symm]
        rfl
      · rw [if_neg hk, if_neg fun h => hk h.symm]

theorem lastEntry_map {β : Type v} (f : α → β) (k : κ) (entries : List (κ × α)) :
    lastEntry k (entries.map fun entry => (entry.1, f entry.2)) = (lastEntry k entries).map f := by
  induction entries using List.reverseRecOn with
  | nil => rfl
  | append_singleton entries entry ih =>
      rw [List.map_append, List.map_singleton, lastEntry_append_singleton,
        lastEntry_append_singleton, ih]
      split_ifs <;> rfl

theorem mem_of_lastEntry {k : κ} {v : α} {entries : List (κ × α)}
    (h : lastEntry k entries = some v) : (k, v) ∈ entries := by
  induction entries using List.reverseRecOn with
  | nil => cases h
  | append_singleton entries entry ih =>
      rw [lastEntry_append_singleton] at h
      split at h
      · rename_i hk
        obtain rfl := Option.some.inj h
        simp [← hk]
      · exact List.mem_append_left _ (ih h)

theorem lastEntry_of_mem {k : κ} {v : α} {entries : List (κ × α)} (h : (k, v) ∈ entries) :
    ∃ w, lastEntry k entries = some w := by
  induction entries using List.reverseRecOn with
  | nil => cases h
  | append_singleton entries entry ih =>
      rw [lastEntry_append_singleton]
      by_cases hk : entry.1 = k
      · exact ⟨entry.2, if_pos hk⟩
      · rw [if_neg hk]
        rcases List.mem_append.mp h with hmem | hmem
        · exact ih hmem
        · rw [← List.mem_singleton.mp hmem] at hk
          exact absurd rfl hk

/-- Entries that assign one value to each key. -/
def Consistent (entries : List (κ × α)) : Prop :=
  ∀ k v w, (k, v) ∈ entries → (k, w) ∈ entries → v = w

/-- Everything a run assigned can be read afterwards when it assigns one value to each key. -/
theorem setAll_holds_iff (d : Dict κ α) (entries : List (κ × α)) :
    (∀ k v, (k, v) ∈ entries → (d.setAll entries).get? k = some v) ↔ Consistent entries := by
  constructor
  · intro hholds k v w hv hw
    exact Option.some.inj ((hholds k v hv).symm.trans (hholds k w hw))
  · intro hconsistent k v hmem
    obtain ⟨w, hw⟩ := lastEntry_of_mem hmem
    rw [get?_setAll, hw, hconsistent k v w hmem (mem_of_lastEntry hw)]
    rfl

/-- The last value assigned to each key is the one held. -/
def Holds (d : Dict κ α) (entries : List (κ × α)) : Prop :=
  ∀ k v, lastEntry k entries = some v → d.get? k = some v

theorem keys_setEntries_of_mem {k : κ} {v : α} {entries : List (κ × α)}
    (h : k ∈ entries.map Prod.fst) :
    (setEntries k v entries).map Prod.fst = entries.map Prod.fst := by
  induction entries with
  | nil => cases h
  | cons entry rest ih =>
      obtain ⟨k', v'⟩ := entry
      by_cases hk : k' = k
      · simp [setEntries, hk]
      · have hrest : k ∈ rest.map Prod.fst := by
          rcases List.mem_cons.mp h with hhead | htail
          · exact absurd hhead.symm hk
          · exact htail
        simp [setEntries, hk, ih hrest]

theorem mem_keys_of_get? {d : Dict κ α} {k : κ} {v : α} (h : d.get? k = some v) :
    k ∈ d.entries.map Prod.fst :=
  List.mem_map.mpr ⟨(k, v), d.get?_eq_some_iff.mp h, rfl⟩

theorem lookupEntries_eq_none {k : κ} {entries : List (κ × α)}
    (h : k ∉ entries.map Prod.fst) : lookupEntries k entries = none := by
  induction entries with
  | nil => rfl
  | cons entry rest ih =>
      rw [List.map_cons, List.mem_cons, not_or] at h
      rw [lookupEntries, if_neg fun heq => h.1 heq.symm]
      exact ih h.2

/-- Dictionaries with the same keys in the same order and the same values are equal. -/
theorem ext_of_keys {d d' : Dict κ α}
    (hkeys : d.entries.map Prod.fst = d'.entries.map Prod.fst)
    (hget : ∀ k, d.get? k = d'.get? k) : d = d' := by
  obtain ⟨entries, hnodup⟩ := d
  obtain ⟨entries', hnodup'⟩ := d'
  have hlookup : ∀ k, lookupEntries k entries = lookupEntries k entries' := hget
  dsimp only at hkeys
  clear hget
  congr
  induction entries generalizing entries' with
  | nil => exact (List.map_eq_nil_iff.mp hkeys.symm).symm
  | cons entry rest ih =>
      cases entries' with
      | nil => cases hkeys
      | cons entry' rest' =>
          obtain ⟨k, v⟩ := entry
          obtain ⟨k', v'⟩ := entry'
          rw [List.map_cons, List.map_cons, List.cons.injEq] at hkeys
          obtain ⟨rfl, hrest⟩ := hkeys
          rw [List.map_cons, List.nodup_cons] at hnodup hnodup'
          have hv : v = v' := by simpa [lookupEntries] using hlookup k
          subst hv
          refine congrArg _ (ih hnodup.2 rest' hnodup'.2 hrest fun j => ?_)
          have hj := hlookup j
          by_cases hk : k = j
          · subst hk
            rw [lookupEntries_eq_none hnodup.1, lookupEntries_eq_none hnodup'.1]
          · simpa [lookupEntries, hk] using hj

/-- A run of assignments changes nothing when what it assigns last is held already. -/
theorem setAll_eq_self_iff (d : Dict κ α) (entries : List (κ × α)) :
    d.setAll entries = d ↔ d.Holds entries := by
  constructor
  · intro heq k v hlast
    rw [← heq, get?_setAll, hlast]
    rfl
  · intro hholds
    have hkeys : ∀ run : List (κ × α), (∀ k v, (k, v) ∈ run → k ∈ d.entries.map Prod.fst) →
        (d.setAll run).entries.map Prod.fst = d.entries.map Prod.fst := by
      intro run
      induction run using List.reverseRecOn with
      | nil => exact fun _ => rfl
      | append_singleton run entry ih =>
          intro hmem
          have hrun := ih fun k v h => hmem k v (List.mem_append_left _ h)
          have hentry : entry.1 ∈ (d.setAll run).entries.map Prod.fst := by
            rw [hrun]
            exact hmem entry.1 entry.2 (by simp)
          rw [setAll_append_singleton, ← hrun]
          exact keys_setEntries_of_mem hentry
    refine ext_of_keys (hkeys entries fun k v hmem => ?_) fun k => ?_
    · obtain ⟨w, hw⟩ := lastEntry_of_mem hmem
      exact mem_keys_of_get? (hholds k w hw)
    · rw [get?_setAll]
      cases hlast : lastEntry k entries with
      | none => rfl
      | some v => exact (hholds k v hlast).symm

end Dict
