import Manifest.Storage.Chain
import Manifest.Storage.KeyOrder

/-!
# Queries that return keys

A query whose items are deleted afterwards needs their keys.  The pages of a table that
nobody writes to are consecutive runs of its partition.

Main results:

- Theorem `Table.pairwise_partition`: a partition is listed in the order of its keys.
- Theorem `Table.entriesPage_spec`: a page is a run of the partition, and the next page starts
  after it.
-/

set_option autoImplicit false

namespace Manifest

/-! ## Ordered lists -/

/-- What comes after an element of an ordered list. -/
theorem filter_after {α : Type} {r : α → α → Bool} (hasymm : ∀ a b, r a b = true → r b a = false)
    {front back : List α} {k : α} (h : (front ++ k :: back).Pairwise fun a b => r a b = true) :
    (front ++ k :: back).filter (r k) = back := by
  obtain ⟨-, hback, hcross⟩ := List.pairwise_append.mp h
  obtain ⟨hafter, -⟩ := List.pairwise_cons.mp hback
  have hfront : front.filter (r k) = [] := by
    apply List.filter_eq_nil_iff.mpr
    intro a ha
    rw [hasymm a k (hcross a ha k List.mem_cons_self)]
    simp
  have hself : r k k = false := by
    cases hk : r k k with
    | false => rfl
    | true => exact (hasymm k k hk).symm.trans hk |>.symm
  have hrest : back.filter (r k) = back := List.filter_eq_self.mpr hafter
  rw [List.filter_append, hfront, List.nil_append, List.filter_cons_of_neg (by simp [hself]), hrest]

/-! ## Partitions in order -/

namespace SortKey

theorem before_trans {a b c : SortKey} (h : a.before b = true) (h' : b.before c = true) :
    a.before c = true := by
  unfold before at *
  rw [decide_eq_true_eq] at *
  exact List.lt_trans h h'

theorem before_asymm {a b : SortKey} (h : a.before b = true) : b.before a = false := by
  unfold before at *
  rw [decide_eq_true_eq] at h
  rw [decide_eq_false_iff_not]
  exact List.lt_asymm h

/-- Two different keys are in order one way or the other. -/
theorem before_of_not_before {a b : SortKey} (ha : a.Printable) (hb : b.Printable) (hne : a ≠ b)
    (h : b.before a = false) : a.before b = true := by
  unfold before at *
  rw [decide_eq_false_iff_not] at h
  rw [decide_eq_true_eq]
  rcases List.le_iff_lt_or_eq.mp (List.not_lt.mp h) with hlt | heq
  · exact hlt
  · exact absurd (text_injective ha hb (String.toList_injective heq)) hne

end SortKey

namespace Table

/-- The keys of a table are those the key builders make. -/
def Printable (table : Table) : Prop :=
  ∀ key, (table.get? key).isSome = true → key.sk.Printable

/-- A partition is listed in the order of its keys. -/
theorem pairwise_partition {table : Table} (h : table.Printable) (pk : PartitionKey)
    (beginning : String) :
    (table.partition pk beginning).Pairwise fun a b => a.1.before b.1 = true := by
  let ordered (a b : SortKey × Item) : Prop := b.1.before a.1 = false
  have : IsTrans (SortKey × Item) ordered := ⟨fun a b c hab hbc => by
    simp only [ordered, SortKey.before, decide_eq_false_iff_not] at hab hbc ⊢
    exact List.le_trans hab hbc⟩
  have : Std.Total ordered := ⟨fun a b => by
    simp only [ordered, SortKey.before, decide_eq_false_iff_not]
    exact List.le_total _ _⟩
  have hsorted : (table.partition pk beginning).Pairwise ordered :=
    List.pairwise_insertionSort ordered _
  refine (hsorted.and (nodup_partition table pk beginning)).imp_of_mem ?_
  rintro a b ha hb ⟨horder, hne⟩
  have hfirst := (mem_partition.mp ha).2
  have hsecond := (mem_partition.mp hb).2
  refine SortKey.before_of_not_before (h _ (by rw [hfirst]; rfl)) (h _ (by rw [hsecond]; rfl))
    (fun heq => hne (Prod.ext heq ?_)) horder
  rw [heq, hsecond] at hfirst
  exact (Option.some.inj hfirst).symm

/-! ## Pages -/

/-- The items of a partition after a key. -/
def after (table : Table) (pk : PartitionKey) (beginning : String) (start : Option SortKey) :
    List (SortKey × Item) :=
  (table.partition pk beginning).filter fun entry =>
    match start with
    | some last => last.before entry.1
    | none => true

/-- One page, with the keys of its items. -/
def entriesPage (table : Table) (pk : PartitionKey) (beginning : String)
    (start : Option SortKey) (size : Nat) : List (SortKey × Item) × Option SortKey :=
  let items := (table.after pk beginning start).take size
  (items, if items.length < size then none else items.getLast?.map Prod.fst)

/-- The page a query without keys returns. -/
theorem page_eq (table : Table) (pk : PartitionKey) (beginning : String)
    (start : Option SortKey) (size : Nat) :
    table.page pk beginning start size =
      ((table.entriesPage pk beginning start size).1.map Prod.snd,
        (table.entriesPage pk beginning start size).2) := rfl

theorem after_none (table : Table) (pk : PartitionKey) (beginning : String) :
    table.after pk beginning none = table.partition pk beginning :=
  List.filter_eq_self.mpr fun _ _ => rfl

/-- Starting after an item of a run leaves what follows it in the run. -/
theorem after_split {table : Table} (h : table.Printable) {pk : PartitionKey}
    {beginning : String} {start : Option SortKey} {front back : List (SortKey × Item)}
    {entry : SortKey × Item} (hrun : table.after pk beginning start = front ++ entry :: back) :
    table.after pk beginning (some entry.1) = back := by
  have hasymm (a b : SortKey × Item) (hab : a.1.before b.1 = true) : b.1.before a.1 = false :=
    SortKey.before_asymm hab
  have hsorted := (pairwise_partition h pk beginning).sublist
    (List.filter_sublist (p := fun entry => match start with
      | some last => last.before entry.1
      | none => true))
  have hkept : (table.after pk beginning start).filter (fun b => entry.1.before b.1) = back := by
    rw [hrun]
    refine filter_after (r := fun a b : SortKey × Item => a.1.before b.1) hasymm ?_
    rw [← hrun]
    exact hsorted
  rw [← hkept]
  unfold after
  rw [List.filter_filter]
  refine List.filter_congr fun b _ => ?_
  cases start with
  | none => simp
  | some last =>
      have hmem : entry ∈ table.after pk beginning (some last) := by simp [hrun]
      have hlast : last.before entry.1 = true := (List.mem_filter.mp hmem).2
      cases hb : entry.1.before b.1 with
      | false => simp [hb]
      | true => simp [hb, SortKey.before_trans hlast hb]

/-- A page is a run of what is left, and the next page starts after it. -/
theorem entriesPage_spec {table : Table} (h : table.Printable) {pk : PartitionKey}
    {beginning : String} {start : Option SortKey} {size : Nat} (hsize : 0 < size) :
    match table.entriesPage pk beginning start size with
    | (items, none) => items = table.after pk beginning start
    | (items, some last) =>
        items ++ table.after pk beginning (some last) = table.after pk beginning start := by
  unfold entriesPage
  dsimp only
  generalize hrest : table.after pk beginning start = rest
  by_cases hfull : (rest.take size).length < size
  · rw [if_pos hfull]
    apply List.take_of_length_le
    rw [List.length_take] at hfull
    omega
  · rw [if_neg hfull]
    rcases List.eq_nil_or_concat (rest.take size) with hnil | ⟨front, entry, hfront⟩
    · rw [hnil] at hfull
      exact absurd hsize hfull
    · have hsplit : rest = front ++ entry :: rest.drop size := by
        conv_lhs => rw [← List.take_append_drop size rest, hfront]
        simp
      rw [hfront, List.concat_eq_append, List.getLast?_concat]
      show front ++ [entry] ++ table.after pk beginning (some entry.1) = rest
      rw [after_split h (hrest.trans hsplit), List.append_assoc, List.singleton_append, ← hsplit]

end Table

end Manifest
