import Manifest.Lib.PyAccess

/-!
# Equality of Python objects

`==` on the objects a record is made of: mappings and instances of dataclasses are equal when
they have equal values under the same keys, sequences item by item, and sets when they have the
same elements.  The order of the keys takes no part.

Main results:

- Theorem `PyObject.Equal.fields`: two lists of fields, one a rearrangement of the other.
- Theorem `PyObject.lookup_keyed`: under distinct names, every value is found.
-/

set_option autoImplicit false

namespace PyObject

/-- `object == object'`, on mappings with string keys. -/
inductive Equal : PyObject → PyObject → Prop where
  | refl (object : PyObject) : Equal object object
  | mapping {holder : Holder} {entries entries' : List (PyKey × PyObject)}
      (keys : ∀ key, (lookup key entries).isSome = (lookup key entries').isSome)
      (values : ∀ key value value', lookup key entries = some value →
        lookup key entries' = some value' → Equal value value') :
      Equal (.mapping holder entries) (.mapping holder entries')
  | sequence {items items' : List PyObject} (h : List.Forall₂ Equal items items') :
      Equal (.sequence items) (.sequence items')
  | set {items items' : List PyObject} (h : ∀ item, item ∈ items ↔ item ∈ items') :
      Equal (.set items) (.set items')

theorem Equal.eq_str {s : String} {object : PyObject} (h : Equal (.str s) object) :
    object = .str s := by
  cases h
  rfl

/-! ## Lookups in lists of named values -/

section Named

variable {α : Type} {f : α → PyObject}

/-- Named values under their names. -/
def keyed (f : α → PyObject) (fields : List (String × α)) : List (PyKey × PyObject) :=
  fields.map fun field => (.str field.1, f field.2)

theorem lookup_cons_self (key : String) (value : PyObject) (rest : List (PyKey × PyObject)) :
    lookup key ((.str key, value) :: rest) = some value :=
  if_pos rfl

theorem lookup_cons_ne {key key' : String} (h : key' ≠ key) (value : PyObject)
    (rest : List (PyKey × PyObject)) :
    lookup key ((.str key', value) :: rest) = lookup key rest :=
  if_neg fun heq => h (Option.some.inj heq)

/-- A value that is found stands in the list. -/
theorem mem_of_lookup_keyed {fields : List (String × α)} {key : String} {value : PyObject}
    (h : lookup key (keyed f fields) = some value) : ∃ a, (key, a) ∈ fields ∧ value = f a := by
  induction fields with
  | nil => cases h
  | cons field rest ih =>
      obtain ⟨key', a⟩ := field
      by_cases heq : key' = key
      · subst heq
        have hvalue : lookup key' (keyed f ((key', a) :: rest)) = some (f a) :=
          lookup_cons_self key' (f a) _
        exact ⟨a, List.mem_cons_self, Option.some.inj (h.symm.trans hvalue)⟩
      · have hrest : lookup key (keyed f ((key', a) :: rest)) = lookup key (keyed f rest) :=
          lookup_cons_ne heq (f a) _
        obtain ⟨b, hmem, hb⟩ := ih (hrest.symm.trans h)
        exact ⟨b, List.mem_cons_of_mem _ hmem, hb⟩

/-- Under distinct names, every value is found. -/
theorem lookup_keyed {fields : List (String × α)} (hnodup : (fields.map Prod.fst).Nodup)
    {key : String} {a : α} (hmem : (key, a) ∈ fields) :
    lookup key (keyed f fields) = some (f a) := by
  induction fields with
  | nil => exact absurd hmem List.not_mem_nil
  | cons field rest ih =>
      obtain ⟨hnew, hrest⟩ := List.nodup_cons.mp hnodup
      rcases List.mem_cons.mp hmem with rfl | hmem
      · exact lookup_cons_self key (f a) _
      · have hne : field.1 ≠ key := fun heq =>
          hnew (heq ▸ List.mem_map_of_mem hmem)
        exact (lookup_cons_ne hne (f field.2) _).trans (ih hrest hmem)

/-- The value under a name, of the values before they were objects. -/
theorem lookup_keyed_eq (fields : List (String × α)) (key : String) :
    lookup key (keyed f fields) = (fields.lookup key).map f := by
  induction fields with
  | nil => rfl
  | cons field rest ih =>
      obtain ⟨key', a⟩ := field
      by_cases heq : key' = key
      · subst heq
        rw [List.lookup_cons_self]
        exact lookup_cons_self key' (f a) _
      · rw [List.lookup_cons, beq_eq_false_iff_ne.mpr (Ne.symm heq)]
        exact (lookup_cons_ne heq (f a) _).trans ih

/-- A name that is looked up stands in the list. -/
theorem mem_of_lookup {fields : List (String × α)} {key : String} {a : α}
    (h : fields.lookup key = some a) : (key, a) ∈ fields := by
  obtain ⟨front, back, rfl, -⟩ := List.lookup_eq_some_iff.mp h
  exact List.mem_append_right front List.mem_cons_self

/-- Under distinct names, what stands in the list is looked up. -/
theorem lookup_of_mem {fields : List (String × α)} (hnodup : (fields.map Prod.fst).Nodup)
    {key : String} {a : α} (hmem : (key, a) ∈ fields) : fields.lookup key = some a := by
  obtain ⟨front, back, rfl⟩ := List.append_of_mem hmem
  refine List.lookup_eq_some_iff.mpr ⟨front, back, rfl, fun entry hentry => ?_⟩
  rw [List.map_append, List.map_cons] at hnodup
  have hdistinct := (List.nodup_append.mp hnodup).2.2 entry.1 (List.mem_map_of_mem hentry) key
    List.mem_cons_self
  exact bne_iff_ne.mpr (Ne.symm hdistinct)

/-- A name is found when it is one of the names. -/
theorem isSome_lookup_keyed {fields : List (String × α)} {key : String} :
    (lookup key (keyed f fields)).isSome = true ↔ key ∈ fields.map Prod.fst := by
  constructor
  · intro hsome
    obtain ⟨value, hvalue⟩ := Option.isSome_iff_exists.mp hsome
    obtain ⟨a, hmem, -⟩ := mem_of_lookup_keyed hvalue
    exact List.mem_map_of_mem hmem
  · intro hmem
    induction fields with
    | nil => exact absurd hmem List.not_mem_nil
    | cons field rest ih =>
        by_cases heq : field.1 = key
        · subst heq
          rw [keyed, List.map_cons, lookup_cons_self]
          rfl
        · rw [keyed, List.map_cons, lookup_cons_ne heq]
          exact ih ((List.mem_cons.mp hmem).resolve_left (Ne.symm heq))

/-- Named values with the same names, in any order, and equal values under each. -/
theorem Equal.fields {β : Type} {g : β → PyObject} {holder : Holder} {fields : List (String × α)}
    {fields' : List (String × β)} (hnodup : (fields'.map Prod.fst).Nodup)
    (hnames : (fields.map Prod.fst).Perm (fields'.map Prod.fst))
    (hvalues : ∀ field ∈ fields, ∃ b, (field.1, b) ∈ fields' ∧ Equal (f field.2) (g b)) :
    Equal (.mapping holder (keyed f fields)) (.mapping holder (keyed g fields')) := by
  refine .mapping (fun key => ?_) fun key value value' h h' => ?_
  · rw [Bool.eq_iff_iff, isSome_lookup_keyed, isSome_lookup_keyed]
    exact hnames.mem_iff
  · obtain ⟨a, hmem, rfl⟩ := mem_of_lookup_keyed h
    obtain ⟨b, hmem', hequal⟩ := hvalues (key, a) hmem
    obtain rfl := Option.some.inj (h'.symm.trans (lookup_keyed hnodup hmem'))
    exact hequal

end Named

end PyObject
