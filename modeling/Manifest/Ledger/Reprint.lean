import Manifest.Ledger.Normalize

/-!
# Texts that are loaded and printed again

The text of any object is read by `json.loads`, and the canonical text of what was read is the
text printed again.  A canonical text is printed again as it is, unless a member of an
enumeration has a raw value that is not in canonical form: `normalize` takes raw values as they
are.

Main results:

- Theorem `PyObject.readsAs_dumps`: the text of an object is read.
- Theorem `Canonical.reprints_iff_preserved`: when the text of a normalized object, printed
  again, is the text the object had.
- Theorem `Canonical.preserved_member`: raw values that are JSON values are preserved.
-/

set_option autoImplicit false

open Fallible

namespace Dict

universe u v

variable {κ : Type u} {α : Type v} [DecidableEq κ]

theorem lastEntry_cons (k : κ) (entry : κ × α) (entries : List (κ × α)) :
    lastEntry k (entry :: entries) =
      (lastEntry k entries).or (if entry.1 = k then some entry.2 else none) := by
  induction entries using List.reverseRecOn with
  | nil => exact lastEntry_append_singleton k [] entry
  | append_singleton entries last ih =>
      rw [← List.cons_append, lastEntry_append_singleton, lastEntry_append_singleton, ih]
      split_ifs <;> rfl

/-- Under distinct keys every entry is the last under its key. -/
theorem lastEntry_of_nodup {k : κ} {v : α} {entries : List (κ × α)}
    (hnodup : (entries.map Prod.fst).Nodup) (hmem : (k, v) ∈ entries) :
    lastEntry k entries = some v := by
  induction entries with
  | nil => cases hmem
  | cons entry rest ih =>
      obtain ⟨hfresh, hrest⟩ := List.nodup_cons.mp hnodup
      rw [lastEntry_cons]
      rcases List.mem_cons.mp hmem with rfl | hmem
      · cases hlast : lastEntry k rest with
        | none => exact if_pos rfl
        | some w => exact absurd (List.mem_map_of_mem (mem_of_lastEntry hlast)) hfresh
      · rw [ih hrest hmem]
        rfl

end Dict

namespace PyObject

open Value

/-! ## Texts of objects are read -/

mutual

/-- Every float inside an object has a property. -/
def FloatsAre (p : PyFloat → Prop) : PyObject → Prop
  | .float x => p x
  | .member content value =>
      (∀ v, content = some v → v.FloatsAre p) ∧ FloatsAre p value
  | .mapping _ entries => FloatsAreEntries p entries
  | .sequence items => FloatsAreItems p items
  | .set items => FloatsAreItems p items
  | _ => True

def FloatsAreItems (p : PyFloat → Prop) : List PyObject → Prop
  | [] => True
  | item :: rest => FloatsAre p item ∧ FloatsAreItems p rest

def FloatsAreEntries (p : PyFloat → Prop) : List (PyKey × PyObject) → Prop
  | [] => True
  | (_, value) :: rest => FloatsAre p value ∧ FloatsAreEntries p rest

end

theorem floatsAreItems_iff {p : PyFloat → Prop} {items : List PyObject} :
    FloatsAreItems p items ↔ ∀ item ∈ items, FloatsAre p item := by
  induction items with
  | nil => simp [FloatsAreItems]
  | cons item rest ih => simp [FloatsAreItems, ih]

theorem floatsAreEntries_iff {p : PyFloat → Prop} {entries : List (PyKey × PyObject)} :
    FloatsAreEntries p entries ↔ ∀ entry ∈ entries, FloatsAre p entry.2 := by
  induction entries with
  | nil => simp [FloatsAreEntries]
  | cons entry rest ih => simp [FloatsAreEntries, ih]

section Reading

variable {read : String → Option PyFloat}

theorem readsAs_value {v : Value} (h : v.FloatsAre fun x => read x.text = some x) :
    ReadsAs read (Value.dumpChars false v) (v.sorted id) :=
  (Value.reads v h).readsAs

/-- The text of a JSON value, however it was come by. -/
theorem readsAs_of_value {v : Value} {text : List Char}
    (h : Except.ok (Value.dumpChars false v) = (.ok text : Except Fault (List Char)))
    (hfloats : v.FloatsAre fun x => read x.text = some x) : ∃ w, ReadsAs read text w :=
  ⟨_, Except.ok.inj h ▸ readsAs_value hfloats⟩

/-- Members are read when their values are. -/
theorem readsAs_members {items : List (PyKey × Except Fault (List Char))}
    {texts : List (List Char)} (h : items.mapM dumpItem = .ok texts)
    (hreads : ∀ item ∈ items, ∀ text, item.2 = .ok text → ∃ v, ReadsAs read text v) :
    ∃ members : List (String × List Char × Value),
      texts = members.map (fun entry => memberText false entry.1 entry.2.1) ∧
        ∀ entry ∈ members, ReadsAs read entry.2.1 entry.2.2 := by
  induction items generalizing texts with
  | nil => exact ⟨[], (Except.ok.inj h).symm, fun _ hmem => absurd hmem List.not_mem_nil⟩
  | cons item rest ih =>
      obtain ⟨hitem, hrest⟩ := List.forall_mem_cons.mp hreads
      rw [List.mapM_cons] at h
      obtain ⟨text, htext, h⟩ := bind_eq_ok_iff.mp h
      obtain ⟨others, hothers, h⟩ := bind_eq_ok_iff.mp h
      obtain rfl := Except.ok.inj h
      obtain ⟨members, rfl, hmembers⟩ := ih hothers hrest
      unfold dumpItem at htext
      cases hkey : item.1.json with
      | none =>
          rw [hkey] at htext
          cases htext
      | some key =>
          rw [hkey] at htext
          obtain ⟨value, hvalue, htext⟩ := bind_eq_ok_iff.mp htext
          obtain rfl := Except.ok.inj htext
          obtain ⟨v, hread⟩ := hitem value hvalue
          exact ⟨(key.name, value, v) :: members, rfl, List.forall_mem_cons.mpr ⟨hread, hmembers⟩⟩

mutual

/-- The text of an object is read. -/
theorem readsAs_dumps : (object : PyObject) → FloatsAre (fun x => read x.text = some x) object →
    ∀ text, dumps object = .ok text → ∃ v, ReadsAs read text v
  | .none, _, text, h =>
      readsAs_of_value (show Except.ok (Value.dumpChars false .none) = .ok text from h) trivial
  | .bool _, _, _, h => readsAs_of_value h trivial
  | .int _, _, _, h => readsAs_of_value h trivial
  | .float _, hfloats, _, h => readsAs_of_value h hfloats
  | .nonFinite, _, _, h => by cases h
  | .str _, _, _, h => readsAs_of_value h trivial
  | .member (some content) _, hfloats, _, h => readsAs_of_value h (hfloats.1 content rfl)
  | .member Option.none _, _, _, h => by cases h
  | .datetime _, _, _, h => by cases h
  | .mapping holder entries, hfloats, text, h => by
      unfold dumps at h
      split at h
      · obtain ⟨items, hitems, h⟩ := bind_eq_ok_iff.mp h
        obtain ⟨texts, htexts, h⟩ := bind_eq_ok_iff.mp h
        obtain rfl := Except.ok.inj h
        obtain ⟨members, rfl, hmembers⟩ := readsAs_members htexts fun item hmem =>
          readsAs_dumpsEntries entries hfloats item ((mem_sortItems hitems).subset hmem)
        exact ⟨_, ReadsAs.dict false hmembers⟩
      · cases h
  | .sequence items, hfloats, text, h => by
      unfold dumps at h
      obtain ⟨texts, htexts, h⟩ := bind_eq_ok_iff.mp h
      obtain rfl := Except.ok.inj h
      obtain ⟨pairs, rfl, hpairs⟩ := readsAs_dumpsItems items hfloats texts htexts
      exact ⟨_, ReadsAs.list hpairs⟩
  | .set _, _, _, h => by cases h
  | .other _, _, _, h => by cases h

theorem readsAs_dumpsItems : (items : List PyObject) →
    FloatsAreItems (fun x => read x.text = some x) items →
    ∀ texts, dumpsItems items = .ok texts → ∃ pairs : List (List Char × Value),
      texts = pairs.map Prod.fst ∧ ∀ pair ∈ pairs, ReadsAs read pair.1 pair.2
  | [], _, _, h => ⟨[], (Except.ok.inj h).symm, fun _ hmem => absurd hmem List.not_mem_nil⟩
  | item :: rest, hfloats, texts, h => by
      obtain ⟨text, htext, h⟩ := bind_eq_ok_iff.mp h
      obtain ⟨others, hothers, h⟩ := bind_eq_ok_iff.mp h
      obtain rfl := Except.ok.inj h
      obtain ⟨v, hread⟩ := readsAs_dumps item hfloats.1 text htext
      obtain ⟨pairs, rfl, hpairs⟩ := readsAs_dumpsItems rest hfloats.2 others hothers
      exact ⟨(text, v) :: pairs, rfl, List.forall_mem_cons.mpr ⟨hread, hpairs⟩⟩

theorem readsAs_dumpsEntries : (entries : List (PyKey × PyObject)) →
    FloatsAreEntries (fun x => read x.text = some x) entries →
    ∀ item ∈ dumpsEntries entries, ∀ text, item.2 = .ok text → ∃ v, ReadsAs read text v
  | [], _, _, hmem, _, _ => absurd hmem List.not_mem_nil
  | (key, value) :: rest, hfloats, item, hmem, text, h => by
      rcases List.mem_cons.mp hmem with rfl | hmem
      · exact readsAs_dumps value hfloats.1 text h
      · exact readsAs_dumpsEntries rest hfloats.2 item hmem text h

end

end Reading

end PyObject

namespace Manifest.Canonical

open PyObject Value

theorem keysDistinctEntries_iff {kvs : List (String × Value)} :
    KeysDistinctEntries kvs ↔ ∀ entry ∈ kvs, KeysDistinct entry.2 := by
  induction kvs with
  | nil => simp [KeysDistinctEntries]
  | cons entry rest ih => simp [KeysDistinctEntries, ih]

/-! ## Texts printed again -/

/-- A mapping whose values have texts has one. -/
theorem canonicalChars_mapping_total {holder : Holder} {entries : List (PyKey × PyObject)}
    (h : ∀ entry ∈ entries, ∃ text, canonicalChars entry.2 = .ok text) :
    ∃ text, canonicalChars (.mapping holder entries) = .ok text := by
  let textOf (object : PyObject) : List Char := (canonicalChars object).toOption.getD []
  have htextOf (entry : PyKey × PyObject) (hmem : entry ∈ entries) :
      canonicalChars entry.2 = .ok (textOf entry.2) := by
    obtain ⟨text, htext⟩ := h entry hmem
    simp only [textOf, htext]
    rfl
  refine ⟨_, canonicalChars_mapping.mpr ⟨fun entry hmem =>
    normalize_of_canonicalChars (htextOf entry hmem),
    Dict.setAll ∅ ((named entries).map fun entry => (entry.1, textOf entry.2)), fun k => ?_, rfl⟩⟩
  rw [Dict.get?_setAll, Dict.get?_empty, Option.or_none, Dict.lastEntry_map]
  cases hlast : Dict.lastEntry k (named entries) with
  | none => rfl
  | some object =>
      obtain ⟨entry, hmem, -, rfl⟩ := mem_of_last hlast
      exact congrArg some (htextOf entry hmem)

mutual

/-- Every JSON value has a canonical text. -/
theorem canonicalChars_ofValue_total : (v : Value) → ∃ text, canonicalChars (ofValue v) = .ok text
  | .none => ⟨_, rfl⟩
  | .bool _ => ⟨_, rfl⟩
  | .int _ => ⟨_, rfl⟩
  | .float _ => ⟨_, rfl⟩
  | .str _ => ⟨_, rfl⟩
  | .list xs => by
      obtain ⟨texts, htexts⟩ := canonicalChars_ofValues_total xs
      exact ⟨_, canonicalChars_sequence.mpr ⟨texts, htexts, rfl⟩⟩
  | .dict kvs => canonicalChars_mapping_total (canonicalChars_ofEntries_total kvs)

theorem canonicalChars_ofValues_total : (xs : List Value) →
    ∃ texts, (ofValues xs).mapM canonicalChars = .ok texts
  | [] => ⟨[], rfl⟩
  | x :: xs => by
      obtain ⟨text, htext⟩ := canonicalChars_ofValue_total x
      obtain ⟨texts, htexts⟩ := canonicalChars_ofValues_total xs
      refine ⟨text :: texts, ?_⟩
      rw [ofValues, List.mapM_cons, htext, htexts]
      rfl

theorem canonicalChars_ofEntries_total : (kvs : List (String × Value)) →
    ∀ entry ∈ ofEntries kvs, ∃ text, canonicalChars entry.2 = .ok text
  | [], _, hmem => absurd hmem List.not_mem_nil
  | (_, v) :: rest, entry, hmem => by
      rcases List.mem_cons.mp hmem with rfl | hmem
      · exact canonicalChars_ofValue_total v
      · exact canonicalChars_ofEntries_total rest entry hmem

end

section Reprints

variable (read : String → Option PyFloat)

/-- A text and the canonical text of what is loaded of it. -/
def Reprints (text text' : List Char) : Prop :=
  ∃ v, ReadsAs read text v ∧ canonicalChars (ofValue v) = .ok text'

variable {read}

theorem Reprints.unique {text text' text'' : List Char} (h : Reprints read text text')
    (h' : Reprints read text text'') : text' = text'' := by
  obtain ⟨v, hread, hprint⟩ := h
  obtain ⟨w, hread', hprint'⟩ := h'
  obtain rfl := hread.unique hread'
  exact Except.ok.inj (hprint.symm.trans hprint')

/-- Every text of an object can be printed again. -/
theorem exists_reprints {object : PyObject} {text : List Char}
    (hfloats : object.FloatsAre fun x => read x.text = some x) (h : dumps object = .ok text) :
    ∃ text', Reprints read text text' := by
  obtain ⟨v, hread⟩ := readsAs_dumps object hfloats text h
  obtain ⟨text', hprint⟩ := canonicalChars_ofValue_total v
  exact ⟨text', v, hread, hprint⟩

/-- A list is printed again item by item. -/
theorem Reprints.list {texts texts' : List (List Char)}
    (h : List.Forall₂ (Reprints read) texts texts') :
    Reprints read ('[' :: List.intercalate [','] texts ++ [']'])
      ('[' :: List.intercalate [','] texts' ++ [']']) := by
  have hitems : ∃ pairs : List (List Char × Value), texts = pairs.map Prod.fst ∧
      (∀ pair ∈ pairs, ReadsAs read pair.1 pair.2) ∧
        (ofValues (pairs.map Prod.snd)).mapM canonicalChars = .ok texts' := by
    induction h with
    | nil => exact ⟨[], rfl, fun _ hmem => absurd hmem List.not_mem_nil, rfl⟩
    | cons hfirst _ ih =>
        obtain ⟨v, hread, hprint⟩ := hfirst
        obtain ⟨pairs, rfl, hpairs, hprints⟩ := ih
        refine ⟨(_, v) :: pairs, rfl, List.forall_mem_cons.mpr ⟨hread, hpairs⟩, ?_⟩
        rw [List.map_cons, ofValues, List.mapM_cons, hprint, hprints]
        rfl
  obtain ⟨pairs, rfl, hpairs, hprints⟩ := hitems
  exact ⟨_, ReadsAs.list hpairs, canonicalChars_sequence.mpr ⟨texts', hprints, rfl⟩⟩

/-- The text of a mapping is read from the texts of its values. -/
theorem readsAs_render {texts : Dict String (List Char)} {valueOf : List Char → Value}
    (h : ∀ k text, texts.get? k = some text → ReadsAs read text (valueOf text)) :
    ReadsAs read (render texts)
      (.dict ((sortedEntries texts).map fun entry => (entry.1, valueOf entry.2))) := by
  have hreads : ∀ entry ∈ (sortedEntries texts).map fun entry =>
      (entry.1, entry.2, valueOf entry.2), ReadsAs read entry.2.1 entry.2.2 := by
    intro entry hmem
    obtain ⟨⟨k, text⟩, hentry, rfl⟩ := List.mem_map.mp hmem
    exact h k text (mem_sortedEntries.mp hentry)
  have hdict := ReadsAs.dict false hreads
  rw [List.map_map, List.map_map] at hdict
  exact hdict

theorem nodup_sortedEntries {α : Type} (d : Dict String α) :
    ((sortedEntries d).map Prod.fst).Nodup :=
  (((List.perm_insertionSort _ _).map Prod.fst).nodup_iff).mpr d.nodup

/-- What is read of a mapping, key by key. -/
theorem lastEntry_read {texts : Dict String (List Char)} (valueOf : List Char → Value)
    (k : String) :
    Dict.lastEntry k (named (ofEntries ((sortedEntries texts).map fun entry =>
      (entry.1, valueOf entry.2)))) =
        (texts.get? k).map fun text => ofValue (valueOf text) := by
  have hnamed : named (ofEntries ((sortedEntries texts).map fun entry =>
      (entry.1, valueOf entry.2))) =
        (sortedEntries texts).map fun entry => (entry.1, ofValue (valueOf entry.2)) := by
    rw [ofEntries_eq, named, List.map_map, List.map_map]
    rfl
  rw [hnamed, Dict.lastEntry_map (fun text => ofValue (valueOf text))]
  refine congrArg (Option.map _) ?_
  cases hget : texts.get? k with
  | some text => exact Dict.lastEntry_of_nodup (nodup_sortedEntries texts) (mem_sortedEntries.mpr hget)
  | none =>
      cases hlast : Dict.lastEntry k (sortedEntries texts) with
      | none => rfl
      | some text =>
          have hsome := mem_sortedEntries.mp (Dict.mem_of_lastEntry hlast)
          rw [hget] at hsome
          cases hsome

/-- A mapping is printed again value by value. -/
theorem Reprints.render {texts texts' : Dict String (List Char)}
    (hkeys : ∀ k, (texts.get? k).isSome = (texts'.get? k).isSome)
    (h : ∀ k text text', texts.get? k = some text → texts'.get? k = some text' →
      Reprints read text text') : Reprints read (render texts) (render texts') := by
  let valueOf (text : List Char) : Value :=
    Classical.epsilon fun v => ReadsAs read text v
  have hvalue (k : String) (text text' : List Char) (hget : texts.get? k = some text)
      (hget' : texts'.get? k = some text') : ReadsAs read text (valueOf text) ∧
        canonicalChars (ofValue (valueOf text)) = .ok text' := by
    obtain ⟨v, hread, hprint⟩ := h k text text' hget hget'
    have hchosen : ReadsAs read text (valueOf text) := Classical.epsilon_spec ⟨v, hread⟩
    exact ⟨hchosen, hread.unique hchosen ▸ hprint⟩
  have hpaired (k : String) (text : List Char) (hget : texts.get? k = some text) :
      ∃ text', texts'.get? k = some text' :=
    Option.isSome_iff_exists.mp (by rw [← hkeys k, hget]; rfl)
  have hread := readsAs_render fun k text hget => by
    obtain ⟨text', hget'⟩ := hpaired k text hget
    exact (hvalue k text text' hget hget').1
  refine ⟨_, hread, canonicalChars_mapping.mpr ⟨fun entry hmem => ?_, texts', fun k => ?_, rfl⟩⟩
  · obtain ⟨text, htext⟩ := canonicalChars_ofEntries_total _ entry hmem
    exact normalize_of_canonicalChars htext
  · refine (congrArg (Option.map canonicalChars) (lastEntry_read valueOf k)).trans ?_
    cases hget : texts.get? k with
    | some text =>
        obtain ⟨text', hget'⟩ := hpaired k text hget
        rw [hget']
        exact congrArg some (hvalue k text text' hget hget').2
    | none =>
        have hget' : texts'.get? k = Option.none := by
          have hisSome := hkeys k
          rw [hget] at hisSome
          exact Option.not_isSome_iff_eq_none.mp (by rw [← hisSome]; decide)
        rw [hget']
        rfl

end Reprints

/-! ## What normalizing keeps -/

mutual

/-- Normalizing brings in no floats. -/
theorem floatsAre_normalize {p : PyFloat → Prop} : (object : PyObject) → ∀ value,
    normalize object = .ok value → object.FloatsAre p → value.FloatsAre p
  | .member _ _, _, h, hfloats => Except.ok.inj h ▸ hfloats.2
  | .datetime Option.none, _, h, _ => by cases h
  | .datetime (some instant), _, h, _ => by
      unfold normalize at h
      cases htext : utcText instant with
      | error fault =>
          rw [htext] at h
          cases h
      | ok text =>
          rw [htext] at h
          rw [← Except.ok.inj h]
          trivial
  | .mapping _ entries, _, h, hfloats => by
      obtain ⟨items, hitems, h⟩ := bind_eq_ok_iff.mp h
      obtain rfl := Except.ok.inj h
      have hvalues := floatsAre_normalizeEntries entries items hitems hfloats
      refine floatsAreEntries_iff.mpr fun entry hmem => ?_
      obtain ⟨⟨k, value⟩, hentry, rfl⟩ := List.mem_map.mp hmem
      have hget := (Dict.get?_eq_some_iff _).mpr hentry
      rw [Dict.get?_setAll, Dict.get?_empty, Option.or_none] at hget
      exact hvalues (k, value) (Dict.mem_of_lastEntry hget)
  | .sequence items, _, h, hfloats => by
      obtain ⟨values, hvalues, h⟩ := bind_eq_ok_iff.mp h
      obtain rfl := Except.ok.inj h
      exact floatsAre_normalizeItems items values hvalues hfloats
  | .set _, _, h, _ => by cases h
  | .nonFinite, _, h, _ => by cases h
  | .none, _, h, _ => Except.ok.inj h ▸ trivial
  | .bool _, _, h, _ => Except.ok.inj h ▸ trivial
  | .int _, _, h, _ => Except.ok.inj h ▸ trivial
  | .float _, _, h, hfloats => Except.ok.inj h ▸ hfloats
  | .str _, _, h, _ => Except.ok.inj h ▸ trivial
  | .other _, _, h, _ => by cases h

theorem floatsAre_normalizeItems {p : PyFloat → Prop} : (items : List PyObject) → ∀ values,
    normalizeItems items = .ok values → FloatsAreItems p items → FloatsAreItems p values
  | [], _, h, _ => Except.ok.inj h ▸ trivial
  | item :: rest, _, h, hfloats => by
      obtain ⟨first, hfirst, h⟩ := bind_eq_ok_iff.mp h
      obtain ⟨others, hothers, h⟩ := bind_eq_ok_iff.mp h
      obtain rfl := Except.ok.inj h
      exact ⟨floatsAre_normalize item first hfirst hfloats.1,
        floatsAre_normalizeItems rest others hothers hfloats.2⟩

theorem floatsAre_normalizeEntries {p : PyFloat → Prop} : (entries : List (PyKey × PyObject)) →
    ∀ values, normalizeEntries entries = .ok values → FloatsAreEntries p entries →
      ∀ value ∈ values, value.2.FloatsAre p
  | [], _, h, _ => Except.ok.inj h ▸ fun _ hmem => absurd hmem List.not_mem_nil
  | (key, value) :: rest, _, h, hfloats => by
      obtain ⟨first, hfirst, h⟩ := bind_eq_ok_iff.mp h
      obtain ⟨others, hothers, h⟩ := bind_eq_ok_iff.mp h
      obtain rfl := Except.ok.inj h
      exact List.forall_mem_cons.mpr ⟨floatsAre_normalize value first hfirst hfloats.1,
        floatsAre_normalizeEntries rest others hothers hfloats.2⟩

end

/-! ## Objects whose text survives -/

section Preserved

variable (read : String → Option PyFloat)

mutual

/-- Every member of an enumeration that is printed has a raw value whose text is the text its
canonical form is printed again as.  A value under a key whose text comes again later is not
printed. -/
def Preserved : PyObject → Prop
  | .member _ value => ∃ text stored, dumps value = .ok text ∧
      canonicalChars value = .ok stored ∧ Reprints read stored text
  | .mapping _ entries => PreservedEntries entries
  | .sequence items => PreservedItems items
  | _ => True

def PreservedItems : List PyObject → Prop
  | [] => True
  | item :: rest => Preserved item ∧ PreservedItems rest

def PreservedEntries : List (PyKey × PyObject) → Prop
  | [] => True
  | (key, value) :: rest =>
      (key.text ∉ rest.map (·.1.text) → Preserved value) ∧ PreservedEntries rest

end

variable {read}

/-- The values that are printed are the last under their keys. -/
theorem preservedEntries_iff {entries : List (PyKey × PyObject)} :
    PreservedEntries read entries ↔ ∀ k object,
      Dict.lastEntry k (named entries) = some object → Preserved read object := by
  induction entries with
  | nil => exact ⟨fun _ _ _ h => (by cases h), fun _ => trivial⟩
  | cons entry rest ih =>
      obtain ⟨key, value⟩ := entry
      have hlast (k : String) : Dict.lastEntry k (named ((key, value) :: rest)) =
          (Dict.lastEntry k (named rest)).or (if key.text = k then some value else Option.none) :=
        Dict.lastEntry_cons k (key.text, value) (named rest)
      have hhidden : key.text ∈ rest.map (·.1.text) ↔
          (Dict.lastEntry key.text (named rest)).isSome = true := by
        constructor
        · intro hmem
          obtain ⟨entry, hentry, hkey⟩ := List.mem_map.mp hmem
          obtain ⟨last, -, -, hsome⟩ := last_of_mem hentry
          rw [← hkey, hsome]
          rfl
        · intro hsome
          obtain ⟨object, hobject⟩ := Option.isSome_iff_exists.mp hsome
          obtain ⟨entry, hentry, hkey, -⟩ := mem_of_last hobject
          exact hkey ▸ List.mem_map_of_mem hentry
      unfold PreservedEntries
      rw [ih]
      constructor
      · rintro ⟨hfirst, hrest⟩ k object hobject
        rw [hlast] at hobject
        cases hlater : Dict.lastEntry k (named rest) with
        | some later =>
            rw [hlater] at hobject
            exact Option.some.inj hobject ▸ hrest k later hlater
        | none =>
            rw [hlater, Option.none_or] at hobject
            split_ifs at hobject with hkey
            obtain rfl := Option.some.inj hobject
            refine hfirst fun hmem => ?_
            rw [hhidden, hkey, hlater] at hmem
            cases hmem
      · intro hall
        constructor
        · intro hfresh
          refine hall key.text value ?_
          have hnone : Dict.lastEntry key.text (named rest) = Option.none :=
            Option.not_isSome_iff_eq_none.mp fun hsome => hfresh (hhidden.mpr hsome)
          rw [hlast, hnone, Option.none_or, if_pos rfl]
        · intro k object hobject
          refine hall k object ?_
          rw [hlast, hobject, Option.some_or]

/-- A scalar is printed again as it is. -/
theorem reprints_scalar {v : Value} {text stored : List Char} (hsorted : v.sorted id = v)
    (hcanonical : canonicalChars (ofValue v) = .ok (Value.dumpChars false v))
    (hfloats : v.FloatsAre fun x => read x.text = some x)
    (htext : canonicalChars (ofValue v) = .ok text)
    (hstored : canonicalChars (ofValue v) = .ok stored) : Reprints read stored text := by
  obtain rfl := Except.ok.inj (hcanonical.symm.trans hstored)
  refine ⟨v, ?_, htext⟩
  have hread := readsAs_value hfloats
  rwa [hsorted] at hread

/-- The normal form of a mapping, from those of the values that are printed. -/
theorem valueOf_mapping {holder : Holder} {entries : List (PyKey × PyObject)}
    (hall : ∀ entry ∈ entries, ∃ value, normalize entry.2 = .ok value) :
    ∃ d : Dict String PyObject, valueOf (.mapping holder entries) = ofDict d ∧
      ∀ k, d.get? k = (Dict.lastEntry k (named entries)).map valueOf := by
  have hitems : normalizeEntries entries =
      .ok ((named entries).map fun entry => (entry.1, valueOf entry.2)) := by
    rw [normalizeEntries_eq]
    refine mapM_ok_map fun entry hmem => ?_
    obtain ⟨original, horiginal, rfl⟩ := List.mem_map.mp hmem
    obtain ⟨value, hvalue⟩ := hall original horiginal
    rw [valueOf_eq hvalue, hvalue]
    rfl
  refine ⟨Dict.setAll ∅ ((named entries).map fun entry => (entry.1, valueOf entry.2)), ?_, ?_⟩
  · refine valueOf_eq ?_
    rw [normalize, hitems]
    rfl
  · intro k
    rw [Dict.get?_setAll, Dict.get?_empty, Option.or_none, Dict.lastEntry_map]

theorem lastEntry_ofDict (d : Dict String PyObject) (k : String) :
    Dict.lastEntry k (named (d.entries.map fun entry => (PyKey.str entry.1, entry.2))) =
      d.get? k := by
  have hnamed : named (d.entries.map fun entry => (PyKey.str entry.1, entry.2)) = d.entries := by
    rw [named, List.map_map]
    exact List.map_id _
  rw [hnamed]
  cases hget : d.get? k with
  | some value => exact Dict.lastEntry_of_nodup d.nodup (d.get?_eq_some_iff.mp hget)
  | none =>
      cases hlast : Dict.lastEntry k d.entries with
      | none => rfl
      | some value =>
          have hsome := d.get?_eq_some_iff.mpr (Dict.mem_of_lastEntry hlast)
          rw [hget] at hsome
          cases hsome

/-- What is stored of an object can be printed again. -/
theorem exists_reprints_stored {object : PyObject} {stored : List Char}
    (hfloats : object.FloatsAre fun x => read x.text = some x)
    (hnormal : ∃ value, normalize object = .ok value)
    (h : canonicalChars (valueOf object) = .ok stored) :
    ∃ text, Reprints read stored text ∧ JsonText.Opaque text := by
  obtain ⟨value, hvalue⟩ := hnormal
  rw [valueOf_eq hvalue] at h
  obtain ⟨again, hagain, hdumps⟩ := bind_eq_ok_iff.mp h
  obtain ⟨text, hreprints⟩ := exists_reprints
    (floatsAre_normalize value again hagain (floatsAre_normalize object value hvalue hfloats))
    hdumps
  obtain ⟨v, hread, hprint⟩ := hreprints
  exact ⟨text, ⟨v, hread, hprint⟩, opaque_canonicalChars hprint⟩

/-- Mappings are printed again as they were exactly when their values are. -/
theorem Reprints.render_iff {storeds texts : Dict String (List Char)}
    (hkeys : ∀ k, (storeds.get? k).isSome = (texts.get? k).isSome)
    (hexists : ∀ k stored, storeds.get? k = some stored →
      ∃ text, Reprints read stored text ∧ JsonText.Opaque text)
    (hsealed : ∀ k text, texts.get? k = some text → JsonText.Opaque text) :
    Reprints read (PyObject.render storeds) (PyObject.render texts) ↔
      ∀ k stored text, storeds.get? k = some stored → texts.get? k = some text →
        Reprints read stored text := by
  refine ⟨fun h k stored text hstored htext => ?_, Reprints.render hkeys⟩
  let again (stored : List Char) : List Char :=
    Classical.epsilon fun text => Reprints read stored text ∧ JsonText.Opaque text
  have hagain (k : String) (stored : List Char) (hget : storeds.get? k = some stored) :
      Reprints read stored (again stored) ∧ JsonText.Opaque (again stored) :=
    Classical.epsilon_spec (hexists k stored hget)
  have hget' (k : String) : (storeds.mapValues again).get? k = (storeds.get? k).map again :=
    Dict.get?_mapValues again storeds k
  have hrender : Reprints read (PyObject.render storeds)
      (PyObject.render (storeds.mapValues again)) := by
    refine Reprints.render (fun k => by rw [hget', Option.isSome_map]) ?_
    intro k stored text hget htext
    rw [hget', hget] at htext
    exact Option.some.inj htext ▸ (hagain k stored hget).1
  have heq := render_injective (fun k => by rw [hget', Option.isSome_map, hkeys])
    (fun k text htext => ?_) hsealed (hrender.unique h)
  · have htexts := heq k
    rw [hget', hstored, htext] at htexts
    exact Option.some.inj htexts ▸ (hagain k stored hstored).1
  · rw [hget'] at htext
    obtain ⟨stored, hget, rfl⟩ := Option.map_eq_some_iff.mp htext
    exact (hagain k stored hget).2

/-- Lists are printed again as they were exactly when their items are. -/
theorem Reprints.list_iff {storeds texts : List (List Char)}
    (hlength : storeds.length = texts.length)
    (hexists : ∀ stored ∈ storeds, ∃ text, Reprints read stored text ∧ JsonText.Opaque text)
    (hsealed : ∀ text ∈ texts, JsonText.Opaque text) :
    Reprints read ('[' :: List.intercalate [','] storeds ++ [']'])
        ('[' :: List.intercalate [','] texts ++ [']']) ↔
      List.Forall₂ (Reprints read) storeds texts := by
  refine ⟨fun h => ?_, Reprints.list⟩
  let again (stored : List Char) : List Char :=
    Classical.epsilon fun text => Reprints read stored text ∧ JsonText.Opaque text
  have hagain (stored : List Char) (hmem : stored ∈ storeds) :
      Reprints read stored (again stored) ∧ JsonText.Opaque (again stored) :=
    Classical.epsilon_spec (hexists stored hmem)
  have hprinted : List.Forall₂ (Reprints read) storeds (storeds.map again) :=
    List.forall₂_map_right_iff.mpr (List.forall₂_same.mpr fun stored hmem => (hagain stored hmem).1)
  have hsame := (Reprints.list hprinted).unique h
  have heq : storeds.map again = texts :=
    JsonText.intercalate_inj
      (fun text hmem => by
        obtain ⟨stored, hstored, rfl⟩ := List.mem_map.mp hmem
        exact (hagain stored hstored).2)
      hsealed (by rw [List.length_map, hlength]) (.cons (c := ']') rfl []) (.cons rfl [])
      (List.cons.inj hsame).2
  exact heq ▸ hprinted

mutual

/-- The stored text of an object is printed again as the text the object had exactly when the
raw values of its members are preserved. -/
theorem reprints_iff_preserved : (object : PyObject) →
    object.FloatsAre (fun x => read x.text = some x) → ∀ text stored,
    canonicalChars object = .ok text → canonicalChars (valueOf object) = .ok stored →
      (Reprints read stored text ↔ Preserved read object)
  | .member _ value, _, text, stored, htext, hstored =>
      ⟨fun h => ⟨text, stored, htext, hstored, h⟩, fun ⟨text', stored', htext', hstored', h⟩ => by
        obtain rfl := Except.ok.inj (htext'.symm.trans htext)
        obtain rfl := Except.ok.inj (hstored'.symm.trans hstored)
        exact h⟩
  | .mapping holder entries, hfloats, text, stored, htext, hstored => by
      obtain ⟨hall, texts, htexts, rfl⟩ := canonicalChars_mapping.mp htext
      obtain ⟨d, hvalue, hget⟩ := @valueOf_mapping holder entries hall
      rw [hvalue] at hstored
      obtain ⟨-, storeds, hstoreds, rfl⟩ := canonicalChars_mapping.mp hstored
      have hlast (k : String) : (Dict.lastEntry k (named entries)).map
          (fun object => canonicalChars (valueOf object)) = (storeds.get? k).map Except.ok := by
        rw [← hstoreds k, lastEntry_ofDict, hget, Option.map_map]
        rfl
      have hof (k : String) (stored : List Char) (hk : storeds.get? k = some stored) :
          ∃ object, Dict.lastEntry k (named entries) = some object ∧
            canonicalChars (valueOf object) = .ok stored := by
        have hmap := hlast k
        rw [hk] at hmap
        obtain ⟨object, hobject, hok⟩ := Option.map_eq_some_iff.mp hmap
        exact ⟨object, hobject, hok⟩
      have hkeys (k : String) : (storeds.get? k).isSome = (texts.get? k).isSome := by
        have hstoredSome := congrArg Option.isSome (hlast k)
        have htextSome := congrArg Option.isSome (htexts k)
        rw [Option.isSome_map, Option.isSome_map] at hstoredSome htextSome
        rw [← hstoredSome, htextSome]
      have hprinted (k : String) (text : List Char) (hk : texts.get? k = some text) :
          ∃ object, Dict.lastEntry k (named entries) = some object ∧
            canonicalChars object = .ok text := by
        have hmap := htexts k
        rw [hk] at hmap
        obtain ⟨object, hobject, hok⟩ := Option.map_eq_some_iff.mp hmap
        exact ⟨object, hobject, hok⟩
      have hentry (k : String) (object : PyObject)
          (hobject : Dict.lastEntry k (named entries) = some object) :
          ∃ entry ∈ entries, entry.2 = object := by
        obtain ⟨entry, hmem, -, rfl⟩ := mem_of_last hobject
        exact ⟨entry, hmem, rfl⟩
      rw [Reprints.render_iff hkeys ?_ fun k text hk => ?_]
      · have hvalues := reprints_iff_preservedEntries entries hfloats
        show _ ↔ PreservedEntries read entries
        rw [preservedEntries_iff]
        constructor
        · intro h k object hobject
          obtain ⟨entry, hmem, rfl⟩ := hentry k object hobject
          have hmapText := htexts k
          have hmapStored := hlast k
          rw [hobject, Option.map_some] at hmapText hmapStored
          obtain ⟨text, hk, hok⟩ := Option.map_eq_some_iff.mp hmapText.symm
          obtain ⟨stored, hk', hok'⟩ := Option.map_eq_some_iff.mp hmapStored.symm
          exact (hvalues entry hmem text stored hok.symm hok'.symm).mp (h k stored text hk' hk)
        · intro h k stored text hk' hk
          obtain ⟨object, hobject, hok⟩ := hof k stored hk'
          obtain ⟨object', hobject', hok'⟩ := hprinted k text hk
          obtain rfl := Option.some.inj (hobject'.symm.trans hobject)
          obtain ⟨entry, hmem, rfl⟩ := hentry k object' hobject'
          exact (hvalues entry hmem text stored hok' hok).mpr (h k entry.2 hobject')
      · intro k stored hk
        obtain ⟨object, hobject, hok⟩ := hof k stored hk
        obtain ⟨entry, hmem, rfl⟩ := hentry k object hobject
        exact exists_reprints_stored (floatsAreEntries_iff.mp hfloats entry hmem)
          (hall entry hmem) hok
      · obtain ⟨object, -, hok⟩ := hprinted k text hk
        exact opaque_canonicalChars hok
  | .sequence items, hfloats, text, stored, htext, hstored => by
      obtain ⟨texts, htexts, rfl⟩ := canonicalChars_sequence.mp htext
      have hnormal : ∀ item ∈ items, ∃ value, normalize item = .ok value := by
        intro item hmem
        obtain ⟨text, -, hok⟩ := (mem_of_mapM htexts).1 item hmem
        exact normalize_of_canonicalChars hok
      have hvalue : valueOf (.sequence items) = .sequence (items.map valueOf) := by
        refine valueOf_eq ?_
        rw [normalize, normalizeItems_eq]
        have hitems : items.mapM normalize = .ok (items.map valueOf) := mapM_ok_map fun item hmem => by
          obtain ⟨value, hvalue⟩ := hnormal item hmem
          rw [valueOf_eq hvalue, hvalue]
        rw [hitems]
        rfl
      rw [hvalue] at hstored
      obtain ⟨storeds, hstoreds, rfl⟩ := canonicalChars_sequence.mp hstored
      rw [List.mapM_map] at hstoreds
      rw [Reprints.list_iff ?_ ?_ ?_]
      · exact reprints_iff_preservedItems items hfloats texts storeds htexts hstoreds
      · rw [length_of_mapM htexts, length_of_mapM hstoreds]
      · intro stored hmem
        obtain ⟨item, hitem, hok⟩ := (mem_of_mapM hstoreds).2 stored hmem
        exact exists_reprints_stored (floatsAreItems_iff.mp hfloats item hitem)
          (hnormal item hitem) hok
      · intro text hmem
        obtain ⟨item, -, hok⟩ := (mem_of_mapM htexts).2 text hmem
        exact opaque_canonicalChars hok
  | .datetime (some instant), _, text, stored, htext, hstored => by
      cases hutc : utcText instant with
      | error fault =>
          unfold canonicalChars normalize at htext
          rw [hutc] at htext
          cases htext
      | ok s =>
          have hvalue : normalize (.datetime (some instant)) = .ok (.str s) := by
            unfold normalize
            rw [hutc]
            rfl
          have hprinted : canonicalChars (.datetime (some instant)) =
              canonicalChars (ofValue (.str s)) := by
            unfold canonicalChars
            rw [hvalue]
            rfl
          rw [hprinted] at htext
          rw [valueOf_eq hvalue] at hstored
          exact iff_of_true (reprints_scalar (v := .str s) rfl rfl trivial htext hstored) trivial
  | .datetime Option.none, _, _, _, htext, _ => by cases htext
  | .none, _, _, _, htext, hstored =>
      iff_of_true (reprints_scalar (v := Value.none) rfl rfl trivial htext hstored) trivial
  | .bool b, _, _, _, htext, hstored =>
      iff_of_true (reprints_scalar (v := .bool b) rfl rfl trivial htext hstored) trivial
  | .int n, _, _, _, htext, hstored =>
      iff_of_true (reprints_scalar (v := .int n) rfl rfl trivial htext hstored) trivial
  | .float x, hfloats, _, _, htext, hstored =>
      iff_of_true (reprints_scalar (v := .float x) rfl rfl hfloats htext hstored) trivial
  | .str s, _, _, _, htext, hstored =>
      iff_of_true (reprints_scalar (v := .str s) rfl rfl trivial htext hstored) trivial
  | .nonFinite, _, _, _, htext, _ => by cases htext
  | .set _, _, _, _, htext, _ => by cases htext
  | .other _, _, _, _, htext, _ => by cases htext

theorem reprints_iff_preservedItems : (items : List PyObject) →
    FloatsAreItems (fun x => read x.text = some x) items → ∀ texts storeds,
    items.mapM canonicalChars = .ok texts →
    items.mapM (fun item => canonicalChars (valueOf item)) = .ok storeds →
      (List.Forall₂ (Reprints read) storeds texts ↔ PreservedItems read items)
  | [], _, _, _, htexts, hstoreds => by
      obtain rfl := Except.ok.inj htexts
      obtain rfl := Except.ok.inj hstoreds
      exact iff_of_true .nil trivial
  | item :: rest, hfloats, texts, storeds, htexts, hstoreds => by
      rw [List.mapM_cons] at htexts hstoreds
      obtain ⟨text, htext, htexts⟩ := bind_eq_ok_iff.mp htexts
      obtain ⟨others, hothers, htexts⟩ := bind_eq_ok_iff.mp htexts
      obtain rfl := Except.ok.inj htexts
      obtain ⟨stored, hstored, hstoreds⟩ := bind_eq_ok_iff.mp hstoreds
      obtain ⟨others', hothers', hstoreds⟩ := bind_eq_ok_iff.mp hstoreds
      obtain rfl := Except.ok.inj hstoreds
      rw [List.forall₂_cons, reprints_iff_preserved item hfloats.1 text stored htext hstored,
        reprints_iff_preservedItems rest hfloats.2 others others' hothers hothers']
      rfl

theorem reprints_iff_preservedEntries : (entries : List (PyKey × PyObject)) →
    FloatsAreEntries (fun x => read x.text = some x) entries → ∀ entry ∈ entries,
    ∀ text stored, canonicalChars entry.2 = .ok text →
      canonicalChars (valueOf entry.2) = .ok stored →
        (Reprints read stored text ↔ Preserved read entry.2)
  | [], _, _, hmem, _, _, _, _ => absurd hmem List.not_mem_nil
  | (_, value) :: rest, hfloats, entry, hmem, text, stored, htext, hstored => by
      rcases List.mem_cons.mp hmem with rfl | hmem
      · exact reprints_iff_preserved value hfloats.1 text stored htext hstored
      · exact reprints_iff_preservedEntries rest hfloats.2 entry hmem text stored htext hstored

end

/-! ## Raw values that are JSON values -/

mutual

theorem keysDistinct_sorted : (v : Value) → KeysDistinct v → KeysDistinct (v.sorted id)
  | .none, _ => trivial
  | .bool _, _ => trivial
  | .int _, _ => trivial
  | .float _, _ => trivial
  | .str _, _ => trivial
  | .list xs, h => keysDistinct_sortedList xs h
  | .dict kvs, h => by
      have hperm := List.perm_insertionSort (fun a b : String × Value => a.1 ≤ b.1)
        (Value.sortedEntries id kvs)
      have hkeys : (Value.sortedEntries id kvs).map Prod.fst = kvs.map Prod.fst := by
        rw [Value.sortedEntries_eq, List.map_map]
        rfl
      refine ⟨((hperm.map Prod.fst).nodup_iff).mpr (hkeys ▸ h.1), ?_⟩
      have hvalues := keysDistinct_sortedEntries kvs h.2
      exact keysDistinctEntries_iff.mpr fun entry hmem => hvalues entry (hperm.subset hmem)

theorem keysDistinct_sortedList : (xs : List Value) → KeysDistinctList xs →
    KeysDistinctList (Value.sortedList id xs)
  | [], _ => trivial
  | x :: xs, h => ⟨keysDistinct_sorted x h.1, keysDistinct_sortedList xs h.2⟩

theorem keysDistinct_sortedEntries : (kvs : List (String × Value)) → KeysDistinctEntries kvs →
    ∀ entry ∈ Value.sortedEntries id kvs, KeysDistinct entry.2
  | [], _, _, hmem => absurd hmem List.not_mem_nil
  | (_, v) :: rest, h, entry, hmem => by
      rcases List.mem_cons.mp hmem with rfl | hmem
      · exact keysDistinct_sorted v h.1
      · exact keysDistinct_sortedEntries rest h.2 entry hmem

end

theorem canonicalChars_ofValue {v : Value} (h : KeysDistinct v) :
    canonicalChars (ofValue v) = .ok (Value.dumpChars false v) := by
  unfold canonicalChars
  rw [normalize_ofValue v h]
  exact dumps_ofValue v

/-- The canonical text of a JSON value is printed again as it is. -/
theorem reprints_value {v : Value} (h : KeysDistinct v)
    (hfloats : v.FloatsAre fun x => read x.text = some x) :
    Reprints read (Value.dumpChars false v) (Value.dumpChars false v) := by
  have hsorted : Value.dumpChars false (v.sorted id) = Value.dumpChars false v :=
    Value.dumpChars_sorted false (fun _ => rfl) v
  refine ⟨v.sorted id, readsAs_value hfloats, ?_⟩
  rw [canonicalChars_ofValue (keysDistinct_sorted v h), hsorted]

/-- A member whose raw value is a JSON value is preserved. -/
theorem preserved_member {v : Value} (h : KeysDistinct v)
    (hfloats : v.FloatsAre fun x => read x.text = some x) (content : Option Value) :
    Preserved read (.member content (ofValue v)) :=
  ⟨_, _, dumps_ofValue v, canonicalChars_ofValue h, reprints_value h hfloats⟩

end Preserved

end Manifest.Canonical
