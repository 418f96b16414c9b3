import Manifest.Lib.Assignments
import Manifest.Lib.Fallible
import Manifest.Lib.JsonRead

/-!
# Python objects and what `json` writes of them

Objects as a serializer meets them: members of enumerations, timestamps, instances of
dataclasses, mappings with keys of any kind, sequences and sets.  A key is what its users see
of it: the text `str` gives and the way `json` treats it.

Main results:

- Definition `PyObject.dumps`: the text `json.dumps` writes, or what it raises.
- Theorem `PyObject.opaque_dumps`: every text written is recognised as one piece.
- Theorem `PyObject.render_injective`: the text of a mapping determines its members.
-/

set_option autoImplicit false

open Fallible

/-- What a serializer raises. -/
inductive Fault where
  | typeError
  | valueError
  | overflowError
deriving DecidableEq

/-! ## Keys -/

/-- The keys `json` takes: `None`, numbers, booleans among them, and strings. -/
inductive JsonKey where
  | none
  | number (value : Rat) (name : String)
  | string (name : String)

def JsonKey.name : JsonKey → String
  | .none => "null"
  | .number _ name => name
  | .string name => name

/-- A key of a mapping: the text `str` gives for it, and what it is to `json`, if anything.
Keys alike in both are told apart by their identity. -/
structure PyKey where
  text : String
  json : Option JsonKey
  identity : Nat := 0

namespace PyKey

/-- A string. -/
def str (s : String) : PyKey where
  text := s
  json := some (.string s)

/-- An integer. -/
def int (n : Int) : PyKey where
  text := toString n
  json := some (.number n (toString n))

/-- A boolean. -/
def bool (b : Bool) : PyKey where
  text := if b then "True" else "False"
  json := some (.number (if b then 1 else 0) (if b then "true" else "false"))

/-- The string a key is. -/
def string? (key : PyKey) : Option String :=
  match key.json with
  | some (.string name) => some name
  | _ => none

/-- The number a key is. -/
def number? (key : PyKey) : Option Rat :=
  match key.json with
  | some (.number value _) => some value
  | _ => none

end PyKey

/-! ## Objects -/

/-- What holds named values: a `dict`, another mapping, or an instance of a dataclass, whose
keys are the names of its fields. -/
inductive Holder where
  | dict
  | view
  | dataclass
deriving DecidableEq

/-- A Python object. -/
inductive PyObject where
  | none
  | bool (b : Bool)
  | int (n : Int)
  | float (x : PyFloat)
  | nonFinite
  | str (s : String)
  /-- A member of an enumeration; `content` is the number or string the member itself is. -/
  | member (content : Option Value) (value : PyObject)
  /-- A timestamp: its instant in microseconds, or none without a timezone. -/
  | datetime (instant : Option Int)
  | mapping (holder : Holder) (entries : List (PyKey × PyObject))
  /-- A list or a tuple. -/
  | sequence (items : List PyObject)
  | set (items : List PyObject)
  | other (typeName : String)

instance : Inhabited PyObject := ⟨.none⟩

namespace PyObject

/-- The number or string an object compares as. -/
def content : PyObject → Option Value
  | .bool b => some (.bool b)
  | .int n => some (.int n)
  | .float x => some (.float x)
  | .str s => some (.str s)
  | .member content _ => content
  | _ => Option.none

/-- `object == value` for a number or a string. -/
def equals (object : PyObject) (value : Value) : Bool :=
  match object.content with
  | some content => content.pyEq value
  | Option.none => false

/-! ## What `json` writes -/

/-- `sorted(mapping.items())`: keys that do not compare raise. -/
def sortItems {α : Type} (entries : List (PyKey × α)) : Except Fault (List (PyKey × α)) :=
  if entries.all (fun entry => entry.1.string?.isSome) then
    .ok (entries.insertionSort fun a b => a.1.string?.getD "" ≤ b.1.string?.getD "")
  else if entries.all (fun entry => entry.1.number?.isSome) then
    .ok (entries.insertionSort fun a b => a.1.number?.getD 0 ≤ b.1.number?.getD 0)
  else if entries.length ≤ 1 then .ok entries
  else .error .typeError

/-- One member of a mapping, under the name `json` gives its key. -/
def dumpItem (item : PyKey × Except Fault (List Char)) : Except Fault (List Char) :=
  match item.1.json with
  | Option.none => .error .typeError
  | some key => do
      let text ← item.2
      .ok (Value.quoted false key.name ++ ':' :: text)

mutual

/-- `json.dumps(object, sort_keys=True, separators=(",", ":"), ensure_ascii=False,
allow_nan=False)`, as characters. -/
def dumps : PyObject → Except Fault (List Char)
  | .none => .ok "null".toList
  | .bool b => .ok (Value.dumpChars false (.bool b))
  | .int n => .ok (Value.dumpChars false (.int n))
  | .float x => .ok (Value.dumpChars false (.float x))
  | .nonFinite => .error .valueError
  | .str s => .ok (Value.dumpChars false (.str s))
  | .member (some content) _ => .ok (Value.dumpChars false content)
  | .member Option.none _ => .error .typeError
  | .datetime _ => .error .typeError
  | .mapping holder entries =>
      if holder = .dict then do
        let items ← sortItems (dumpsEntries entries)
        let members ← items.mapM dumpItem
        .ok ('{' :: List.intercalate [','] members ++ ['}'])
      else .error .typeError
  | .sequence items => do
      let texts ← dumpsItems items
      .ok ('[' :: List.intercalate [','] texts ++ [']'])
  | .set _ => .error .typeError
  | .other _ => .error .typeError

/-- The texts of the items. -/
def dumpsItems : List PyObject → Except Fault (List (List Char))
  | [] => .ok []
  | item :: rest => do
      let text ← dumps item
      let texts ← dumpsItems rest
      .ok (text :: texts)

/-- The texts of the values, still under their keys and not yet asked for. -/
def dumpsEntries : List (PyKey × PyObject) → List (PyKey × Except Fault (List Char))
  | [] => []
  | (key, value) :: rest => (key, dumps value) :: dumpsEntries rest

end

theorem dumpsEntries_eq (entries : List (PyKey × PyObject)) :
    dumpsEntries entries = entries.map fun entry => (entry.1, dumps entry.2) := by
  induction entries with
  | nil => rfl
  | cons entry rest ih => exact congrArg (_ :: ·) ih

theorem dumpsItems_eq (items : List PyObject) : dumpsItems items = items.mapM dumps := by
  induction items with
  | nil => rfl
  | cons item rest ih =>
      rw [List.mapM_cons, ← ih]
      rfl

/-! ## Texts recognised as one piece -/

open JsonText

theorem mem_sortItems {α : Type} {entries items : List (PyKey × α)}
    (h : sortItems entries = .ok items) : items.Perm entries := by
  unfold sortItems at h
  split_ifs at h <;> obtain rfl := Except.ok.inj h
  · exact List.perm_insertionSort _ _
  · exact List.perm_insertionSort _ _
  · exact List.Perm.refl _

theorem opaque_dumpItem {item : PyKey × Except Fault (List Char)} {text : List Char}
    (h : dumpItem item = .ok text) (hvalue : ∀ value, item.2 = .ok value → Opaque value) :
    Opaque text := by
  unfold dumpItem at h
  split at h
  · cases h
  · rename_i key hkey
    obtain ⟨value, hok, h⟩ := bind_eq_ok_iff.mp h
    obtain rfl := Except.ok.inj h
    exact (Value.opaque_quoted false key.name).append (opaque_colon.append (hvalue value hok))

mutual

/-- Every text written is recognised as one piece. -/
theorem opaque_dumps : (object : PyObject) → ∀ text, dumps object = .ok text → Opaque text
  | .none, text, h => Except.ok.inj h ▸ Value.opaque_dumpChars false .none
  | .bool b, text, h => Except.ok.inj h ▸ Value.opaque_dumpChars false (.bool b)
  | .int n, text, h => Except.ok.inj h ▸ Value.opaque_dumpChars false (.int n)
  | .float x, text, h => Except.ok.inj h ▸ Value.opaque_dumpChars false (.float x)
  | .nonFinite, text, h => by cases h
  | .str s, text, h => Except.ok.inj h ▸ Value.opaque_dumpChars false (.str s)
  | .member (some content) _, text, h => Except.ok.inj h ▸ Value.opaque_dumpChars false content
  | .member Option.none _, text, h => by cases h
  | .datetime _, text, h => by cases h
  | .mapping holder entries, text, h => by
      unfold dumps at h
      split at h
      · obtain ⟨items, hitems, h⟩ := bind_eq_ok_iff.mp h
        obtain ⟨members, hmembers, h⟩ := bind_eq_ok_iff.mp h
        obtain rfl := Except.ok.inj h
        refine (inner_intercalate fun member hmem => ?_).brace
        obtain ⟨item, hitem, hok⟩ := (mem_of_mapM hmembers).2 member hmem
        have hentry := (mem_sortItems hitems).subset hitem
        exact (opaque_dumpItem hok fun value hvalue =>
          opaque_dumpsEntries entries item hentry value hvalue).inner
      · cases h
  | .sequence items, text, h => by
      unfold dumps at h
      obtain ⟨texts, htexts, h⟩ := bind_eq_ok_iff.mp h
      obtain rfl := Except.ok.inj h
      exact (inner_intercalate fun text hmem =>
        (opaque_dumpsItems items texts htexts text hmem).inner).bracket
  | .set _, text, h => by cases h
  | .other _, text, h => by cases h

theorem opaque_dumpsItems : (items : List PyObject) → ∀ texts, dumpsItems items = .ok texts →
    ∀ text ∈ texts, Opaque text
  | [], texts, h, text, hmem => by
      obtain rfl := Except.ok.inj h
      cases hmem
  | item :: rest, texts, h, text, hmem => by
      unfold dumpsItems at h
      obtain ⟨first, hfirst, h⟩ := bind_eq_ok_iff.mp h
      obtain ⟨others, hothers, h⟩ := bind_eq_ok_iff.mp h
      obtain rfl := Except.ok.inj h
      rcases List.mem_cons.mp hmem with rfl | hmem
      · exact opaque_dumps item text hfirst
      · exact opaque_dumpsItems rest others hothers text hmem

theorem opaque_dumpsEntries : (entries : List (PyKey × PyObject)) →
    ∀ item ∈ dumpsEntries entries, ∀ text, item.2 = .ok text → Opaque text
  | [], item, hmem, text, h => by cases hmem
  | (key, value) :: rest, item, hmem, text, h => by
      rcases List.mem_cons.mp hmem with rfl | hmem
      · exact opaque_dumps value text h
      · exact opaque_dumpsEntries rest item hmem text h

end

/-! ## Mappings from strings to texts -/

/-- The entries of a dictionary in the order of their keys. -/
def sortedEntries {α : Type} (d : Dict String α) : List (String × α) :=
  d.entries.insertionSort fun a b => a.1 ≤ b.1

/-- The text of a mapping, from the texts of its values. -/
def render (d : Dict String (List Char)) : List Char :=
  '{' :: List.intercalate [',']
    ((sortedEntries d).map fun entry => Value.quoted false entry.1 ++ ':' :: entry.2) ++ ['}']

theorem mem_sortedEntries {α : Type} {d : Dict String α} {k : String} {v : α} :
    (k, v) ∈ sortedEntries d ↔ d.get? k = some v := by
  unfold sortedEntries
  rw [List.mem_insertionSort, d.get?_eq_some_iff]

/-- Two entries of a dictionary under one key are the same. -/
theorem eq_of_mem_entries {α : Type} {d : Dict String α} {a b : String × α}
    (ha : a ∈ d.entries) (hb : b ∈ d.entries) (hkey : a.1 = b.1) : a = b := by
  have hfirst := d.get?_eq_some_iff.mpr ha
  have hsecond := d.get?_eq_some_iff.mpr hb
  rw [hkey, hsecond] at hfirst
  exact Prod.ext hkey (Option.some.inj hfirst).symm

theorem pairwise_sortedEntries {α : Type} (d : Dict String α) :
    (sortedEntries d).Pairwise fun a b => a.1 ≤ b.1 :=
  haveI : Std.Total fun a b : String × α => a.1 ≤ b.1 := ⟨fun a b => String.le_total a.1 b.1⟩
  haveI : IsTrans (String × α) fun a b => a.1 ≤ b.1 := ⟨fun _ _ _ => String.le_trans⟩
  List.pairwise_insertionSort _ _

/-- Dictionaries that are read alike are listed alike. -/
theorem sortedEntries_congr {α : Type} {d d' : Dict String α} (h : ∀ k, d.get? k = d'.get? k) :
    sortedEntries d = sortedEntries d' := by
  have hmem (entry : String × α) : entry ∈ d.entries ↔ entry ∈ d'.entries := by
    obtain ⟨k, v⟩ := entry
    rw [← d.get?_eq_some_iff, ← d'.get?_eq_some_iff, h]
  have hperm : d.entries.Perm d'.entries :=
    (List.perm_ext_iff_of_nodup d.nodup.of_map d'.nodup.of_map).mpr hmem
  refine List.Perm.eq_of_pairwise (fun a b ha hb hle hge => ?_) (pairwise_sortedEntries d)
    (pairwise_sortedEntries d') ?_
  · unfold sortedEntries at ha hb
    rw [List.mem_insertionSort] at ha hb
    exact eq_of_mem_entries ha ((hmem b).mpr hb) (String.le_antisymm hle hge)
  · exact (List.perm_insertionSort _ _).trans
      (hperm.trans (List.perm_insertionSort _ _).symm)

theorem render_congr {d d' : Dict String (List Char)} (h : ∀ k, d.get? k = d'.get? k) :
    render d = render d' := by
  unfold render
  rw [sortedEntries_congr h]

/-- Dictionaries with the same keys list them alike. -/
theorem keys_sortedEntries {α : Type} {d d' : Dict String α}
    (h : ∀ k, (d.get? k).isSome = (d'.get? k).isSome) :
    (sortedEntries d).map Prod.fst = (sortedEntries d').map Prod.fst := by
  have hmem (d : Dict String α) (k : String) :
      k ∈ (sortedEntries d).map Prod.fst ↔ (d.get? k).isSome = true := by
    simp only [List.mem_map, Prod.exists, exists_and_right, exists_eq_right, mem_sortedEntries,
      Option.isSome_iff_exists]
  have hnodup (d : Dict String α) : ((sortedEntries d).map Prod.fst).Nodup :=
    (((List.perm_insertionSort _ _).map Prod.fst).nodup_iff).mpr d.nodup
  have hsorted (d : Dict String α) : ((sortedEntries d).map Prod.fst).Pairwise (· ≤ ·) :=
    List.pairwise_map.mpr (pairwise_sortedEntries d)
  refine List.Perm.eq_of_pairwise (fun a b _ _ => String.le_antisymm) (hsorted d) (hsorted d') ?_
  refine (List.perm_ext_iff_of_nodup (hnodup d) (hnodup d')).mpr fun k => ?_
  rw [hmem, hmem, h]

/-- The members of two mappings under the same keys tell their values apart. -/
theorem entries_of_members {entries entries' : List (String × List Char)}
    (hkeys : entries.map Prod.fst = entries'.map Prod.fst)
    (h : entries.map (fun entry => Value.quoted false entry.1 ++ ':' :: entry.2) =
      entries'.map fun entry => Value.quoted false entry.1 ++ ':' :: entry.2) :
    entries = entries' := by
  induction entries generalizing entries' with
  | nil =>
      cases entries' with
      | nil => rfl
      | cons => cases hkeys
  | cons entry rest ih =>
      cases entries' with
      | nil => cases hkeys
      | cons entry' rest' =>
          obtain ⟨hkey, hkeys⟩ := List.cons.inj hkeys
          obtain ⟨hmember, h⟩ := List.cons.inj h
          dsimp only at hmember
          rw [hkey] at hmember
          have hvalue := (List.cons.inj (List.append_cancel_left hmember)).2
          rw [ih hkeys h, Prod.ext hkey hvalue]

/-- The text of a mapping determines its members, under given keys. -/
theorem render_injective {d d' : Dict String (List Char)}
    (hkeys : ∀ k, (d.get? k).isSome = (d'.get? k).isSome)
    (hsealed : ∀ k text, d.get? k = some text → Opaque text)
    (hsealed' : ∀ k text, d'.get? k = some text → Opaque text) (h : render d = render d') :
    ∀ k, d.get? k = d'.get? k := by
  have hmembers {d : Dict String (List Char)}
      (hsealed : ∀ k text, d.get? k = some text → Opaque text) :
      ∀ member ∈ (sortedEntries d).map fun entry => Value.quoted false entry.1 ++ ':' :: entry.2,
        Opaque member := by
    intro member hmem
    obtain ⟨⟨k, text⟩, hentry, rfl⟩ := List.mem_map.mp hmem
    exact (Value.opaque_quoted false k).append
      (opaque_colon.append (hsealed k text (mem_sortedEntries.mp hentry)))
  have hlisted := keys_sortedEntries hkeys
  have hlength := congrArg List.length hlisted
  simp only [List.length_map] at hlength
  have hentries : sortedEntries d = sortedEntries d' :=
    entries_of_members hlisted <|
      intercalate_inj (hmembers hsealed) (hmembers hsealed') (by simpa using hlength)
        (.cons (c := '}') rfl []) (.cons rfl []) (List.cons.inj h).2
  intro k
  refine Option.ext fun text => ?_
  rw [← mem_sortedEntries, ← mem_sortedEntries, hentries]

/-! ## What is written of sequences and of mappings from strings -/

theorem dumps_sequence {items : List PyObject} {text : List Char} :
    dumps (.sequence items) = .ok text ↔ ∃ texts, items.mapM dumps = .ok texts ∧
      text = '[' :: List.intercalate [','] texts ++ [']'] := by
  unfold dumps
  rw [dumpsItems_eq, bind_eq_ok_iff]
  refine exists_congr fun texts => and_congr_right fun _ => ?_
  rw [Except.ok.injEq, eq_comm]

/-- The mapping with the entries of a dictionary. -/
def ofDict (d : Dict String PyObject) : PyObject :=
  .mapping .dict (d.entries.map fun entry => (.str entry.1, entry.2))

theorem sortItems_str {α β : Type} (f : α → β) (entries : List (String × α)) :
    sortItems (entries.map fun entry => (PyKey.str entry.1, f entry.2)) =
      .ok ((entries.insertionSort fun a b => a.1 ≤ b.1).map fun entry =>
        (PyKey.str entry.1, f entry.2)) := by
  have hall : (entries.map fun entry => (PyKey.str entry.1, f entry.2)).all
      (fun entry => entry.1.string?.isSome) = true := by
    rw [List.all_map, List.all_eq_true]
    exact fun _ _ => rfl
  unfold sortItems
  rw [if_pos hall]
  refine congrArg Except.ok (List.map_insertionSort (fun a b : String × α => a.1 ≤ b.1)
    (fun a b : PyKey × β => a.1.string?.getD "" ≤ b.1.string?.getD "") _ entries ?_).symm
  exact fun a _ b _ => Iff.rfl

theorem sortedEntries_mapValues {α β : Type} (f : α → β) (d : Dict String α) :
    sortedEntries (d.mapValues f) = (sortedEntries d).map fun entry => (entry.1, f entry.2) :=
  (List.map_insertionSort (fun a b : String × α => a.1 ≤ b.1)
    (fun a b : String × β => a.1 ≤ b.1) _ d.entries fun _ _ _ _ => Iff.rfl).symm

theorem dumps_dict (entries : List (PyKey × PyObject)) :
    dumps (.mapping .dict entries) =
      (sortItems (entries.map fun entry => (entry.1, dumps entry.2)) >>= fun items =>
        items.mapM dumpItem).map
          fun members => '{' :: List.intercalate [','] members ++ ['}'] := by
  rw [dumps, if_pos rfl, dumpsEntries_eq]
  cases sortItems (entries.map fun entry => (entry.1, dumps entry.2)) with
  | error x => rfl
  | ok items =>
      show (items.mapM dumpItem >>= _) = (items.mapM dumpItem).map _
      cases items.mapM dumpItem <;> rfl

theorem dumps_ofDict_eq (d : Dict String PyObject) :
    dumps (ofDict d) =
      ((sortedEntries d).mapM fun entry => dumpItem (.str entry.1, dumps entry.2)).map
        fun members => '{' :: List.intercalate [','] members ++ ['}'] := by
  rw [ofDict, dumps_dict, List.map_map]
  show (sortItems (d.entries.map fun entry => (PyKey.str entry.1, dumps entry.2)) >>= _).map _ = _
  rw [sortItems_str]
  show (((sortedEntries d).map fun entry => (PyKey.str entry.1, dumps entry.2)).mapM
    dumpItem).map _ = _
  rw [List.mapM_map]
  rfl

/-- A mapping from strings is written from the texts of its values. -/
theorem dumps_ofDict_of_forall {d : Dict String PyObject} {textOf : PyObject → List Char}
    (h : ∀ k v, d.get? k = some v → dumps v = .ok (textOf v)) :
    dumps (ofDict d) = .ok (render (d.mapValues textOf)) := by
  rw [dumps_ofDict_eq, mapM_ok_map (g := fun entry =>
    Value.quoted false entry.1 ++ ':' :: textOf entry.2)]
  · unfold render
    rw [sortedEntries_mapValues, List.map_map]
    rfl
  · rintro ⟨k, v⟩ hmem
    rw [h k v (mem_sortedEntries.mp hmem)]
    rfl

theorem dumps_of_dumps_ofDict {d : Dict String PyObject} {text : List Char}
    (h : dumps (ofDict d) = .ok text) {k : String} {v : PyObject} (hget : d.get? k = some v) :
    ∃ text', dumps v = .ok text' := by
  rw [dumps_ofDict_eq] at h
  cases hmembers : (sortedEntries d).mapM fun entry =>
      dumpItem (.str entry.1, dumps entry.2) with
  | error x =>
      rw [hmembers] at h
      cases h
  | ok members => ?_
  obtain ⟨member, -, hmember⟩ := (mem_of_mapM hmembers).1 (k, v) (mem_sortedEntries.mpr hget)
  obtain ⟨text', htext, -⟩ := bind_eq_ok_iff.mp hmember
  exact ⟨text', htext⟩

/-- A mapping from strings is written when its values are, in the order of its keys. -/
theorem dumps_ofDict {d : Dict String PyObject} {text : List Char} :
    dumps (ofDict d) = .ok text ↔ ∃ texts : Dict String (List Char),
      (∀ k, (d.get? k).map dumps = (texts.get? k).map Except.ok) ∧ text = render texts := by
  let textOf (v : PyObject) : List Char := (dumps v).toOption.getD []
  have hwritten (h : ∀ k v, d.get? k = some v → ∃ text', dumps v = .ok text') :
      ∀ k v, d.get? k = some v → dumps v = .ok (textOf v) := by
    intro k v hget
    obtain ⟨text', htext⟩ := h k v hget
    simp only [textOf, htext]
    rfl
  constructor
  · intro h
    have hvalues := hwritten fun k v hget => dumps_of_dumps_ofDict h hget
    refine ⟨d.mapValues textOf, fun k => ?_, ?_⟩
    · cases hget : d.get? k with
      | none => simp [hget]
      | some v => simp [hget, hvalues k v hget]
    · rw [dumps_ofDict_of_forall hvalues] at h
      exact (Except.ok.inj h).symm
  · rintro ⟨texts, htexts, rfl⟩
    have hvalues : ∀ k v, d.get? k = some v → ∃ text', texts.get? k = some text' ∧
        dumps v = .ok text' := by
      intro k v hget
      have hk := htexts k
      rw [hget] at hk
      cases hget' : texts.get? k with
      | none => simp [hget'] at hk
      | some text' => exact ⟨text', rfl, by simpa [hget'] using hk⟩
    have hall := hwritten fun k v hget => by
      obtain ⟨text', -, htext⟩ := hvalues k v hget
      exact ⟨text', htext⟩
    rw [dumps_ofDict_of_forall hall]
    refine congrArg Except.ok (render_congr fun k => ?_)
    rw [Dict.get?_mapValues]
    cases hget : d.get? k with
    | none =>
        have hk := htexts k
        rw [hget] at hk
        simpa [eq_comm] using hk
    | some v =>
        obtain ⟨text', hget', htext⟩ := hvalues k v hget
        rw [hget', Option.map_some, ← Except.ok.inj ((hall k v hget).symm.trans htext)]

/-! ## JSON values as objects -/

mutual

/-- A JSON value as an object. -/
def ofValue : Value → PyObject
  | .none => .none
  | .bool b => .bool b
  | .int n => .int n
  | .float x => .float x
  | .str s => .str s
  | .list xs => .sequence (ofValues xs)
  | .dict kvs => .mapping .dict (ofEntries kvs)

def ofValues : List Value → List PyObject
  | [] => []
  | x :: xs => ofValue x :: ofValues xs

def ofEntries : List (String × Value) → List (PyKey × PyObject)
  | [] => []
  | (k, v) :: rest => (.str k, ofValue v) :: ofEntries rest

end

theorem ofEntries_eq (kvs : List (String × Value)) :
    ofEntries kvs = kvs.map fun entry => (PyKey.str entry.1, ofValue entry.2) := by
  induction kvs with
  | nil => rfl
  | cons entry rest ih => exact congrArg (_ :: ·) ih

mutual

/-- A JSON value is written as it is printed. -/
theorem dumps_ofValue : (v : Value) → dumps (ofValue v) = .ok (Value.dumpChars false v)
  | .none => rfl
  | .bool _ => rfl
  | .int _ => rfl
  | .float _ => rfl
  | .str _ => rfl
  | .list xs => by
      rw [ofValue, dumps, dumpsItems_ofValues xs]
      rfl
  | .dict kvs => by
      rw [ofValue, dumps_dict, ofEntries_eq, List.map_map]
      show (sortItems (kvs.map fun entry => (PyKey.str entry.1, dumps (ofValue entry.2))) >>=
        _).map _ = _
      rw [sortItems_str (fun v => dumps (ofValue v))]
      show (((kvs.insertionSort fun a b => a.1 ≤ b.1).map fun entry =>
        (PyKey.str entry.1, dumps (ofValue entry.2))).mapM dumpItem).map _ = _
      rw [List.mapM_map, mapM_ok_map (g := Value.member false)]
      · rw [Value.dumpChars_dict_eq]
        rfl
      · intro entry hmem
        show dumpItem (PyKey.str entry.1, dumps (ofValue entry.2)) = _
        rw [dumps_ofEntries kvs entry ((List.mem_insertionSort _).mp hmem)]
        rfl

theorem dumpsItems_ofValues : (xs : List Value) →
    dumpsItems (ofValues xs) = .ok (Value.dumpList false xs)
  | [] => rfl
  | x :: xs => by
      rw [ofValues, dumpsItems, dumps_ofValue x, dumpsItems_ofValues xs]
      rfl

theorem dumps_ofEntries : (kvs : List (String × Value)) → ∀ entry ∈ kvs,
    dumps (ofValue entry.2) = .ok (Value.dumpChars false entry.2)
  | [], _, hmem => absurd hmem List.not_mem_nil
  | (_, v) :: rest, entry, hmem => by
      rcases List.mem_cons.mp hmem with rfl | hmem
      · exact dumps_ofValue v
      · exact dumps_ofEntries rest entry hmem

end

end PyObject
