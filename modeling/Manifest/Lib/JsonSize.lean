import Manifest.Lib.JsonText

/-!
# The size of JSON text

The UTF-8 size of a printed value, computed from the value: sorting the members of a
mapping does not change it, and printing can be skipped.

Main results:

- Theorem `Value.textSize_dumpChars`: the size of a printed value.
- Theorems `Value.length_lt_quotedSize` and `Value.byteSize_le_of_mem`: lower bounds.
-/

set_option autoImplicit false

/-- The UTF-8 size of a text. -/
def textSize (cs : List Char) : Nat :=
  (cs.map Char.utf8Size).sum

@[simp]
theorem textSize_nil : textSize [] = 0 :=
  rfl

@[simp]
theorem textSize_cons (c : Char) (cs : List Char) :
    textSize (c :: cs) = c.utf8Size + textSize cs :=
  rfl

@[simp]
theorem textSize_append (xs ys : List Char) :
    textSize (xs ++ ys) = textSize xs + textSize ys := by
  simp [textSize]

/-- Separators come between the pieces. -/
theorem textSize_intercalate_comma (pieces : List (List Char)) :
    textSize (List.intercalate [','] pieces) =
      (pieces.map textSize).sum + (pieces.length - 1) := by
  induction pieces with
  | nil => rfl
  | cons piece rest ih =>
      cases rest with
      | nil => simp
      | cons next rest =>
          rw [List.intercalate_cons_cons, textSize_append, textSize_append, ih]
          simp only [List.map_cons, List.sum_cons, List.length_cons]
          have hcomma : textSize [','] = 1 := rfl
          omega

namespace Value

/-- The size of a string literal. -/
def quotedSize (s : String) : Nat :=
  2 + (s.toList.map fun c => textSize (escapeChar false c)).sum

mutual

/-- The size of the text of a value. -/
def byteSize : Value → Nat
  | .none => 4
  | .bool true => 4
  | .bool false => 5
  | .int n => textSize (toString n).toList
  | .float x => textSize x.text.toList
  | .str s => quotedSize s
  | .list xs => 2 + (listSize xs + (xs.length - 1))
  | .dict kvs => 2 + (entriesSize kvs + (kvs.length - 1))

def listSize : List Value → Nat
  | [] => 0
  | x :: xs => byteSize x + listSize xs

/-- The size of the members, with their colons. -/
def entriesSize : List (String × Value) → Nat
  | [] => 0
  | (k, v) :: rest => quotedSize k + 1 + byteSize v + entriesSize rest

end

/-- Every character prints as at least one byte. -/
theorem textSize_escapeChar_pos (c : Char) : 0 < textSize (escapeChar false c) := by
  have hnonempty : escapeChar false c ≠ [] := by
    fun_cases escapeChar false c <;> exact List.cons_ne_nil _ _
  obtain ⟨d, ds, hcons⟩ := List.exists_cons_of_ne_nil hnonempty
  have hpos := d.utf8Size_pos
  rw [hcons, textSize_cons]
  omega

/-- A string literal is longer than its string. -/
theorem length_lt_quotedSize (s : String) : s.toList.length < quotedSize s := by
  have hlength (cs : List Char) :
      cs.length ≤ (cs.map fun c => textSize (escapeChar false c)).sum := by
    induction cs with
    | nil => exact Nat.le_refl 0
    | cons c cs ih =>
        have hc := textSize_escapeChar_pos c
        rw [List.map_cons, List.sum_cons, List.length_cons]
        omega
  have hs := hlength s.toList
  unfold quotedSize
  omega

/-- Every character prints as at most six. -/
theorem textSize_escapeChar_le (c : Char) : textSize (escapeChar false c) ≤ 24 := by
  have hlength : (escapeChar false c).length ≤ 6 := by
    fun_cases escapeChar false c <;> simp_all [unicodeEscape]
  have hsize (cs : List Char) : textSize cs ≤ 4 * cs.length := by
    induction cs with
    | nil => exact Nat.le_refl 0
    | cons d ds ih =>
        have hd := d.utf8Size_le_four
        rw [textSize_cons, List.length_cons]
        omega
  have hle := hsize (escapeChar false c)
  omega

/-- A string literal is not much longer than its string. -/
theorem quotedSize_le (s : String) : quotedSize s ≤ 2 + 24 * s.toList.length := by
  have hlength (cs : List Char) :
      (cs.map fun c => textSize (escapeChar false c)).sum ≤ 24 * cs.length := by
    induction cs with
    | nil => exact Nat.le_refl 0
    | cons c cs ih =>
        have hc := textSize_escapeChar_le c
        rw [List.map_cons, List.sum_cons, List.length_cons]
        omega
  exact Nat.add_le_add_left (hlength s.toList) 2

/-- A mapping is at least as large as each of its members. -/
theorem byteSize_le_of_mem {kvs : List (String × Value)} {k : String} {v : Value}
    (h : (k, v) ∈ kvs) : byteSize v ≤ byteSize (.dict kvs) := by
  have hentries : byteSize v ≤ entriesSize kvs := by
    induction kvs with
    | nil => cases h
    | cons entry rest ih =>
        obtain ⟨k', v'⟩ := entry
        rw [entriesSize]
        rcases List.mem_cons.mp h with heq | hrest
        · obtain ⟨rfl, rfl⟩ := Prod.mk.inj heq
          omega
        · have hv := ih hrest
          omega
  rw [byteSize]
  omega

theorem textSize_quoted (s : String) : textSize (quoted false s) = quotedSize s := by
  have hbody : textSize (s.toList.flatMap (escapeChar false)) =
      (s.toList.map fun c => textSize (escapeChar false c)).sum := by
    induction s.toList with
    | nil => rfl
    | cons c cs ih => rw [List.flatMap_cons, textSize_append, ih, List.map_cons, List.sum_cons]
  have hquote : Char.utf8Size '"' = 1 := rfl
  rw [quoted, List.cons_append, textSize_cons, textSize_append, hbody, quotedSize, textSize_cons,
    textSize_nil, hquote]
  omega

/-- The members of a mapping, printed in any order. -/
theorem sum_textSize_members {entries sorted : List (String × List Char)}
    (hperm : sorted.Perm entries) :
    ((sorted.map fun entry => quoted false entry.1 ++ ':' :: entry.2).map textSize).sum =
      (entries.map fun entry => quotedSize entry.1 + 1 + textSize entry.2).sum := by
  have hcolon : Char.utf8Size ':' = 1 := rfl
  rw [List.map_map]
  have hsum := (hperm.map fun entry : String × List Char =>
    quotedSize entry.1 + 1 + textSize entry.2).sum_eq
  rw [← hsum]
  congr 2
  funext entry
  simp only [Function.comp_apply, textSize_append, textSize_cons, textSize_quoted, hcolon]
  omega

mutual

/-- The size of a printed value. -/
theorem textSize_dumpChars : (v : Value) → textSize (dumpChars false v) = byteSize v
  | .none => rfl
  | .bool true => rfl
  | .bool false => rfl
  | .int _ => rfl
  | .float _ => rfl
  | .str s => textSize_quoted s
  | .list xs => by
      have hbrackets : Char.utf8Size '[' = 1 ∧ Char.utf8Size ']' = 1 := ⟨rfl, rfl⟩
      obtain ⟨hsum, hlength⟩ := textSize_dumpList xs
      rw [dumpChars_list, List.cons_append, textSize_cons, textSize_append,
        textSize_intercalate_comma, hsum, hlength, byteSize, textSize_cons, textSize_nil,
        hbrackets.1, hbrackets.2]
      omega
  | .dict kvs => by
      have hbraces : Char.utf8Size '{' = 1 ∧ Char.utf8Size '}' = 1 := ⟨rfl, rfl⟩
      rw [dumpChars_dict, List.cons_append, textSize_cons, textSize_append,
        textSize_intercalate_comma, sum_textSize_members (List.perm_insertionSort _ _),
        textSize_dumpEntries kvs, List.length_map, List.length_insertionSort,
        dumpEntries_eq, List.length_map, byteSize, textSize_cons, textSize_nil, hbraces.1,
        hbraces.2]
      omega

theorem textSize_dumpList : (xs : List Value) →
    ((dumpList false xs).map textSize).sum = listSize xs ∧ (dumpList false xs).length = xs.length
  | [] => ⟨rfl, rfl⟩
  | x :: xs => by
      obtain ⟨hsum, hlength⟩ := textSize_dumpList xs
      refine ⟨?_, congrArg (· + 1) hlength⟩
      rw [dumpList, List.map_cons, List.sum_cons, textSize_dumpChars x, hsum, listSize]

theorem textSize_dumpEntries : (kvs : List (String × Value)) →
    ((dumpEntries false kvs).map fun entry => quotedSize entry.1 + 1 + textSize entry.2).sum =
      entriesSize kvs
  | [] => rfl
  | (k, v) :: rest => by
      rw [dumpEntries, List.map_cons, List.sum_cons, textSize_dumpChars v,
        textSize_dumpEntries rest, entriesSize]

end

end Value
