import Manifest.Lib.JsonText

/-!
# Reading JSON text

`json.loads` on the texts `json.dumps` prints: compact, with the escapes of the writer.  Other
spellings of a document are outside the reader's purpose; it refuses white space and is more
permissive than Python about escapes and leading zeros.  How the text of a float is read is
left to a parameter.

Main results:

- Theorem `Value.loads_dumps`: reading a printed value gives it back with its keys in order.
- Theorem `Value.dumps_eq_iff`: two values are printed alike exactly when they are equal up
  to the order of keys.
-/

set_option autoImplicit false

namespace Value

open JsonText

/-! ## Values with their keys in order -/

mutual

/-- A value with every mapping sorted by key and every float replaced. -/
def sorted (f : PyFloat → PyFloat) : Value → Value
  | .none => .none
  | .bool b => .bool b
  | .int n => .int n
  | .float x => .float (f x)
  | .str s => .str s
  | .list xs => .list (sortedList f xs)
  | .dict kvs => .dict ((sortedEntries f kvs).insertionSort fun a b => a.1 ≤ b.1)

def sortedList (f : PyFloat → PyFloat) : List Value → List Value
  | [] => []
  | x :: xs => sorted f x :: sortedList f xs

def sortedEntries (f : PyFloat → PyFloat) : List (String × Value) → List (String × Value)
  | [] => []
  | (k, v) :: rest => (k, sorted f v) :: sortedEntries f rest

end

mutual

/-- Every float of a value has a property. -/
def FloatsAre (p : PyFloat → Prop) : Value → Prop
  | .float x => p x
  | .list xs => FloatsAreList p xs
  | .dict kvs => FloatsAreEntries p kvs
  | _ => True

def FloatsAreList (p : PyFloat → Prop) : List Value → Prop
  | [] => True
  | x :: xs => FloatsAre p x ∧ FloatsAreList p xs

def FloatsAreEntries (p : PyFloat → Prop) : List (String × Value) → Prop
  | [] => True
  | (_, v) :: rest => FloatsAre p v ∧ FloatsAreEntries p rest

end

theorem sortedList_eq (f : PyFloat → PyFloat) (xs : List Value) :
    sortedList f xs = xs.map (sorted f) := by
  induction xs with
  | nil => rfl
  | cons x xs ih => exact congrArg (_ :: ·) ih

theorem sortedEntries_eq (f : PyFloat → PyFloat) (kvs : List (String × Value)) :
    sortedEntries f kvs = kvs.map fun entry => (entry.1, sorted f entry.2) := by
  induction kvs with
  | nil => rfl
  | cons entry rest ih => exact congrArg (_ :: ·) ih

theorem floatsAreList_iff {p : PyFloat → Prop} {xs : List Value} :
    FloatsAreList p xs ↔ ∀ x ∈ xs, FloatsAre p x := by
  induction xs with
  | nil => simp [FloatsAreList]
  | cons x xs ih => simp [FloatsAreList, ih]

theorem floatsAreEntries_iff {p : PyFloat → Prop} {kvs : List (String × Value)} :
    FloatsAreEntries p kvs ↔ ∀ entry ∈ kvs, FloatsAre p entry.2 := by
  induction kvs with
  | nil => simp [FloatsAreEntries]
  | cons entry rest ih => simp [FloatsAreEntries, ih]

/-! ## The reader -/

/-- A number without a fraction or an exponent. -/
def readInt (token : List Char) : Option Int :=
  match token with
  | '-' :: digits =>
      if digits ≠ [] && digits.all Char.isDigit then some (-(Nat.ofDigitChars 10 digits 0 : Int))
      else Option.none
  | digits =>
      if digits ≠ [] && digits.all Char.isDigit then some (Nat.ofDigitChars 10 digits 0 : Int)
      else Option.none

/-- The rest of a string literal, after its opening quote. -/
def readString : Nat → List Char → Option (List Char × List Char)
  | _, [] => Option.none
  | 0, _ => Option.none
  | fuel + 1, c :: rest =>
      if c = '"' then some ([], rest)
      else if c.toNat < 32 then Option.none
      else do
        let (head, rest) ← readChar (c :: rest)
        let (tail, rest) ← readString fuel rest
        some (head :: tail, rest)

/-- One of the three words. -/
def readWord (cs : List Char) : Option (Value × List Char) :=
  match dropCharsPrefix "null".toList cs with
  | some rest => some (.none, rest)
  | Option.none =>
      match dropCharsPrefix "true".toList cs with
      | some rest => some (.bool true, rest)
      | Option.none => (dropCharsPrefix "false".toList cs).map fun rest => (.bool false, rest)

section Read

variable (read : String → Option PyFloat)

def readNumber (cs : List Char) : Option (Value × List Char) :=
  let token := cs.takeWhile floatLiteralChar
  let rest := cs.dropWhile floatLiteralChar
  match readInt token with
  | some n => some (.int n, rest)
  | Option.none => (read (String.ofList token)).map fun x => (.float x, rest)

mutual

/-- Read one value; mappings keep their members in the order of the text. -/
def readValue : Nat → List Char → Option (Value × List Char)
  | 0, _ => Option.none
  | _, [] => Option.none
  | fuel + 1, c :: rest =>
      if c = '"' then do
        let (s, rest) ← readString fuel rest
        some (.str (String.ofList s), rest)
      else if c = '[' then
        if rest.head? = some ']' then some (.list [], rest.tail)
        else do
          let (xs, rest) ← readElements fuel rest
          some (.list xs, rest)
      else if c = '{' then
        if rest.head? = some '}' then some (.dict [], rest.tail)
        else do
          let (kvs, rest) ← readMembers fuel rest
          some (.dict kvs, rest)
      else if floatLiteralChar c then readNumber read (c :: rest)
      else readWord (c :: rest)

/-- The elements of a list up to its closing bracket. -/
def readElements : Nat → List Char → Option (List Value × List Char)
  | 0, _ => Option.none
  | fuel + 1, cs => do
      let (x, rest) ← readValue fuel cs
      match rest with
      | ',' :: rest => do
          let (xs, rest) ← readElements fuel rest
          some (x :: xs, rest)
      | ']' :: rest => some ([x], rest)
      | _ => Option.none

/-- The members of a mapping up to its closing brace. -/
def readMembers : Nat → List Char → Option (List (String × Value) × List Char)
  | fuel + 1, '"' :: cs => do
      let (key, rest) ← readString fuel cs
      match rest with
      | ':' :: rest => do
          let (v, rest) ← readValue fuel rest
          match rest with
          | ',' :: rest => do
              let (kvs, rest) ← readMembers fuel rest
              some ((String.ofList key, v) :: kvs, rest)
          | '}' :: rest => some ([(String.ofList key, v)], rest)
          | _ => Option.none
      | _ => Option.none
  | _, _ => Option.none

end

/-- `json.loads`, with the members of a mapping as the text lists them. -/
def loads (text : String) : Option Value :=
  match readValue read (text.toList.length + 1) text.toList with
  | some (v, []) => some v
  | _ => Option.none

end Read

/-! ## Reading printed scalars -/

/-- What follows a value in a text: nothing, or a separator. -/
def Separated (rest : List Char) : Prop :=
  ∀ c ∈ rest.head?, floatLiteralChar c = false

theorem separated_nil : Separated [] := by
  simp [Separated]

theorem separated_cons {c : Char} (h : floatLiteralChar c = false) (rest : List Char) :
    Separated (c :: rest) := by
  simpa [Separated] using h

/-- A literal ends where a separator begins. -/
theorem span_literal {token rest : List Char} (htoken : token.all floatLiteralChar = true)
    (hrest : Separated rest) :
    (token ++ rest).takeWhile floatLiteralChar = token ∧
      (token ++ rest).dropWhile floatLiteralChar = rest := by
  have hall := List.all_eq_true.mp htoken
  rw [List.takeWhile_append_of_pos hall, List.dropWhile_append_of_pos hall]
  cases rest with
  | nil => simp
  | cons c rest =>
      have hc : floatLiteralChar c = false := hrest c (by simp)
      simp [hc]

theorem readInt_digits {digits : List Char} (hne : digits ≠ [])
    (hdigits : ∀ c ∈ digits, c.isDigit = true) :
    readInt digits = some (Nat.ofDigitChars 10 digits 0 : Int) := by
  have hall : digits.all Char.isDigit = true := List.all_eq_true.mpr hdigits
  unfold readInt
  split
  · have hminus := hdigits '-' List.mem_cons_self
    exact absurd hminus (by decide)
  · simp [hne, hall]

theorem readInt_toString (n : Int) : readInt (toString n).toList = some n := by
  have hdigits (m : Nat) : ∀ c ∈ Nat.toDigits 10 m, c.isDigit = true := fun c hc =>
    Nat.isDigit_of_mem_toDigits (by decide) (by decide) hc
  have hne (m : Nat) : Nat.toDigits 10 m ≠ [] := Nat.toDigits_ne_nil
  rw [Int.toString_eq_repr, Int.repr_eq_if]
  split_ifs with hsign
  · rw [Nat.repr, String.toList_ofList, readInt_digits (hne _) (hdigits _),
      Nat.ofDigitChars_ten_toDigits]
    exact congrArg some (Int.toNat_of_nonneg hsign)
  · have hall : (Nat.toDigits 10 (-n).toNat).all Char.isDigit = true :=
      List.all_eq_true.mpr (hdigits _)
    rw [String.toList_append, Nat.repr]
    show readInt ('-' :: (String.ofList (Nat.toDigits 10 (-n).toNat)).toList) = some n
    rw [String.toList_ofList]
    simp only [readInt, hne, hall, ne_eq, not_false_eq_true, decide_true, Bool.and_self, if_true,
      Nat.ofDigitChars_ten_toDigits]
    exact congrArg some (by omega)

theorem toString_int_ne_nil (n : Int) : (toString n).toList ≠ [] := by
  intro hnil
  have hread := readInt_toString n
  rw [hnil] at hread
  cases hread

theorem floatText_ne_nil (x : PyFloat) : x.text.toList ≠ [] := by
  intro hnil
  have hsome := x.literal.2
  rw [hnil] at hsome
  cases hsome

/-- The text of a float is not the text of an integer. -/
theorem readInt_float (x : PyFloat) : readInt x.text.toList = Option.none := by
  obtain ⟨c, hmem, hc⟩ := List.any_eq_true.mp x.literal.2
  have hdigit : c.isDigit = false := by
    simp only [Bool.or_eq_true, decide_eq_true_eq] at hc
    rcases hc with rfl | rfl <;> decide
  have hnot {digits : List Char} (h : c ∈ digits) : digits.all Char.isDigit = false := by
    rw [List.all_eq_false]
    exact ⟨c, h, by simp [hdigit]⟩
  unfold readInt
  split
  · rename_i digits htext
    rw [htext, List.mem_cons] at hmem
    have hminus : c ≠ '-' := by
      rintro rfl
      simp at hc
    simp [hnot (hmem.resolve_left hminus)]
  · simp [hnot hmem]

/-- A written character starts like no closing quote and no control character. -/
theorem escapeChar_head (ascii : Bool) (c : Char) :
    ∃ first tail, escapeChar ascii c = first :: tail ∧ first ≠ '"' ∧ ¬ first.toNat < 32 := by
  have hslash (tail : List Char) : ∃ first tail', '\\' :: tail = first :: tail' ∧
      first ≠ '"' ∧ ¬ first.toNat < 32 :=
    ⟨'\\', tail, rfl, by decide, by decide⟩
  unfold escapeChar
  by_cases hquote : c = '"'
  · rw [if_pos hquote]
    exact hslash _
  rw [if_neg hquote]
  by_cases hcontrol : c.toNat < 32
  · split_ifs <;> exact hslash _
  · split_ifs <;> first | exact hslash _ | exact ⟨c, [], rfl, hquote, hcontrol⟩

/-- Reading a string literal gives the string back. -/
theorem readString_written (ascii : Bool) (cs : List Char) (fuel : Nat) (rest : List Char)
    (hfuel : (cs.flatMap (escapeChar ascii)).length < fuel) :
    readString fuel (cs.flatMap (escapeChar ascii) ++ '"' :: rest) = some (cs, rest) := by
  induction cs generalizing fuel with
  | nil =>
      obtain ⟨fuel, rfl⟩ : ∃ n, fuel = n + 1 := Nat.exists_eq_succ_of_ne_zero (by omega)
      simp [readString]
  | cons c cs ih =>
      obtain ⟨first, tail, hfirst, hquote, hcontrol⟩ := escapeChar_head ascii c
      rw [List.flatMap_cons, List.length_append, hfirst, List.length_cons] at hfuel
      obtain ⟨fuel, rfl⟩ : ∃ n, fuel = n + 1 := Nat.exists_eq_succ_of_ne_zero (by omega)
      have hread := readChar_escapeChar ascii c (cs.flatMap (escapeChar ascii) ++ '"' :: rest)
      rw [hfirst, List.cons_append] at hread
      rw [List.flatMap_cons, List.append_assoc, hfirst, List.cons_append]
      simp only [readString, hquote, hcontrol, if_false]
      rw [hread]
      simp [ih fuel (by omega)]

/-! ## Reading printed values -/

section Printed

variable (ascii : Bool) (read : String → Option PyFloat) (f : PyFloat → PyFloat)

/-- The text of a value is read back. -/
def Reads (v : Value) : Prop :=
  ∀ (fuel : Nat) (rest : List Char), (dumpChars ascii v).length ≤ fuel → Separated rest →
    readValue read fuel (dumpChars ascii v ++ rest) = some (sorted f v, rest)

variable {ascii read f}

theorem dropCharsPrefix_append (word rest : List Char) :
    dropCharsPrefix word (word ++ rest) = some rest := by
  induction word with
  | nil => rfl
  | cons c word ih => simpa [dropCharsPrefix] using ih

theorem reads_none : Reads ascii read f .none := by
  intro fuel rest hfuel _
  obtain ⟨fuel, rfl⟩ : ∃ n, fuel = n + 1 :=
    Nat.exists_eq_succ_of_ne_zero (by simp [dumpChars] at hfuel; omega)
  rfl

theorem reads_bool (b : Bool) : Reads ascii read f (.bool b) := by
  intro fuel rest hfuel _
  obtain ⟨fuel, rfl⟩ : ∃ n, fuel = n + 1 :=
    Nat.exists_eq_succ_of_ne_zero (by cases b <;> simp [dumpChars] at hfuel <;> omega)
  cases b <;> rfl

/-- The text of a number is read as one token. -/
theorem readValue_literal {token rest : List Char} {fuel : Nat}
    (htoken : token.all floatLiteralChar = true) (hne : token ≠ [])
    (hfuel : token.length ≤ fuel) :
    readValue read fuel (token ++ rest) = readNumber read (token ++ rest) := by
  cases token with
  | nil => exact absurd rfl hne
  | cons c token =>
      obtain ⟨fuel, rfl⟩ : ∃ n, fuel = n + 1 :=
        Nat.exists_eq_succ_of_ne_zero (by simp at hfuel; omega)
      have hc : floatLiteralChar c = true := List.all_eq_true.mp htoken c List.mem_cons_self
      have hquote : c ≠ '"' := by rintro rfl; revert hc; decide
      have hbracket : c ≠ '[' := by rintro rfl; revert hc; decide
      have hbrace : c ≠ '{' := by rintro rfl; revert hc; decide
      rw [List.cons_append]
      simp only [readValue, hquote, hbracket, hbrace, hc, if_false, if_true]

theorem reads_int (n : Int) : Reads ascii read f (.int n) := by
  intro fuel rest hfuel hrest
  have hall : (toString n).toList.all floatLiteralChar = true :=
    List.all_eq_true.mpr fun c hc => floatLiteralChar_of_mem_int hc
  obtain ⟨htake, hdrop⟩ := span_literal hall hrest
  show readValue read fuel ((toString n).toList ++ rest) = _
  rw [readValue_literal hall (toString_int_ne_nil n) hfuel]
  unfold readNumber
  simp only [htake, hdrop, readInt_toString]
  rfl

theorem reads_float {x : PyFloat} (hread : read x.text = some (f x)) :
    Reads ascii read f (.float x) := by
  intro fuel rest hfuel hrest
  obtain ⟨htake, hdrop⟩ := span_literal x.literal.1 hrest
  show readValue read fuel (x.text.toList ++ rest) = _
  rw [readValue_literal x.literal.1 (floatText_ne_nil x) hfuel]
  unfold readNumber
  simp only [htake, hdrop, readInt_float, String.ofList_toList, hread]
  rfl

theorem reads_str (s : String) : Reads ascii read f (.str s) := by
  intro fuel rest hfuel _
  have htext : dumpChars ascii (.str s) ++ rest =
      '"' :: (s.toList.flatMap (escapeChar ascii) ++ '"' :: rest) := by
    simp [dumpChars, quoted]
  have hlength : (dumpChars ascii (.str s)).length =
      (s.toList.flatMap (escapeChar ascii)).length + 2 := by
    simp [dumpChars, quoted]
  obtain ⟨fuel, rfl⟩ : ∃ n, fuel = n + 1 := Nat.exists_eq_succ_of_ne_zero (by omega)
  rw [htext]
  simp only [readValue, if_true]
  rw [readString_written ascii s.toList fuel rest (by omega)]
  simp [sorted]

/-! ### Sequences -/

theorem dumpList_eq (xs : List Value) : dumpList ascii xs = xs.map (dumpChars ascii) := by
  induction xs with
  | nil => rfl
  | cons x xs ih => exact congrArg (_ :: ·) ih

/-- A printed value starts like no closing bracket. -/
theorem dumpChars_head (ascii : Bool) (v : Value) :
    ∃ first tail, dumpChars ascii v = first :: tail ∧ first ≠ ']' := by
  have hliteral {token : List Char} (hne : token ≠ [])
      (htoken : ∀ c ∈ token, floatLiteralChar c = true) :
      ∃ first tail, token = first :: tail ∧ first ≠ ']' := by
    obtain ⟨first, tail, rfl⟩ := List.exists_cons_of_ne_nil hne
    refine ⟨first, tail, rfl, ?_⟩
    rintro rfl
    have hbracket := htoken ']' List.mem_cons_self
    exact absurd hbracket (by decide)
  cases v with
  | none => exact ⟨_, _, rfl, by decide⟩
  | bool b => cases b <;> exact ⟨_, _, rfl, by decide⟩
  | int n => exact hliteral (toString_int_ne_nil n) fun c hc => floatLiteralChar_of_mem_int hc
  | float x => exact hliteral (floatText_ne_nil x) (List.all_eq_true.mp x.literal.1)
  | str s => exact ⟨_, _, rfl, by decide⟩
  | list xs => exact ⟨_, _, rfl, by decide⟩
  | dict kvs => exact ⟨_, _, rfl, by decide⟩

/-- A text that is read as a value, whatever follows it. -/
structure ReadsAs (read : String → Option PyFloat) (text : List Char) (v : Value) : Prop where
  starts : ∃ first tail, text = first :: tail ∧ first ≠ ']'
  reads : ∀ (fuel : Nat) (rest : List Char), text.length ≤ fuel → Separated rest →
    readValue read fuel (text ++ rest) = some (v, rest)

theorem Reads.readsAs {v : Value} (h : Reads ascii read f v) :
    ReadsAs read (dumpChars ascii v) (sorted f v) :=
  ⟨dumpChars_head ascii v, h⟩

/-- A text is read as one value. -/
theorem ReadsAs.unique {text : List Char} {v w : Value} (h : ReadsAs read text v)
    (h' : ReadsAs read text w) : v = w := by
  have hread := h.reads text.length [] (Nat.le_refl _) separated_nil
  rw [h'.reads text.length [] (Nat.le_refl _) separated_nil] at hread
  exact (Prod.mk.inj (Option.some.inj hread)).1.symm

/-- `json.loads` of a text that is read. -/
theorem ReadsAs.loads {text : List Char} {v : Value} (h : ReadsAs read text v) :
    Value.loads read (String.ofList text) = some v := by
  have hread := h.reads (text.length + 1) [] (Nat.le_succ _) separated_nil
  rw [List.append_nil] at hread
  unfold Value.loads
  rw [String.toList_ofList, hread]

/-- Texts between commas are read one by one. -/
theorem readElements_texts {items : List (List Char × Value)} (hne : items ≠ [])
    (hreads : ∀ item ∈ items, ReadsAs read item.1 item.2) (fuel : Nat) (rest : List Char)
    (hfuel : (List.intercalate [','] (items.map Prod.fst)).length < fuel) :
    readElements read fuel (List.intercalate [','] (items.map Prod.fst) ++ ']' :: rest) =
      some (items.map Prod.snd, rest) := by
  induction items generalizing fuel with
  | nil => exact absurd rfl hne
  | cons x xs ih =>
      obtain ⟨fuel, rfl⟩ : ∃ n, fuel = n + 1 := Nat.exists_eq_succ_of_ne_zero (by omega)
      have hx := (hreads x List.mem_cons_self).reads
      cases xs with
      | nil =>
          simp only [List.map_cons, List.map_nil, List.intercalate_singleton] at hfuel ⊢
          have hread := hx fuel (']' :: rest) (by omega)
            (separated_cons (by decide) rest)
          simp only [readElements]
          rw [hread]
          rfl
      | cons next xs =>
          simp only [List.map_cons, List.intercalate_cons_cons, List.append_assoc,
            List.length_append, List.length_cons, List.cons_append] at hfuel ⊢
          simp only [readElements]
          rw [hx fuel (',' :: _) (by omega) (separated_cons (by decide) _)]
          have hrest := ih (List.cons_ne_nil next xs)
            (fun y hy => hreads y (List.mem_cons_of_mem x hy)) fuel
            (by simp only [List.map_cons]; omega)
          rw [List.map_cons, List.map_cons] at hrest
          simp [hrest]

/-- The text of one member, over the text of its value. -/
def memberText (ascii : Bool) (key : String) (text : List Char) : List Char :=
  quoted ascii key ++ ':' :: text

/-- Members between commas are read one by one. -/
theorem readMembers_texts {members : List (String × List Char × Value)} (hne : members ≠ [])
    (hreads : ∀ entry ∈ members, ReadsAs read entry.2.1 entry.2.2) (fuel : Nat)
    (rest : List Char)
    (hfuel : (List.intercalate [',']
      (members.map fun entry => memberText ascii entry.1 entry.2.1)).length < fuel) :
    readMembers read fuel (List.intercalate [',']
      (members.map fun entry => memberText ascii entry.1 entry.2.1) ++ '}' :: rest) =
      some (members.map fun entry => (entry.1, entry.2.2), rest) := by
  induction members generalizing fuel with
  | nil => exact absurd rfl hne
  | cons entry members ih =>
      obtain ⟨fuel, rfl⟩ : ∃ n, fuel = n + 1 := Nat.exists_eq_succ_of_ne_zero (by omega)
      have hentry := (hreads entry List.mem_cons_self).reads
      have hmember (rest : List Char) : memberText ascii entry.1 entry.2.1 ++ rest =
          '"' :: (entry.1.toList.flatMap (escapeChar ascii) ++
            '"' :: ':' :: (entry.2.1 ++ rest)) := by
        simp [memberText, quoted]
      have hlength : (memberText ascii entry.1 entry.2.1).length =
          (entry.1.toList.flatMap (escapeChar ascii)).length + entry.2.1.length + 3 := by
        simp [memberText, quoted]
        omega
      cases members with
      | nil =>
          simp only [List.map_cons, List.map_nil, List.intercalate_singleton] at hfuel ⊢
          rw [hmember]
          simp only [readMembers]
          rw [readString_written ascii entry.1.toList fuel _ (by omega)]
          simp only [Option.bind_eq_bind, Option.bind_some]
          rw [hentry fuel ('}' :: rest) (by omega) (separated_cons (by decide) rest)]
          simp
      | cons next members =>
          simp only [List.map_cons, List.intercalate_cons_cons, List.append_assoc,
            List.length_append, List.length_cons, List.cons_append] at hfuel ⊢
          rw [hmember]
          simp only [readMembers]
          rw [readString_written ascii entry.1.toList fuel _ (by omega)]
          simp only [Option.bind_eq_bind, Option.bind_some]
          rw [hentry fuel (',' :: _) (by omega) (separated_cons (by decide) _)]
          have hrest := ih (List.cons_ne_nil next members)
            (fun y hy => hreads y (List.mem_cons_of_mem entry hy)) fuel
            (by simp only [List.map_cons]; omega)
          rw [List.map_cons, List.map_cons] at hrest
          simp [hrest]

/-- A list is read from the texts of its elements. -/
theorem ReadsAs.list {items : List (List Char × Value)}
    (h : ∀ item ∈ items, ReadsAs read item.1 item.2) :
    ReadsAs read ('[' :: List.intercalate [','] (items.map Prod.fst) ++ [']'])
      (.list (items.map Prod.snd)) where
  starts := ⟨'[', _, rfl, by decide⟩
  reads fuel rest hfuel _ := by
    simp only [List.cons_append, List.length_cons, List.length_append, List.append_assoc,
      List.length_nil, List.nil_append] at hfuel ⊢
    obtain ⟨fuel, rfl⟩ : ∃ n, fuel = n + 1 := Nat.exists_eq_succ_of_ne_zero (by omega)
    have hbracket : ('[' : Char) ≠ '"' := by decide
    simp only [readValue, hbracket, if_false, if_true]
    cases items with
    | nil => rfl
    | cons x xs =>
        obtain ⟨first, tail, hfirst, hne⟩ := (h x List.mem_cons_self).starts
        have hhead (rest : List Char) :
            (List.intercalate [','] ((x :: xs).map Prod.fst) ++ rest).head? ≠ some ']' := by
          cases xs <;> simp [hfirst, hne, List.intercalate_cons_cons]
        rw [if_neg (hhead _)]
        rw [readElements_texts (List.cons_ne_nil x xs) h fuel rest (by omega)]
        rfl

/-- A mapping is read from the texts of its members, in the order of the text. -/
theorem ReadsAs.dict (ascii : Bool) {members : List (String × List Char × Value)}
    (h : ∀ entry ∈ members, ReadsAs read entry.2.1 entry.2.2) :
    ReadsAs read ('{' :: List.intercalate [',']
        (members.map fun entry => memberText ascii entry.1 entry.2.1) ++ ['}'])
      (.dict (members.map fun entry => (entry.1, entry.2.2))) where
  starts := ⟨'{', _, rfl, by decide⟩
  reads fuel rest hfuel _ := by
    simp only [List.cons_append, List.length_cons, List.length_append, List.append_assoc,
      List.length_nil, List.nil_append] at hfuel ⊢
    obtain ⟨fuel, rfl⟩ : ∃ n, fuel = n + 1 := Nat.exists_eq_succ_of_ne_zero (by omega)
    have hquote : ('{' : Char) ≠ '"' := by decide
    have hbracket : ('{' : Char) ≠ '[' := by decide
    simp only [readValue, hquote, hbracket, if_false, if_true]
    cases members with
    | nil => rfl
    | cons entry members =>
        have hhead (rest : List Char) : (List.intercalate [',']
            ((entry :: members).map fun entry => memberText ascii entry.1 entry.2.1) ++
              rest).head? ≠ some '}' := by
          cases members <;> simp [memberText, quoted, List.intercalate_cons_cons]
        rw [if_neg (hhead _)]
        rw [readMembers_texts (List.cons_ne_nil entry members) h fuel rest (by omega)]
        rfl

theorem reads_list {xs : List Value} (hreads : ∀ x ∈ xs, Reads ascii read f x) :
    Reads ascii read f (.list xs) := by
  have hitems : ∀ item ∈ xs.map fun x => (dumpChars ascii x, sorted f x),
      ReadsAs read item.1 item.2 := by
    intro item hmem
    obtain ⟨x, hx, rfl⟩ := List.mem_map.mp hmem
    exact (hreads x hx).readsAs
  have hlist := ReadsAs.list hitems
  rw [List.map_map, List.map_map] at hlist
  unfold Reads
  rw [dumpChars_list, dumpList_eq, sorted, sortedList_eq]
  exact hlist.reads

/-- Sorting by key and then rewriting the values is rewriting the values and then sorting. -/
theorem sort_entries {α β : Type} (g : α → β) (entries : List (String × α)) :
    (entries.map fun entry => (entry.1, g entry.2)).insertionSort (fun a b => a.1 ≤ b.1) =
      (entries.insertionSort fun a b => a.1 ≤ b.1).map fun entry => (entry.1, g entry.2) :=
  (List.map_insertionSort (fun a b : String × α => a.1 ≤ b.1)
    (fun a b : String × β => a.1 ≤ b.1) (fun entry => (entry.1, g entry.2)) entries
    fun _ _ _ _ => Iff.rfl).symm

/-- The members of a printed mapping, in the order of the text. -/
theorem dumpChars_dict_eq (kvs : List (String × Value)) :
    dumpChars ascii (.dict kvs) = '{' :: List.intercalate [',']
      ((kvs.insertionSort fun a b => a.1 ≤ b.1).map (member ascii)) ++ ['}'] := by
  rw [dumpChars_dict, dumpEntries_eq, sort_entries, List.map_map]
  rfl

theorem reads_dict {kvs : List (String × Value)}
    (hreads : ∀ entry ∈ kvs, Reads ascii read f entry.2) : Reads ascii read f (.dict kvs) := by
  have hmembers : ∀ entry ∈ (kvs.insertionSort fun a b => a.1 ≤ b.1).map fun entry =>
      (entry.1, dumpChars ascii entry.2, sorted f entry.2), ReadsAs read entry.2.1 entry.2.2 := by
    intro entry hmem
    obtain ⟨kv, hkv, rfl⟩ := List.mem_map.mp hmem
    exact (hreads kv ((List.mem_insertionSort _).mp hkv)).readsAs
  have hdict := ReadsAs.dict ascii hmembers
  rw [List.map_map, List.map_map] at hdict
  unfold Reads
  rw [dumpChars_dict_eq, sorted, sortedEntries_eq, sort_entries]
  exact hdict.reads

mutual

/-- Every printed value is read back. -/
theorem reads : (v : Value) → v.FloatsAre (fun x => read x.text = some (f x)) →
    Reads ascii read f v
  | .none, _ => reads_none
  | .bool b, _ => reads_bool b
  | .int n, _ => reads_int n
  | .float _, h => reads_float h
  | .str s, _ => reads_str s
  | .list xs, h => reads_list (readsList xs h)
  | .dict kvs, h => reads_dict (readsEntries kvs h)

theorem readsList : (xs : List Value) →
    FloatsAreList (fun x => read x.text = some (f x)) xs → ∀ x ∈ xs, Reads ascii read f x
  | [], _, _, hmem => absurd hmem List.not_mem_nil
  | x :: xs, h, y, hmem => by
      rcases List.mem_cons.mp hmem with heq | hmem
      · rw [heq]
        exact reads x h.1
      · exact readsList xs h.2 y hmem

theorem readsEntries : (kvs : List (String × Value)) →
    FloatsAreEntries (fun x => read x.text = some (f x)) kvs →
      ∀ entry ∈ kvs, Reads ascii read f entry.2
  | [], _, _, hmem => absurd hmem List.not_mem_nil
  | (_, v) :: rest, h, entry, hmem => by
      rcases List.mem_cons.mp hmem with heq | hmem
      · rw [heq]
        exact reads v h.1
      · exact readsEntries rest h.2 entry hmem

end

/-- Reading a printed value gives it back with its keys in order. -/
theorem loads_dumps (ascii : Bool) {v : Value}
    (hfloats : v.FloatsAre fun x => read x.text = some (f x)) :
    loads read (v.dumps ascii) = some (v.sorted f) := by
  have hreads : Reads ascii read f v := reads v hfloats
  have hread := hreads ((dumpChars ascii v).length + 1) [] (Nat.le_succ _) separated_nil
  rw [List.append_nil] at hread
  unfold loads dumps
  rw [String.toList_ofList, hread]

end Printed

/-! ## What a text determines -/

mutual

theorem floatsAre_of_forall {p : PyFloat → Prop} (h : ∀ x, p x) : (v : Value) → v.FloatsAre p
  | .none => trivial
  | .bool _ => trivial
  | .int _ => trivial
  | .float x => h x
  | .str _ => trivial
  | .list xs => floatsAreList_of_forall h xs
  | .dict kvs => floatsAreEntries_of_forall h kvs

theorem floatsAreList_of_forall {p : PyFloat → Prop} (h : ∀ x, p x) :
    (xs : List Value) → FloatsAreList p xs
  | [] => trivial
  | x :: xs => ⟨floatsAre_of_forall h x, floatsAreList_of_forall h xs⟩

theorem floatsAreEntries_of_forall {p : PyFloat → Prop} (h : ∀ x, p x) :
    (kvs : List (String × Value)) → FloatsAreEntries p kvs
  | [] => trivial
  | (_, v) :: rest => ⟨floatsAre_of_forall h v, floatsAreEntries_of_forall h rest⟩

end

mutual

/-- Sorting changes no text. -/
theorem dumpChars_sorted (ascii : Bool) {f : PyFloat → PyFloat} (hf : ∀ x, (f x).text = x.text) :
    (v : Value) → dumpChars ascii (sorted f v) = dumpChars ascii v
  | .none => rfl
  | .bool _ => rfl
  | .int _ => rfl
  | .float x => congrArg String.toList (hf x)
  | .str _ => rfl
  | .list xs => by
      have hlist := dumpList_sorted ascii hf xs
      simp only [sorted, dumpChars_list, hlist]
  | .dict kvs => by
      have hentries := dumpEntries_sorted ascii hf kvs
      have hsorted := List.pairwise_insertionSort
        (fun a b : String × List Char => a.1 ≤ b.1) (dumpEntries ascii kvs)
      simp only [sorted, dumpChars_dict]
      rw [dumpEntries_eq, ← sort_entries, ← dumpEntries_eq, hentries, hsorted.insertionSort_eq]

theorem dumpList_sorted (ascii : Bool) {f : PyFloat → PyFloat} (hf : ∀ x, (f x).text = x.text) :
    (xs : List Value) → dumpList ascii (sortedList f xs) = dumpList ascii xs
  | [] => rfl
  | x :: xs => congrArg₂ List.cons (dumpChars_sorted ascii hf x) (dumpList_sorted ascii hf xs)

theorem dumpEntries_sorted (ascii : Bool) {f : PyFloat → PyFloat}
    (hf : ∀ x, (f x).text = x.text) :
    (kvs : List (String × Value)) → dumpEntries ascii (sortedEntries f kvs) =
      dumpEntries ascii kvs
  | [] => rfl
  | (k, v) :: rest => congrArg₂ List.cons (congrArg (Prod.mk k) (dumpChars_sorted ascii hf v))
      (dumpEntries_sorted ascii hf rest)

end

/-- A float as far as its text goes. -/
def literal (x : PyFloat) : PyFloat :=
  { x with value := 0 }

@[simp]
theorem literal_text (x : PyFloat) : (literal x).text = x.text :=
  rfl

/-- Read a float literal as no more than its text. -/
def readLiteral (text : String) : Option PyFloat :=
  if h : text.toList.all floatLiteralChar = true ∧
      text.toList.any (fun c => c = '.' || c = 'e') = true then
    some { value := 0, text := text, literal := h }
  else Option.none

theorem readLiteral_text (x : PyFloat) : readLiteral x.text = some (literal x) := by
  unfold readLiteral
  rw [dif_pos x.literal]
  rfl

/-- A value as far as its text goes: mappings are compared without an order of keys, and
floats, which Python prints injectively, by their text. -/
def normal (v : Value) : Value :=
  v.sorted literal

/-- Two runs of entries under one list of distinct keys are equal when they are equal up to
order. -/
theorem entries_eq_of_perm {κ α : Type} {kvs kws : List (κ × α)}
    (hkeys : kvs.map Prod.fst = kws.map Prod.fst) (hnodup : (kvs.map Prod.fst).Nodup)
    (hperm : kvs.Perm kws) : kvs = kws := by
  induction kvs generalizing kws with
  | nil => exact (List.nil_perm.mp hperm).symm
  | cons entry kvs ih =>
      cases kws with
      | nil => cases hkeys
      | cons entry' kws =>
          obtain ⟨hkey, hrest⟩ := List.cons.inj hkeys
          obtain ⟨hfresh, hnodup⟩ := List.nodup_cons.mp hnodup
          have hentry : entry = entry' := by
            rcases List.mem_cons.mp (hperm.subset List.mem_cons_self) with heq | hmem
            · exact heq
            · exact absurd (hrest ▸ List.mem_map_of_mem hmem) hfresh
          subst hentry
          rw [ih hrest hnodup ((List.perm_cons entry).mp hperm)]

/-- Mappings under one list of distinct keys are alike only if their values are. -/
theorem normal_dict_inj {kvs kws : List (String × Value)}
    (hkeys : kvs.map Prod.fst = kws.map Prod.fst) (hnodup : (kvs.map Prod.fst).Nodup)
    (h : (dict kvs).normal = (dict kws).normal) :
    kvs.map (fun entry => entry.2.normal) = kws.map fun entry => entry.2.normal := by
  simp only [normal, sorted, sortedEntries_eq, dict.injEq] at h
  have hperm : (kvs.map fun entry => (entry.1, sorted literal entry.2)).Perm
      (kws.map fun entry => (entry.1, sorted literal entry.2)) := by
    have hsort (entries : List (String × Value)) :=
      List.perm_insertionSort (fun a b : String × Value => a.1 ≤ b.1) entries
    exact (hsort _).symm.trans (h ▸ hsort _)
  have hentries := entries_eq_of_perm (by simpa [Function.comp_def] using hkeys)
    (by simpa [Function.comp_def] using hnodup) hperm
  simpa [Function.comp_def, normal] using congrArg (List.map Prod.snd) hentries

/-- Two values are printed alike exactly when they are equal up to the order of keys. -/
theorem dumps_eq_iff {ascii : Bool} {v w : Value} :
    v.dumps ascii = w.dumps ascii ↔ v.normal = w.normal := by
  have hread (u : Value) : loads readLiteral (u.dumps ascii) = some u.normal :=
    loads_dumps ascii (floatsAre_of_forall readLiteral_text u)
  have htext (u : Value) : u.normal.dumps ascii = u.dumps ascii :=
    congrArg String.ofList (dumpChars_sorted ascii literal_text u)
  constructor
  · intro heq
    have hsome := hread w
    rw [← heq, hread v] at hsome
    exact Option.some.inj hsome
  · intro heq
    rw [← htext v, heq, htext w]

end Value
