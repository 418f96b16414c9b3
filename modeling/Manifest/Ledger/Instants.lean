import Manifest.Ledger.Canonical
import Manifest.Lib.Decimal

/-!
# Reading timestamps back

A stored timestamp is read with `fromisoformat` and brought to UTC.  The reader takes the
extended format with microseconds and an offset in hours and minutes, which is what the writer
prints.

Main results:

- Theorem `daysOfCivil_civilOfDays`: a date gives its day number back.
- Theorem `Timestamp.ofIso_isoMicroseconds`: a printed instant is read back.
-/

set_option autoImplicit false

namespace Manifest

/-! ## Day numbers of dates -/

/-- Day number of a proleptic Gregorian date, counting from 1970-01-01. -/
def daysOfCivil (year : Int) (month day : Nat) : Int :=
  let y := if month ≤ 2 then year - 1 else year
  let era := y / 400
  let yearOfEra := y - era * 400
  let monthIndex := if month ≤ 2 then month + 9 else month - 3
  let dayOfYear := (153 * monthIndex + 2) / 5 + day - 1
  let dayOfEra := yearOfEra * 365 + yearOfEra / 4 - yearOfEra / 100 + dayOfYear
  era * 146097 + dayOfEra - 719468

section Era

variable {dayOfEra yearOfEra : Nat} (hday : dayOfEra < 146097)
  (hyear : yearOfEra =
    (dayOfEra - dayOfEra / 1460 + dayOfEra / 36524 - dayOfEra / 146096) / 365)

include hday hyear

/-- The century of the year is that of the day, but for the last day of an era. -/
theorem centuryOfEra_eq : yearOfEra / 100 = dayOfEra / 36524 - dayOfEra / 146096 := by
  have hcentury : dayOfEra / 36524 = 0 ∨ dayOfEra / 36524 = 1 ∨ dayOfEra / 36524 = 2 ∨
      dayOfEra / 36524 = 3 ∨ dayOfEra / 36524 = 4 := by omega
  rcases hcentury with h | h | h | h | h <;> rw [h] at hyear ⊢ <;> omega

/-- The year starts no later than the day, and ends after it. -/
theorem dayOfYear_spec :
    yearOfEra < 400 ∧ 365 * yearOfEra + yearOfEra / 4 - yearOfEra / 100 ≤ dayOfEra ∧
      dayOfEra - (365 * yearOfEra + yearOfEra / 4 - yearOfEra / 100) ≤ 366 := by
  have hcentury := centuryOfEra_eq hday hyear
  have hbefore : yearOfEra / 4 ≤ dayOfEra / 1460 := by omega
  have hafter : dayOfEra / 1460 ≤ yearOfEra / 4 + 1 := by omega
  omega

end Era

/-- The day number of a date whose year is given by its era, and whose month counts from
March. -/
theorem daysOfCivil_eq (era : Int) {yearOfEra monthIndex day : Nat} (hyear : yearOfEra < 400)
    (hmonth : monthIndex ≤ 11) {month : Nat}
    (heq : month = if monthIndex < 10 then monthIndex + 3 else monthIndex - 9) :
    daysOfCivil (if month ≤ 2 then (yearOfEra : Int) + era * 400 + 1 else yearOfEra + era * 400)
        month day =
      era * 146097 + (yearOfEra * 365 + yearOfEra / 4 - yearOfEra / 100 +
        ((153 * monthIndex + 2) / 5 + day - 1 : Nat)) - 719468 := by
  have hmarch : (if month ≤ 2 then month + 9 else month - 3) = monthIndex := by
    split_ifs at heq ⊢ <;> omega
  have hstart : (if month ≤ 2 then
      (if month ≤ 2 then (yearOfEra : Int) + era * 400 + 1 else yearOfEra + era * 400) - 1
      else if month ≤ 2 then (yearOfEra : Int) + era * 400 + 1 else yearOfEra + era * 400) =
      yearOfEra + era * 400 := by
    split_ifs <;> omega
  have hera : ((yearOfEra : Int) + era * 400) / 400 = era := by omega
  have hrest : (yearOfEra : Int) + era * 400 - era * 400 = yearOfEra := by omega
  unfold daysOfCivil
  simp only [hstart, hmarch, hera, hrest]

/-- A date gives its day number back, and has a month and a day. -/
theorem civilOfDays_spec (days : Int) :
    daysOfCivil (civilOfDays days).1 (civilOfDays days).2.1 (civilOfDays days).2.2 = days ∧
      (1 ≤ (civilOfDays days).2.1 ∧ (civilOfDays days).2.1 ≤ 12) ∧
      1 ≤ (civilOfDays days).2.2 ∧ (civilOfDays days).2.2 ≤ 31 := by
  unfold civilOfDays
  dsimp only
  generalize hera : (days + 719468) / 146097 = era
  generalize hday : (days + 719468 - era * 146097).toNat = dayOfEra
  generalize hyear : (dayOfEra - dayOfEra / 1460 + dayOfEra / 36524 - dayOfEra / 146096) / 365 =
    yearOfEra
  have hera' : (dayOfEra : Int) = days + 719468 - era * 146097 := by omega
  obtain ⟨hyear400, hstart, hend⟩ := dayOfYear_spec (by omega) hyear.symm
  generalize hdoy : dayOfEra - (365 * yearOfEra + yearOfEra / 4 - yearOfEra / 100) = dayOfYear at hend ⊢
  generalize hindex : (5 * dayOfYear + 2) / 153 = monthIndex
  have hmonth : monthIndex ≤ 11 := by omega
  have hfirst : (153 * monthIndex + 2) / 5 ≤ dayOfYear := by omega
  have hlast : dayOfYear - (153 * monthIndex + 2) / 5 ≤ 30 := by omega
  refine ⟨?_, by split_ifs <;> omega, by omega, by omega⟩
  rw [daysOfCivil_eq era hyear400 hmonth rfl]
  omega

/-! ## Instants of civil times -/

/-- The instant of a UTC date and time. -/
def CivilTime.instant (c : CivilTime) : Timestamp :=
  daysOfCivil c.year c.month c.day * 86400000000 +
    (c.hour * 3600000000 + c.minute * 60000000 + c.second * 1000000 + c.microsecond : Nat)

/-- A date and time that `datetime` can hold. -/
structure CivilTime.Valid (c : CivilTime) : Prop where
  year_pos : 1 ≤ c.year
  year_le : c.year ≤ 9999
  date_eq : civilOfDays (daysOfCivil c.year c.month c.day) = (c.year, c.month, c.day)
  hour_lt : c.hour < 24
  minute_lt : c.minute < 60
  second_lt : c.second < 60
  microsecond_lt : c.microsecond < 1000000

instance (c : CivilTime) : Decidable c.Valid :=
  decidable_of_iff (1 ≤ c.year ∧ c.year ≤ 9999 ∧
      civilOfDays (daysOfCivil c.year c.month c.day) = (c.year, c.month, c.day) ∧ c.hour < 24 ∧
      c.minute < 60 ∧ c.second < 60 ∧ c.microsecond < 1000000)
    ⟨fun ⟨h₁, h₂, h₃, h₄, h₅, h₆, h₇⟩ => ⟨h₁, h₂, h₃, h₄, h₅, h₆, h₇⟩,
      fun ⟨h₁, h₂, h₃, h₄, h₅, h₆, h₇⟩ => ⟨h₁, h₂, h₃, h₄, h₅, h₆, h₇⟩⟩

/-- An instant whose UTC year a `datetime` can hold. -/
def Timestamp.InRange (t : Timestamp) : Prop :=
  1 ≤ t.civil.year ∧ t.civil.year ≤ 9999

instance (t : Timestamp) : Decidable t.InRange :=
  inferInstanceAs (Decidable (_ ∧ _))

/-- The fields of an instant give it back. -/
theorem Timestamp.civil_instant (t : Timestamp) : t.civil.instant = t := by
  obtain ⟨hdays, -⟩ := civilOfDays_spec (t / 86400000000)
  have hsplit (n : Int) : n / 86400000000 * 86400000000 +
      ((n - n / 86400000000 * 86400000000).toNat : Int) = n := by omega
  unfold CivilTime.instant Timestamp.civil
  dsimp only
  rw [hdays]
  generalize hrest : (t - t / 86400000000 * 86400000000).toNat = rest
  have hfields : rest / 3600000000 * 3600000000 + rest / 60000000 % 60 * 60000000 +
      rest / 1000000 % 60 * 1000000 + rest % 1000000 = rest := by omega
  rw [hfields, ← hrest]
  exact hsplit t

theorem Timestamp.civil_valid {t : Timestamp} (h : t.InRange) : t.civil.Valid := by
  have hdays := (civilOfDays_spec (t / 86400000000)).1
  have hdate : civilOfDays (daysOfCivil t.civil.year t.civil.month t.civil.day) =
      civilOfDays (t / 86400000000) := congrArg civilOfDays hdays
  refine ⟨h.1, h.2, hdate, ?_, ?_, ?_, ?_⟩
  all_goals
    unfold Timestamp.civil
    dsimp only
    omega

/-! ## The reader -/

/-- A number of so many digits. -/
def readDigits (width : Nat) (cs : List Char) : Option (Nat × List Char) :=
  let digits := cs.take width
  if digits.length = width ∧ digits.all Char.isDigit then
    some (Nat.ofDigitChars 10 digits 0, cs.drop width)
  else none

/-- A number of so many digits, up to a separator. -/
def readField (width : Nat) (mark : Char) (cs : List Char) : Option (Nat × List Char) :=
  match readDigits width cs with
  | some (n, c :: rest) => if c = mark then some (n, rest) else none
  | _ => none

/-- The offset from UTC that ends a text, in minutes; `Z` is written for `+00:00`. -/
def readOffset (cs : List Char) : Option Int :=
  match cs with
  | ['Z'] => some 0
  | sign :: rest => do
      let (hours, rest) ← readField 2 ':' rest
      let (minutes, rest) ← readDigits 2 rest
      if rest ≠ [] ∨ 24 ≤ hours ∨ 60 ≤ minutes then none
      else if sign = '+' then some (hours * 60 + minutes)
      else if sign = '-' then some (-(hours * 60 + minutes))
      else none
  | [] => none

/-- `datetime.fromisoformat`, for date, time, microseconds and offset. -/
def readIso (cs : List Char) : Option (CivilTime × Int) := do
  let (year, cs) ← readField 4 '-' cs
  let (month, cs) ← readField 2 '-' cs
  let (day, cs) ← readField 2 'T' cs
  let (hour, cs) ← readField 2 ':' cs
  let (minute, cs) ← readField 2 ':' cs
  let (second, cs) ← readField 2 '.' cs
  let (microsecond, cs) ← readDigits 6 cs
  let offset ← readOffset cs
  let time : CivilTime := { year := year, month := month, day := day, hour := hour
                            minute := minute, second := second, microsecond := microsecond }
  if time.Valid then some (time, offset) else none

/-- `_datetime`: an aware time, brought to UTC. -/
def Timestamp.ofIso (value : Value) : Except PyError Timestamp :=
  match value with
  | .str text =>
      match readIso text.toList with
      | some (time, offset) =>
          let t : Timestamp := time.instant - offset * 60000000
          if t.InRange then .ok t else .error (.ofPython "OverflowError")
      | none => .error (.ofPython "ValueError")
  | _ => .error (.ofPython "ValueError")

/-! ## Reading what was printed -/

theorem padded_toList (width n : Nat) : (padded width n).toList = Decimal.zeroFilled width n := by
  rw [padded, String.toList_ofList, Decimal.zeroFilled]
  rw [show (toString n).toList = Nat.toDigits 10 n from Nat.toList_repr]

theorem readDigits_zeroFilled {width n : Nat} (hwidth : 0 < width) (hn : n < 10 ^ width)
    (rest : List Char) : readDigits width (Decimal.zeroFilled width n ++ rest) = some (n, rest) := by
  have hlength := Decimal.length_zeroFilled hwidth hn
  have hdigits : (Decimal.zeroFilled width n).all Char.isDigit = true :=
    List.all_eq_true.mpr fun c hc => Decimal.isDigit_of_mem_zeroFilled c hc
  unfold readDigits
  rw [List.take_left' hlength, List.drop_left' hlength]
  simp only [hlength, hdigits, and_self, if_true, Decimal.ofDigitChars_zeroFilled]

theorem readField_zeroFilled {width n : Nat} (hwidth : 0 < width) (hn : n < 10 ^ width)
    (mark : Char) (rest : List Char) :
    readField width mark (Decimal.zeroFilled width n ++ mark :: rest) = some (n, rest) := by
  unfold readField
  rw [readDigits_zeroFilled hwidth hn]
  exact if_pos rfl

/-- A date and time with a fraction, character by character. -/
def CivilTime.chars (c : CivilTime) : List Char :=
  Decimal.zeroFilled 4 c.year.toNat ++ '-' :: (Decimal.zeroFilled 2 c.month ++
    '-' :: (Decimal.zeroFilled 2 c.day ++ 'T' :: (Decimal.zeroFilled 2 c.hour ++
      ':' :: (Decimal.zeroFilled 2 c.minute ++ ':' :: (Decimal.zeroFilled 2 c.second ++
        '.' :: (Decimal.zeroFilled 6 c.microsecond ++ ['Z']))))))

theorem isoMicroseconds_toList (t : Timestamp) : t.isoMicroseconds.toList = t.civil.chars := by
  simp only [Timestamp.isoMicroseconds, CivilTime.seconds, CivilTime.chars, String.toList_append,
    padded_toList]
  simp

/-- A valid date and time is read back. -/
theorem readIso_chars {c : CivilTime} (hvalid : c.Valid) (hmonth : c.month < 10 ^ 2)
    (hday : c.day < 10 ^ 2) : readIso c.chars = some (c, 0) := by
  have hyear : (c.year.toNat : Int) = c.year :=
    Int.toNat_of_nonneg (le_trans (by decide) hvalid.year_pos)
  have hyearLt : c.year.toNat < 10 ^ 4 := by
    have hle := hvalid.year_le
    omega
  have hhour : c.hour < 10 ^ 2 := lt_trans hvalid.hour_lt (by decide)
  have hminute : c.minute < 10 ^ 2 := lt_trans hvalid.minute_lt (by decide)
  have hsecond : c.second < 10 ^ 2 := lt_trans hvalid.second_lt (by decide)
  have hmicrosecond : c.microsecond < 10 ^ 6 := lt_of_lt_of_eq hvalid.microsecond_lt (by norm_num)
  unfold readIso CivilTime.chars
  simp only [Option.bind_eq_bind]
  rw [readField_zeroFilled (by decide) hyearLt, Option.bind_some]
  dsimp only
  rw [readField_zeroFilled (by decide) hmonth, Option.bind_some]
  dsimp only
  rw [readField_zeroFilled (by decide) hday, Option.bind_some]
  dsimp only
  rw [readField_zeroFilled (by decide) hhour, Option.bind_some]
  dsimp only
  rw [readField_zeroFilled (by decide) hminute, Option.bind_some]
  dsimp only
  rw [readField_zeroFilled (by decide) hsecond, Option.bind_some]
  dsimp only
  rw [readDigits_zeroFilled (by decide) hmicrosecond, Option.bind_some]
  dsimp only
  rw [show readOffset ['Z'] = some 0 from rfl, Option.bind_some, hyear]
  exact if_pos hvalid

/-- A printed instant is read back. -/
theorem Timestamp.ofIso_isoMicroseconds {t : Timestamp} (h : t.InRange) :
    Timestamp.ofIso (.str t.isoMicroseconds) = .ok t := by
  obtain ⟨-, ⟨-, hmonth⟩, -, hday⟩ := civilOfDays_spec (t / 86400000000)
  have hread : readIso t.isoMicroseconds.toList = some (t.civil, 0) := by
    rw [isoMicroseconds_toList]
    exact readIso_chars (t.civil_valid h) (lt_of_le_of_lt hmonth (by decide))
      (lt_of_le_of_lt hday (by decide))
  unfold Timestamp.ofIso
  simp only [hread, t.civil_instant, zero_mul, sub_zero, if_pos h]

end Manifest
