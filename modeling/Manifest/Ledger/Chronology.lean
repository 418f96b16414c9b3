import Manifest.Ledger.Instants

/-!
# Order of printed timestamps

Timestamps are printed with fields of fixed width, the greater units first, so that their
texts compare like the instants.

Main results:

- Theorem `civilOfDays_before`: a later day has a later date.
- Theorem `isoMicroseconds_lt_iff`: printed timestamps compare like instants.
-/

set_option autoImplicit false

namespace Manifest

/-! ## Dates -/

section Era

variable {m n : Nat}

/-- The year of an era does not go back. -/
theorem yearOfEra_le (h : m ≤ n) (hn : n < 146097) :
    (m - m / 1460 + m / 36524 - m / 146096) / 365 ≤
      (n - n / 1460 + n / 36524 - n / 146096) / 365 := by
  apply Nat.div_le_div_right
  rcases Nat.lt_or_eq_of_le h with hlt | rfl
  · have hfirst : m / 146096 = 0 := Nat.div_eq_of_lt (by omega)
    by_cases hlast : n = 146096
    · subst hlast
      omega
    · have hnone : n / 146096 = 0 := Nat.div_eq_of_lt (by omega)
      have hcentury : m / 36524 ≤ n / 36524 := Nat.div_le_div_right h
      omega
  · exact Nat.le_refl _

end Era

/-- The date comes first by year, then by month, then by day. -/
def dateBefore (a b : Int × Nat × Nat) : Prop :=
  a.1 < b.1 ∨ a.1 = b.1 ∧ (a.2.1 < b.2.1 ∨ a.2.1 = b.2.1 ∧ a.2.2 < b.2.2)

/-- A later day has a later date. -/
theorem civilOfDays_before {d d' : Int} (h : d < d') :
    dateBefore (civilOfDays d) (civilOfDays d') := by
  unfold civilOfDays dateBefore
  dsimp only
  generalize hera : (d + 719468) / 146097 = era
  generalize hera' : (d' + 719468) / 146097 = era'
  generalize hday : (d + 719468 - era * 146097).toNat = dayOfEra
  generalize hday' : (d' + 719468 - era' * 146097).toNat = dayOfEra'
  have hlt : dayOfEra < 146097 := by omega
  have hlt' : dayOfEra' < 146097 := by omega
  have horder : era < era' ∨ era = era' ∧ dayOfEra < dayOfEra' := by omega
  have hmono : era = era' → (dayOfEra - dayOfEra / 1460 + dayOfEra / 36524 - dayOfEra / 146096) / 365 ≤
      (dayOfEra' - dayOfEra' / 1460 + dayOfEra' / 36524 - dayOfEra' / 146096) / 365 := fun heq =>
    yearOfEra_le (by omega) hlt'
  generalize hyear : (dayOfEra - dayOfEra / 1460 + dayOfEra / 36524 - dayOfEra / 146096) / 365 =
    yearOfEra at hmono ⊢
  generalize hyear' : (dayOfEra' - dayOfEra' / 1460 + dayOfEra' / 36524 - dayOfEra' / 146096) / 365 =
    yearOfEra' at hmono ⊢
  obtain ⟨hyear400, hstart, hend⟩ := dayOfYear_spec hlt hyear.symm
  obtain ⟨hyear400', hstart', hend'⟩ := dayOfYear_spec hlt' hyear'.symm
  generalize hdoy : dayOfEra - (365 * yearOfEra + yearOfEra / 4 - yearOfEra / 100) = dayOfYear
    at hend ⊢
  generalize hdoy' : dayOfEra' - (365 * yearOfEra' + yearOfEra' / 4 - yearOfEra' / 100) =
    dayOfYear' at hend' ⊢
  have hyears : (yearOfEra : Int) + era * 400 < yearOfEra' + era' * 400 ∨
      era = era' ∧ yearOfEra = yearOfEra' ∧ dayOfYear < dayOfYear' := by
    rcases horder with hera | ⟨hera, hdays⟩
    · omega
    · have hle := hmono hera
      rcases Nat.lt_or_eq_of_le hle with hless | heq
      · omega
      · subst heq
        refine .inr ⟨hera, rfl, ?_⟩
        omega
  generalize hindex : (5 * dayOfYear + 2) / 153 = monthIndex
  generalize hindex' : (5 * dayOfYear' + 2) / 153 = monthIndex'
  have hmonth : monthIndex ≤ 11 := by omega
  have hmonth' : monthIndex' ≤ 11 := by omega
  rcases hyears with hless | ⟨rfl, rfl, hless⟩
  · split_ifs <;> omega
  · have hmonths : monthIndex ≤ monthIndex' := by omega
    have hdays : monthIndex = monthIndex' →
        dayOfYear - (153 * monthIndex + 2) / 5 < dayOfYear' - (153 * monthIndex' + 2) / 5 := by
      omega
    split_ifs <;> omega

/-! ## Instants -/

/-- The time comes first, field by field. -/
def CivilTime.before (a b : CivilTime) : Prop :=
  a.year < b.year ∨ a.year = b.year ∧ (a.month < b.month ∨ a.month = b.month ∧
    (a.day < b.day ∨ a.day = b.day ∧ (a.hour < b.hour ∨ a.hour = b.hour ∧
      (a.minute < b.minute ∨ a.minute = b.minute ∧ (a.second < b.second ∨
        a.second = b.second ∧ a.microsecond < b.microsecond)))))

/-- A later instant has a later date and time. -/
theorem Timestamp.civil_before {t t' : Timestamp} (h : t < t') : t.civil.before t'.civil := by
  have hsplit (m n : Int) (h : m < n) : m / 86400000000 < n / 86400000000 ∨
      m / 86400000000 = n / 86400000000 ∧
        (m - m / 86400000000 * 86400000000).toNat < (n - n / 86400000000 * 86400000000).toNat := by
    omega
  have hdate := @civilOfDays_before (t / 86400000000) (t' / 86400000000)
  unfold CivilTime.before Timestamp.civil
  dsimp only
  rcases hsplit t t' h with hdays | ⟨heq, hrest⟩
  · rcases hdate hdays with hyear | ⟨hyear, hmonth | ⟨hmonth, hday⟩⟩
    · exact .inl hyear
    · exact .inr ⟨hyear, .inl hmonth⟩
    · exact .inr ⟨hyear, .inr ⟨hmonth, .inl hday⟩⟩
  · generalize (t - t / 86400000000 * 86400000000).toNat = rest at hrest ⊢
    generalize (t' - t' / 86400000000 * 86400000000).toNat = rest' at hrest ⊢
    rw [heq]
    omega

/-! ## Texts -/

/-- Texts of one length in front compare first. -/
theorem append_lt_append_iff {xs ys us vs : List Char} (hlength : xs.length = ys.length) :
    xs ++ us < ys ++ vs ↔ xs < ys ∨ xs = ys ∧ us < vs := by
  induction xs generalizing ys with
  | nil =>
      obtain rfl := List.length_eq_zero_iff.mp hlength.symm
      simp
  | cons x xs ih =>
      cases ys with
      | nil => simp at hlength
      | cons y ys =>
          have hrest : xs.length = ys.length := by simpa using hlength
          rw [List.cons_append, List.cons_append, List.cons_lt_cons_iff, List.cons_lt_cons_iff,
            ih hrest, List.cons.injEq]
          tauto

/-- Texts with a number of fixed width in front compare by the number first. -/
theorem zeroFilled_append_lt_iff {width m n : Nat} (hwidth : 0 < width) (hm : m < 10 ^ width)
    (hn : n < 10 ^ width) {us vs : List Char} :
    Decimal.zeroFilled width m ++ us < Decimal.zeroFilled width n ++ vs ↔
      m < n ∨ m = n ∧ us < vs := by
  have hlength : (Decimal.zeroFilled width m).length = (Decimal.zeroFilled width n).length := by
    rw [Decimal.length_zeroFilled hwidth hm, Decimal.length_zeroFilled hwidth hn]
  have hinj : Decimal.zeroFilled width m = Decimal.zeroFilled width n ↔ m = n := by
    constructor
    · intro h
      rw [← Decimal.ofDigitChars_zeroFilled width m, h, Decimal.ofDigitChars_zeroFilled]
    · exact congrArg _
  rw [append_lt_append_iff hlength, Decimal.lt_iff_of_zeros hwidth hm hn, hinj]

theorem cons_lt_cons_same {c : Char} {us vs : List Char} : c :: us < c :: vs ↔ us < vs := by
  rw [List.cons_lt_cons_iff]
  simp

/-- The fields of a date and time within their widths. -/
structure CivilTime.Fits (c : CivilTime) : Prop where
  year : c.year.toNat < 10 ^ 4
  month : c.month < 10 ^ 2
  day : c.day < 10 ^ 2
  hour : c.hour < 10 ^ 2
  minute : c.minute < 10 ^ 2
  second : c.second < 10 ^ 2
  microsecond : c.microsecond < 10 ^ 6

theorem Timestamp.InRange.civil_fits {t : Timestamp} (h : t.InRange) : t.civil.Fits := by
  obtain ⟨-, ⟨-, hmonth⟩, -, hday⟩ := civilOfDays_spec (t / 86400000000)
  have hvalid := t.civil_valid h
  have hyear := hvalid.year_le
  refine ⟨by omega, lt_of_le_of_lt hmonth (by decide), lt_of_le_of_lt hday (by decide),
    lt_trans hvalid.hour_lt (by decide), lt_trans hvalid.minute_lt (by decide),
    lt_trans hvalid.second_lt (by decide), lt_of_lt_of_eq hvalid.microsecond_lt (by norm_num)⟩

/-- Printed dates and times compare field by field. -/
theorem CivilTime.chars_lt_iff {a b : CivilTime} (ha : a.Fits) (hb : b.Fits) :
    a.chars < b.chars ↔ a.year.toNat < b.year.toNat ∨ a.year.toNat = b.year.toNat ∧
      (a.month < b.month ∨ a.month = b.month ∧ (a.day < b.day ∨ a.day = b.day ∧
        (a.hour < b.hour ∨ a.hour = b.hour ∧ (a.minute < b.minute ∨ a.minute = b.minute ∧
          (a.second < b.second ∨ a.second = b.second ∧ a.microsecond < b.microsecond))))) := by
  have hlast : ¬ (['Z'] : List Char) < ['Z'] := by simp
  unfold CivilTime.chars
  rw [zeroFilled_append_lt_iff (by decide) ha.year hb.year, cons_lt_cons_same,
    zeroFilled_append_lt_iff (by decide) ha.month hb.month, cons_lt_cons_same,
    zeroFilled_append_lt_iff (by decide) ha.day hb.day, cons_lt_cons_same,
    zeroFilled_append_lt_iff (by decide) ha.hour hb.hour, cons_lt_cons_same,
    zeroFilled_append_lt_iff (by decide) ha.minute hb.minute, cons_lt_cons_same,
    zeroFilled_append_lt_iff (by decide) ha.second hb.second, cons_lt_cons_same,
    zeroFilled_append_lt_iff (by decide) ha.microsecond hb.microsecond]
  simp only [hlast, and_false, or_false]

/-- A later instant has a later text. -/
theorem isoMicroseconds_lt {t t' : Timestamp} (h : t.InRange) (h' : t'.InRange)
    (hlt : t < t') : t.isoMicroseconds.toList < t'.isoMicroseconds.toList := by
  rw [isoMicroseconds_toList, isoMicroseconds_toList,
    CivilTime.chars_lt_iff h.civil_fits h'.civil_fits]
  have hbefore := Timestamp.civil_before hlt
  have hyear := h.1
  have hyear' := h'.1
  unfold CivilTime.before at hbefore
  omega

/-- Printed timestamps compare like instants. -/
theorem isoMicroseconds_lt_iff {t t' : Timestamp} (h : t.InRange) (h' : t'.InRange) :
    t.isoMicroseconds.toList < t'.isoMicroseconds.toList ↔ t < t' := by
  constructor
  · intro hlt
    rcases lt_trichotomy t t' with hless | rfl | hmore
    · exact hless
    · exact absurd hlt (List.lt_irrefl _)
    · exact absurd hlt (List.lt_asymm (isoMicroseconds_lt h' h hmore))
  · exact isoMicroseconds_lt h h'

theorem isoMicroseconds_inj {t t' : Timestamp} (h : t.InRange) (h' : t'.InRange) :
    t.isoMicroseconds.toList = t'.isoMicroseconds.toList ↔ t = t' := by
  constructor
  · intro heq
    rcases lt_trichotomy t t' with hless | rfl | hmore
    · have hlt := isoMicroseconds_lt h h' hless
      rw [heq] at hlt
      exact absurd hlt (List.lt_irrefl _)
    · rfl
    · have hlt := isoMicroseconds_lt h' h hmore
      rw [heq] at hlt
      exact absurd hlt (List.lt_irrefl _)
  · rintro rfl
    rfl

/-- All printed timestamps have one length. -/
theorem length_isoMicroseconds {t : Timestamp} (h : t.InRange) :
    t.isoMicroseconds.toList.length = 27 := by
  have hfits := h.civil_fits
  rw [isoMicroseconds_toList]
  simp only [CivilTime.chars, List.length_append, List.length_cons, List.length_nil,
    Decimal.length_zeroFilled (by decide : 0 < 4) hfits.year,
    Decimal.length_zeroFilled (by decide : 0 < 2) hfits.month,
    Decimal.length_zeroFilled (by decide : 0 < 2) hfits.day,
    Decimal.length_zeroFilled (by decide : 0 < 2) hfits.hour,
    Decimal.length_zeroFilled (by decide : 0 < 2) hfits.minute,
    Decimal.length_zeroFilled (by decide : 0 < 2) hfits.second,
    Decimal.length_zeroFilled (by decide : 0 < 6) hfits.microsecond]

end Manifest
