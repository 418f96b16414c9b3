import Mathlib.Data.Nat.Digits.Defs
import Mathlib.Data.List.Basic
import Mathlib.Tactic.Linarith

/-!
# Decimal numerals of fixed width

Digit strings of one length compare lexicographically as the numbers they denote.

Main results:

- Theorem `Decimal.lt_iff`: order of numerals of one length.
- Theorem `Decimal.lt_iff_of_zeros`: order of numbers printed with leading zeros.
-/

set_option autoImplicit false

namespace Decimal

theorem toNat_isDigit {c : Char} (h : c.isDigit = true) : 48 ≤ c.toNat ∧ c.toNat ≤ 57 := by
  simp only [Char.isDigit, Bool.and_eq_true, decide_eq_true_eq] at h
  exact ⟨UInt32.le_iff_toNat_le.mp h.1, UInt32.le_iff_toNat_le.mp h.2⟩

theorem ofDigitChars_cons_zero (c : Char) (cs : List Char) :
    Nat.ofDigitChars 10 (c :: cs) 0 =
      10 ^ cs.length * (c.toNat - 48) + Nat.ofDigitChars 10 cs 0 := by
  rw [Nat.ofDigitChars_cons, Nat.ofDigitChars_eq_ofDigitChars_zero]
  simp

/-- A numeral denotes a number below ten to the power of its length. -/
theorem ofDigitChars_lt {cs : List Char} (h : ∀ c ∈ cs, c.isDigit = true) :
    Nat.ofDigitChars 10 cs 0 < 10 ^ cs.length := by
  induction cs with
  | nil => simp
  | cons c cs ih =>
      obtain ⟨-, hupper⟩ := toNat_isDigit (h c List.mem_cons_self)
      have hrest := ih fun d hd => h d (List.mem_cons_of_mem c hd)
      rw [ofDigitChars_cons_zero, List.length_cons, Nat.pow_succ]
      have hdigit : 10 ^ cs.length * (c.toNat - 48) ≤ 10 ^ cs.length * 9 :=
        Nat.mul_le_mul_left _ (by omega)
      omega

/-- Numerals of one length compare as the numbers they denote. -/
theorem lt_iff {xs ys : List Char} (hx : ∀ c ∈ xs, c.isDigit = true)
    (hy : ∀ c ∈ ys, c.isDigit = true) (hlength : xs.length = ys.length) :
    xs < ys ↔ Nat.ofDigitChars 10 xs 0 < Nat.ofDigitChars 10 ys 0 := by
  induction xs generalizing ys with
  | nil =>
      obtain rfl := List.length_eq_zero_iff.mp hlength.symm
      simp
  | cons x xs ih =>
      cases ys with
      | nil => simp at hlength
      | cons y ys =>
          have hlen : xs.length = ys.length := by simpa using hlength
          have hxs := fun d hd => hx d (List.mem_cons_of_mem x hd)
          have hys := fun d hd => hy d (List.mem_cons_of_mem y hd)
          have hxdigit := toNat_isDigit (hx x List.mem_cons_self)
          have hydigit := toNat_isDigit (hy y List.mem_cons_self)
          have hxlt := ofDigitChars_lt hxs
          have hylt := ofDigitChars_lt hys
          rw [List.cons_lt_cons_iff, ih hxs hys hlen, ofDigitChars_cons_zero,
            ofDigitChars_cons_zero, hlen]
          rw [hlen] at hxlt
          -- The leading digits decide, unless they are equal.
          rcases Nat.lt_trichotomy x.toNat y.toNat with hlt | heq | hgt
          · have hstep : 10 ^ ys.length * (x.toNat - 48) + 10 ^ ys.length ≤
                10 ^ ys.length * (y.toNat - 48) := by
              rw [← Nat.mul_succ]
              exact Nat.mul_le_mul_left _ (by omega)
            constructor
            · intro _
              omega
            · exact fun _ => .inl hlt
          · obtain rfl := Char.toNat_inj.mp heq
            simp
          · have hstep : 10 ^ ys.length * (y.toNat - 48) + 10 ^ ys.length ≤
                10 ^ ys.length * (x.toNat - 48) := by
              rw [← Nat.mul_succ]
              exact Nat.mul_le_mul_left _ (by omega)
            constructor
            · rintro (hlt | ⟨rfl, -⟩)
              · exact absurd (show x.toNat < y.toNat from hlt) (by omega)
              · omega
            · intro _
              omega

/-- The digits of `n` after zeros that fill them up to `width`. -/
def zeroFilled (width n : Nat) : List Char :=
  List.replicate (width - (Nat.toDigits 10 n).length) '0' ++ Nat.toDigits 10 n

theorem isDigit_of_mem_zeroFilled {width n : Nat} :
    ∀ c ∈ zeroFilled width n, c.isDigit = true := by
  intro c hc
  rcases List.mem_append.mp hc with hzero | hdigit
  · rw [List.eq_of_mem_replicate hzero]
    rfl
  · exact Nat.isDigit_of_mem_toDigits (by decide) (by decide) hdigit

theorem ofDigitChars_zeroFilled (width n : Nat) :
    Nat.ofDigitChars 10 (zeroFilled width n) 0 = n := by
  rw [zeroFilled, Nat.ofDigitChars_append, Nat.ofDigitChars_replicate_zero, Nat.mul_zero,
    Nat.ofDigitChars_ten_toDigits]

theorem length_zeroFilled {width n : Nat} (hwidth : 0 < width) (hn : n < 10 ^ width) :
    (zeroFilled width n).length = width := by
  have hlength := (Nat.length_toDigits_le_iff (by decide) hwidth).mpr hn
  rw [zeroFilled, List.length_append, List.length_replicate]
  omega

/-- Numbers printed with leading zeros compare as numbers. -/
theorem lt_iff_of_zeros {width m n : Nat} (hwidth : 0 < width) (hm : m < 10 ^ width)
    (hn : n < 10 ^ width) : zeroFilled width m < zeroFilled width n ↔ m < n := by
  rw [lt_iff isDigit_of_mem_zeroFilled isDigit_of_mem_zeroFilled
    ((length_zeroFilled hwidth hm).trans (length_zeroFilled hwidth hn).symm),
    ofDigitChars_zeroFilled, ofDigitChars_zeroFilled]

end Decimal
