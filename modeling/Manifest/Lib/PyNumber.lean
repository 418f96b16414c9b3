import Mathlib.Algebra.Order.Floor.Defs
import Mathlib.Data.Rat.Floor
import Mathlib.Algebra.Order.Field.Rat

/-!
# Printing whole amounts through a double

Python's `f"{n / 100:,.0f}"`: the quotient of two integers is rounded to a
double, the double to an integer, and the digits are grouped by thousands.  Both
roundings are to nearest, ties to even; a quotient beyond the double range raises.
-/

set_option autoImplicit false

namespace PyNumber

/-- The nearest integer, ties to even. -/
def roundHalfEven (q : Rat) : Int :=
  let below := ⌊q⌋
  let rest := q - below
  if rest < 1 / 2 then below
  else if 1 / 2 < rest then below + 1
  else if below % 2 = 0 then below
  else below + 1

/-- The nearest double of a nonnegative rational, seen at the spacing of the
doubles around it; below one the spacing used is finer than any integer needs. -/
def nearestDouble (q : Rat) : Rat :=
  let spacing : Rat := (2 : Rat) ^ (Nat.log2 ⌊q⌋.toNat) / 2 ^ 52
  roundHalfEven (q / spacing) * spacing

/-- Group decimal digits by thousands, from the right. -/
def groupThousands : List Char → List Char
  | a :: b :: c :: d :: rest => a :: b :: c :: ',' :: groupThousands (d :: rest)
  | digits => digits

/-- Digits with thousands separators. -/
def withCommas (n : Nat) : String :=
  String.ofList (groupThousands (toString n).toList.reverse).reverse

/-- The first quotient that no double is nearest to. -/
def doubleRange : Nat := 2 ^ 1024 - 2 ^ 970

/-- `f"{n / 100:,.0f}"`, or `none` for an `OverflowError`. -/
def hundredths (n : Int) : Option String :=
  if 100 * doubleRange ≤ n.natAbs then none
  else
    let digits := withCommas (roundHalfEven (nearestDouble ((n.natAbs : Rat) / 100))).toNat
    some (if n < 0 then "-" ++ digits else digits)

/-- A quotient within the range prints. -/
theorem hundredths_isSome_iff (n : Int) :
    (hundredths n).isSome = true ↔ n.natAbs < 100 * doubleRange := by
  unfold hundredths
  split
  · rename_i hle
    simpa using hle
  · rename_i hlt
    simpa using hlt

/-- Sums of two 64-bit integers print. -/
theorem hundredths_isSome_of_lt {n : Int} (h : n.natAbs < 2 ^ 65) :
    (hundredths n).isSome = true := by
  rw [hundredths_isSome_iff]
  have hrange : 2 ^ 65 ≤ 100 * doubleRange := by decide +kernel
  exact lt_of_lt_of_le h hrange

example : hundredths 1650050 = some "16,500" := by decide +kernel

end PyNumber
