import CryoDaq.Python.Binary64
import CryoDaq.Python.FloatText
import CryoDaq.Python.Number

/-!
# Timestamps

A `datetime` is counted in microseconds from a fixed instant, a `timedelta` in
microseconds.  `totalSeconds` is the correctly rounded quotient of
`timedelta.total_seconds()`; `microseconds` is `timedelta(seconds=x)`.
-/

namespace CryoDaq

/-- A `datetime`, in microseconds. -/
abbrev Timestamp := ℤ

/-- The integer nearest to `num / den`, the even one of two. -/
def roundQuotient (num den : ℕ) : ℕ :=
  let q := num / den
  let r := num % den
  if 2 * r < den ∨ (2 * r = den ∧ q % 2 = 0) then q else q + 1

/-- The integer nearest to `x * scale`; NaN and the infinities raise. -/
def roundScaled (x : Float) (scale : ℕ) : Except PyError ℤ :=
  match x.toModel.unpack with
  | .notANumber => .error .valueError
  | .infinity _ => .error .overflowError
  | .zero _ => .ok 0
  | .finite sign m e _ =>
      let n := roundQuotient (m * scale * 2 ^ e.toNat) (2 ^ (-e).toNat)
      .ok (sign.apply n)

/-- `int(round(x))` -/
def roundToInt (x : Float) : Except PyError ℤ := roundScaled x 1

/-- `timedelta(seconds=x)` -/
def microseconds (x : Float) : Except PyError ℤ := do
  let us ← roundScaled x 1000000
  if us.natAbs / 86400000000 ≤ 999999999 then .ok us else .error .overflowError

def totalSeconds (us : ℤ) : Float :=
  if us < 0 then -(FloatText.ofDecimal us.natAbs (-6)) else FloatText.ofDecimal us.natAbs (-6)

example : totalSeconds 1500000 = 1.5 := by decide

theorem isNaN_totalSeconds (us : ℤ) : (totalSeconds us).isNaN = false := by
  have hdecimal : (FloatText.ofDecimal us.natAbs (-6)).isNaN = false :=
    Binary64.isNaN_ofScientific us.natAbs (-6)
  unfold totalSeconds
  split
  · exact (Binary64.isNaN_neg _).trans hdecimal
  · exact hdecimal

end CryoDaq
