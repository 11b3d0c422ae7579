import Mathlib.Algebra.Ring.Int.Defs
import Mathlib.Data.Int.Order.Basic

/-!
# Numbers

A Python number is an integer of any size or a binary64 float.  Integers and
floats are compared by their exact values; arithmetic on an integer and a float
converts the integer first and raises when it is too large.

**Floats.**  Python's `float` is Lean's `Float`; `-0.0` and `0.0` differ as
values and are equal as numbers.
-/

namespace CryoDaq

theorem float_beq_self {x : Float} (h : x.isFinite = true) : (x == x) = true := by
  have hself (m : ℕ) (e : ℤ) : (compare e e).then (compare m m) = .eq := by
    rw [compare_eq_iff_eq.mpr rfl, compare_eq_iff_eq.mpr rfl]
    rfl
  have hfinite : x.toModel.unpack.isFinite = true := h
  have hcompare : x.toModel.unpack.compare x.toModel.unpack = some .eq := by
    cases hx : x.toModel.unpack with
    | infinity sign =>
        rw [hx] at hfinite
        cases hfinite
    | notANumber =>
        rw [hx] at hfinite
        cases hfinite
    | zero sign =>
        cases sign <;> rfl
    | finite sign m e hm =>
        cases sign with
        | positive => exact congrArg some (hself m e)
        | negative => exact congrArg (fun o => some (Ordering.swap o)) (hself m e)
  change (x.toModel.unpack.compare x.toModel.unpack == some .eq) = true
  rw [hcompare]
  rfl

/-- The exceptions of the built-in operations. -/
inductive PyError
  | typeError
  | valueError
  | keyError
  | indexError
  | overflowError
  | attributeError
deriving DecidableEq, Repr

/-- A Python `int` or `float`. -/
inductive Number
  | int (n : ℤ)
  | float (x : Float)
deriving DecidableEq

namespace Number

/-- An integer against a float, by their exact values. -/
def compareIntFloat (n : ℤ) (x : Float) : Option Ordering :=
  match x.toModel.unpack with
  | .notANumber => none
  | .infinity .positive => some .lt
  | .infinity .negative => some .gt
  | .zero _ => some (compare n 0)
  | .finite sign m e _ =>
      let magnitude : ℤ := match sign with
        | .positive => (m : ℤ)
        | .negative => -(m : ℤ)
      if 0 ≤ e then some (compare n (magnitude * 2 ^ e.toNat))
      else some (compare (n * 2 ^ (-e).toNat) magnitude)

/-- The order of two numbers; nothing compares with NaN. -/
def cmp : Number → Number → Option Ordering
  | int a, int b => some (compare a b)
  | int a, float y => compareIntFloat a y
  | float x, int b => (compareIntFloat b x).map Ordering.swap
  | float x, float y =>
      if x < y then some .lt
      else if y < x then some .gt
      else if x == y then some .eq
      else none

/-- `a < b` -/
def lt (a b : Number) : Bool := a.cmp b == some .lt

/-- `a > b` -/
def gt (a b : Number) : Bool := a.cmp b == some .gt

/-- `a <= b` -/
def le (a b : Number) : Bool := a.cmp b == some .lt || a.cmp b == some .eq

/-- `a >= b` -/
def ge (a b : Number) : Bool := a.cmp b == some .gt || a.cmp b == some .eq

/-- `a == b` -/
def eq (a b : Number) : Bool := a.cmp b == some .eq

/-- `float(a)` -/
def toFloat : Number → Except PyError Float
  | int n =>
      if (Float.ofInt n).isInf then .error .overflowError
      else .ok (Float.ofInt n)
  | float x => .ok x

/-- `a - b` -/
def sub : Number → Number → Except PyError Number
  | int a, int b => .ok (int (a - b))
  | a, b => do
      let x ← a.toFloat
      let y ← b.toFloat
      .ok (float (x - y))

/-- `a + b` -/
def add : Number → Number → Except PyError Number
  | int a, int b => .ok (int (a + b))
  | a, b => do
      let x ← a.toFloat
      let y ← b.toFloat
      .ok (float (x + y))

/-- `abs(a)` -/
def abs : Number → Number
  | int n => int n.natAbs
  | float x => float x.abs

example : eq (int (2 ^ 53)) (float 9007199254740992.0) = true := by decide

example : lt (float 0.5) (int 1) = true := by decide

end Number

/-- A configured scalar: a number, or a value that arithmetic refuses. -/
inductive Scalar
  | number (n : Number)
  | other
deriving DecidableEq

def Scalar.asNumber : Scalar → Except PyError Number
  | .number n => .ok n
  | .other => .error .typeError

end CryoDaq
