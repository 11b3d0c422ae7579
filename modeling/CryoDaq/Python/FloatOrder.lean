import CryoDaq.Python.Binary64
import Mathlib.Data.Int.Order.Basic

/-!
# The order of floats

A float that is not NaN has a place on a line: its level (the infinities, the
signs and zero), then its exponent and then its mantissa, both turned around
for a negative number.  Comparing two floats compares their places, so the
order of floats is transitive; nothing compares with NaN.
-/

namespace CryoDaq
namespace Binary64

open Float.Model Float.Model.UnpackedFloat

/-- Minus infinity, the negative numbers, zero, the positive ones, infinity. -/
def level : UnpackedFloat → ℤ
  | .notANumber => 0
  | .infinity .positive => 2
  | .infinity .negative => -2
  | .zero _ => 0
  | .finite .positive _ _ _ => 1
  | .finite .negative _ _ _ => -1

/-- The exponent, turned around for a negative number. -/
def exponentPlace : UnpackedFloat → ℤ
  | .finite .positive _ e _ => e
  | .finite .negative _ e _ => -e
  | _ => 0

/-- The mantissa, turned around for a negative number. -/
def mantissaPlace : UnpackedFloat → ℤ
  | .finite .positive m _ _ => m
  | .finite .negative m _ _ => -m
  | _ => 0

def placeOrder : UnpackedFloat → UnpackedFloat → Ordering :=
  compareLex (compareOn level) (compareLex (compareOn exponentPlace) (compareOn mantissaPlace))

instance placeOrder_trans : Std.TransCmp placeOrder :=
  inferInstanceAs (Std.TransCmp
    (compareLex (compareOn level) (compareLex (compareOn exponentPlace) (compareOn mantissaPlace))))

theorem compare_natCast (m n : ℕ) : compare (m : ℤ) (n : ℤ) = compare m n := by
  rcases lt_trichotomy m n with h | h | h
  · rw [compare_lt_iff_lt.mpr h, compare_lt_iff_lt.mpr (Int.ofNat_lt.mpr h)]
  · rw [compare_eq_iff_eq.mpr h, compare_eq_iff_eq.mpr (congrArg Nat.cast h)]
  · rw [compare_gt_iff_gt.mpr h, compare_gt_iff_gt.mpr (Int.ofNat_lt.mpr h)]

theorem compare_neg (a b : ℤ) : compare (-a) (-b) = (compare a b).swap := by
  rcases lt_trichotomy a b with h | h | h
  · rw [compare_lt_iff_lt.mpr h, compare_gt_iff_gt.mpr (Int.neg_lt_neg h)]
    rfl
  · rw [compare_eq_iff_eq.mpr h, compare_eq_iff_eq.mpr (congrArg Neg.neg h)]
    rfl
  · rw [compare_gt_iff_gt.mpr h, compare_lt_iff_lt.mpr (Int.neg_lt_neg h)]
    rfl

theorem compare_eq_placeOrder {u v : UnpackedFloat} (hu : u.isNaN = false)
    (hv : v.isNaN = false) : u.compare v = some (placeOrder u v) := by
  have hpositive (m n : ℕ) (e f : ℤ) : (compare e f).then (compare m n) =
      (compare e f).then (compare (m : ℤ) (n : ℤ)) := by
    rw [compare_natCast]
  have hnegative (m n : ℕ) (e f : ℤ) : ((compare e f).then (compare m n)).swap =
      (compare (-e) (-f)).then (compare (-(m : ℤ)) (-(n : ℤ))) := by
    rw [compare_neg, compare_neg, compare_natCast, Ordering.swap_then]
  cases u with
  | notANumber => cases hu
  | infinity s => cases v with
    | notANumber => cases hv
    | infinity t => cases s <;> cases t <;> rfl
    | zero t => cases s <;> rfl
    | finite t n f hn => cases s <;> cases t <;> rfl
  | zero s => cases v with
    | notANumber => cases hv
    | infinity t => cases t <;> rfl
    | zero t => rfl
    | finite t n f hn => cases t <;> rfl
  | finite s m e hm => cases v with
    | notANumber => cases hv
    | infinity t => cases s <;> cases t <;> rfl
    | zero t => cases s <;> rfl
    | finite t n f hn =>
        cases s with
        | positive => cases t with
          | positive => exact congrArg some (hpositive m n e f)
          | negative => rfl
        | negative => cases t with
          | positive => rfl
          | negative => exact congrArg some (hnegative m n e f)

theorem isNaN_of_compare {u v : UnpackedFloat} {o : Ordering} (h : u.compare v = some o) :
    u.isNaN = false ∧ v.isNaN = false := by
  cases u with
  | notANumber => cases h
  | infinity s => cases v with
    | notANumber => cases s <;> cases h
    | infinity t => exact ⟨rfl, rfl⟩
    | zero t => exact ⟨rfl, rfl⟩
    | finite t n f hn => exact ⟨rfl, rfl⟩
  | zero s => cases v with
    | notANumber => cases h
    | infinity t => exact ⟨rfl, rfl⟩
    | zero t => exact ⟨rfl, rfl⟩
    | finite t n f hn => exact ⟨rfl, rfl⟩
  | finite s m e hm => cases v with
    | notANumber => cases s <;> cases h
    | infinity t => exact ⟨rfl, rfl⟩
    | zero t => exact ⟨rfl, rfl⟩
    | finite t n f hn => exact ⟨rfl, rfl⟩

theorem lt_place {x y : Float} : x < y ↔ x.isNaN = false ∧ y.isNaN = false ∧
    placeOrder x.toModel.unpack y.toModel.unpack = .lt := by
  rw [lt_iff]
  constructor
  · intro h
    obtain ⟨hx, hy⟩ := isNaN_of_compare h
    rw [compare_eq_placeOrder hx hy] at h
    exact ⟨hx, hy, Option.some.inj h⟩
  · rintro ⟨hx, hy, h⟩
    rw [compare_eq_placeOrder hx hy, h]

theorem le_place {x y : Float} : x ≤ y ↔ x.isNaN = false ∧ y.isNaN = false ∧
    (placeOrder x.toModel.unpack y.toModel.unpack).isLE = true := by
  rw [le_iff]
  constructor
  · intro h
    cases hc : x.toModel.unpack.compare y.toModel.unpack with
    | none =>
        rw [hc] at h
        cases h
    | some o =>
        obtain ⟨hx, hy⟩ := isNaN_of_compare hc
        rw [compare_eq_placeOrder hx hy] at hc
        rw [compare_eq_placeOrder hx hy] at h
        exact ⟨hx, hy, h⟩
  · rintro ⟨hx, hy, h⟩
    rw [compare_eq_placeOrder hx hy]
    exact h

theorem lt_of_le_of_lt {x y z : Float} (hxy : x ≤ y) (hyz : y < z) : x < z := by
  obtain ⟨hx, _, hxy⟩ := le_place.mp hxy
  obtain ⟨_, hz, hyz⟩ := lt_place.mp hyz
  exact lt_place.mpr ⟨hx, hz, Std.TransCmp.lt_of_isLE_of_lt hxy hyz⟩

theorem lt_of_lt_of_le {x y z : Float} (hxy : x < y) (hyz : y ≤ z) : x < z := by
  obtain ⟨hx, _, hxy⟩ := lt_place.mp hxy
  obtain ⟨_, hz, hyz⟩ := le_place.mp hyz
  exact lt_place.mpr ⟨hx, hz, Std.TransCmp.lt_of_lt_of_isLE hxy hyz⟩

theorem lt_trans {x y z : Float} (hxy : x < y) (hyz : y < z) : x < z :=
  lt_of_le_of_lt (le_of_lt hxy) hyz

theorem le_trans {x y z : Float} (hxy : x ≤ y) (hyz : y ≤ z) : x ≤ z := by
  obtain ⟨hx, _, hxy⟩ := le_place.mp hxy
  obtain ⟨_, hz, hyz⟩ := le_place.mp hyz
  exact le_place.mpr ⟨hx, hz, Std.TransCmp.isLE_trans hxy hyz⟩

theorem lt_irrefl (x : Float) : ¬ x < x := by
  intro h
  obtain ⟨_, _, h⟩ := lt_place.mp h
  have hself : placeOrder x.toModel.unpack x.toModel.unpack = .eq := Std.ReflCmp.compare_self
  rw [hself] at h
  cases h

end Binary64
end CryoDaq
