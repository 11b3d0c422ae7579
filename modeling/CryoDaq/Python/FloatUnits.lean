import CryoDaq.Python.FloatOrder
import Mathlib.Tactic.Positivity
import Mathlib.Tactic.Ring

/-!
# The values of floats

**Units.**  A finite float is a whole number of units of `2 ^ (-1074)`, the
least positive float.  Floats are ordered as their units are.

**Rounding.**  A difference is rounded to a float beside it: no other float lies
strictly between the exact difference and the rounded one.

**Differences.**  A difference that is not negative compares its operands, and
taking a nonnegative number away never leaves more.
-/

namespace CryoDaq
namespace Binary64

open Float.Model Float.Model.UnpackedFloat

def magnitude (m : ℕ) (e : ℤ) : ℕ := m * 2 ^ (e + 1074).toNat

/-- The units of a datum; nothing but a number has any. -/
def datumUnits : UnpackedFloat → ℤ
  | .finite s m e _ => s.apply (magnitude m e)
  | _ => 0

/-- The value of a finite float in units of `2 ^ (-1074)`. -/
def units (x : Float) : ℤ := datumUnits x.toModel.unpack

/-- A mantissa and an exponent as binary64 holds them, whatever the size. -/
structure Canonical (m : ℕ) (e : ℤ) : Prop where
  high : m < 2 ^ 53
  least : -1074 ≤ e
  low : 2 ^ 52 ≤ m ∨ e = -1074

section Magnitudes

variable {m n : ℕ} {e f : ℤ}

theorem magnitude_pos (hm : 0 < m) : 0 < magnitude m e := by
  unfold magnitude
  positivity

theorem two_pow_shift (he : -1074 ≤ e) (h : e ≤ f) :
    2 ^ (f + 1074).toNat = 2 ^ (f - e).toNat * 2 ^ (e + 1074).toNat := by
  rw [← Nat.pow_add]
  congr 1
  omega

theorem magnitude_lt_of_exponent (h : Canonical m e) (k : Canonical n f) (hlt : e < f) :
    magnitude m e < magnitude n f := by
  have hn : 2 ^ 52 ≤ n := by
    rcases k.low with hlow | hleast
    · exact hlow
    · have := h.least
      omega
  unfold magnitude
  rw [two_pow_shift h.least hlt.le]
  have hpow : 2 ^ 1 ≤ 2 ^ (f - e).toNat := Nat.pow_le_pow_right (by decide) (by omega)
  have hunit : 0 < 2 ^ (e + 1074).toNat := by positivity
  calc m * 2 ^ (e + 1074).toNat < 2 ^ 53 * 2 ^ (e + 1074).toNat :=
        Nat.mul_lt_mul_of_pos_right h.high hunit
    _ = 2 ^ 52 * 2 ^ 1 * 2 ^ (e + 1074).toNat := by norm_num
    _ ≤ n * 2 ^ (f - e).toNat * 2 ^ (e + 1074).toNat :=
        Nat.mul_le_mul_right _ (Nat.mul_le_mul hn hpow)
    _ = n * (2 ^ (f - e).toNat * 2 ^ (e + 1074).toNat) := Nat.mul_assoc _ _ _

theorem compare_magnitude (h : Canonical m e) (k : Canonical n f) :
    (compare e f).then (compare m n) = compare (magnitude m e) (magnitude n f) := by
  rcases lt_trichotomy e f with hlt | rfl | hlt
  · rw [compare_lt_iff_lt.mpr hlt, compare_lt_iff_lt.mpr (magnitude_lt_of_exponent h k hlt)]
    rfl
  · have hunit : 0 < 2 ^ (e + 1074).toNat := by positivity
    rw [compare_eq_iff_eq.mpr rfl]
    unfold magnitude
    rcases lt_trichotomy m n with hmn | rfl | hmn
    · rw [compare_lt_iff_lt.mpr hmn,
        compare_lt_iff_lt.mpr (Nat.mul_lt_mul_of_pos_right hmn hunit)]
      rfl
    · rw [compare_eq_iff_eq.mpr rfl, compare_eq_iff_eq.mpr rfl]
      rfl
    · rw [compare_gt_iff_gt.mpr hmn,
        compare_gt_iff_gt.mpr (Nat.mul_lt_mul_of_pos_right hmn hunit)]
      rfl
  · rw [compare_gt_iff_gt.mpr hlt, compare_gt_iff_gt.mpr (magnitude_lt_of_exponent k h hlt)]
    rfl

end Magnitudes

inductive Finite : UnpackedFloat → Prop
  | zero (s : Sign) : Finite (.zero s)
  | finite (s : Sign) (m : ℕ) (e : ℤ) (hm : 0 < m) (h : Canonical m e) (hmax : e ≤ 971) :
      Finite (.finite s m e hm)

theorem finite_unpack {x : Float} (hx : x.isFinite = true) : Finite x.toModel.unpack := by
  obtain ⟨b, hb⟩ := unpack_shape x
  have hfinite : x.toModel.unpack.isFinite = true := hx
  generalize x.toModel.unpack = u at hb hfinite
  cases hb with
  | infinity s => cases hfinite
  | notANumber s m hm => cases hfinite
  | zero s => exact .zero s
  | subnormal s m hpos hm => exact .finite s m _ hpos ⟨by omega, le_rfl, .inr rfl⟩ (by omega)
  | normal s m k hpos hlow hhigh hk hmax =>
      exact .finite s m _ hpos ⟨hhigh, by omega, .inl hlow⟩ (by omega)

theorem Finite.compare {u v : UnpackedFloat} (hu : Finite u) (hv : Finite v) :
    u.compare v = some (Ord.compare (datumUnits u) (datumUnits v)) := by
  have hnonneg (m : ℕ) (e : ℤ) : (0 : ℤ) ≤ magnitude m e := Int.natCast_nonneg _
  have hpos {m : ℕ} {e : ℤ} (hm : 0 < m) : (0 : ℤ) < magnitude m e :=
    Int.natCast_pos.mpr (magnitude_pos hm)
  cases hu with
  | zero s => cases hv with
    | zero t => rfl
    | finite t n f hn k kmax => cases t with
      | positive => exact congrArg some (compare_lt_iff_lt.mpr (hpos hn)).symm
      | negative => exact congrArg some (compare_gt_iff_gt.mpr (neg_neg_of_pos (hpos hn))).symm
  | finite s m e hm h hmax => cases hv with
    | zero t => cases s with
      | positive => exact congrArg some (compare_gt_iff_gt.mpr (hpos hm)).symm
      | negative => exact congrArg some (compare_lt_iff_lt.mpr (neg_neg_of_pos (hpos hm))).symm
    | finite t n f hn k kmax =>
        cases s with
        | positive => cases t with
          | positive =>
              refine congrArg some ((compare_magnitude h k).trans ?_)
              exact (compare_natCast _ _).symm
          | negative =>
              refine congrArg some (compare_gt_iff_gt.mpr ?_).symm
              exact Int.lt_of_lt_of_le (neg_neg_of_pos (hpos hn)) (hnonneg m e)
        | negative => cases t with
          | positive =>
              refine congrArg some (compare_lt_iff_lt.mpr ?_).symm
              exact Int.lt_of_lt_of_le (neg_neg_of_pos (hpos hm)) (hnonneg n f)
          | negative =>
              refine congrArg some ((congrArg Ordering.swap (compare_magnitude h k)).trans ?_)
              rw [← compare_natCast]
              exact (compare_neg _ _).symm

section Order

variable {x y : Float}

theorem le_iff_units (hx : x.isFinite = true) (hy : y.isFinite = true) :
    x ≤ y ↔ units x ≤ units y := by
  rw [le_iff, (finite_unpack hx).compare (finite_unpack hy)]
  change (Ord.compare (units x) (units y)).isLE = true ↔ _
  exact Std.isLE_compare

theorem lt_iff_units (hx : x.isFinite = true) (hy : y.isFinite = true) :
    x < y ↔ units x < units y := by
  rw [lt_iff, (finite_unpack hx).compare (finite_unpack hy), Option.some.injEq]
  exact compare_lt_iff_lt

end Order

/-- A canonical number beside the magnitude `d`: no other one lies strictly between
the two. -/
structure Beside (d m : ℕ) (e : ℤ) : Prop where
  canonical : Canonical m e
  above : ∀ n f, Canonical n f → d < magnitude n f → magnitude m e ≤ magnitude n f
  below : ∀ n f, Canonical n f → magnitude n f ≤ d → magnitude n f ≤ magnitude m e

def Rounded (s : Sign) (d : ℕ) (u : UnpackedFloat) : Prop :=
  ∃ (m : ℕ) (e : ℤ) (hm : 0 < m), u = .finite s m e hm ∧ Beside d m e

theorem rounded_self (s : Sign) {m : ℕ} {e : ℤ} (hm : 0 < m) (h : Canonical m e) :
    Rounded s (magnitude m e) (.finite s m e hm) :=
  ⟨m, e, hm, rfl, h, fun _ _ _ hlt => hlt.le, fun _ _ _ hle => hle⟩

section Shifts

theorem mantissa_shift (em : ExtendedMantissa) (k : ℕ) :
    (em >>> k).mantissa = em.mantissa / 2 ^ k := by
  induction k with
  | zero => exact (Nat.div_one _).symm
  | succ k ih =>
      change (em >>> k).mantissa / 2 = _
      rw [ih, Nat.div_div_eq_div_mul, Nat.pow_succ]

theorem roundedMantissa_bounds (em : ExtendedMantissa) :
    em.mantissa ≤ em.roundedMantissa ∧ em.roundedMantissa ≤ em.mantissa + 1 := by
  obtain ⟨m, r, s⟩ := em
  cases r <;> cases s <;>
    simp only [ExtendedMantissa.roundedMantissa, ExtendedMantissa.accuracy,
      Accuracy.roundToNearestEven] <;> omega

theorem targetExponent_eq (m : ℕ) (e : ℤ) :
    Format.binary64.targetExponent (totalExponent m e) = max (m.log2 + e - 52) (-1074) := by
  change max ((m.log2 : ℤ) + 1 + e - 53) (-1074) = _
  congr 1
  omega

theorem shiftToTargetExponent_eq {m k : ℕ} {e : ℤ}
    (h : (Format.binary64.targetExponent (totalExponent m e) - e).toNat = k) :
    shiftToTargetExponent Format.binary64 m e .exact =
      ((⟨m, false, false⟩ : ExtendedMantissa) >>> k, e + k) := by
  subst h
  rfl

theorem shiftToTargetExponent_fits {m : ℕ} {e : ℤ} (hm : m < 2 ^ 53) (he : -1074 ≤ e) :
    shiftToTargetExponent Format.binary64 m e .exact = (⟨m, false, false⟩, e) := by
  have hlog : m.log2 ≤ 52 := by
    by_cases hzero : m = 0
    · subst hzero
      decide
    · have := (Nat.log2_lt hzero).mpr hm
      omega
  have hshift : (Format.binary64.targetExponent (totalExponent m e) - e).toNat = 0 := by
    rw [targetExponent_eq]
    omega
  rw [shiftToTargetExponent_eq hshift]
  exact Prod.ext rfl (Int.add_zero e)

theorem shiftToTargetExponent_full {e : ℤ} (he : -1074 ≤ e) :
    shiftToTargetExponent Format.binary64 (2 ^ 53) e .exact =
      (⟨2 ^ 52, false, false⟩, e + 1) := by
  have hshift : (Format.binary64.targetExponent (totalExponent (2 ^ 53) e) - e).toNat = 1 := by
    rw [targetExponent_eq, Nat.log2_two_pow]
    omega
  rw [shiftToTargetExponent_eq hshift]
  rfl

end Shifts

section Quotients

variable {m k r : ℕ} {e t : ℤ}

theorem magnitude_shift (he : -1074 ≤ e) (ht : t = e + k) (x : ℕ) :
    magnitude x t = x * 2 ^ k * 2 ^ (e + 1074).toNat := by
  unfold magnitude
  rw [two_pow_shift he (f := t) (by omega), ← Nat.mul_assoc]
  congr 3
  omega

theorem exists_multiple {n : ℕ} {f : ℤ} (ht : -1074 ≤ t) (htf : t ≤ f) :
    ∃ x, magnitude n f = magnitude x t :=
  ⟨n * 2 ^ (f - t).toNat, by
    unfold magnitude
    rw [two_pow_shift ht htf, Nat.mul_assoc]⟩

theorem magnitude_le (h : m ≤ r) : magnitude m t ≤ magnitude r t :=
  Nat.mul_le_mul_right _ h

theorem beside_quotient (he : -1074 ≤ e) (ht : t = e + k) (hlow : m / 2 ^ k ≤ r)
    (hhigh : r ≤ m / 2 ^ k + 1) (hexact : k = 0 → r = m)
    (hlong : 0 < k → 2 ^ 52 ≤ m / 2 ^ k) {n : ℕ} {f : ℤ} (hn : Canonical n f) :
    (magnitude m e < magnitude n f → magnitude r t ≤ magnitude n f) ∧
      (magnitude n f ≤ magnitude m e → magnitude n f ≤ magnitude r t) := by
  rcases Nat.eq_zero_or_pos k with rfl | hpos
  · obtain rfl := hexact rfl
    obtain rfl : t = e := by omega
    exact ⟨fun hlt => hlt.le, fun hle => hle⟩
  have hunit : 0 < 2 ^ (e + 1074).toNat := by positivity
  have hbits : Canonical (2 ^ 52) t := ⟨by decide, by omega, .inl le_rfl⟩
  -- The dividend is at least the quotient, and the quotient at least the power of two.
  have hdividend : magnitude (m / 2 ^ k) t ≤ magnitude m e := by
    rw [magnitude_shift he ht]
    exact Nat.mul_le_mul_right _ (Nat.div_mul_le_self m _)
  have hpower : magnitude (2 ^ 52) t ≤ magnitude (m / 2 ^ k) t := magnitude_le (hlong hpos)
  rcases lt_or_ge f t with hft | htf
  · have hbelow : magnitude n f < magnitude (2 ^ 52) t := magnitude_lt_of_exponent hn hbits hft
    refine ⟨fun hlt => ?_, fun _ => ?_⟩
    · omega
    · exact hbelow.le.trans (hpower.trans (magnitude_le hlow))
  · obtain ⟨x, hx⟩ := exists_multiple (n := n) (t := t) (by omega) htf
    rw [hx]
    refine ⟨fun hlt => magnitude_le ?_, fun hle => magnitude_le ?_⟩
    · rw [magnitude_shift he ht] at hlt
      have hx : m < x * 2 ^ k := Nat.lt_of_mul_lt_mul_right hlt
      have hquotient : m / 2 ^ k < x := (Nat.div_lt_iff_lt_mul (by positivity)).mpr hx
      omega
    · rw [magnitude_shift he ht] at hle
      have hx : x * 2 ^ k ≤ m := Nat.le_of_mul_le_mul_right hle hunit
      exact ((Nat.le_div_iff_mul_le (by positivity)).mpr hx).trans hlow

end Quotients

theorem roundWithAccuracy_eq {s : Sign} {m r n : ℕ} {e t u : ℤ} {em : ExtendedMantissa}
    {rb sb : Bool} (hfirst : shiftToTargetExponent Format.binary64 m e .exact = (em, t))
    (hr : em.roundedMantissa = r)
    (hsecond : shiftToTargetExponent Format.binary64 r t .exact = (⟨n, rb, sb⟩, u))
    (hpos : 0 < n) :
    roundWithAccuracy Format.binary64 s m e .exact = .finite s n u hpos := by
  subst hr
  unfold roundWithAccuracy
  rw [hfirst]
  dsimp only
  rw [hsecond]
  exact dif_neg (Nat.pos_iff_ne_zero.mp hpos)

theorem rounded_roundWithAccuracy (s : Sign) {m : ℕ} {e : ℤ} (hm : 0 < m) (he : -1074 ≤ e)
    (hfit : e ≤ Format.binary64.targetExponent (totalExponent m e)) :
    Rounded s (magnitude m e) (roundWithAccuracy Format.binary64 s m e .exact) := by
  obtain ⟨k, hk⟩ : ∃ k, (Format.binary64.targetExponent (totalExponent m e) - e).toNat = k :=
    ⟨_, rfl⟩
  have hshift := shiftToTargetExponent_eq hk
  rw [targetExponent_eq] at hk hfit
  obtain ⟨em, hem⟩ : ∃ em : ExtendedMantissa,
      em = (⟨m, false, false⟩ : ExtendedMantissa) >>> k := ⟨_, rfl⟩
  rw [← hem] at hshift
  have hquotient : em.mantissa = m / 2 ^ k := by
    rw [hem, mantissa_shift]
  obtain ⟨hfloor, hceil⟩ := roundedMantissa_bounds em
  obtain ⟨r, hr⟩ : ∃ r, em.roundedMantissa = r := ⟨_, rfl⟩
  rw [hr, hquotient] at hfloor hceil
  have hexact : k = 0 → r = m := by
    rintro rfl
    rw [← hr, hem]
    rfl
  have hlow : 2 ^ m.log2 ≤ m := Nat.log2_self_le (Nat.pos_iff_ne_zero.mp hm)
  -- With bits to drop the quotient has all its 53 bits; it never has more.
  have hlong : 0 < k → 2 ^ 52 ≤ m / 2 ^ k := by
    intro hpos
    rw [Nat.le_div_iff_mul_le (by positivity), ← Nat.pow_add]
    exact (Nat.pow_le_pow_right (by decide) (by omega)).trans hlow
  have hsmall : m / 2 ^ k < 2 ^ 53 := by
    rw [Nat.div_lt_iff_lt_mul (by positivity), ← Nat.pow_add]
    exact Nat.lt_log2_self.trans_le (Nat.pow_le_pow_right (by decide) (by omega))
  have hbeside := fun n f => beside_quotient he rfl hfloor hceil hexact hlong (n := n) (f := f)
  have hpositive : 0 < r := by
    rcases Nat.eq_zero_or_pos k with hzero | hpos
    · rw [hexact hzero]
      exact hm
    · have := hlong hpos
      omega
  have hleast : 2 ^ 52 ≤ r ∨ e + k = -1074 := by
    rcases Nat.eq_zero_or_pos k with hzero | hpos
    · by_cases hbits : 2 ^ 52 ≤ m
      · exact .inl ((hexact hzero).symm ▸ hbits)
      · have hlog : m.log2 < 52 := (Nat.log2_lt (Nat.pos_iff_ne_zero.mp hm)).mpr (by omega)
        exact .inr (by omega)
    · exact .inl ((hlong hpos).trans hfloor)
  by_cases hfits : r < 2 ^ 53
  · have hsecond := shiftToTargetExponent_fits (e := e + k) hfits (by omega)
    rw [roundWithAccuracy_eq hshift hr hsecond hpositive]
    exact ⟨r, _, hpositive, rfl, ⟨hfits, by omega, hleast⟩, fun n f hn => (hbeside n f hn).1,
      fun n f hn => (hbeside n f hn).2⟩
  · obtain rfl : r = 2 ^ 53 := by omega
    have hsecond := shiftToTargetExponent_full (e := e + k) (by omega)
    rw [roundWithAccuracy_eq hshift hr hsecond (by decide)]
    have hsame : magnitude (2 ^ 52) (e + k + 1) = magnitude (2 ^ 53) (e + k) := by
      have hunit : 2 ^ (e + k + 1 + 1074).toNat = 2 ^ 1 * 2 ^ (e + k + 1074).toNat := by
        rw [two_pow_shift (e := e + k) (by omega) (by omega)]
        congr 2
        omega
      unfold magnitude
      rw [hunit]
      omega
    refine ⟨2 ^ 52, _, by decide, rfl, ⟨by decide, by omega, .inl le_rfl⟩, ?_, ?_⟩
    · rw [hsame]
      exact fun n f hn => (hbeside n f hn).1
    · rw [hsame]
      exact fun n f hn => (hbeside n f hn).2

theorem rounded_round (s : Sign) {m : ℕ} {e : ℤ} (hm : 0 < m) (he : -1074 ≤ e) :
    Rounded s (magnitude m e) (UnpackedFloat.round Format.binary64 s m e) := by
  obtain ⟨k, hk⟩ : ∃ k, (e - Format.binary64.targetExponent (totalExponent m e)).toNat = k :=
    ⟨_, rfl⟩
  have hround : UnpackedFloat.round Format.binary64 s m e =
      roundWithAccuracy Format.binary64 s (m <<< k) (e - k) .exact := by
    subst hk
    rfl
  rw [targetExponent_eq] at hk
  have hpos : 0 < m <<< k := by
    rw [Nat.shiftLeft_eq]
    positivity
  have hlog : (m <<< k).log2 = m.log2 + k := by
    rw [Nat.log2_eq_iff (Nat.pos_iff_ne_zero.mp hpos), Nat.shiftLeft_eq, Nat.pow_add,
      Nat.add_right_comm, Nat.pow_add]
    exact ⟨Nat.mul_le_mul_right _ (Nat.log2_self_le (Nat.pos_iff_ne_zero.mp hm)),
      Nat.mul_lt_mul_of_pos_right Nat.lt_log2_self (by positivity)⟩
  have hsame : magnitude (m <<< k) (e - k) = magnitude m e := by
    rw [magnitude_shift (e := e - k) (t := e) (k := k) (by omega) (by omega),
      Nat.shiftLeft_eq]
    rfl
  rw [hround, ← hsame]
  refine rounded_roundWithAccuracy s hpos (by omega) ?_
  rw [targetExponent_eq, hlog]
  omega

theorem unpack_pack_canonical (s : Sign) {m : ℕ} {e : ℤ} (hm : 0 < m) (h : Canonical m e) :
    UnpackedFloat.unpack Format.binary64
        (UnpackedFloat.pack Format.binary64 (.finite s m e hm)) =
      if e ≤ 971 then .finite s m e hm else .infinity s := by
  have hleast := h.least
  by_cases hmax : e ≤ 971
  · rw [if_pos hmax]
    by_cases hlow : 2 ^ 52 ≤ m
    · obtain ⟨k, hk⟩ : ∃ k : ℕ, (k : ℤ) = e + 1075 := ⟨(e + 1075).toNat, by omega⟩
      obtain rfl : e = (k : ℤ) - 1075 := by omega
      exact (Shape.normal s m k hm hlow h.high (by omega) (by omega)).unpack_pack
    · obtain rfl : e = -1074 := h.low.resolve_left hlow
      exact (Shape.subnormal s m hm (by omega)).unpack_pack
  · rw [if_neg hmax, pack_finite, if_pos (by omega)]
    exact (Shape.infinity s).unpack_eq

theorem magnitude_aligned {m : ℕ} {e g : ℤ} (hg : -1074 ≤ g) (h : g ≤ e) :
    m <<< (e - g).toNat * 2 ^ (g + 1074).toNat = magnitude m e := by
  unfold magnitude
  rw [Nat.shiftLeft_eq, two_pow_shift hg h, Nat.mul_assoc]

theorem normalize_rounded {d g : ℤ} (hg : -1074 ≤ g) :
    (d * (2 ^ (g + 1074).toNat : ℕ) = 0 ∧
        ∃ s, UnpackedFloat.normalize Format.binary64 d g .positive = .zero s) ∨
      ∃ (s : Sign) (n : ℕ), 0 < n ∧ s.apply n = d * (2 ^ (g + 1074).toNat : ℕ) ∧
        Rounded s n (UnpackedFloat.normalize Format.binary64 d g .positive) := by
  unfold UnpackedFloat.normalize
  rcases lt_trichotomy d 0 with hd | rfl | hd
  · rw [compare_lt_iff_lt.mpr hd]
    have hpos : 0 < (-d).toNat := by omega
    refine .inr ⟨.negative, magnitude (-d).toNat g, magnitude_pos hpos, ?_,
      rounded_round .negative hpos hg⟩
    unfold magnitude Sign.apply
    rw [Int.natCast_mul, Int.toNat_of_nonneg (by omega)]
    ring
  · exact .inl ⟨Int.zero_mul _, .positive, rfl⟩
  · rw [compare_gt_iff_gt.mpr hd]
    have hpos : 0 < d.toNat := by omega
    refine .inr ⟨.positive, magnitude d.toNat g, magnitude_pos hpos, ?_,
      rounded_round .positive hpos hg⟩
    unfold magnitude Sign.apply
    rw [Int.natCast_mul, Int.toNat_of_nonneg (by omega)]

theorem sub_rounded {u v : UnpackedFloat} (hu : Finite u) (hv : Finite v) :
    (datumUnits u - datumUnits v = 0 ∧
        ∃ s, UnpackedFloat.sub Format.binary64 u v = .zero s) ∨
      ∃ (s : Sign) (d : ℕ), 0 < d ∧ s.apply d = datumUnits u - datumUnits v ∧
        Rounded s d (UnpackedFloat.sub Format.binary64 u v) := by
  cases hu with
  | zero s => cases hv with
    | zero t =>
        refine .inl ⟨rfl, ?_⟩
        cases s <;> cases t <;> exact ⟨_, rfl⟩
    | finite t n f hn k kmax =>
        refine .inr ⟨-t, magnitude n f, magnitude_pos hn, ?_, rounded_self _ hn k⟩
        cases t with
        | positive => exact (Int.zero_sub _).symm
        | negative => exact ((Int.zero_sub _).trans (Int.neg_neg _)).symm
  | finite s m e hm h hmax => cases hv with
    | zero t =>
        exact .inr ⟨s, magnitude m e, magnitude_pos hm, (Int.sub_zero _).symm,
          rounded_self _ hm h⟩
    | finite t n f hn k kmax =>
        obtain ⟨g, hg⟩ : ∃ g, g = min e f := ⟨_, rfl⟩
        have hleast : -1074 ≤ g := by
          have := h.least
          have := k.least
          omega
        obtain ⟨d, hd⟩ : ∃ d : ℤ,
            d = s.apply (m <<< (e - g).toNat : ℕ) - t.apply (n <<< (f - g).toNat : ℕ) := ⟨_, rfl⟩
        have hsub : UnpackedFloat.sub Format.binary64 (.finite s m e hm) (.finite t n f hn) =
            UnpackedFloat.normalize Format.binary64 d g .positive := by
          rw [hd, hg]
          rfl
        have hunits : d * (2 ^ (g + 1074).toNat : ℕ) =
            datumUnits (.finite s m e hm) - datumUnits (.finite t n f hn) := by
          change _ = s.apply (magnitude m e) - t.apply (magnitude n f)
          rw [hd, ← magnitude_aligned hleast (by omega : g ≤ e),
            ← magnitude_aligned hleast (by omega : g ≤ f), Int.sub_mul]
          cases s <;> cases t <;> simp [Sign.apply]
        rw [hsub, ← hunits]
        exact normalize_rounded hleast

section Stored

variable {s : Sign} {d m : ℕ} {e : ℤ} {hm : 0 < m} {v : UnpackedFloat}

theorem Beside.le (h : Beside d m e) (hv : Finite v) (hlt : s.apply d < datumUnits v) :
    datumUnits (.finite s m e hm) ≤ datumUnits v := by
  cases hv with
  | zero t => cases s with
    | positive =>
        change (d : ℤ) < 0 at hlt
        omega
    | negative =>
        change -(magnitude m e : ℤ) ≤ 0
        omega
  | finite t n f hn k kmax => cases s with
    | positive => cases t with
      | positive =>
          change (d : ℤ) < magnitude n f at hlt
          exact Int.ofNat_le.mpr (h.above n f k (Int.ofNat_lt.mp hlt))
      | negative =>
          change (d : ℤ) < -(magnitude n f : ℤ) at hlt
          omega
    | negative => cases t with
      | positive =>
          change -(magnitude m e : ℤ) ≤ magnitude n f
          omega
      | negative =>
          change -(d : ℤ) < -(magnitude n f : ℤ) at hlt
          have hle := h.below n f k (by omega)
          change -(magnitude m e : ℤ) ≤ -(magnitude n f : ℤ)
          omega

theorem Beside.ge (h : Beside d m e) (hv : Finite v) (hlt : datumUnits v < s.apply d) :
    datumUnits v ≤ datumUnits (.finite s m e hm) := by
  cases hv with
  | zero t => cases s with
    | positive =>
        change (0 : ℤ) ≤ magnitude m e
        omega
    | negative =>
        change (0 : ℤ) < -(d : ℤ) at hlt
        omega
  | finite t n f hn k kmax => cases s with
    | positive => cases t with
      | positive =>
          change (magnitude n f : ℤ) < d at hlt
          have hle := h.below n f k (by omega)
          exact Int.ofNat_le.mpr hle
      | negative =>
          change -(magnitude n f : ℤ) ≤ magnitude m e
          omega
    | negative => cases t with
      | positive =>
          change (magnitude n f : ℤ) < -(d : ℤ) at hlt
          omega
      | negative =>
          change -(magnitude n f : ℤ) < -(d : ℤ) at hlt
          have hle := h.above n f k (by omega)
          change -(magnitude n f : ℤ) ≤ -(magnitude m e : ℤ)
          omega

theorem Beside.above_finite (h : Beside d m e) (hover : ¬ e ≤ 971) {n : ℕ} {f : ℤ}
    (k : Canonical n f) (kmax : f ≤ 971) : magnitude n f ≤ d := by
  by_contra hlt
  have hle := h.above n f k (by omega)
  have hgt := magnitude_lt_of_exponent k h.canonical (by omega)
  omega

/-- What a rounded magnitude is once it is written and read again. -/
def stored (s : Sign) (m : ℕ) (e : ℤ) (hm : 0 < m) : UnpackedFloat :=
  if e ≤ 971 then .finite s m e hm else .infinity s

theorem Beside.stored_le (h : Beside d m e) (hv : Finite v) (hlt : s.apply d < datumUnits v) :
    ((stored s m e hm).compare v).any Ordering.isLE = true := by
  unfold stored
  by_cases hmax : e ≤ 971
  · rw [if_pos hmax, (Finite.finite s m e hm h.canonical hmax).compare hv]
    exact Std.isLE_compare.mpr (h.le hv hlt)
  rw [if_neg hmax]
  cases s with
  | negative => cases hv <;> rfl
  | positive => cases hv with
    | zero t =>
        change (d : ℤ) < 0 at hlt
        omega
    | finite t n f hn k kmax =>
        have hle := h.above_finite hmax k kmax
        cases t with
        | positive =>
            change (d : ℤ) < magnitude n f at hlt
            omega
        | negative =>
            change (d : ℤ) < -(magnitude n f : ℤ) at hlt
            omega

theorem Beside.le_stored (h : Beside d m e) (hv : Finite v) (hlt : datumUnits v < s.apply d) :
    (v.compare (stored s m e hm)).any Ordering.isLE = true := by
  unfold stored
  by_cases hmax : e ≤ 971
  · rw [if_pos hmax, hv.compare (Finite.finite s m e hm h.canonical hmax)]
    exact Std.isLE_compare.mpr (h.ge hv hlt)
  rw [if_neg hmax]
  cases s with
  | positive => cases hv with
    | zero t => rfl
    | finite t n f hn k kmax => cases t <;> rfl
  | negative => cases hv with
    | zero t =>
        change (0 : ℤ) < -(d : ℤ) at hlt
        omega
    | finite t n f hn k kmax =>
        have hle := h.above_finite hmax k kmax
        cases t with
        | positive =>
            change (magnitude n f : ℤ) < -(d : ℤ) at hlt
            omega
        | negative =>
            change -(magnitude n f : ℤ) < -(d : ℤ) at hlt
            omega

end Stored

section Floats

variable {x y w p : Float}

theorem zero_of_units {u : UnpackedFloat} (hu : Finite u) (h : datumUnits u = 0) :
    ∃ s, u = .zero s := by
  cases hu with
  | zero s => exact ⟨s, rfl⟩
  | finite s m e hm hc hmax =>
      have hpos := magnitude_pos (e := e) hm
      cases s with
      | positive =>
          change (magnitude m e : ℤ) = 0 at h
          omega
      | negative =>
          change -(magnitude m e : ℤ) = 0 at h
          omega

theorem Finite.not_le_infinity {u : UnpackedFloat} {s : Sign} (hu : Finite u)
    (hle : (u.compare (.infinity s)).any Ordering.isLE = true)
    (h : ¬ u.compare (.infinity s) = some .lt) : False := by
  cases s with
  | positive => cases hu with
    | zero t => exact h rfl
    | finite t m e hm hc hmax => cases t <;> exact h rfl
  | negative => cases hu with
    | zero t => cases hle
    | finite t m e hm hc hmax => cases t <;> cases hle

theorem unpack_sub (hx : x.isFinite = true) (hy : y.isFinite = true) :
    (units x - units y = 0 ∧ ∃ s, (x - y).toModel.unpack = .zero s) ∨
      ∃ (s : Sign) (d m : ℕ) (e : ℤ) (hm : 0 < m), 0 < d ∧
        s.apply d = units x - units y ∧ Beside d m e ∧
        (x - y).toModel.unpack = stored s m e hm := by
  have hunpack : (x - y).toModel.unpack = UnpackedFloat.unpack Format.binary64
      (UnpackedFloat.pack Format.binary64
        (UnpackedFloat.sub Format.binary64 x.toModel.unpack y.toModel.unpack)) := rfl
  rw [hunpack]
  rcases sub_rounded (finite_unpack hx) (finite_unpack hy) with
    ⟨hsame, s, hzero⟩ | ⟨s, d, hd, hunits, m, e, hm, hdatum, h⟩
  · rw [hzero]
    exact .inl ⟨hsame, s, (Shape.zero s).unpack_pack⟩
  · rw [hdatum, unpack_pack_canonical s hm h.canonical]
    exact .inr ⟨s, d, m, e, hm, hd, hunits, h, rfl⟩

theorem isFinite_of_mul (h : (x * y).isFinite = true) : x.isFinite = true := by
  change (UnpackedFloat.unpack Format.binary64 (UnpackedFloat.pack Format.binary64
    (UnpackedFloat.mul Format.binary64 x.toModel.unpack y.toModel.unpack))).isFinite = true at h
  change x.toModel.unpack.isFinite = true
  have hnan := (Shape.notANumber .positive (1#52 <<< 51) (by decide)).unpack_pack
  have hinfinity (s : Sign) := (Shape.infinity s).unpack_pack
  generalize x.toModel.unpack = u at h ⊢
  generalize y.toModel.unpack = v at h
  cases u with
  | zero s => rfl
  | finite s m e hm => rfl
  | notANumber =>
      change (UnpackedFloat.unpack _ (UnpackedFloat.pack _ .notANumber)).isFinite = true at h
      rw [hnan] at h
      cases h
  | infinity s => cases v with
    | notANumber | zero t =>
        change (UnpackedFloat.unpack _ (UnpackedFloat.pack _ .notANumber)).isFinite = true at h
        rw [hnan] at h
        cases h
    | infinity t | finite t n f hn =>
        change (UnpackedFloat.unpack _
          (UnpackedFloat.pack _ (.infinity (s * t)))).isFinite = true at h
        rw [hinfinity] at h
        cases h

theorem le_of_sub_nonneg (hx : x.isFinite = true) (hy : y.isFinite = true) (h : 0 ≤ x - y) :
    y ≤ x := by
  rw [le_iff_units hy hx]
  by_contra hlt
  rcases unpack_sub hx hy with ⟨hsame, _⟩ | ⟨s, d, m, e, hm, hd, hunits, _, hunpack⟩
  · omega
  cases s with
  | positive =>
      change (d : ℤ) = _ at hunits
      omega
  | negative =>
      rw [le_iff, hunpack] at h
      unfold stored at h
      by_cases hmax : e ≤ 971
      · rw [if_pos hmax] at h
        cases h
      · rw [if_neg hmax] at h
        cases h

theorem sub_le (hx : x.isFinite = true) (hy : y.isFinite = true) (hp : p.isFinite = true)
    (h : units x - units y < units p) : x - y ≤ p := by
  rw [le_iff]
  rcases unpack_sub hx hy with ⟨hsame, s, hunpack⟩ | ⟨s, d, m, e, hm, _, hunits, hd, hunpack⟩
  · rw [hunpack, (Finite.zero s).compare (finite_unpack hp)]
    refine Std.isLE_compare.mpr ?_
    change 0 ≤ units p
    omega
  · rw [hunpack]
    exact hd.stored_le (finite_unpack hp) (hunits.trans_lt h)

theorem le_sub (hx : x.isFinite = true) (hy : y.isFinite = true) (hp : p.isFinite = true)
    (h : units p < units x - units y) : p ≤ x - y := by
  rw [le_iff]
  rcases unpack_sub hx hy with ⟨hsame, s, hunpack⟩ | ⟨s, d, m, e, hm, _, hunits, hd, hunpack⟩
  · rw [hunpack, (finite_unpack hp).compare (Finite.zero s)]
    refine Std.isLE_compare.mpr ?_
    change units p ≤ 0
    omega
  · rw [hunpack]
    exact hd.le_stored (finite_unpack hp) (h.trans_eq hunits.symm)

theorem sub_zero_le (hx : x.isFinite = true) (hw : w.isFinite = true) (hzero : units w = 0) :
    x - w ≤ x := by
  have hunpack : (x - w).toModel.unpack = UnpackedFloat.unpack Format.binary64
      (UnpackedFloat.pack Format.binary64
        (UnpackedFloat.sub Format.binary64 x.toModel.unpack w.toModel.unpack)) := rfl
  have hfinite := finite_unpack hx
  have hsame : ((x - w).toModel.unpack.compare x.toModel.unpack) = some .eq := by
    obtain ⟨t, ht⟩ := zero_of_units (finite_unpack hw) hzero
    rw [hunpack, ht]
    generalize x.toModel.unpack = u at hfinite
    cases hfinite with
    | zero s => cases s <;> cases t <;> rfl
    | finite s m e hm h hmax =>
        change (UnpackedFloat.unpack Format.binary64 (UnpackedFloat.pack Format.binary64
          (.finite s m e hm))).compare _ = _
        rw [unpack_pack_canonical s hm h, if_pos hmax,
          (Finite.finite s m e hm h hmax).compare (.finite s m e hm h hmax)]
        exact congrArg some (compare_eq_iff_eq.mpr rfl)
  rw [le_iff, hsame]
  rfl

theorem not_lt_sub (hx : x.isFinite = true) (hw : w.isFinite = true) (h : 0 ≤ w) :
    ¬ x < x - w := by
  have hnonneg : 0 ≤ units w := (le_iff_units (by decide) hw).mp h
  have hle : x - w ≤ x := by
    rcases hnonneg.eq_or_lt with hzero | hpos
    · exact sub_zero_le hx hw hzero.symm
    · exact sub_le hx hw hx (by omega)
  exact fun hlt => lt_irrefl x (lt_of_lt_of_le hlt hle)

/-- The difference is finite and less than the exact one. -/
def RoundsDown (x y : Float) : Prop :=
  (x - y).isFinite = true ∧ units (x - y) < units x - units y

instance (x y : Float) : Decidable (RoundsDown x y) := inferInstanceAs (Decidable (_ ∧ _))

/-- Nothing that is not below a difference is below the exact one, unless that was
rounded down. -/
theorem exact_le_of_not_lt (hx : x.isFinite = true) (hy : y.isFinite = true)
    (hp : p.isFinite = true) (hexact : ¬ RoundsDown x y) (h : ¬ p < x - y) :
    units x - units y ≤ units p := by
  by_contra hlt
  have hle := le_sub hx hy hp (by omega)
  by_cases hfinite : (x - y).isFinite = true
  · rw [le_iff_units hp hfinite] at hle
    rw [lt_iff_units hp hfinite] at h
    exact hexact ⟨hfinite, by omega⟩
  · change ¬ (x - y).toModel.unpack.isFinite = true at hfinite
    rw [le_iff] at hle
    rw [lt_iff] at h
    have hv := finite_unpack hp
    rcases unpack_sub hx hy with ⟨_, s, hunpack⟩ | ⟨s, d, m, e, hm, _, _, _, hunpack⟩
    · rw [hunpack] at hfinite
      exact hfinite rfl
    · rw [hunpack] at hfinite hle h
      unfold stored at hfinite hle h
      by_cases hmax : e ≤ 971
      · rw [if_pos hmax] at hfinite
        exact hfinite rfl
      · rw [if_neg hmax] at hle h
        exact hv.not_le_infinity hle h

end Floats

end Binary64
end CryoDaq
