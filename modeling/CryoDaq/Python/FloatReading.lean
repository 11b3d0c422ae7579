import CryoDaq.Python.Binary64
import CryoDaq.Python.FloatText
import Mathlib.Algebra.Group.Int.Defs
import Mathlib.Data.List.TakeDrop

/-!
# The text of a float reads back

`readFloat (reprFloat x)` is `x` for every finite float: the digits were chosen because they read
back, and the exact value behind them is not rounded.

**Exact values.**  A mantissa with the exponent that belongs to it stays itself when it is shifted
left before it is rounded; this is what reading `m * 2 ^ e` from its decimal digits comes to.

**Spelling.**  `Spelled t` says what other readers need of the text: digits first, no superfluous
zero, and a point or an exponent.
-/

namespace CryoDaq
namespace FloatText

open Float.Model Float.Model.UnpackedFloat Binary64

/-! ## Rounding what is exact -/

def Canonical (m : ℕ) (e : ℤ) : Prop :=
  Format.binary64.targetExponent (totalExponent m e) = e

theorem two_pow_exponentBits : (2 : ℤ) ^ Format.binary64.exponentBits = 2048 := rfl

theorem log2_mul_two_pow {m : ℕ} (hm : 0 < m) (j : ℕ) : (m * 2 ^ j).log2 = m.log2 + j := by
  induction j with
  | zero => rw [Nat.pow_zero, Nat.mul_one, Nat.add_zero]
  | succ j ih =>
      have hdouble : m * 2 ^ (j + 1) = 2 * (m * 2 ^ j) := by
        rw [Nat.pow_succ]
        ac_rfl
      have hne : m * 2 ^ j ≠ 0 := (Nat.mul_pos hm (Nat.two_pow_pos j)).ne'
      rw [hdouble, Nat.log2_two_mul hne, ih, Nat.add_assoc]

theorem shiftRight_exact (m j : ℕ) :
    (⟨m * 2 ^ j, false, false⟩ : ExtendedMantissa) >>> j = ⟨m, false, false⟩ := by
  change Nat.repeat ExtendedMantissa.shiftRightOne j ⟨m * 2 ^ j, false, false⟩ = _
  induction j generalizing m with
  | zero => rw [Nat.pow_zero, Nat.mul_one]; rfl
  | succ j ih =>
      have hdouble : m * 2 ^ (j + 1) = (m * 2) * 2 ^ j := by
        rw [Nat.pow_succ]
        ac_rfl
      have hdiv : m * 2 / 2 = m := by omega
      have hmod : (m * 2 % 2 != 0) = false := by simp
      rw [Nat.repeat, hdouble, ih, ExtendedMantissa.shiftRightOne]
      simp only [hdiv, hmod, Bool.or_false]

theorem shiftToTargetExponent_exact {m : ℕ} {e : ℤ} (hm : 0 < m) (h : Canonical m e) (j : ℕ) :
    shiftToTargetExponent Format.binary64 (m * 2 ^ j) (e - j) .exact =
      (⟨m, false, false⟩, e) := by
  have htotal : totalExponent (m * 2 ^ j) (e - j) = totalExponent m e := by
    rw [totalExponent, totalExponent, log2_mul_two_pow hm]
    omega
  have hamount : (e - (e - j)).toNat = j := by omega
  rw [shiftToTargetExponent, htotal, h, shiftToExponent]
  simp only [hamount]
  rw [ExtendedMantissa.ofMantissaAndAccuracy, shiftRight_exact]
  rw [Prod.mk.injEq]
  exact ⟨rfl, by omega⟩

theorem roundWithAccuracy_exact {m : ℕ} {e : ℤ} (hm : 0 < m) (h : Canonical m e) (s : Sign)
    (j : ℕ) : roundWithAccuracy Format.binary64 s (m * 2 ^ j) (e - j) .exact =
      .finite s m e hm := by
  have hagain := shiftToTargetExponent_exact hm h 0
  have hzero : e - ((0 : ℕ) : ℤ) = e := by omega
  rw [Nat.pow_zero, Nat.mul_one, hzero] at hagain
  rw [roundWithAccuracy, shiftToTargetExponent_exact hm h j]
  change (match shiftToTargetExponent Format.binary64 m e .exact with
    | (final, exponent) => if h : final.mantissa = 0 then zero s
        else finite s final.mantissa exponent (Nat.pos_of_ne_zero h)) = _
  rw [hagain]
  exact dif_neg (Nat.pos_iff_ne_zero.mp hm)

theorem mul_finite (m n : ℕ) (d e : ℤ) (hm : 0 < m) (hn : 0 < n) :
    UnpackedFloat.mul Format.binary64 (.finite .positive m d hm) (.finite .positive n e hn) =
      roundWithAccuracy Format.binary64 .positive (m * n) (d + e) .exact := rfl

theorem div_finite (m n : ℕ) (d e : ℤ) (hm : 0 < m) (hn : 0 < n) :
    UnpackedFloat.div Format.binary64 (.finite .positive m d hm) (.finite .positive n e hn) =
      (match divCore Format.binary64 m d n e with
        | (mantissa, exponent, accuracy) =>
          roundWithAccuracy Format.binary64 .positive mantissa exponent accuracy) := rfl

theorem ofScientific_integer {m : ℕ} (hm : 0 < m) (e : ℕ) (h : Canonical m e) :
    UnpackedFloat.ofScientific Format.binary64 (m * 2 ^ e) 0 = .finite .positive m e hm := by
  have hne : ¬ m * 2 ^ e = 0 := (Nat.mul_pos hm (Nat.two_pow_pos e)).ne'
  have hmantissa : (m * 2 ^ e) <<< Format.binary64.mantissaBits * 10 ^ (0 : ℤ).toNat =
      m * 2 ^ (e + 53) := by
    rw [Nat.shiftLeft_eq, Int.toNat_zero, Nat.pow_zero, Nat.mul_one, Nat.pow_add, Nat.mul_assoc]
    rfl
  have hexponent : -(Format.binary64.mantissaBits : ℤ) + 0 = (e : ℤ) - (e + 53 : ℕ) := by
    have hbits : Format.binary64.mantissaBits = 53 := rfl
    rw [hbits]
    omega
  rw [UnpackedFloat.ofScientific, dif_neg hne, two_pow_exponentBits, if_neg (by decide),
    if_neg (by omega), if_pos (le_refl _), mul_finite, hmantissa, hexponent]
  exact roundWithAccuracy_exact hm h .positive (e + 53)

theorem log2_mul_le {m n : ℕ} (hm : 0 < m) (hn : 0 < n) :
    (m * n).log2 ≤ m.log2 + n.log2 + 1 := by
  have hlt : m * n < 2 ^ (m.log2 + 1) * 2 ^ (n.log2 + 1) :=
    Nat.mul_lt_mul'' Nat.lt_log2_self Nat.lt_log2_self
  have hne : m * n ≠ 0 := (Nat.mul_pos hm hn).ne'
  rw [← Nat.pow_add] at hlt
  have hlog := (Nat.log2_lt hne).mpr hlt
  omega

theorem ofScientific_fraction {m : ℕ} (hm : 0 < m) (k : ℕ) (hk : 0 < k) (hk' : k ≤ 1074)
    (hbits : m.log2 ≤ 52) (h : Canonical m (-k)) :
    UnpackedFloat.ofScientific Format.binary64 (m * 5 ^ k) (-k) = .finite .positive m (-k) hm := by
  have hpower : (10 : ℕ) ^ k = 5 ^ k * 2 ^ k := by rw [← Nat.mul_pow]
  have hfive : 0 < 5 ^ k := Nat.pow_pos (by decide)
  have hten : 0 < 10 ^ k := Nat.pow_pos (by decide)
  have hne : ¬ m * 5 ^ k = 0 := (Nat.mul_pos hm hfive).ne'
  -- the quotient gets at least the bits of the mantissa
  have htotal : totalExponent (m * 5 ^ k) 0 - totalExponent (10 ^ k) 0 ≤ m.log2 + 1 - k := by
    have hle := log2_mul_le hm hfive
    rw [totalExponent, totalExponent, hpower, log2_mul_two_pow hfive]
    omega
  have htarget : Format.binary64.targetExponent
      (totalExponent (m * 5 ^ k) 0 - totalExponent (10 ^ k) 0) ≤ -k := by
    have hmin : Format.binary64.minExponent = -1074 := rfl
    have hmantissa : Format.binary64.mantissaBits = 53 := rfl
    rw [Format.targetExponent, hmin, hmantissa]
    omega
  obtain ⟨j, hj⟩ : ∃ j : ℕ, min ((0 : ℤ) - 0) (Format.binary64.targetExponent
      (totalExponent (m * 5 ^ k) 0 - totalExponent (10 ^ k) 0)) = -k - j :=
    ⟨(-k - min ((0 : ℤ) - 0) (Format.binary64.targetExponent
      (totalExponent (m * 5 ^ k) 0 - totalExponent (10 ^ k) 0))).toNat, by omega⟩
  have hshift : ((0 : ℤ) - 0 - (-k - j)).toNat = k + j := by omega
  have hshifted : (m * 5 ^ k) <<< (k + j) = m * 2 ^ j * 10 ^ k := by
    have htwo : (2 : ℕ) ^ (k + j) = 2 ^ k * 2 ^ j := Nat.pow_add 2 k j
    rw [Nat.shiftLeft_eq, hpower, htwo]
    ac_rfl
  have hcore : divCore Format.binary64 (m * 5 ^ k) 0 (10 ^ k) 0 =
      (m * 2 ^ j, -(k : ℤ) - j, Accuracy.exact) := by
    rw [divCore]
    simp only [hj, hshift, hshifted, Nat.mul_div_cancel _ hten, Nat.mul_mod_left]
    rfl
  have hexponent : (-(-(k : ℤ))).toNat = k := by omega
  rw [UnpackedFloat.ofScientific, dif_neg hne, two_pow_exponentBits, if_neg (by omega),
    if_neg (by omega), if_neg (by omega)]
  rw [div_finite, hexponent, hcore]
  exact roundWithAccuracy_exact hm h .positive j

theorem canonical_of_unpack {x : Float} {s : Sign} {m : ℕ} {e : ℤ} {hm : 0 < m}
    (h : x.toModel.unpack = .finite s m e hm) : Canonical m e ∧ m.log2 ≤ 52 ∧ -1074 ≤ e := by
  obtain ⟨b, hb⟩ := unpack_shape x
  have hmin : Format.binary64.minExponent = -1074 := rfl
  have hmantissa : Format.binary64.mantissaBits = 53 := rfl
  rw [h] at hb
  cases hb with
  | subnormal _ _ _ hlt =>
      have hlog : m.log2 < 52 := (Nat.log2_lt (by omega)).mpr hlt
      refine ⟨?_, by omega, le_refl _⟩
      rw [Canonical, Format.targetExponent, totalExponent, hmin, hmantissa]
      omega
  | normal _ _ k _ hlow hhigh hk hmax =>
      have hle : 52 ≤ m.log2 := (Nat.le_log2 (by omega)).mpr hlow
      have hlt : m.log2 < 53 := (Nat.log2_lt (by omega)).mpr hhigh
      refine ⟨?_, by omega, by omega⟩
      rw [Canonical, Format.targetExponent, totalExponent, hmin, hmantissa]
      omega

theorem ofDecimal_exact {x : Float} {m : ℕ} {e : ℤ} {hm : 0 < m}
    (h : x.toModel.unpack = .finite .positive m e hm) :
    (if 0 ≤ e then ofDecimal (m * 2 ^ e.toNat) 0 else ofDecimal (m * 5 ^ (-e).toNat) e) = x := by
  obtain ⟨hcanonical, hbits, hlow⟩ := canonical_of_unpack h
  have hx : Float.ofModel (.pack (.finite .positive m e hm)) = x := by rw [← h, ofModel_pack]
  split
  case isTrue hpos =>
    obtain ⟨n, rfl⟩ := Int.eq_ofNat_of_zero_le hpos
    rw [ofDecimal, Float.Model.ofScientific, Int.toNat_natCast,
      ofScientific_integer hm n hcanonical]
    exact hx
  case isFalse hneg =>
    obtain ⟨k, rfl⟩ : ∃ k : ℕ, e = -k := ⟨(-e).toNat, by omega⟩
    have hk : (-(-(k : ℤ))).toNat = k := by omega
    rw [ofDecimal, Float.Model.ofScientific, hk,
      ofScientific_fraction hm k (by omega) (by omega) hbits hcanonical]
    exact hx

theorem digits_all (n : ℕ) : ∀ c ∈ digits n, c.isDigit = true := fun _ hmem =>
  Nat.isDigit_of_mem_toDigits (by decide) (by decide) hmem

theorem digits_ne_nil (n : ℕ) : digits n ≠ [] := Nat.toDigits_ne_nil

@[simp] theorem natOf_digits (n : ℕ) : natOf (digits n) = n := Nat.ofDigitChars_ten_toDigits

theorem digits_head {n : ℕ} (hn : 0 < n) : ∃ c rest, digits n = c :: rest ∧ c ≠ '0' := by
  induction n using Nat.strong_induction_on with
  | _ n ih =>
      rw [digits, Nat.toDigits_eq_if (by decide)]
      split
      case isTrue hlt =>
        have hdigit : ∀ n < 10, 0 < n → n.digitChar ≠ '0' := by decide
        exact ⟨_, _, rfl, hdigit n hlt hn⟩
      case isFalse hge =>
        obtain ⟨c, rest, heq, hne⟩ := ih (n / 10) (by omega) (by omega)
        rw [digits] at heq
        rw [heq]
        exact ⟨c, _, rfl, hne⟩

def NoDigit (s : List Char) : Prop := ∀ c ∈ s.head?, c.isDigit = false

theorem readDigits_append {ds rest : List Char} (hds : ∀ c ∈ ds, c.isDigit = true)
    (hrest : NoDigit rest) : readDigits (ds ++ rest) = (ds, rest) := by
  rw [readDigits, List.span_eq_takeWhile_dropWhile, List.takeWhile_append_of_pos hds,
    List.dropWhile_append_of_pos hds]
  cases rest with
  | nil => rw [List.takeWhile_nil, List.dropWhile_nil, List.append_nil]
  | cons c rest =>
      have hc := hrest c rfl
      rw [List.takeWhile_cons, List.dropWhile_cons, hc]
      simp

theorem readDecimal_digits (n : ℕ) : readDecimal (digits n) = some n := by
  rw [readDecimal, if_pos ⟨digits_ne_nil n, List.all_eq_true.mpr (digits_all n)⟩, natOf_digits]

theorem readMagnitude_exponent (n : ℕ) (s : List Char) :
    readMagnitude (digits n ++ 'e' :: s) = (readSigned s).map fun e => ofDecimal n e := by
  have hrest : NoDigit ('e' :: s) := by
    intro c hc
    cases hc
    rfl
  rw [readMagnitude, readDigits_append (digits_all n) hrest]
  simp only [if_neg (digits_ne_nil n), natOf_digits]
  rfl

theorem readMagnitude_exactText {x : Float} {m : ℕ} {e : ℤ} {hm : 0 < m}
    (h : x.toModel.unpack = .finite .positive m e hm) :
    readMagnitude (exactText m e) = some x := by
  have hx := ofDecimal_exact h
  rw [exactText]
  split
  case isTrue hpos =>
    rw [if_pos hpos] at hx
    rw [readMagnitude_exponent, ← hx]
    rfl
  case isFalse hneg =>
    have hsigned : readSigned ('-' :: digits (-e).toNat) = some e := by
      have hback : -((-e).toNat : ℤ) = e := by omega
      rw [readSigned, readDecimal_digits]
      exact congrArg some hback
    rw [if_neg hneg] at hx
    rw [readMagnitude_exponent, hsigned, Option.map_some, hx]

theorem readMagnitude_magnitudeText {x : Float} {m : ℕ} {e : ℤ} {hm : 0 < m}
    (h : x.toModel.unpack = .finite .positive m e hm) :
    readMagnitude (magnitudeText m e x) = some x := by
  rw [magnitudeText]
  cases hfind : List.find? (fun t => decide (readMagnitude t = some x))
      (((List.range 17).flatMap fun i => neighbours (m * 2 ^ e.toNat) (2 ^ (-e).toNat) (i + 1)).map
        fun c => layout c.1 c.2) with
  | none => exact readMagnitude_exactText h
  | some t =>
      have hback := List.find?_some hfind
      exact of_decide_eq_true hback

/-- A character of a number. -/
def Numeral (c : Char) : Prop :=
  c.isDigit = true ∨ c = '-' ∨ c = '+' ∨ c = '.' ∨ c = 'e'

/-- The text of a magnitude that is not an integer's: digits without a superfluous zero, and a
point or an exponent. -/
structure Spelled (t : List Char) : Prop where
  numerals : ∀ c ∈ t, Numeral c
  marked : '.' ∈ t ∨ 'e' ∈ t
  first : ∃ c rest, t = c :: rest ∧ c.isDigit = true ∧ (c = '0' → NoDigit rest)

theorem numeral_of_mem_digits {n : ℕ} {c : Char} (h : c ∈ digits n) : Numeral c :=
  .inl (digits_all n c h)

theorem numeral_replicate {n : ℕ} {c : Char} (h : c ∈ List.replicate n '0') : Numeral c := by
  rw [List.eq_of_mem_replicate h]
  exact .inl rfl

theorem numeral_exponentText {e : ℤ} {c : Char} (h : c ∈ exponentText e) : Numeral c := by
  rw [exponentText] at h
  rcases List.mem_cons.mp h with rfl | h
  · split
    · exact .inr (.inl rfl)
    · exact .inr (.inr (.inl rfl))
  · split at h
    · rcases List.mem_cons.mp h with rfl | h
      · exact .inl rfl
      · exact numeral_of_mem_digits h
    · exact numeral_of_mem_digits h

theorem spelled_of_head {t rest : List Char} {c : Char} (heq : t = c :: rest)
    (hnumerals : ∀ c ∈ t, Numeral c) (hmarked : '.' ∈ t ∨ 'e' ∈ t) (hc : c.isDigit = true)
    (hne : c ≠ '0') : Spelled t :=
  ⟨hnumerals, hmarked, c, rest, heq, hc, fun hzero => absurd hzero hne⟩

theorem spelled_layout {d : ℕ} (hd : 0 < d) (k : ℤ) : Spelled (layout d k) := by
  obtain ⟨c, rest, hdigits, hne⟩ := digits_head hd
  have hall : ∀ a ∈ c :: rest, a.isDigit = true := hdigits ▸ digits_all d
  have hc : c.isDigit = true := hall c (List.mem_cons_self ..)
  rw [layout]
  simp only [hdigits]
  split
  case isTrue hnear =>
    split
    case isTrue hsmall =>
      -- a zero before the point
      refine ⟨fun a ha => ?_, .inl (List.mem_cons_of_mem _ (List.mem_cons_self ..)),
        '0', _, rfl, rfl, fun _ => ?_⟩
      · rcases List.mem_cons.mp ha with rfl | ha
        · exact .inl rfl
        rcases List.mem_cons.mp ha with rfl | ha
        · exact .inr (.inr (.inr (.inl rfl)))
        rcases List.mem_append.mp ha with ha | ha
        · exact numeral_replicate ha
        · exact .inl (hall a ha)
      · intro a ha
        cases ha
        rfl
    case isFalse hlarge =>
      split
      case isTrue =>
        -- an integer
        refine spelled_of_head rfl (fun a ha => ?_) (.inl ?_) hc hne
        · rcases List.mem_append.mp ha with ha | ha
          · rcases List.mem_append.mp ha with ha | ha
            · exact .inl (hall a ha)
            · exact numeral_replicate ha
          · rcases List.mem_cons.mp ha with rfl | ha
            · exact .inr (.inr (.inr (.inl rfl)))
            · rw [List.mem_singleton.mp ha]
              exact .inl rfl
        · exact List.mem_append_right _ (List.mem_cons_self ..)
      case isFalse hinside =>
        -- a point between the digits
        obtain ⟨n, hn⟩ : ∃ n : ℕ, (((c :: rest).length : ℤ) + k).toNat = n + 1 :=
          ⟨(((c :: rest).length : ℤ) + k).toNat - 1, by omega⟩
        rw [hn, List.take_succ_cons]
        refine spelled_of_head rfl (fun a ha => ?_) (.inl ?_) hc hne
        · rcases List.mem_append.mp ha with ha | ha
          · rcases List.mem_cons.mp ha with rfl | ha
            · exact .inl hc
            · exact .inl (hall a (List.mem_cons_of_mem _ (List.mem_of_mem_take ha)))
          · rcases List.mem_cons.mp ha with rfl | ha
            · exact .inr (.inr (.inr (.inl rfl)))
            · exact .inl (hall a (List.mem_of_mem_drop ha))
        · exact List.mem_append_right _ (List.mem_cons_self ..)
  case isFalse hfar =>
    cases rest with
    | nil =>
        refine spelled_of_head rfl (fun a ha => ?_)
          (.inr (List.mem_cons_of_mem _ (List.mem_cons_self ..))) hc hne
        rcases List.mem_cons.mp ha with rfl | ha
        · exact .inl hc
        rcases List.mem_cons.mp ha with rfl | ha
        · exact .inr (.inr (.inr (.inr rfl)))
        · exact numeral_exponentText ha
    | cons a rest =>
        refine spelled_of_head rfl (fun b hb => ?_)
          (.inl (List.mem_cons_of_mem _ (List.mem_cons_self ..))) hc hne
        rcases List.mem_cons.mp hb with rfl | hb
        · exact .inl hc
        rcases List.mem_cons.mp hb with rfl | hb
        · exact .inr (.inr (.inr (.inl rfl)))
        rcases List.mem_append.mp hb with hb | hb
        · exact .inl (hall b (List.mem_cons_of_mem _ hb))
        rcases List.mem_cons.mp hb with rfl | hb
        · exact .inr (.inr (.inr (.inr rfl)))
        · exact numeral_exponentText hb

theorem strip_pos (fuel d : ℕ) (k : ℤ) (hd : 0 < d) : 0 < (strip fuel d k).1 := by
  induction fuel generalizing d k with
  | zero => exact hd
  | succ fuel ih =>
      rw [strip]
      split
      case isTrue htrailing => exact ih _ _ (by omega)
      case isFalse => exact hd

theorem le_scaled {num den : ℕ} (hnum : 0 < num) (hden : 0 < den) (n : ℕ) :
    den * 10 ^ (decimalExponent num den - n).toNat ≤
      num * 10 ^ (-(decimalExponent num den - n)).toNat := by
  rw [decimalExponent]
  split
  case isTrue hle =>
    have hpos : num / den ≠ 0 := (Nat.div_pos hle hden).ne'
    have hlog : 10 ^ Nat.log 10 (num / den) ≤ num / den := Nat.pow_log_le_self 10 hpos
    calc den * 10 ^ ((Nat.log 10 (num / den) : ℤ) - n).toNat
        ≤ den * 10 ^ Nat.log 10 (num / den) :=
          Nat.mul_le_mul_left _ (Nat.pow_le_pow_right (by decide) (by omega))
      _ ≤ den * (num / den) := Nat.mul_le_mul_left _ hlog
      _ ≤ num := Nat.mul_div_le num den
      _ ≤ num * 10 ^ (-((Nat.log 10 (num / den) : ℤ) - n)).toNat :=
          Nat.le_mul_of_pos_right _ (Nat.pow_pos (by decide))
  case isFalse hlt =>
    have hzero : (-(Nat.clog 10 ((den + num - 1) / num) : ℤ) - n).toNat = 0 := by omega
    have hclog : (den + num - 1) / num ≤ 10 ^ Nat.clog 10 ((den + num - 1) / num) :=
      Nat.le_pow_clog (by decide) _
    have hceil : den ≤ num * ((den + num - 1) / num) := by
      have hmod := Nat.div_add_mod (den + num - 1) num
      have hlt := Nat.mod_lt (den + num - 1) hnum
      omega
    calc den * 10 ^ (-(Nat.clog 10 ((den + num - 1) / num) : ℤ) - n).toNat
        = den := by rw [hzero, Nat.pow_zero, Nat.mul_one]
      _ ≤ num * ((den + num - 1) / num) := hceil
      _ ≤ num * 10 ^ Nat.clog 10 ((den + num - 1) / num) := Nat.mul_le_mul_left _ hclog
      _ ≤ num * 10 ^ (-(-(Nat.clog 10 ((den + num - 1) / num) : ℤ) - n)).toNat :=
          Nat.mul_le_mul_left _ (Nat.pow_le_pow_right (by decide) (by omega))

theorem neighbours_pos {num den n : ℕ} (hnum : 0 < num) (hden : 0 < den) {p : ℕ × ℤ}
    (hmem : p ∈ neighbours num den (n + 1)) : 0 < p.1 := by
  have hk : decimalExponent num den - ((n + 1 : ℕ) - 1) = decimalExponent num den - n := by omega
  have hq : 0 < num * 10 ^ (-(decimalExponent num den - n)).toNat /
      (den * 10 ^ (decimalExponent num den - n).toNat) :=
    Nat.div_pos (le_scaled hnum hden n) (Nat.mul_pos hden (Nat.pow_pos (by decide)))
  rw [neighbours, hk] at hmem
  split at hmem
  · rw [List.mem_singleton.mp hmem]
    exact strip_pos _ _ _ hq
  split at hmem
  · rcases List.mem_cons.mp hmem with rfl | hmem
    · exact strip_pos _ _ _ hq
    · rw [List.mem_singleton.mp hmem]
      exact strip_pos _ _ _ (Nat.succ_pos _)
  · rcases List.mem_cons.mp hmem with rfl | hmem
    · exact strip_pos _ _ _ (Nat.succ_pos _)
    · rw [List.mem_singleton.mp hmem]
      exact strip_pos _ _ _ hq

theorem spelled_exactText {m : ℕ} (hm : 0 < m) (e : ℤ) : Spelled (exactText m e) := by
  have hpower (n : ℕ) (hn : 0 < n) (s : List Char) (hs : ∀ c ∈ s, Numeral c) :
      Spelled (digits n ++ 'e' :: s) := by
    obtain ⟨c, rest, hdigits, hne⟩ := digits_head hn
    have hc : c.isDigit = true := digits_all n c (by rw [hdigits]; exact List.mem_cons_self ..)
    refine spelled_of_head (by rw [hdigits]; rfl) (fun a ha => ?_)
      (.inr (List.mem_append_right _ (List.mem_cons_self ..))) hc hne
    rcases List.mem_append.mp ha with ha | ha
    · exact numeral_of_mem_digits ha
    rcases List.mem_cons.mp ha with rfl | ha
    · exact .inr (.inr (.inr (.inr rfl)))
    · exact hs a ha
  rw [exactText]
  split
  case isTrue =>
    refine hpower _ (Nat.mul_pos hm (Nat.two_pow_pos _)) _ fun c hc => ?_
    rw [List.mem_singleton.mp hc]
    exact .inl rfl
  case isFalse =>
    refine hpower _ (Nat.mul_pos hm (Nat.pow_pos (by decide))) _ fun c hc => ?_
    rcases List.mem_cons.mp hc with rfl | hc
    · exact .inr (.inl rfl)
    · exact numeral_of_mem_digits hc

theorem spelled_magnitudeText {m : ℕ} (hm : 0 < m) (e : ℤ) (x : Float) :
    Spelled (magnitudeText m e x) := by
  rw [magnitudeText]
  cases hfind : List.find? (fun t => decide (readMagnitude t = some x))
      (((List.range 17).flatMap fun i => neighbours (m * 2 ^ e.toNat) (2 ^ (-e).toNat) (i + 1)).map
        fun c => layout c.1 c.2) with
  | none => exact spelled_exactText hm e
  | some t =>
      obtain ⟨p, hp, rfl⟩ := List.mem_map.mp (List.mem_of_find?_eq_some hfind)
      obtain ⟨i, _, hp⟩ := List.mem_flatMap.mp hp
      exact spelled_layout (neighbours_pos (Nat.mul_pos hm (Nat.two_pow_pos _))
        (Nat.two_pow_pos _) hp) p.2

/-- A magnitude after an optional minus sign. -/
def Signed (t : List Char) : Prop :=
  Spelled t ∨ ∃ u, t = '-' :: u ∧ Spelled u

theorem spelled_zero : Spelled ['0', '.', '0'] := by
  refine ⟨fun c hc => ?_, .inl (by decide), '0', _, rfl, rfl, fun _ c hc => ?_⟩
  · rcases List.mem_cons.mp hc with rfl | hc
    · exact .inl rfl
    rcases List.mem_cons.mp hc with rfl | hc
    · exact .inr (.inr (.inr (.inl rfl)))
    · rw [List.mem_singleton.mp hc]
      exact .inl rfl
  · cases hc
    rfl

theorem readFloat_of_spelled {t : List Char} (h : Spelled t) : readFloat t = readMagnitude t := by
  obtain ⟨c, rest, rfl, hc, _⟩ := h.first
  rw [readFloat]
  rintro s ⟨⟩
  exact absurd hc (by decide)

theorem readMagnitude_zero : readMagnitude ['0', '.', '0'] = some (.ofModel (.pack (.zero .positive))) :=
  rfl

theorem reprFloat_spec {x : Float} (h : x.isFinite = true) :
    readFloat (reprFloat x) = some x ∧ Signed (reprFloat x) := by
  have hfinite : x.toModel.unpack.isFinite = true := h
  have hsigned {y : Float} {t : List Char} (ht : Spelled t) (hy : readMagnitude t = some y)
      (hneg : -y = x) : readFloat ('-' :: t) = some x := by
    rw [readFloat, hy, Option.map_some]
    exact congrArg some hneg
  rw [reprFloat]
  cases hx : x.toModel.unpack with
  | notANumber =>
      rw [hx] at hfinite
      cases hfinite
  | infinity s =>
      rw [hx] at hfinite
      cases hfinite
  | zero s =>
      have hzero (s : Sign) :
          (Float.ofModel (.pack (.zero s))).toModel.unpack = .zero s :=
        (Shape.zero s).unpack_pack
      cases s with
      | positive =>
          refine ⟨?_, .inl spelled_zero⟩
          rw [readFloat_of_spelled spelled_zero, readMagnitude_zero]
          exact congrArg some (float_ext ((hzero .positive).trans hx.symm))
      | negative =>
          refine ⟨hsigned spelled_zero readMagnitude_zero ?_, .inr ⟨_, rfl, spelled_zero⟩⟩
          apply float_ext
          rw [unpack_neg, hzero, hx]
          rfl
  | finite s m e hm =>
      cases s with
      | positive =>
          have hspelled := spelled_magnitudeText hm e x
          refine ⟨?_, .inl hspelled⟩
          rw [readFloat_of_spelled hspelled]
          exact readMagnitude_magnitudeText hx
      | negative =>
          have hspelled := spelled_magnitudeText hm e x.neg
          have hneg : (x.neg).toModel.unpack = .finite .positive m e hm := by
            have := unpack_neg x
            rw [hx] at this
            exact this
          exact ⟨hsigned hspelled (readMagnitude_magnitudeText hneg) (neg_neg x),
            .inr ⟨_, rfl, hspelled⟩⟩

end FloatText
end CryoDaq
