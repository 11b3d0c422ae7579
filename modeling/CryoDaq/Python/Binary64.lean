import Mathlib.Algebra.Ring.Nat
import Mathlib.Data.Nat.Log
import Mathlib.Tactic.Common

/-!
# Facts about binary64

`Float` is modelled by patterns of 64 bits that are read as a sign, a mantissa
and an exponent.  This module states which data the patterns stand for, that
reading and writing undo each other, and how numbers that are not NaN compare.

**Shapes.**  `Shape b u` says that the pattern `b` has the parts of the datum
`u`.  Every pattern has a shape, so facts about all floats are proved by cases
on it.
-/

namespace CryoDaq
namespace Binary64

open Float.Model Float.Model.UnpackedFloat

variable {F : Format}

theorem toBitVec_ofBitVec (v : BitVec 1) : (Sign.ofBitVec v).toBitVec = v := by
  revert v
  decide

theorem ofBitVec_toBitVec (s : Sign) : Sign.ofBitVec s.toBitVec = s := by
  cases s <;> rfl

theorem unpackSign_def (b : BitVec F.numBits) :
    unpackSign b = (b.extractLsb (F.mantissaBitsWithoutImplicit + F.exponentBits)
      (F.mantissaBitsWithoutImplicit + F.exponentBits)).cast (by omega) := rfl

theorem unpackSign_packComponents (s : Sign) (e : BitVec F.exponentBits)
    (m : BitVec F.mantissaBitsWithoutImplicit) :
    unpackSign (packComponents F s e m) = s.toBitVec := by
  apply BitVec.eq_of_getLsbD_eq
  intro i hi
  have hzero : i = 0 := by omega
  subst hzero
  rw [unpackSign_def]
  simp [packComponents, BitVec.getLsbD_append, BitVec.getElem_append]

theorem components (b : BitVec F.numBits) :
    packComponents F (Sign.ofBitVec (unpackSign b)) (unpackExponent b) (unpackMantissa b) = b := by
  apply BitVec.eq_of_getLsbD_eq
  intro i hi
  have hm := F.hm
  have he := F.he
  have hbits : F.numBits = 1 + F.exponentBits + F.mantissaBitsWithoutImplicit := rfl
  rw [packComponents, toBitVec_ofBitVec, BitVec.getLsbD_append, BitVec.getLsbD_append]
  by_cases hlow : i < F.mantissaBitsWithoutImplicit
  · rw [if_pos hlow]
    simp [unpackMantissa]
    omega
  · rw [if_neg hlow]
    by_cases hmid : i - F.mantissaBitsWithoutImplicit < F.exponentBits
    · rw [if_pos hmid]
      have hback : F.mantissaBitsWithoutImplicit + (i - F.mantissaBitsWithoutImplicit) = i := by omega
      simp [unpackExponent, hback]
      omega
    · rw [if_neg hmid]
      have hlast : i = F.mantissaBitsWithoutImplicit + F.exponentBits := by omega
      subst hlast
      rw [unpackSign_def]
      simp

theorem pack_finite (s : Sign) (m : ℕ) (e : ℤ) (hpos : 0 < m) :
    UnpackedFloat.pack Format.binary64 (.finite s m e hpos) =
      if 2 ^ 11 ≤ (e + 1023 + 52).toNat + 1 then packedInfinity Format.binary64 s
      else if m.log2 + 1 = 53 then
        packComponents Format.binary64 s (BitVec.ofNat 11 (e + 1023 + 52).toNat) (BitVec.ofNat 52 m)
      else packComponents Format.binary64 s 0#11 (BitVec.ofNat 52 m) := rfl

theorem pack_subnormal (s : Sign) (m : ℕ) (hpos : 0 < m) (hm : m < 2 ^ 52) :
    UnpackedFloat.pack Format.binary64 (.finite s m (-1074) hpos) =
      packComponents Format.binary64 s 0#11 (BitVec.ofNat 52 m) := by
  have hlog : m.log2 < 52 := (Nat.log2_lt (by omega)).mpr hm
  rw [pack_finite, if_neg (by decide), if_neg (by omega)]

theorem pack_normal (s : Sign) (m k : ℕ) (hpos : 0 < m) (hlow : 2 ^ 52 ≤ m) (hhigh : m < 2 ^ 53)
    (hk : k + 1 < 2 ^ 11) :
    UnpackedFloat.pack Format.binary64 (.finite s m ((k : ℤ) - 1075) hpos) =
      packComponents Format.binary64 s (BitVec.ofNat 11 k) (BitVec.ofNat 52 m) := by
  have hle : 52 ≤ m.log2 := (Nat.le_log2 (by omega)).mpr hlow
  have hlt : m.log2 < 53 := (Nat.log2_lt (by omega)).mpr hhigh
  have hbiased : ((k : ℤ) - 1075 + 1023 + 52).toNat = k := by omega
  rw [pack_finite, hbiased, if_neg (by omega), if_pos (by omega)]

/-- The parts of a pattern of bits and the datum it stands for. -/
inductive Shape : BitVec 64 → UnpackedFloat → Prop
  | infinity (s : Sign) :
      Shape (packComponents Format.binary64 s (-1#11) 0#52) (.infinity s)
  | notANumber (s : Sign) (m : BitVec 52) (hm : m ≠ 0#52) :
      Shape (packComponents Format.binary64 s (-1#11) m) .notANumber
  | zero (s : Sign) :
      Shape (packComponents Format.binary64 s 0#11 0#52) (.zero s)
  | subnormal (s : Sign) (m : ℕ) (hpos : 0 < m) (hm : m < 2 ^ 52) :
      Shape (packComponents Format.binary64 s 0#11 (BitVec.ofNat 52 m))
        (.finite s m (-1074) hpos)
  | normal (s : Sign) (m k : ℕ) (hpos : 0 < m) (hlow : 2 ^ 52 ≤ m) (hhigh : m < 2 ^ 53)
      (hk : 0 < k) (hmax : k + 1 < 2 ^ 11) :
      Shape (packComponents Format.binary64 s (BitVec.ofNat 11 k) (BitVec.ofNat 52 m))
        (.finite s m ((k : ℤ) - 1075) hpos)

theorem exists_shape (b : BitVec 64) : ∃ u, Shape b u := by
  have hparts := components (F := Format.binary64) b
  generalize Sign.ofBitVec (@unpackSign Format.binary64 b) = s at hparts
  obtain ⟨e, he⟩ : ∃ e : BitVec 11, e = @unpackExponent Format.binary64 b := ⟨_, rfl⟩
  obtain ⟨m, hm⟩ : ∃ m : BitVec 52, m = @unpackMantissa Format.binary64 b := ⟨_, rfl⟩
  rw [← he, ← hm] at hparts
  clear he hm
  subst hparts
  by_cases hones : e = -1#11
  · subst hones
    by_cases hzero : m = 0#52
    · subst hzero
      exact ⟨_, .infinity s⟩
    · exact ⟨_, .notANumber s m hzero⟩
  · by_cases hzero : e = 0#11
    · subst hzero
      by_cases hmantissa : m = 0#52
      · subst hmantissa
        exact ⟨_, .zero s⟩
      · have hpos : 0 < m.toNat := by
          rw [BitVec.toNat_pos, BitVec.pos_iff_ne_zero]
          exact hmantissa
        have hshape := Shape.subnormal s m.toNat hpos m.isLt
        rw [BitVec.ofNat_toNat, BitVec.setWidth_eq] at hshape
        exact ⟨_, hshape⟩
    · have hpos : e.toNat ≠ 0 := fun h => hzero (BitVec.eq_of_toNat_eq h)
      have hmax : e.toNat ≠ 2047 := fun h => hones (BitVec.eq_of_toNat_eq h)
      have he := e.isLt
      have hm := m.isLt
      have hshape := Shape.normal s (2 ^ 52 + m.toNat) e.toNat (by omega) (by omega) (by omega)
        (by omega) (by omega)
      have hback : BitVec.ofNat 52 (2 ^ 52 + m.toNat) = m := by
        apply BitVec.eq_of_toNat_eq
        rw [BitVec.toNat_ofNat]
        omega
      rw [BitVec.ofNat_toNat, BitVec.setWidth_eq, hback] at hshape
      exact ⟨_, hshape⟩

theorem toNat_implicit (m : BitVec 52) : (1#1 ++ m).toNat = 2 ^ 52 + m.toNat := by
  rw [BitVec.toNat_append, ← Nat.shiftLeft_add_eq_or_of_lt m.isLt]
  rfl

theorem unpack_def (b : BitVec 64) :
    UnpackedFloat.unpack Format.binary64 b =
      if @unpackExponent Format.binary64 b = -1#11 then
        if @unpackMantissa Format.binary64 b = 0#52 then
          .infinity (Sign.ofBitVec (@unpackSign Format.binary64 b))
        else .notANumber
      else if @unpackExponent Format.binary64 b = 0#11 then
        if h : @unpackMantissa Format.binary64 b = 0#52 then
          .zero (Sign.ofBitVec (@unpackSign Format.binary64 b))
        else
          .finite (Sign.ofBitVec (@unpackSign Format.binary64 b))
            (@unpackMantissa Format.binary64 b).toNat
            (((@unpackExponent Format.binary64 b).toNat : ℤ) - (1023 + 52) + 1)
            (by simpa [BitVec.toNat_pos, BitVec.pos_iff_ne_zero] using h)
      else
        .finite (Sign.ofBitVec (@unpackSign Format.binary64 b))
          (1#1 ++ @unpackMantissa Format.binary64 b).toNat
          (((@unpackExponent Format.binary64 b).toNat : ℤ) - (1023 + 52))
          (toNat_implicit _ ▸ Nat.lt_of_lt_of_le (by decide) (Nat.le_add_right _ _)) := rfl

theorem finite_congr {s : Sign} {m n : ℕ} {e f : ℤ} (hm : 0 < m) (hn : 0 < n) (h : m = n)
    (h' : e = f) : UnpackedFloat.finite s m e hm = .finite s n f hn := by
  subst h
  subst h'
  rfl

theorem Shape.unpack_eq {b : BitVec 64} {u : UnpackedFloat} (h : Shape b u) :
    UnpackedFloat.unpack Format.binary64 b = u := by
  rw [unpack_def]
  cases h with
  | infinity s =>
      rw [unpackExponent_packComponents, unpackMantissa_packComponents,
        unpackSign_packComponents, ofBitVec_toBitVec, if_pos rfl, if_pos rfl]
  | notANumber s m hm =>
      rw [unpackExponent_packComponents, unpackMantissa_packComponents, if_pos rfl, if_neg hm]
  | zero s =>
      rw [if_neg (by rw [unpackExponent_packComponents]; decide),
        if_pos unpackExponent_packComponents, dif_pos unpackMantissa_packComponents,
        unpackSign_packComponents, ofBitVec_toBitVec]
  | subnormal s m hpos hm =>
      have hback : (BitVec.ofNat 52 m).toNat = m := Nat.mod_eq_of_lt hm
      have hne : BitVec.ofNat 52 m ≠ 0#52 := by
        intro h
        rw [h] at hback
        change 0 = m at hback
        omega
      rw [if_neg (by rw [unpackExponent_packComponents]; decide),
        if_pos unpackExponent_packComponents,
        dif_neg (by rw [unpackMantissa_packComponents]; exact hne),
        unpackSign_packComponents, ofBitVec_toBitVec]
      apply finite_congr
      · rw [unpackMantissa_packComponents]
        exact hback
      · rw [unpackExponent_packComponents]
        rfl
  | normal s m k hpos hlow hhigh hk hmax =>
      have hexponent : (BitVec.ofNat 11 k).toNat = k := Nat.mod_eq_of_lt (by omega)
      have hzero : BitVec.ofNat 11 k ≠ 0#11 := by
        intro h
        rw [h] at hexponent
        change 0 = k at hexponent
        omega
      have hones : BitVec.ofNat 11 k ≠ -1#11 := by
        intro h
        rw [h] at hexponent
        change 2047 = k at hexponent
        omega
      rw [if_neg (by rw [unpackExponent_packComponents]; exact hones),
        if_neg (by rw [unpackExponent_packComponents]; exact hzero),
        unpackSign_packComponents, ofBitVec_toBitVec]
      apply finite_congr
      · rw [unpackMantissa_packComponents, toNat_implicit, BitVec.toNat_ofNat]
        omega
      · rw [unpackExponent_packComponents, hexponent]
        omega

theorem Shape.pack_eq {b : BitVec 64} {u : UnpackedFloat} (h : Shape b u)
    (hb : Format.binary64.Valid b) :
    UnpackedFloat.pack Format.binary64 u = b := by
  cases h with
  | infinity s => rfl
  | notANumber s m hm =>
      exact (hb.eq_packedNaN unpackExponent_packComponents (by simpa using hm)).symm
  | zero s => rfl
  | subnormal s m hpos hm => exact pack_subnormal s m hpos hm
  | normal s m k hpos hlow hhigh hk hmax => exact pack_normal s m k hpos hlow hhigh hmax

theorem Shape.unpack_pack {b : BitVec 64} {u : UnpackedFloat} (h : Shape b u) :
    UnpackedFloat.unpack Format.binary64 (UnpackedFloat.pack Format.binary64 u) = u := by
  cases h with
  | infinity s => exact (Shape.infinity s).unpack_eq
  | notANumber s m hm =>
      exact (Shape.notANumber .positive (1#52 <<< 51) (by decide)).unpack_eq
  | zero s => exact (Shape.zero s).unpack_eq
  | subnormal s m hpos hm =>
      rw [pack_subnormal s m hpos hm]
      exact (Shape.subnormal s m hpos hm).unpack_eq
  | normal s m k hpos hlow hhigh hk hmax =>
      rw [pack_normal s m k hpos hlow hhigh hmax]
      exact (Shape.normal s m k hpos hlow hhigh hk hmax).unpack_eq

theorem Shape.neg {b : BitVec 64} {u : UnpackedFloat} (h : Shape b u) :
    ∃ c, Shape c u.neg := by
  cases h with
  | infinity s => exact ⟨_, .infinity (-s)⟩
  | notANumber s m hm => exact ⟨_, .notANumber s m hm⟩
  | zero s => exact ⟨_, .zero (-s)⟩
  | subnormal s m hpos hm => exact ⟨_, .subnormal (-s) m hpos hm⟩
  | normal s m k hpos hlow hhigh hk hmax =>
      exact ⟨_, .normal (-s) m k hpos hlow hhigh hk hmax⟩

theorem float_ext {x y : Float} (h : x.toModel.unpack = y.toModel.unpack) : x = y := by
  obtain ⟨⟨⟨b⟩, hb⟩⟩ := x
  obtain ⟨⟨⟨c⟩, hc⟩⟩ := y
  have hbits : b = c := by
    obtain ⟨u, hu⟩ := exists_shape b
    obtain ⟨v, hv⟩ := exists_shape c
    have huv : u = v := hu.unpack_eq.symm.trans (h.trans hv.unpack_eq)
    rw [← hu.pack_eq hb, huv, hv.pack_eq hc]
  subst hbits
  rfl

theorem unpack_shape (x : Float) : ∃ b, Shape b x.toModel.unpack := by
  obtain ⟨u, hu⟩ := exists_shape x.toModel.toBits.toBitVec
  have hunpack : x.toModel.unpack = u := hu.unpack_eq
  rw [hunpack]
  exact ⟨_, hu⟩

theorem unpack_neg (x : Float) : (-x).toModel.unpack = x.toModel.unpack.neg := by
  obtain ⟨b, hb⟩ := unpack_shape x
  obtain ⟨c, hc⟩ := hb.neg
  exact hc.unpack_pack

theorem ofModel_pack (x : Float) : Float.ofModel (.pack x.toModel.unpack) = x := by
  obtain ⟨b, hb⟩ := unpack_shape x
  exact float_ext hb.unpack_pack

@[simp] theorem neg_neg (x : Float) : - -x = x := by
  apply float_ext
  rw [unpack_neg, unpack_neg]
  cases x.toModel.unpack with
  | notANumber => rfl
  | infinity s => cases s <;> rfl
  | zero s => cases s <;> rfl
  | finite s m e hm => cases s <;> rfl

/-! ## Numbers that compare -/

theorem isNaN_pack {u : UnpackedFloat} (h : u.isNaN = false) :
    (Float.ofModel (.pack u)).isNaN = false := by
  have hexponent (s : Sign) (k : ℕ) (m : BitVec 52) (hk : k + 1 < 2 ^ 11) :
      @unpackExponent Format.binary64
        (packComponents Format.binary64 s (BitVec.ofNat 11 k) m) ≠ -1#11 := by
    rw [unpackExponent_packComponents]
    intro hones
    have hnat := congrArg BitVec.toNat hones
    rw [BitVec.toNat_ofNat] at hnat
    change k % 2048 = 2047 at hnat
    omega
  have hcases : @unpackExponent Format.binary64
        (UnpackedFloat.pack Format.binary64 u) ≠ -1#11 ∨
      @unpackMantissa Format.binary64
        (UnpackedFloat.pack Format.binary64 u) = 0#52 := by
    cases u with
    | notANumber => cases h
    | infinity s => exact .inr unpackMantissa_packComponents
    | zero s => exact .inr unpackMantissa_packComponents
    | finite s m e hm =>
        rw [pack_finite]
        split
        · exact .inr unpackMantissa_packComponents
        · rename_i hmax
          split
          · exact .inl (hexponent s _ _ (by omega))
          · exact .inl (hexponent s 0 _ (by decide))
  obtain ⟨v, hv⟩ := exists_shape (UnpackedFloat.pack Format.binary64 u)
  have hunpack : (Float.Model.pack u).unpack = v := hv.unpack_eq
  change (Float.Model.pack u).unpack.isNaN = false
  rw [hunpack]
  generalize UnpackedFloat.pack Format.binary64 u = b at hv hcases
  cases hv with
  | notANumber s m hm =>
      rw [unpackExponent_packComponents, unpackMantissa_packComponents] at hcases
      rcases hcases with hones | hzero
      · exact absurd rfl hones
      · exact absurd hzero hm
  | infinity s => rfl
  | zero s => rfl
  | subnormal s m hpos hm => rfl
  | normal s m k hpos hlow hhigh hk hmax => rfl

theorem compare_swap (u v : UnpackedFloat) :
    v.compare u = (u.compare v).map Ordering.swap := by
  have hparts (m n : ℕ) (e f : ℤ) : (compare f e).then (compare n m) =
      ((compare e f).then (compare m n)).swap := by
    rw [Ordering.swap_then, ← Std.OrientedOrd.eq_swap, ← Std.OrientedOrd.eq_swap]
  cases u with
  | notANumber => cases v <;> rfl
  | infinity s => cases v with
    | notANumber => rfl
    | infinity t => cases s <;> cases t <;> rfl
    | zero t => cases s <;> rfl
    | finite t n f hn => cases s <;> rfl
  | zero s => cases v with
    | notANumber => rfl
    | infinity t => cases t <;> rfl
    | zero t => rfl
    | finite t n f hn => cases t <;> rfl
  | finite s m e hm => cases v with
    | notANumber => rfl
    | infinity t => cases s <;> cases t <;> rfl
    | zero t => cases s <;> rfl
    | finite t n f hn =>
        cases s with
        | positive => cases t with
          | positive => exact congrArg some (hparts m n e f)
          | negative => rfl
        | negative => cases t with
          | positive => rfl
          | negative => exact congrArg (fun o => some (Ordering.swap o)) (hparts m n e f)

theorem le_iff {x y : Float} :
    x ≤ y ↔ (x.toModel.unpack.compare y.toModel.unpack).any Ordering.isLE = true :=
  decide_eq_true_iff

theorem lt_iff {x y : Float} :
    x < y ↔ x.toModel.unpack.compare y.toModel.unpack = some .lt :=
  decide_eq_true_iff.trans beq_iff_eq

theorem compare_eq_none {u v : UnpackedFloat} (h : u.compare v = none) :
    u.isNaN = true ∨ v.isNaN = true := by
  cases u with
  | notANumber => exact .inl rfl
  | infinity s => cases v with
    | notANumber => exact .inr rfl
    | infinity t => cases h
    | zero t => cases s <;> cases h
    | finite t n f hn => cases s <;> cases h
  | zero s => cases v with
    | notANumber => exact .inr rfl
    | infinity t => cases t <;> cases h
    | zero t => cases h
    | finite t n f hn => cases t <;> cases h
  | finite s m e hm => cases v with
    | notANumber => exact .inr rfl
    | infinity t => cases s <;> cases t <;> cases h
    | zero t => cases s <;> cases h
    | finite t n f hn => cases s <;> cases t <;> cases h

theorem lt_of_not_le {x y : Float} (hx : x.isNaN = false) (hy : y.isNaN = false)
    (h : ¬ y ≤ x) : x < y := by
  rw [le_iff] at h
  rw [lt_iff, compare_swap y.toModel.unpack]
  cases hc : y.toModel.unpack.compare x.toModel.unpack with
  | none =>
      rcases compare_eq_none hc with hnan | hnan
      · exact absurd hnan (Bool.eq_false_iff.mp hy)
      · exact absurd hnan (Bool.eq_false_iff.mp hx)
  | some o =>
      rw [hc] at h
      cases o with
      | lt => exact absurd rfl h
      | eq => exact absurd rfl h
      | gt => rfl

theorem le_of_lt {x y : Float} (h : x < y) : x ≤ y := by
  rw [lt_iff] at h
  rw [le_iff, h]
  rfl

@[simp] theorem isNaN_neg (x : Float) : (-x).isNaN = x.isNaN := by
  change (-x).toModel.unpack.isNaN = x.toModel.unpack.isNaN
  rw [unpack_neg]
  cases x.toModel.unpack <;> rfl

theorem isNaN_dite {p : Prop} [Decidable p] {f : p → UnpackedFloat} {g : ¬ p → UnpackedFloat}
    (hf : ∀ h, (f h).isNaN = false) (hg : ∀ h, (g h).isNaN = false) :
    (if h : p then f h else g h).isNaN = false := by
  by_cases h : p
  · rw [dif_pos h]
    exact hf h
  · rw [dif_neg h]
    exact hg h

theorem isNaN_ite {p : Prop} [Decidable p] {u v : UnpackedFloat}
    (hu : u.isNaN = false) (hv : v.isNaN = false) : (if p then u else v).isNaN = false := by
  by_cases h : p
  · rw [if_pos h]
    exact hu
  · rw [if_neg h]
    exact hv

theorem isNaN_roundWithAccuracy (s : Sign) (m : ℕ) (e : ℤ) (a : Accuracy) :
    (roundWithAccuracy Format.binary64 s m e a).isNaN = false :=
  isNaN_dite (fun _ => rfl) fun _ => rfl

theorem isNaN_ofScientific (m : ℕ) (e : ℤ) :
    (Float.ofModel (.ofScientific m e)).isNaN = false := by
  apply isNaN_pack
  apply isNaN_dite
  · intro _
    rfl
  · intro _
    apply isNaN_ite rfl
    apply isNaN_ite rfl
    exact isNaN_ite (isNaN_roundWithAccuracy _ _ _ _) (isNaN_roundWithAccuracy _ _ _ _)

end Binary64
end CryoDaq
