import CryoDaq.Channels.Descriptor

/-!
# Descriptors of legacy rows

A row without a descriptor gets a synthetic one from its three texts.

**Digests.**  A text is framed with a tag and its length, so that the digest of
several texts depends on where each of them ends.  A text that has no UTF-8 form
is framed with its escapes.

**Fallbacks.**  A text that is not valid as it is, is replaced by one that is made
of a digest.  So every row has a descriptor: `legacyUnknownDescriptor_ok`.
-/

namespace CryoDaq
namespace Channels

open ObjectGraph Storage

def asciiBytes (s : String) : List UInt8 := s.toList.map fun c => UInt8.ofNat c.toNat

def utf8Point (c : CodePoint) : List UInt8 :=
  if c.val < 0x80 then [.ofNat c.val]
  else if c.val < 0x800 then [.ofNat (0xc0 + c.val / 0x40), .ofNat (0x80 + c.val % 0x40)]
  else if c.val < 0x10000 then
    [.ofNat (0xe0 + c.val / 0x1000), .ofNat (0x80 + c.val / 0x40 % 0x40),
      .ofNat (0x80 + c.val % 0x40)]
  else
    [.ofNat (0xf0 + c.val / 0x40000), .ofNat (0x80 + c.val / 0x1000 % 0x40),
      .ofNat (0x80 + c.val / 0x40 % 0x40), .ofNat (0x80 + c.val % 0x40)]

/-- The last `width` hexadecimal digits of a number. -/
def hexDigits (n : ℕ) : ℕ → String
  | 0 => ""
  | width + 1 => hexDigits (n / 16) width ++ (Nat.digitChar (n % 16)).toString

/-- One code point of `value.encode("ascii", "backslashreplace")`. -/
def backslashPoint (c : CodePoint) : List UInt8 :=
  if c.val < 0x80 then [.ofNat c.val]
  else if c.val < 0x100 then asciiBytes ("\\x" ++ hexDigits c.val 2)
  else if c.val < 0x10000 then asciiBytes ("\\u" ++ hexDigits c.val 4)
  else asciiBytes ("\\U" ++ hexDigits c.val 8)

def framed (data : List UInt8) : List UInt8 :=
  asciiBytes (data.length.repr ++ ":") ++ data

/-- `_legacy_scalar` of a text. -/
def legacyScalar (value : CodePoints) : List UInt8 :=
  match utf8Length value with
  | some _ => framed (asciiBytes "text") ++ framed (value.flatMap utf8Point)
  | none => framed (asciiBytes "text-invalid") ++ framed (value.flatMap backslashPoint)

variable (p : Platform)

def legacyDigest (values : List CodePoints) : String :=
  p.hexdigest (values.flatMap fun value => framed (legacyScalar value))

def safeLegacyText (maximum : ℕ) (value : CodePoints) : Option CodePoints :=
  (boundedText p "legacy value" maximum (.text value)).toOption

def safeLegacyIdentifier (maximum : ℕ) (value : CodePoints) : Option CodePoints :=
  (validateIdentifier p "legacy identifier" maximum (.text value)).toOption

def legacyArguments (instrumentId channel unit : CodePoints) : Arguments where
  schemaVersion := .int 1
  channelId := .text
    (codePoints "legacy:" ++ codePoints (legacyDigest p [instrumentId, channel, unit]))
  instrumentId := .text ((safeLegacyIdentifier p 128 instrumentId).getD
    (codePoints "legacy-instrument:" ++ codePoints (legacyDigest p [instrumentId])))
  sourceKey := .text (codePoints "legacy-source:" ++ codePoints (legacyDigest p [channel]))
  quantity := .legacyUnknown
  unit := .text ((safeLegacyText p 32 unit).getD (codePoints "unknown"))
  role := .legacyUnknown
  safetyClass := .legacyUnknown
  displayGroup := .text (codePoints "legacy")
  displayName := .text ((safeLegacyText p 256 channel).getD
    (codePoints "legacy channel " ++ (codePoints (legacyDigest p [channel])).take 12))
  visibleByDefault := .bool false
  displayOrder := .int maxInt32
  descriptorRevision := .int 1

def legacyUnknownDescriptor (instrumentId channel unit : CodePoints) :
    Except Fault DescriptorFields :=
  construct p (legacyArguments p instrumentId channel unit)

/-! ## Every row has a descriptor -/

/-- A printable character that is no space. -/
def isGraphic (c : CodePoint) : Bool := 0x20 < c.val && c.val < 0x7f

theorem isPrintable_of_isGraphic {c : CodePoint} (h : isGraphic c = true) :
    isPrintable c = true := by
  simp only [isGraphic, isPrintable, Bool.and_eq_true, decide_eq_true_eq] at h ⊢
  exact ⟨by omega, h.2⟩

theorem isSpacePoint_of_isGraphic {c : CodePoint} (h : isGraphic c = true) :
    isSpacePoint c = false := by
  simp only [isGraphic, Bool.and_eq_true, decide_eq_true_eq] at h
  have hvalid : (Char.ofNat c.val).toNat = c.val := by
    unfold Char.ofNat
    rw [dif_pos (.inl (by omega))]
    rfl
  simp only [isSpacePoint, Text.isSpace, hvalid, Bool.or_eq_false_iff, Bool.and_eq_false_iff,
    decide_eq_false_iff_not, beq_eq_false_iff_ne]
  omega

theorem utf8Length_printable {s : CodePoints} (h : s.all isPrintable = true) :
    utf8Length s = some s.length := by
  induction s with
  | nil => rfl
  | cons c rest ih =>
      simp only [List.all_cons, Bool.and_eq_true] at h
      have hc : c.val < 0x80 := by
        have hprintable := h.1
        simp only [isPrintable, Bool.and_eq_true, decide_eq_true_eq] at hprintable
        omega
      simp only [utf8Length, utf8Width, if_pos hc, ih h.2, List.length_cons]
      exact congrArg some (Nat.add_comm 1 _)

variable {p}

theorem boundedText_printable {maximum : ℕ} {s : CodePoints} (h : s.all isPrintable = true)
    (hne : s.length ≠ 0) (hmax : s.length ≤ maximum) : BoundedText p.toUnicode maximum s := by
  refine ⟨p.normalize_printable s h, ?_, s.length, utf8Length_printable h, hne, hmax⟩
  rw [List.any_eq_false]
  intro c hc
  have hcontrol := (p.category_printable c (List.all_eq_true.mp h c hc)).1
  rw [hcontrol]
  exact Bool.false_ne_true

theorem identifier_graphic {maximum : ℕ} {s : CodePoints} (h : s.all isGraphic = true)
    (hne : s.length ≠ 0) (hmax : s.length ≤ maximum) : Identifier p maximum s := by
  have hprintable : s.all isPrintable = true :=
    List.all_eq_true.mpr fun c hc => isPrintable_of_isGraphic (List.all_eq_true.mp h c hc)
  have hspace : ∀ c ∈ s, isSpacePoint c = false :=
    fun c hc => isSpacePoint_of_isGraphic (List.all_eq_true.mp h c hc)
  have hany : s.any isSpacePoint = false := by
    rw [List.any_eq_false]
    intro c hc
    rw [hspace c hc]
    exact Bool.false_ne_true
  have hoption : ∀ o : Option CodePoint, (∀ c, o = some c → c ∈ s) →
      o.any isSpacePoint = false := by
    intro o ho
    cases o with
    | none => rfl
    | some c => exact hspace c (ho c rfl)
  refine ⟨boundedText_printable hprintable hne hmax, ?_, ?_,
    ⟨hoption _ fun c hc => List.mem_of_head? hc, hoption _ fun c hc => List.mem_of_getLast? hc⟩,
    hany⟩
  · obtain ⟨c, hc⟩ := List.exists_mem_of_length_pos (Nat.pos_of_ne_zero hne)
    rw [List.all_eq_false]
    refine ⟨c, hc, ?_⟩
    rw [hspace c hc]
    exact Bool.false_ne_true
  · rw [List.any_eq_false]
    intro c hc
    have hcategory := p.category_printable c (List.all_eq_true.mp hprintable c hc)
    rw [decide_eq_true_eq]
    rintro (hline | hparagraph)
    · exact hcategory.2.1 hline
    · exact hcategory.2.2 hparagraph

theorem digest_hex (data : List UInt8) :
    (codePoints (p.hexdigest data)).all isHexPoint = true := by
  rw [List.all_eq_true]
  intro c hc
  obtain ⟨x, hx, rfl⟩ := List.mem_map.mp hc
  have hhex := p.hexdigest_hex data x hx
  simp only [isHexPoint, Bool.or_eq_true, Bool.and_eq_true, decide_eq_true_eq]
  exact hhex

theorem digest_length (data : List UInt8) : (codePoints (p.hexdigest data)).length = 64 := by
  rw [codePoints, List.length_map, String.length_toList, p.hexdigest_length]

theorem isGraphic_of_isHexPoint {c : CodePoint} (h : isHexPoint c = true) :
    isGraphic c = true := by
  simp only [isHexPoint, isGraphic, Bool.or_eq_true, Bool.and_eq_true, decide_eq_true_eq] at h ⊢
  omega

theorem graphic_append_digest {s : CodePoints} (h : s.all isGraphic = true)
    (data : List UInt8) : (s ++ codePoints (p.hexdigest data)).all isGraphic = true := by
  rw [List.all_append, h, Bool.true_and, List.all_eq_true]
  exact fun c hc => isGraphic_of_isHexPoint (List.all_eq_true.mp (digest_hex data) c hc)

theorem identifier_append_digest {s : CodePoints} (h : s.all isGraphic = true)
    (hmax : s.length ≤ 64) (data : List UInt8) :
    Identifier p 128 (s ++ codePoints (p.hexdigest data)) := by
  have hlength : (s ++ codePoints (p.hexdigest data)).length = s.length + 64 := by
    rw [List.length_append, digest_length]
  exact identifier_graphic (graphic_append_digest h data) (by omega) (by omega)

theorem safeLegacyText_getD {maximum : ℕ} {value default : CodePoints}
    (h : BoundedText p.toUnicode maximum default) :
    BoundedText p.toUnicode maximum ((safeLegacyText p maximum value).getD default) := by
  cases hvalue : boundedText p "legacy value" maximum (.text value) with
  | error e =>
      simp only [safeLegacyText, hvalue]
      exact h
  | ok s =>
      simp only [safeLegacyText, hvalue]
      exact (boundedText_eq_ok.mp hvalue).2

theorem safeLegacyIdentifier_getD {maximum : ℕ} {value default : CodePoints}
    (h : Identifier p maximum default) :
    Identifier p maximum ((safeLegacyIdentifier p maximum value).getD default) := by
  cases hvalue : validateIdentifier p "legacy identifier" maximum (.text value) with
  | error e =>
      simp only [safeLegacyIdentifier, hvalue]
      exact h
  | ok s =>
      simp only [safeLegacyIdentifier, hvalue]
      exact (validateIdentifier_eq_ok.mp hvalue).2

theorem legacySource_digest (data : List UInt8) :
    legacySource (codePoints "legacy-source:" ++ codePoints (p.hexdigest data)) = true := by
  have hlength : (codePoints "legacy-source:").length = 14 := by decide
  unfold legacySource
  rw [List.take_left' hlength, List.drop_left' hlength, digest_length, digest_hex]
  decide

theorem legacyName_bounded (data : List UInt8) :
    BoundedText p.toUnicode 256
      (codePoints "legacy channel " ++ (codePoints (p.hexdigest data)).take 12) := by
  have hconstant : (codePoints "legacy channel ").all isPrintable = true := by decide
  have hfirst : (codePoints "legacy channel ").length = 15 := by decide
  have hlength : (codePoints "legacy channel " ++
      (codePoints (p.hexdigest data)).take 12).length = 27 := by
    rw [List.length_append, List.length_take, digest_length, hfirst]
    rfl
  refine boundedText_printable ?_ (by omega) (by omega)
  rw [List.all_append, hconstant, Bool.true_and, List.all_eq_true]
  intro c hc
  have hhex := List.all_eq_true.mp (digest_hex data) c (List.mem_of_mem_take hc)
  exact isPrintable_of_isGraphic (isGraphic_of_isHexPoint hhex)

variable (p)

def legacyFields (instrumentId channel unit : CodePoints) : DescriptorFields where
  schemaVersion := 1
  channelId := codePoints "legacy:" ++ codePoints (legacyDigest p [instrumentId, channel, unit])
  instrumentId := (safeLegacyIdentifier p 128 instrumentId).getD
    (codePoints "legacy-instrument:" ++ codePoints (legacyDigest p [instrumentId]))
  sourceKey := codePoints "legacy-source:" ++ codePoints (legacyDigest p [channel])
  quantity := .legacyUnknown
  unit := (safeLegacyText p 32 unit).getD (codePoints "unknown")
  role := .legacyUnknown
  safetyClass := .legacyUnknown
  displayGroup := codePoints "legacy"
  displayName := (safeLegacyText p 256 channel).getD
    (codePoints "legacy channel " ++ (codePoints (legacyDigest p [channel])).take 12)
  visibleByDefault := false
  displayOrder := maxInt32
  descriptorRevision := 1

theorem legacyFields_valid (instrumentId channel unit : CodePoints) :
    ValidFields p (legacyFields p instrumentId channel unit) where
  schemaVersion := rfl
  channelId := identifier_append_digest (by decide) (by decide) _
  instrumentId :=
    safeLegacyIdentifier_getD (identifier_append_digest (by decide) (by decide) _)
  sourceKey :=
    ⟨(identifier_append_digest (by decide) (by decide) _).1, .inl (legacySource_digest _)⟩
  unit := safeLegacyText_getD (boundedText_printable (by decide) (by decide) (by decide))
  displayGroup := show BoundedText p.toUnicode 64 (codePoints "legacy") from
    boundedText_printable (by decide) (by decide) (by decide)
  displayName := safeLegacyText_getD (legacyName_bounded _)
  displayOrder := show 0 ≤ maxInt32 ∧ maxInt32 ≤ maxInt32 by decide
  descriptorRevision := show (1 : ℤ) ≤ 1 ∧ 1 ≤ maxInt32 by decide
  classification := by
    simp only [legacyFields, validateClassification]
    rfl

theorem legacyUnknownDescriptor_ok (instrumentId channel unit : CodePoints) :
    legacyUnknownDescriptor p instrumentId channel unit =
      .ok (legacyFields p instrumentId channel unit) :=
  construct_eq_ok.mpr ⟨rfl, legacyFields_valid p instrumentId channel unit⟩

end Channels
end CryoDaq
