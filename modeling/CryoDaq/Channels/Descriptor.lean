import CryoDaq.Python.Json
import CryoDaq.Python.Text
import CryoDaq.Storage.LiveFingerprint

/-!
# Channel descriptors

A `ChannelDescriptorV1` is one revision of the identity of a channel.  It is
checked when it is constructed.

**Values.**  A field is given as any Python value; only its type and, of a text,
its code points matter.  `Given.other` stands for all other types.

**Platform.**  `unicodedata` and SHA-256 are parameters.  What is known of them:
printable ASCII is in normal form and has no control characters, and a digest is
64 hexadecimal digits.

**Descriptors.**  `construct` is the constructor; a descriptor is a record of
fields that passes it (`ChannelDescriptorV1`).  What passes is stated field by
field in `ValidFields`.
-/

namespace CryoDaq
namespace Channels

open ObjectGraph Storage

def maxInt32 : ℤ := 2147483647

inductive ChannelQuantity
  | temperature
  | rawSensor
  | pressure
  | length
  | relativeHumidity
  | voltage
  | current
  | resistance
  | thermalResistance
  | thermalConductance
  | power
  | derived
  | eventState
  | legacyUnknown
deriving DecidableEq, Repr

def ChannelQuantity.value : ChannelQuantity → String
  | .temperature => "temperature"
  | .rawSensor => "raw_sensor"
  | .pressure => "pressure"
  | .length => "length"
  | .relativeHumidity => "relative_humidity"
  | .voltage => "voltage"
  | .current => "current"
  | .resistance => "resistance"
  | .thermalResistance => "thermal_resistance"
  | .thermalConductance => "thermal_conductance"
  | .power => "power"
  | .derived => "derived"
  | .eventState => "event_state"
  | .legacyUnknown => "legacy_unknown"

inductive ChannelRole
  | primaryMeasurement
  | referenceMeasurement
  | environment
  | sourceReadback
  | derived
  | event
  | legacyUnknown
deriving DecidableEq, Repr

def ChannelRole.value : ChannelRole → String
  | .primaryMeasurement => "primary_measurement"
  | .referenceMeasurement => "reference_measurement"
  | .environment => "environment"
  | .sourceReadback => "source_readback"
  | .derived => "derived"
  | .event => "event"
  | .legacyUnknown => "legacy_unknown"

inductive ChannelSafetyClass
  | observational
  | safetyCriticalInput
  | hazardousSourceReadback
  | legacyUnknown
deriving DecidableEq, Repr

def ChannelSafetyClass.value : ChannelSafetyClass → String
  | .observational => "observational"
  | .safetyCriticalInput => "safety_critical_input"
  | .hazardousSourceReadback => "hazardous_source_readback"
  | .legacyUnknown => "legacy_unknown"

def unitsByQuantity : ChannelQuantity → Option (List String)
  | .temperature => some ["K", "°C"]
  | .rawSensor => some ["sensor_unit"]
  | .pressure => some ["mbar", "hPa"]
  | .length => some ["mm"]
  | .relativeHumidity => some ["%"]
  | .voltage => some ["V"]
  | .current => some ["A"]
  | .resistance => some ["Ohm"]
  | .thermalResistance => some ["K/W"]
  | .thermalConductance => some ["W/K"]
  | .power => some ["W"]
  | .derived =>
      some ["K", "°C", "sensor_unit", "mbar", "hPa", "mm", "%", "V", "A", "Ohm", "W", "1"]
  | .eventState => some ["state"]
  | .legacyUnknown => none

/-- What a constructor raises. -/
inductive Fault
  | type (message : String)
  | descriptor (message : String)
  | config (message : String)
  | envelope (message : String)
deriving DecidableEq, Repr

/-- A value given for a field. -/
inductive Given
  | text (s : CodePoints)
  | int (n : ℤ)
  | bool (b : Bool)
  | other
deriving DecidableEq

def isPrintable (c : CodePoint) : Bool := 0x20 ≤ c.val && c.val < 0x7f

/-- `unicodedata` and SHA-256. -/
structure Platform extends Unicode where
  /-- `hashlib.sha256(data).hexdigest()` -/
  hexdigest : List UInt8 → String
  normalize_printable : ∀ s, s.all isPrintable = true → normalize s = s
  category_printable : ∀ c, isPrintable c = true →
    toUnicode.isControl c = false ∧ category c ≠ "Zl" ∧ category c ≠ "Zp"
  hexdigest_length : ∀ data, (hexdigest data).length = 64
  hexdigest_hex : ∀ data, ∀ c ∈ (hexdigest data).toList,
    ('0' ≤ c ∧ c ≤ '9') ∨ ('a' ≤ c ∧ c ≤ 'f')

def checksum (data : List UInt8) : ℕ := data.foldl (fun h b => h * 257 + b.toNat + 1) 0

/-- The last digits of a number, to base 16, backwards. -/
def lastDigits : ℕ → ℕ → List Char
  | 0, _ => []
  | width + 1, n => Nat.digitChar (n % 16) :: lastDigits width (n / 16)

theorem length_lastDigits (width n : ℕ) : (lastDigits width n).length = width := by
  induction width generalizing n with
  | zero => rfl
  | succ width ih => rw [lastDigits, List.length_cons, ih]

theorem lastDigits_hex {width n : ℕ} {c : Char} (h : c ∈ lastDigits width n) :
    ('0' ≤ c ∧ c ≤ '9') ∨ ('a' ≤ c ∧ c ≤ 'f') := by
  induction width generalizing n with
  | zero => exact absurd h List.not_mem_nil
  | succ width ih =>
      rcases List.mem_cons.mp h with rfl | h
      · have hdigit : ∀ n < 16, ('0' ≤ Nat.digitChar n ∧ Nat.digitChar n ≤ '9') ∨
            ('a' ≤ Nat.digitChar n ∧ Nat.digitChar n ≤ 'f') := by decide
        exact hdigit _ (Nat.mod_lt _ (by decide))
      · exact ih h

/-- A platform that knows printable ASCII only and digests by a checksum. -/
instance : Inhabited Platform where
  default :=
    { normalize := id
      category := fun c => if isPrintable c then "Ll" else "Cn"
      hexdigest := fun data => String.ofList (lastDigits 64 (checksum data))
      normalize_printable := fun _ _ => rfl
      category_printable := by
        intro c hc
        simp only [Unicode.isControl, if_pos hc]
        decide
      hexdigest_length := by
        intro _
        rw [← String.length_toList, String.toList_ofList, length_lastDigits]
      hexdigest_hex := by
        intro _ c hc
        rw [String.toList_ofList] at hc
        exact lastDigits_hex hc }

variable (p : Platform)

def boundedText (field : String) (maximum : ℕ) : Given → Except Fault CodePoints
  | .text value => do
      ensure (p.normalize value = value) (.descriptor (field ++ " must be NFC"))
      ensure (value.any p.isControl = false)
        (.descriptor (field ++ " contains a Unicode control character"))
      match utf8Length value with
      | none => .error (.descriptor (field ++ " is not valid Unicode text"))
      | some encoded =>
          ensure (encoded ≠ 0 ∧ encoded ≤ maximum)
            (.descriptor (field ++ " must contain 1.." ++ maximum.repr ++ " UTF-8 bytes"))
          return value
  | _ => .error (.type (field ++ " must be a string"))

/-- `str.isspace` of one character. -/
def isSpacePoint (c : CodePoint) : Bool := Text.isSpace (Char.ofNat c.val)

def validateIdentifier (field : String) (maximum : ℕ) (value : Given) :
    Except Fault CodePoints := do
  let identifier ← boundedText p field maximum value
  ensure (identifier.all isSpacePoint = false)
    (.descriptor (field ++ " must contain at least one non-whitespace character"))
  ensure (identifier.any (fun c => p.category c = "Zl" ∨ p.category c = "Zp") = false)
    (.descriptor (field ++ " contains a Unicode line or paragraph separator"))
  ensure (identifier.head?.any isSpacePoint = false ∧
      identifier.getLast?.any isSpacePoint = false)
    (.descriptor (field ++ " must not have leading or trailing whitespace"))
  ensure (identifier.any isSpacePoint = false)
    (.descriptor (field ++ " must not contain internal whitespace"))
  return identifier

/-- `[a-z0-9]` -/
def isKeyChar (c : CodePoint) : Bool :=
  (97 ≤ c.val && c.val ≤ 122) || (48 ≤ c.val && c.val ≤ 57)

/-- `[a-z0-9_-]` -/
def isInnerKeyChar (c : CodePoint) : Bool := isKeyChar c || c.val = 95 || c.val = 45

/-- `_SOURCE_SEGMENT.fullmatch` -/
def sourceSegment : CodePoints → Bool
  | [] => false
  | c :: rest =>
      isKeyChar c && (rest.isEmpty ||
        rest.length ≤ 31 && rest.dropLast.all isInnerKeyChar && rest.getLast?.any isKeyChar)

/-- `[0-9a-f]` -/
def isHexPoint (c : CodePoint) : Bool :=
  (48 ≤ c.val && c.val ≤ 57) || (97 ≤ c.val && c.val ≤ 102)

/-- `_LEGACY_SOURCE.fullmatch` -/
def legacySource (s : CodePoints) : Bool :=
  s.take 14 = codePoints "legacy-source:" && (s.drop 14).length = 64 &&
    (s.drop 14).all isHexPoint

/-- `source_key.split(".")` -/
def sourceSegments (s : CodePoints) : List CodePoints := s.splitOn (codePoint '.')

def validateSourceKey (legacy : Bool) (value : Given) : Except Fault CodePoints := do
  let sourceKey ← boundedText p "source_key" 128 value
  if (legacy && legacySource sourceKey) = true then return sourceKey
  else do
    ensure ((sourceSegments sourceKey).all sourceSegment = true)
      (.descriptor "source_key must use the bounded lowercase device-local grammar")
    return sourceKey

def exactInt (field : String) (minimum : ℤ) : Given → Except Fault ℤ
  | .int value => do
      ensure (minimum ≤ value ∧ value ≤ maxInt32)
        (.descriptor (field ++ " must be an integer in " ++ minimum.repr ++ ".." ++ maxInt32.repr))
      return value
  | _ => .error (.descriptor
      (field ++ " must be an integer in " ++ minimum.repr ++ ".." ++ maxInt32.repr))

/-- `type(value) is bool` -/
def exactBool (field : String) : Given → Except Fault Bool
  | .bool b => .ok b
  | _ => .error (.type (field ++ " must be a boolean"))

structure Arguments where
  schemaVersion : Given
  channelId : Given
  instrumentId : Given
  sourceKey : Given
  quantity : ChannelQuantity
  unit : Given
  role : ChannelRole
  safetyClass : ChannelSafetyClass
  displayGroup : Given
  displayName : Given
  visibleByDefault : Given
  displayOrder : Given
  descriptorRevision : Given

structure DescriptorFields where
  schemaVersion : ℤ
  channelId : CodePoints
  instrumentId : CodePoints
  sourceKey : CodePoints
  quantity : ChannelQuantity
  unit : CodePoints
  role : ChannelRole
  safetyClass : ChannelSafetyClass
  displayGroup : CodePoints
  displayName : CodePoints
  visibleByDefault : Bool
  displayOrder : ℤ
  descriptorRevision : ℤ
deriving DecidableEq

def DescriptorFields.arguments (d : DescriptorFields) : Arguments where
  schemaVersion := .int d.schemaVersion
  channelId := .text d.channelId
  instrumentId := .text d.instrumentId
  sourceKey := .text d.sourceKey
  quantity := d.quantity
  unit := .text d.unit
  role := d.role
  safetyClass := d.safetyClass
  displayGroup := .text d.displayGroup
  displayName := .text d.displayName
  visibleByDefault := .bool d.visibleByDefault
  displayOrder := .int d.displayOrder
  descriptorRevision := .int d.descriptorRevision

def unitAllowed (quantity : ChannelQuantity) (unit : CodePoints) : Bool :=
  (unitsByQuantity quantity).any fun units => units.any fun u => codePoints u = unit

def validateClassification (quantity : ChannelQuantity) (unit : CodePoints) (role : ChannelRole)
    (safetyClass : ChannelSafetyClass) : Except Fault Unit := do
  if quantity = .legacyUnknown then
    ensure (role = .legacyUnknown ∧ safetyClass = .legacyUnknown)
      (.descriptor "legacy_unknown classification must be complete")
  else do
    ensure (unitAllowed quantity unit = true) (.descriptor "unit is not allowed for quantity")
    ensure (role ≠ .legacyUnknown ∧ safetyClass ≠ .legacyUnknown)
      (.descriptor "legacy_unknown classification is reserved for synthetic legacy rows")
  if role = .sourceReadback then
    ensure (safetyClass = .hazardousSourceReadback)
      (.descriptor "source_readback requires hazardous_source_readback classification")
  else
    ensure (safetyClass ≠ .hazardousSourceReadback)
      (.descriptor "hazardous_source_readback requires source_readback role")

/-- `ChannelDescriptorV1(…)` -/
def construct (a : Arguments) : Except Fault DescriptorFields := do
  ensure (a.schemaVersion = .int 1) (.descriptor "schema_version must be the integer 1")
  let channelId ← validateIdentifier p "channel_id" 128 a.channelId
  let instrumentId ← validateIdentifier p "instrument_id" 128 a.instrumentId
  let sourceKey ← validateSourceKey p (a.quantity = .legacyUnknown) a.sourceKey
  let unit ← boundedText p "unit" 32 a.unit
  let displayGroup ← boundedText p "display_group" 64 a.displayGroup
  let displayName ← boundedText p "display_name" 256 a.displayName
  let visibleByDefault ← exactBool "visible_by_default" a.visibleByDefault
  let displayOrder ← exactInt "display_order" 0 a.displayOrder
  let descriptorRevision ← exactInt "descriptor_revision" 1 a.descriptorRevision
  validateClassification a.quantity unit a.role a.safetyClass
  return ⟨1, channelId, instrumentId, sourceKey, a.quantity, unit, a.role, a.safetyClass,
    displayGroup, displayName, visibleByDefault, displayOrder, descriptorRevision⟩

def textOf (s : CodePoints) : String := String.ofList (s.map fun c => Char.ofNat c.val)

def DescriptorFields.document (d : DescriptorFields) : Json :=
  .obj [("schema_version", .int d.schemaVersion),
    ("channel_id", .str (textOf d.channelId)),
    ("instrument_id", .str (textOf d.instrumentId)),
    ("source_key", .str (textOf d.sourceKey)),
    ("quantity", .str d.quantity.value),
    ("unit", .str (textOf d.unit)),
    ("role", .str d.role.value),
    ("safety_class", .str d.safetyClass.value),
    ("display_group", .str (textOf d.displayGroup)),
    ("display_name", .str (textOf d.displayName)),
    ("visible_by_default", .bool d.visibleByDefault),
    ("display_order", .int d.displayOrder),
    ("descriptor_revision", .int d.descriptorRevision)]

/-- The bytes of `json.dumps(…, ensure_ascii=False, sort_keys=True)`. -/
def canonicalBytes (v : Json) : ByteArray := (String.ofList ((v.dumps false).getD [])).toByteArray

def DescriptorFields.canonicalJson (d : DescriptorFields) : ByteArray := canonicalBytes d.document

def DescriptorFields.anchor (d : DescriptorFields) : CodePoints × CodePoints × CodePoints :=
  (d.channelId, d.instrumentId, d.sourceKey)

structure ChannelDescriptorV1 extends DescriptorFields where
  checked : construct p toDescriptorFields.arguments = .ok toDescriptorFields

variable {p}

/-! ## What passes the checks -/

theorem boundedText_eq_ok {field : String} {maximum : ℕ} {value : Given} {s : CodePoints} :
    boundedText p field maximum value = .ok s ↔
      value = .text s ∧ BoundedText p.toUnicode maximum s := by
  cases value with
  | text t =>
      simp only [boundedText, bind_eq_ok, ensure_eq_ok, exists_unit, Given.text.injEq]
      constructor
      · rintro ⟨hnfc, hcontrol, h⟩
        cases hlength : utf8Length t with
        | none =>
            rw [hlength] at h
            cases h
        | some encoded =>
            rw [hlength] at h
            simp only [bind_eq_ok, ensure_eq_ok, exists_unit, pure_eq_ok] at h
            obtain ⟨hsize, rfl⟩ := h
            exact ⟨rfl, hnfc, hcontrol, encoded, hlength, hsize⟩
      · rintro ⟨rfl, hnfc, hcontrol, encoded, hlength, hsize⟩
        refine ⟨hnfc, hcontrol, ?_⟩
        rw [hlength]
        simp only [bind_eq_ok, ensure_eq_ok, exists_unit, pure_eq_ok]
        exact ⟨hsize, trivial⟩
  | int n => simp [boundedText]
  | bool b => simp [boundedText]
  | other => simp [boundedText]

/-- What `_validate_identifier` lets through. -/
def Identifier (p : Platform) (maximum : ℕ) (s : CodePoints) : Prop :=
  BoundedText p.toUnicode maximum s ∧ s.all isSpacePoint = false ∧
    s.any (fun c => p.category c = "Zl" ∨ p.category c = "Zp") = false ∧
    (s.head?.any isSpacePoint = false ∧ s.getLast?.any isSpacePoint = false) ∧
    s.any isSpacePoint = false

theorem validateIdentifier_eq_ok {field : String} {maximum : ℕ} {value : Given}
    {s : CodePoints} :
    validateIdentifier p field maximum value = .ok s ↔
      value = .text s ∧ Identifier p maximum s := by
  simp only [validateIdentifier, bind_eq_ok, ensure_eq_ok, exists_unit, pure_eq_ok,
    boundedText_eq_ok, Identifier]
  constructor
  · rintro ⟨t, ⟨rfl, hbounded⟩, hall, hline, hends, hany, rfl⟩
    exact ⟨rfl, hbounded, hall, hline, hends, hany⟩
  · rintro ⟨rfl, hbounded, hall, hline, hends, hany⟩
    exact ⟨s, ⟨rfl, hbounded⟩, hall, hline, hends, hany, rfl⟩

/-- What `_validate_source_key` lets through. -/
def SourceKey (p : Platform) (legacy : Bool) (s : CodePoints) : Prop :=
  BoundedText p.toUnicode 128 s ∧
    ((legacy && legacySource s) = true ∨ (sourceSegments s).all sourceSegment = true)

theorem validateSourceKey_eq_ok {legacy : Bool} {value : Given} {s : CodePoints} :
    validateSourceKey p legacy value = .ok s ↔ value = .text s ∧ SourceKey p legacy s := by
  simp only [validateSourceKey, bind_eq_ok, boundedText_eq_ok, SourceKey]
  constructor
  · rintro ⟨t, ⟨rfl, hbounded⟩, h⟩
    by_cases hlegacy : (legacy && legacySource t) = true
    · rw [if_pos hlegacy, pure_eq_ok] at h
      cases h
      exact ⟨rfl, hbounded, .inl hlegacy⟩
    · simp only [if_neg hlegacy, bind_eq_ok, ensure_eq_ok, exists_unit, pure_eq_ok] at h
      obtain ⟨hsegments, rfl⟩ := h
      exact ⟨rfl, hbounded, .inr hsegments⟩
  · rintro ⟨rfl, hbounded, hgrammar⟩
    refine ⟨s, ⟨rfl, hbounded⟩, ?_⟩
    by_cases hlegacy : (legacy && legacySource s) = true
    · rw [if_pos hlegacy, pure_eq_ok]
    · simp only [if_neg hlegacy, bind_eq_ok, ensure_eq_ok, exists_unit, pure_eq_ok]
      exact ⟨hgrammar.resolve_left hlegacy, trivial⟩

theorem exactInt_eq_ok {field : String} {minimum : ℤ} {value : Given} {n : ℤ} :
    exactInt field minimum value = .ok n ↔
      value = .int n ∧ minimum ≤ n ∧ n ≤ maxInt32 := by
  cases value with
  | int m =>
      simp only [exactInt, bind_eq_ok, ensure_eq_ok, exists_unit, pure_eq_ok, Given.int.injEq]
      constructor
      · rintro ⟨hrange, rfl⟩
        exact ⟨rfl, hrange⟩
      · rintro ⟨rfl, hrange⟩
        exact ⟨hrange, rfl⟩
  | text s => simp [exactInt]
  | bool b => simp [exactInt]
  | other => simp [exactInt]

theorem exactBool_eq_ok {field : String} {value : Given} {b : Bool} :
    exactBool field value = .ok b ↔ value = .bool b := by
  cases value <;> simp [exactBool]

/-- What the constructor lets through, field by field. -/
structure ValidFields (p : Platform) (d : DescriptorFields) : Prop where
  schemaVersion : d.schemaVersion = 1
  channelId : Identifier p 128 d.channelId
  instrumentId : Identifier p 128 d.instrumentId
  sourceKey : SourceKey p (d.quantity = .legacyUnknown) d.sourceKey
  unit : BoundedText p.toUnicode 32 d.unit
  displayGroup : BoundedText p.toUnicode 64 d.displayGroup
  displayName : BoundedText p.toUnicode 256 d.displayName
  displayOrder : 0 ≤ d.displayOrder ∧ d.displayOrder ≤ maxInt32
  descriptorRevision : 1 ≤ d.descriptorRevision ∧ d.descriptorRevision ≤ maxInt32
  classification : validateClassification d.quantity d.unit d.role d.safetyClass = .ok ()

theorem construct_eq_ok {a : Arguments} {d : DescriptorFields} :
    construct p a = .ok d ↔ a = d.arguments ∧ ValidFields p d := by
  simp only [construct, bind_eq_ok, ensure_eq_ok, exists_unit, pure_eq_ok,
    validateIdentifier_eq_ok, validateSourceKey_eq_ok, boundedText_eq_ok, exactInt_eq_ok,
    exactBool_eq_ok]
  constructor
  · rintro ⟨hschema, channelId, ⟨hchannel, hchannelId⟩, instrumentId,
      ⟨hinstrument, hinstrumentId⟩, sourceKey, ⟨hsource, hsourceKey⟩, unit, ⟨hunit, hunitText⟩,
      group, ⟨hgroup, hgroupText⟩, name, ⟨hname, hnameText⟩, visible, hvisible, order,
      ⟨horder, horderRange⟩, revision, ⟨hrevision, hrevisionRange⟩, hclass, rfl⟩
    obtain ⟨_, _, _, _, quantity, _, role, safetyClass, _, _, _, _, _⟩ := a
    cases hschema
    cases hchannel
    cases hinstrument
    cases hsource
    cases hunit
    cases hgroup
    cases hname
    cases hvisible
    cases horder
    cases hrevision
    exact ⟨rfl, rfl, hchannelId, hinstrumentId, hsourceKey, hunitText, hgroupText, hnameText,
      horderRange, hrevisionRange, hclass⟩
  · rintro ⟨rfl, h⟩
    obtain ⟨schema, channelId, instrumentId, sourceKey, quantity, unit, role, safetyClass, group,
      name, visible, order, revision⟩ := d
    have hschema : schema = 1 := h.schemaVersion
    subst hschema
    exact ⟨rfl, channelId, ⟨rfl, h.channelId⟩, instrumentId, ⟨rfl, h.instrumentId⟩, sourceKey,
      ⟨rfl, h.sourceKey⟩, unit, ⟨rfl, h.unit⟩, group, ⟨rfl, h.displayGroup⟩, name,
      ⟨rfl, h.displayName⟩, visible, rfl, order, ⟨rfl, h.displayOrder⟩, revision,
      ⟨rfl, h.descriptorRevision⟩, h.classification, rfl⟩

def ChannelDescriptorV1.ofValid {d : DescriptorFields} (h : ValidFields p d) :
    ChannelDescriptorV1 p :=
  ⟨d, construct_eq_ok.mpr ⟨rfl, h⟩⟩

theorem ChannelDescriptorV1.valid (d : ChannelDescriptorV1 p) :
    ValidFields p d.toDescriptorFields :=
  (construct_eq_ok.mp d.checked).2

end Channels
end CryoDaq
