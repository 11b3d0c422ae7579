import CryoDaq.Channels.Catalog
import CryoDaq.Channels.Legacy
import CryoDaq.Python.JsonSize

/-!
# Persisted channel envelopes

A reading is stored with the envelope of its channel: a JSON document that holds the document of one
descriptor and repeats its anchors and its hash.

**Writing.**  `constructEnvelope` is the constructor.  It takes what is repeated from its caller and
compares it with the descriptor, so an envelope that passes is `envelopeOf` its descriptor.

**Reading.**  `decodePersistedChannelEnvelope` reads the document strictly, makes the descriptor
anew and constructs the envelope with the anchors of the document.  A synthetic legacy descriptor
has no envelope.
-/

namespace CryoDaq
namespace Channels

open ObjectGraph Storage

variable {p : Platform}

def maxPersistedEnvelopeBytes : ℕ := 8192

def envelopeFields : List String :=
  ["schema_version", "channel_id", "instrument_id", "source_key", "descriptor_revision",
    "descriptor_hash", "descriptor"]

/-- `_FIELDS` of a descriptor. -/
def descriptorFields : List String :=
  ["schema_version", "channel_id", "instrument_id", "source_key", "quantity", "unit", "role",
    "safety_class", "display_group", "display_name", "visible_by_default", "display_order",
    "descriptor_revision"]

/-- What reading an envelope raises: a message, a document that is not strict JSON, the missing and
the extra keys of an object, or one of these inside. -/
inductive EnvelopeRefusal
  | fault (fault : Fault)
  | json
  | keys (path : String) (missing extra : List String)
  | inside (message : String) (cause : EnvelopeRefusal)
deriving DecidableEq, Repr

/-- `_verified_descriptor`; a checked descriptor is the one that is made of its fields again. -/
def verifiedDescriptor (descriptor : ChannelDescriptorV1 p) :
    Except EnvelopeRefusal (ChannelDescriptorV1 p) := do
  let _ ← (channelCatalog [descriptor] []).mapError fun cause =>
    .inside "descriptor integrity" (.fault cause)
  return descriptor

/-- `json.loads(verified.canonical_json)`; this always reads. -/
def descriptorDocument (d : DescriptorFields) : Json :=
  (Json.loadsBytes .plain d.canonicalJson).getD .null

/-- `payload` -/
def envelopeDocument (d : ChannelDescriptorV1 p) : Json :=
  .obj [("schema_version", .int 1),
    ("channel_id", .str (textOf d.channelId)),
    ("instrument_id", .str (textOf d.instrumentId)),
    ("source_key", .str (textOf d.sourceKey)),
    ("descriptor_revision", .int d.descriptorRevision),
    ("descriptor_hash", .str d.descriptorHash),
    ("descriptor", descriptorDocument d.toDescriptorFields)]

structure EnvelopeArguments (p : Platform) where
  schemaVersion : Given
  channelId : Given
  instrumentId : Given
  sourceKey : Given
  descriptorRevision : Given
  descriptorHash : Given
  descriptor : ChannelDescriptorV1 p

structure PersistedChannelEnvelopeV1 (p : Platform) where
  schemaVersion : ℤ
  channelId : CodePoints
  instrumentId : CodePoints
  sourceKey : CodePoints
  descriptorRevision : ℤ
  descriptorHash : CodePoints
  descriptor : ChannelDescriptorV1 p
  canonicalJson : ByteArray

def exactAnchors : Given → Given → Given → Except EnvelopeRefusal (CodePoints × CodePoints × CodePoints)
  | .text channelId, .text instrumentId, .text sourceKey => .ok (channelId, instrumentId, sourceKey)
  | _, _, _ => .error (.fault (.type "envelope identity anchors must be exact strings"))

/-- `type(value) is int` -/
def exactRevision : Given → Except EnvelopeRefusal ℤ
  | .int revision => .ok revision
  | _ => .error (.fault (.type "descriptor_revision must be exactly an integer"))

/-- `type(value) is str` -/
def exactHash : Given → Except EnvelopeRefusal CodePoints
  | .text hash => .ok hash
  | _ => .error (.fault (.type "descriptor_hash must be exactly a string"))

/-- `PersistedChannelEnvelopeV1(…)` -/
def constructEnvelope (a : EnvelopeArguments p) :
    Except EnvelopeRefusal (PersistedChannelEnvelopeV1 p) := do
  ensure (a.schemaVersion = .int 1) (.fault (.envelope "schema_version must be the integer 1"))
  let anchors ← exactAnchors a.channelId a.instrumentId a.sourceKey
  let revision ← exactRevision a.descriptorRevision
  let hash ← exactHash a.descriptorHash
  let verified ← verifiedDescriptor a.descriptor
  ensure ((anchors, revision, hash) =
      (verified.anchor, verified.descriptorRevision, codePoints verified.descriptorHash))
    (.fault (.envelope "envelope identity does not match descriptor document"))
  let canonical := canonicalBytes (envelopeDocument verified)
  ensure (canonical.size ≤ maxPersistedEnvelopeBytes)
    (.fault (.envelope "persisted descriptor envelope exceeds byte limit"))
  return ⟨1, anchors.1, anchors.2.1, anchors.2.2, revision, hash, verified, canonical⟩

def ChannelDescriptorV1.envelopeArguments (d : ChannelDescriptorV1 p) : EnvelopeArguments p where
  schemaVersion := .int 1
  channelId := .text d.channelId
  instrumentId := .text d.instrumentId
  sourceKey := .text d.sourceKey
  descriptorRevision := .int d.descriptorRevision
  descriptorHash := .text (codePoints d.descriptorHash)
  descriptor := d

def fromDescriptor (descriptor : ChannelDescriptorV1 p) :
    Except EnvelopeRefusal (PersistedChannelEnvelopeV1 p) := do
  let verified ← verifiedDescriptor descriptor
  constructEnvelope verified.envelopeArguments

/-- A value of a document as an argument. -/
def Given.ofJson : Json → Given
  | .str s => .text (codePoints s)
  | .int n => .int n
  | .bool b => .bool b
  | _ => .other

def requireKeys (path : String) (expected : List String) (fields : List (String × Json)) :
    Except EnvelopeRefusal Unit :=
  let missing := expected.filter fun k => k ∉ fields.map Prod.fst
  let extra := (fields.map Prod.fst).filter fun k => k ∉ expected
  ensure (missing = [] ∧ extra = [])
    (.keys path (missing.insertionSort (· ≤ ·)) (extra.insertionSort (· ≤ ·)))

/-- `_enum` -/
def enumValue {α : Type} (path : String) (all : List α) (value : α → String) :
    Given → Except Fault α
  | .text s =>
      match all.find? fun a => codePoints (value a) = s with
      | some a => .ok a
      | none => .error (.config (path ++ " is not an allowed value"))
  | _ => .error (.config (path ++ " must be a string"))

/-- The members of `ChannelQuantity`. -/
def ChannelQuantity.all : List ChannelQuantity :=
  [.temperature, .rawSensor, .pressure, .length, .relativeHumidity, .voltage, .current,
    .resistance, .thermalResistance, .thermalConductance, .power, .derived, .eventState,
    .legacyUnknown]

/-- The members of `ChannelRole`. -/
def ChannelRole.all : List ChannelRole :=
  [.primaryMeasurement, .referenceMeasurement, .environment, .sourceReadback, .derived, .event,
    .legacyUnknown]

/-- The members of `ChannelSafetyClass`. -/
def ChannelSafetyClass.all : List ChannelSafetyClass :=
  [.observational, .safetyCriticalInput, .hazardousSourceReadback, .legacyUnknown]

/-- `fields[k]` -/
def given (fields : List (String × Json)) (k : String) : Given :=
  Given.ofJson ((fields.lookup k).getD .null)

/-- `ChannelDescriptorV1(…)`, as a descriptor. -/
def makeDescriptor (a : Arguments) : Except Fault (ChannelDescriptorV1 p) :=
  match h : construct p a with
  | .error fault => .error fault
  | .ok _ => .ok (.ofValid (construct_eq_ok.mp h).2)

/-- The descriptor of an object, with the enumerations looked up first. -/
def descriptorOf (path : String) (fields : List (String × Json)) :
    Except Fault (ChannelDescriptorV1 p) := do
  let quantity ← enumValue (path ++ ".quantity") ChannelQuantity.all ChannelQuantity.value
    (given fields "quantity")
  let role ← enumValue (path ++ ".role") ChannelRole.all ChannelRole.value
    (given fields "role")
  let safetyClass ← enumValue (path ++ ".safety_class") ChannelSafetyClass.all
    ChannelSafetyClass.value (given fields "safety_class")
  makeDescriptor
    { schemaVersion := given fields "schema_version"
      channelId := given fields "channel_id"
      instrumentId := given fields "instrument_id"
      sourceKey := given fields "source_key"
      quantity := quantity
      unit := given fields "unit"
      role := role
      safetyClass := safetyClass
      displayGroup := given fields "display_group"
      displayName := given fields "display_name"
      visibleByDefault := given fields "visible_by_default"
      displayOrder := given fields "display_order"
      descriptorRevision := given fields "descriptor_revision" }

def parseChannelDescriptor (path : String) : Json → Except EnvelopeRefusal (ChannelDescriptorV1 p)
  | .obj fields => do
      requireKeys path descriptorFields fields
      (descriptorOf path fields).mapError fun cause => .inside path (.fault cause)
  | _ => .error (.fault (.config (path ++ " must be a mapping")))

/-- `_reject_duplicate_keys`; its error is not told from those of the reader. -/
def rejectDuplicateKeys : Json.Hooks where
  pairs := fun pairs => if (pairs.map Prod.fst).Nodup then some pairs else none
  constant := fun x => some (.float x)
  float := fun x => some (.float x)

def decodePersistedChannelEnvelope (payload : ByteArray) :
    Except EnvelopeRefusal (PersistedChannelEnvelopeV1 p) := do
  ensure (payload.size ≠ 0 ∧ payload.size ≤ maxPersistedEnvelopeBytes)
    (.fault (.envelope "persisted channel envelope has invalid byte length"))
  match Json.loadsBytes rejectDuplicateKeys payload with
  | none => .error .json
  | some (.obj fields) => do
      requireKeys "persisted channel envelope" envelopeFields fields
      let envelope := do
        let descriptor ← parseChannelDescriptor "persisted.descriptor"
          ((fields.lookup "descriptor").getD .null)
        constructEnvelope
          { schemaVersion := given fields "schema_version"
            channelId := given fields "channel_id"
            instrumentId := given fields "instrument_id"
            sourceKey := given fields "source_key"
            descriptorRevision := given fields "descriptor_revision"
            descriptorHash := given fields "descriptor_hash"
            descriptor := descriptor }
      envelope.mapError fun cause => .inside "invalid persisted channel envelope" cause
  | some _ => .error (.fault (.envelope "persisted channel envelope must be a JSON object"))

def resolvePersistedChannel (payload : Option ByteArray) (legacy : ReadingTexts) :
    Except EnvelopeRefusal (ChannelDescriptorV1 p) :=
  match payload with
  | none => (makeDescriptor (legacyArguments p legacy.instrumentId legacy.channel
      legacy.unit)).mapError .fault
  | some payload => (decodePersistedChannelEnvelope payload).map fun e => e.descriptor

theorem utf8Width_eq_some {c : CodePoint} {w : ℕ} (h : utf8Width c = some w) :
    1 ≤ w ∧ c.val.isValidChar := by
  have hlt := c.isLt
  unfold utf8Width at h
  by_cases hsurrogate : 0xd800 ≤ c.val ∧ c.val < 0xe000
  · rw [if_neg (by omega), if_neg (by omega), if_pos hsurrogate] at h
    cases h
  refine ⟨?_, by
    unfold Nat.isValidChar
    omega⟩
  by_cases hone : c.val < 0x80
  · rw [if_pos hone] at h
    cases h
    decide
  by_cases htwo : c.val < 0x800
  · rw [if_neg hone, if_pos htwo] at h
    cases h
    decide
  rw [if_neg hone, if_neg htwo, if_neg hsurrogate] at h
  by_cases hthree : c.val < 0x10000
  · rw [if_pos hthree] at h
    cases h
    decide
  · rw [if_neg hthree] at h
    cases h
    decide

theorem codePoint_ofNat {c : CodePoint} (h : c.val.isValidChar) :
    codePoint (Char.ofNat c.val) = c := by
  refine Fin.ext ?_
  rw [Char.ofNat, dif_pos h]
  rfl

theorem utf8Length_eq_some {s : CodePoints} {n : ℕ} (h : utf8Length s = some n) :
    s.length ≤ n ∧ ∀ c ∈ s, c.val.isValidChar := by
  induction s generalizing n with
  | nil => exact ⟨Nat.zero_le n, fun c hc => absurd hc List.not_mem_nil⟩
  | cons c s ih =>
      rw [utf8Length] at h
      obtain ⟨w, hw, h⟩ := Option.bind_eq_some_iff.mp h
      obtain ⟨m, hm, h⟩ := Option.bind_eq_some_iff.mp h
      cases h
      obtain ⟨hpos, hvalid⟩ := utf8Width_eq_some hw
      obtain ⟨hlength, hrest⟩ := ih hm
      refine ⟨by rw [List.length_cons]; omega, fun d hd => ?_⟩
      rcases List.mem_cons.mp hd with rfl | hd
      · exact hvalid
      · exact hrest d hd

theorem codePoints_textOf {u : Unicode} {maximum : ℕ} {s : CodePoints}
    (h : BoundedText u maximum s) : codePoints (textOf s) = s := by
  obtain ⟨_, _, n, hn, _⟩ := h
  have hchars := (utf8Length_eq_some hn).2
  rw [codePoints, textOf, String.toList_ofList, List.map_map]
  exact (List.map_congr_left (g := id) fun c hc => codePoint_ofNat (hchars c hc)).trans
    (List.map_id s)

/-- A bounded text is written in at most six bytes for each byte it may have, and its quotes. -/
theorem textBytes_bounded {u : Unicode} {maximum : ℕ} {s : CodePoints}
    (h : BoundedText u maximum s) :
    Json.textBytes (Json.stringText false (textOf s)) ≤ 6 * maximum + 2 := by
  obtain ⟨_, _, n, hn, _, hmax⟩ := h
  have hlength := (utf8Length_eq_some hn).1
  have hbytes := Json.textBytes_stringText_le (textOf s)
  rw [textOf, String.toList_ofList, List.length_map] at hbytes
  exact hbytes.trans (by omega)

/-- A document whose bytes are read as they are written. -/
structure Written (v : Json) : Prop where
  distinct : v.Distinct
  dumps : ∃ t, Json.dumps false v = some t

theorem Written.loadsBytes {v : Json} (h : Written v) {hooks : Json.Hooks}
    (hhooks : hooks.Faithful) : Json.loadsBytes hooks (canonicalBytes v) = some v.sorted := by
  obtain ⟨t, ht⟩ := h.dumps
  rw [canonicalBytes, ht, Option.getD_some]
  change (String.fromUTF8? (String.ofList t).toUTF8).bind _ = _
  rw [Json.fromUTF8?_toUTF8, Option.bind_some, String.toList_ofList,
    Json.loads_dumps hhooks h.distinct ht]

theorem Written.size {v : Json} (h : Written v) : (canonicalBytes v).size = v.byteSize := by
  obtain ⟨t, ht⟩ := h.dumps
  rw [canonicalBytes, ht, Option.getD_some]
  exact Json.textBytes_dumps ht

theorem Written.sorted {v : Json} (h : Written v) : v.sorted.byteSize = v.byteSize := by
  obtain ⟨t, ht⟩ := h.dumps
  rw [← Json.textBytes_dumps (Json.dumps_sorted ht), Json.textBytes_dumps ht]

theorem rejectDuplicateKeys_faithful : rejectDuplicateKeys.Faithful where
  pairs _ hnodup := if_pos hnodup
  float _ _ := rfl

theorem document_eq (d : DescriptorFields) :
    ∃ fields, d.document = .obj fields ∧ fields.map Prod.fst = descriptorFields :=
  ⟨_, rfl, rfl⟩

theorem written_document (d : DescriptorFields) : Written d.document where
  distinct := by
    refine .obj (show descriptorFields.Nodup by decide) ?_
    simp only [List.forall_mem_cons, List.not_mem_nil, false_imp_iff, implies_true, and_true]
    exact ⟨.int _, .str _, .str _, .str _, .str _, .str _, .str _, .str _, .str _, .str _,
      .bool _, .int _, .int _⟩
  dumps := by
    refine Json.exists_dumps_obj ?_
    simp only [List.forall_mem_cons, List.not_mem_nil, false_imp_iff, implies_true, and_true]
    refine ⟨⟨_, rfl⟩, ⟨_, rfl⟩, ⟨_, rfl⟩, ⟨_, rfl⟩, ⟨_, rfl⟩, ⟨_, rfl⟩, ⟨_, rfl⟩, ⟨_, rfl⟩,
      ⟨_, rfl⟩, ⟨_, rfl⟩, ?_, ⟨_, rfl⟩, ⟨_, rfl⟩⟩
    cases d.visibleByDefault <;> exact ⟨_, rfl⟩

theorem descriptorDocument_eq (d : DescriptorFields) :
    descriptorDocument d = d.document.sorted := by
  rw [descriptorDocument, DescriptorFields.canonicalJson,
    (written_document d).loadsBytes Json.Hooks.plain_faithful, Option.getD_some]

theorem requireKeys_eq_ok {path : String} {expected : List String}
    {fields : List (String × Json)} {u : Unit} : requireKeys path expected fields = .ok u ↔
      ∀ k, k ∈ fields.map Prod.fst ↔ k ∈ expected := by
  simp only [requireKeys, ensure_eq_ok, List.filter_eq_nil_iff, decide_eq_true_eq, not_not]
  exact ⟨fun h k => ⟨h.2 k, h.1 k⟩, fun h => ⟨fun k => (h k).mpr, fun k => (h k).mp⟩⟩

theorem enumValue_value {α : Type} {all : List α} {value : α → String}
    (hinj : ∀ a ∈ all, ∀ b ∈ all, value a = value b → a = b) {path : String} {a : α}
    (ha : a ∈ all) : enumValue path all value (.text (codePoints (value a))) = .ok a := by
  unfold enumValue
  simp only [codePoints_inj]
  cases hfind : all.find? fun b => decide (value b = value a) with
  | none =>
      have hnone := List.find?_eq_none.mp hfind a ha
      exact absurd (decide_eq_true rfl) hnone
  | some b =>
      have hvalue : value b = value a :=
        of_decide_eq_true (List.find?_some (p := fun b => decide (value b = value a)) hfind)
      rw [hinj b (List.mem_of_find?_eq_some hfind) a ha hvalue]

theorem ChannelQuantity.enumValue_value (path : String) (quantity : ChannelQuantity) :
    enumValue path all value (.text (codePoints quantity.value)) = .ok quantity :=
  Channels.enumValue_value (by decide) (by cases quantity <;> decide)

theorem ChannelRole.enumValue_value (path : String) (role : ChannelRole) :
    enumValue path all value (.text (codePoints role.value)) = .ok role :=
  Channels.enumValue_value (by decide) (by cases role <;> decide)

theorem ChannelSafetyClass.enumValue_value (path : String) (safetyClass : ChannelSafetyClass) :
    enumValue path all value (.text (codePoints safetyClass.value)) = .ok safetyClass :=
  Channels.enumValue_value (by decide) (by cases safetyClass <;> decide)

theorem makeDescriptor_arguments (d : ChannelDescriptorV1 p) :
    makeDescriptor d.arguments = .ok d := by
  unfold makeDescriptor
  split
  case h_1 fault hfault =>
    rw [d.checked] at hfault
    cases hfault
  case h_2 e he =>
    rw [d.checked] at he
    cases he
    rfl

structure Carries (fields : List (String × Json)) (d : DescriptorFields) : Prop where
  schemaVersion : given fields "schema_version" = .int d.schemaVersion
  channelId : given fields "channel_id" = .text d.channelId
  instrumentId : given fields "instrument_id" = .text d.instrumentId
  sourceKey : given fields "source_key" = .text d.sourceKey
  quantity : given fields "quantity" = .text (codePoints d.quantity.value)
  unit : given fields "unit" = .text d.unit
  role : given fields "role" = .text (codePoints d.role.value)
  safetyClass : given fields "safety_class" = .text (codePoints d.safetyClass.value)
  displayGroup : given fields "display_group" = .text d.displayGroup
  displayName : given fields "display_name" = .text d.displayName
  visibleByDefault : given fields "visible_by_default" = .bool d.visibleByDefault
  displayOrder : given fields "display_order" = .int d.displayOrder
  descriptorRevision : given fields "descriptor_revision" = .int d.descriptorRevision

theorem given_sorted {document : List (String × Json)} (hnodup : (document.map Prod.fst).Nodup)
    {k : String} {v : Json} (hv : document.lookup k = some v) :
    given (Json.sortFields (Json.sortedFields document)) k = Given.ofJson v.sorted := by
  rw [given, Json.lookup_sorted hnodup, hv, Option.map_some, Option.getD_some]

theorem given_text {u : Unicode} {maximum : ℕ} {s : CodePoints} (h : BoundedText u maximum s)
    {document : List (String × Json)} (hnodup : (document.map Prod.fst).Nodup) {k : String}
    (hv : document.lookup k = some (.str (textOf s))) :
    given (Json.sortFields (Json.sortedFields document)) k = .text s := by
  rw [given_sorted hnodup hv]
  exact congrArg Given.text (codePoints_textOf h)

theorem carries_document (d : ChannelDescriptorV1 p) {document : List (String × Json)}
    (h : d.document = .obj document) :
    Carries (Json.sortFields (Json.sortedFields document)) d.toDescriptorFields := by
  have hnodup : (document.map Prod.fst).Nodup := by
    cases h
    exact (show descriptorFields.Nodup by decide)
  have hvalid := d.valid
  cases h
  exact
    { schemaVersion := given_sorted hnodup (v := .int _) rfl
      channelId := given_text hvalid.channelId.1 hnodup rfl
      instrumentId := given_text hvalid.instrumentId.1 hnodup rfl
      sourceKey := given_text hvalid.sourceKey.1 hnodup rfl
      quantity := given_sorted hnodup (v := .str _) rfl
      unit := given_text hvalid.unit hnodup rfl
      role := given_sorted hnodup (v := .str _) rfl
      safetyClass := given_sorted hnodup (v := .str _) rfl
      displayGroup := given_text hvalid.displayGroup hnodup rfl
      displayName := given_text hvalid.displayName hnodup rfl
      visibleByDefault := given_sorted hnodup (v := .bool _) rfl
      displayOrder := given_sorted hnodup (v := .int _) rfl
      descriptorRevision := given_sorted hnodup (v := .int _) rfl }

theorem descriptorOf_carries {fields : List (String × Json)} {d : ChannelDescriptorV1 p}
    (h : Carries fields d.toDescriptorFields) (path : String) :
    descriptorOf path fields = .ok d := by
  rw [descriptorOf, h.quantity, ChannelQuantity.enumValue_value, h.role,
    ChannelRole.enumValue_value, h.safetyClass, ChannelSafetyClass.enumValue_value,
    h.schemaVersion, h.channelId, h.instrumentId, h.sourceKey, h.unit, h.displayGroup,
    h.displayName, h.visibleByDefault, h.displayOrder, h.descriptorRevision]
  exact makeDescriptor_arguments d

theorem parse_document (d : ChannelDescriptorV1 p) (path : String) :
    parseChannelDescriptor path d.document.sorted = .ok d := by
  obtain ⟨document, hdocument, hkeys⟩ := document_eq d.toDescriptorFields
  have hfields : ∀ k, k ∈ (Json.sortFields (Json.sortedFields document)).map Prod.fst ↔
      k ∈ descriptorFields := fun k => by rw [Json.mem_keys_sorted, hkeys]
  rw [hdocument, Json.sorted, parseChannelDescriptor, bind_eq_ok]
  exact ⟨(), requireKeys_eq_ok.mpr hfields, mapError_eq_ok.mpr
    (descriptorOf_carries (carries_document d hdocument) path)⟩

theorem descriptor_eq_of_canonicalJson {d e : ChannelDescriptorV1 p}
    (h : d.canonicalJson = e.canonicalJson) : d = e := by
  have hread (d : ChannelDescriptorV1 p) :
      (Json.loadsBytes .plain d.canonicalJson).map (parseChannelDescriptor (p := p) "") =
        some (.ok d) := by
    rw [DescriptorFields.canonicalJson,
      (written_document d.toDescriptorFields).loadsBytes Json.Hooks.plain_faithful,
      Option.map_some, parse_document]
  have hsame := hread d
  rw [h, hread e] at hsame
  cases hsame
  rfl

theorem ChannelQuantity.byteSize_value (quantity : ChannelQuantity) :
    (Json.str quantity.value).byteSize ≤ 30 := by
  rw [Json.byteSize, Json.textBytes_plain (by cases quantity <;> decide)]
  cases quantity <;> decide

theorem ChannelRole.byteSize_value (role : ChannelRole) :
    (Json.str role.value).byteSize ≤ 30 := by
  rw [Json.byteSize, Json.textBytes_plain (by cases role <;> decide)]
  cases role <;> decide

theorem ChannelSafetyClass.byteSize_value (safetyClass : ChannelSafetyClass) :
    (Json.str safetyClass.value).byteSize ≤ 30 := by
  rw [Json.byteSize, Json.textBytes_plain (by cases safetyClass <;> decide)]
  cases safetyClass <;> decide

theorem byteSize_text {u : Unicode} {maximum : ℕ} {s : CodePoints}
    (h : BoundedText u maximum s) : (Json.str (textOf s)).byteSize ≤ 6 * maximum + 2 := by
  rw [Json.byteSize]
  exact textBytes_bounded h

theorem byteSize_int {n : ℤ} (hpos : 0 ≤ n) (hmax : n ≤ maxInt32) :
    (Json.int n).byteSize ≤ 10 := by
  rw [maxInt32] at hmax
  rw [Json.byteSize, Json.textBytes_repr hpos]
  exact (Nat.length_toDigits_le_iff (by decide) (by decide)).mpr (by omega)

theorem byteSize_bool (b : Bool) : (Json.bool b).byteSize ≤ 5 := by
  cases b <;> decide

theorem byteSize_document (d : ChannelDescriptorV1 p) : d.document.byteSize ≤ 4757 := by
  have hvalid := d.valid
  have hschema : (Json.int d.schemaVersion).byteSize ≤ 10 := by
    rw [hvalid.schemaVersion]
    exact byteSize_int (by decide) (by decide)
  refine (Json.byteSize_obj_le descriptorFields
    [10, 770, 770, 770, 30, 194, 30, 30, 386, 1538, 5, 10, 10] rfl (by decide) ?_).trans
    (by decide)
  have hrevision := hvalid.descriptorRevision
  simp only [List.forall₂_cons, List.forall₂_nil_left_iff, and_true]
  exact ⟨hschema, byteSize_text hvalid.channelId.1, byteSize_text hvalid.instrumentId.1,
    byteSize_text hvalid.sourceKey.1, d.quantity.byteSize_value, byteSize_text hvalid.unit,
    d.role.byteSize_value, d.safetyClass.byteSize_value, byteSize_text hvalid.displayGroup,
    byteSize_text hvalid.displayName, byteSize_bool _,
    byteSize_int hvalid.displayOrder.1 hvalid.displayOrder.2,
    byteSize_int (by omega) hrevision.2⟩

theorem descriptorHash_length (d : ChannelDescriptorV1 p) :
    d.descriptorHash.toList.length = 71 := by
  have hdigest := p.hexdigest_length d.canonicalJson.toList
  rw [← String.length_toList] at hdigest
  rw [ChannelDescriptorV1.descriptorHash, String.toList_append, List.length_append, hdigest]
  rfl

theorem written_envelope (d : ChannelDescriptorV1 p) : Written (envelopeDocument d) where
  distinct := by
    refine .obj (show envelopeFields.Nodup by decide) ?_
    simp only [List.forall_mem_cons, List.not_mem_nil, false_imp_iff, implies_true, and_true]
    refine ⟨.int _, .str _, .str _, .str _, .int _, .str _, ?_⟩
    rw [descriptorDocument_eq]
    exact (written_document d.toDescriptorFields).distinct.sorted
  dumps := by
    refine Json.exists_dumps_obj ?_
    simp only [List.forall_mem_cons, List.not_mem_nil, false_imp_iff, implies_true, and_true]
    refine ⟨⟨_, rfl⟩, ⟨_, rfl⟩, ⟨_, rfl⟩, ⟨_, rfl⟩, ⟨_, rfl⟩, ⟨_, rfl⟩, ?_⟩
    obtain ⟨t, ht⟩ := (written_document d.toDescriptorFields).dumps
    rw [descriptorDocument_eq]
    exact ⟨t, Json.dumps_sorted ht⟩

theorem size_envelope (d : ChannelDescriptorV1 p) :
    (canonicalBytes (envelopeDocument d)).size ≤ maxPersistedEnvelopeBytes := by
  have hvalid := d.valid
  have hrevision := hvalid.descriptorRevision
  have hhash : (Json.str d.descriptorHash).byteSize ≤ 428 := by
    have hle := Json.textBytes_stringText_le d.descriptorHash
    rw [descriptorHash_length] at hle
    exact hle
  have hdocument : (descriptorDocument d.toDescriptorFields).byteSize ≤ 4757 := by
    rw [descriptorDocument_eq, (written_document d.toDescriptorFields).sorted]
    exact byteSize_document d
  rw [(written_envelope d).size]
  refine (Json.byteSize_obj_le envelopeFields [10, 770, 770, 770, 10, 428, 4757] rfl (by decide)
    ?_).trans (by decide)
  simp only [List.forall₂_cons, List.forall₂_nil_left_iff, and_true]
  exact ⟨byteSize_int (by decide) (by decide), byteSize_text hvalid.channelId.1,
    byteSize_text hvalid.instrumentId.1, byteSize_text hvalid.sourceKey.1,
    byteSize_int (by omega) hrevision.2, hhash, hdocument⟩

def envelopeOf (d : ChannelDescriptorV1 p) : PersistedChannelEnvelopeV1 p where
  schemaVersion := 1
  channelId := d.channelId
  instrumentId := d.instrumentId
  sourceKey := d.sourceKey
  descriptorRevision := d.descriptorRevision
  descriptorHash := codePoints d.descriptorHash
  descriptor := d
  canonicalJson := canonicalBytes (envelopeDocument d)

theorem verifiedDescriptor_eq_ok {d e : ChannelDescriptorV1 p} :
    verifiedDescriptor d = .ok e ↔ d.quantity ≠ .legacyUnknown ∧ d = e := by
  simp only [verifiedDescriptor, bind_eq_ok, mapError_eq_ok, pure_eq_ok, exists_and_right,
    channelCatalog_eq_ok, catalogOk_singleton]

theorem exactAnchors_eq_ok {a b c : Given} {anchors : CodePoints × CodePoints × CodePoints} :
    exactAnchors a b c = .ok anchors ↔
      a = .text anchors.1 ∧ b = .text anchors.2.1 ∧ c = .text anchors.2.2 := by
  constructor
  · intro h
    unfold exactAnchors at h
    split at h
    · cases h
      exact ⟨rfl, rfl, rfl⟩
    · cases h
  · rintro ⟨rfl, rfl, rfl⟩
    rfl

theorem exactRevision_eq_ok {a : Given} {n : ℤ} : exactRevision a = .ok n ↔ a = .int n := by
  cases a <;> simp [exactRevision]

theorem exactHash_eq_ok {a : Given} {s : CodePoints} : exactHash a = .ok s ↔ a = .text s := by
  cases a <;> simp [exactHash]

theorem constructEnvelope_eq_ok {a : EnvelopeArguments p} {e : PersistedChannelEnvelopeV1 p} :
    constructEnvelope a = .ok e ↔ a = a.descriptor.envelopeArguments ∧
      a.descriptor.quantity ≠ .legacyUnknown ∧ e = envelopeOf a.descriptor := by
  obtain ⟨schema, channelId, instrumentId, sourceKey, revision, hash, d⟩ := a
  simp only [constructEnvelope, bind_eq_ok, ensure_eq_ok, exists_unit, pure_eq_ok,
    verifiedDescriptor_eq_ok, exactAnchors_eq_ok, exactRevision_eq_ok, exactHash_eq_ok,
    ChannelDescriptorV1.envelopeArguments, EnvelopeArguments.mk.injEq]
  constructor
  · rintro ⟨hschema, anchors, ⟨hchannel, hinstrument, hsource⟩, n, hrevision, s, hhash, _,
      ⟨hquantity, rfl⟩, hsame, _, rfl⟩
    cases hsame
    exact ⟨⟨hschema, hchannel, hinstrument, hsource, hrevision, hhash, trivial⟩, hquantity, rfl⟩
  · rintro ⟨⟨hschema, hchannel, hinstrument, hsource, hrevision, hhash, _⟩, hquantity, rfl⟩
    exact ⟨hschema, d.anchor, ⟨hchannel, hinstrument, hsource⟩, _, hrevision, _, hhash, d,
      ⟨hquantity, rfl⟩, rfl, size_envelope d, rfl⟩

theorem fromDescriptor_eq_ok {d : ChannelDescriptorV1 p} {e : PersistedChannelEnvelopeV1 p} :
    fromDescriptor d = .ok e ↔ d.quantity ≠ .legacyUnknown ∧ e = envelopeOf d := by
  simp only [fromDescriptor, bind_eq_ok, verifiedDescriptor_eq_ok, constructEnvelope_eq_ok]
  constructor
  · rintro ⟨_, ⟨hquantity, rfl⟩, _, _, rfl⟩
    exact ⟨hquantity, rfl⟩
  · rintro ⟨hquantity, rfl⟩
    exact ⟨d, ⟨hquantity, rfl⟩, rfl, hquantity, rfl⟩

theorem arguments_envelope (d : ChannelDescriptorV1 p) {document : List (String × Json)}
    (h : envelopeDocument d = .obj document) :
    let fields := Json.sortFields (Json.sortedFields document)
    parseChannelDescriptor "persisted.descriptor" ((fields.lookup "descriptor").getD .null) =
      .ok d ∧
    (⟨given fields "schema_version", given fields "channel_id", given fields "instrument_id",
      given fields "source_key", given fields "descriptor_revision",
      given fields "descriptor_hash", d⟩ : EnvelopeArguments p) = d.envelopeArguments := by
  have hvalid := d.valid
  have hnodup : (document.map Prod.fst).Nodup := by
    cases h
    exact (show envelopeFields.Nodup by decide)
  cases h
  refine ⟨?_, ?_⟩
  · rw [Json.lookup_sorted hnodup]
    change parseChannelDescriptor _ (descriptorDocument d.toDescriptorFields).sorted = _
    rw [descriptorDocument_eq, Json.sorted_sorted]
    exact parse_document d _
  · rw [given_sorted hnodup (v := .int _) rfl, given_text hvalid.channelId.1 hnodup rfl,
      given_text hvalid.instrumentId.1 hnodup rfl, given_text hvalid.sourceKey.1 hnodup rfl,
      given_sorted hnodup (v := .int _) rfl, given_sorted hnodup (v := .str _) rfl]
    rfl

theorem decode_envelopeOf {d : ChannelDescriptorV1 p} (hquantity : d.quantity ≠ .legacyUnknown) :
    decodePersistedChannelEnvelope (envelopeOf d).canonicalJson = .ok (envelopeOf d) := by
  have hwritten := written_envelope d
  have hpos : (canonicalBytes (envelopeDocument d)).size ≠ 0 := by
    rw [hwritten.size, envelopeDocument, Json.byteSize]
    omega
  obtain ⟨document, hdocument, hkeys⟩ : ∃ document, envelopeDocument d = .obj document ∧
      document.map Prod.fst = envelopeFields := ⟨_, rfl, rfl⟩
  obtain ⟨hparse, harguments⟩ := arguments_envelope d hdocument
  have hread : Json.loadsBytes rejectDuplicateKeys (envelopeOf d).canonicalJson =
      some (.obj (Json.sortFields (Json.sortedFields document))) := by
    rw [envelopeOf, hwritten.loadsBytes rejectDuplicateKeys_faithful, hdocument, Json.sorted]
  have hfields : ∀ k, k ∈ (Json.sortFields (Json.sortedFields document)).map Prod.fst ↔
      k ∈ envelopeFields := fun k => by rw [Json.mem_keys_sorted, hkeys]
  simp only [decodePersistedChannelEnvelope, hread, bind_eq_ok, ensure_eq_ok, exists_unit,
    mapError_eq_ok, constructEnvelope_eq_ok]
  exact ⟨⟨hpos, size_envelope d⟩, requireKeys_eq_ok.mpr hfields, d, hparse, harguments,
    hquantity, rfl⟩

theorem decode_eq_ok {payload : ByteArray} {e : PersistedChannelEnvelopeV1 p}
    (h : decodePersistedChannelEnvelope payload = .ok e) :
    e.descriptor.quantity ≠ .legacyUnknown ∧ e = envelopeOf e.descriptor := by
  simp only [decodePersistedChannelEnvelope, bind_eq_ok, ensure_eq_ok, exists_unit] at h
  obtain ⟨_, h⟩ := h
  split at h
  case h_1 => cases h
  case h_2 fields _ =>
    simp only [bind_eq_ok, exists_unit, mapError_eq_ok, constructEnvelope_eq_ok] at h
    obtain ⟨_, d, _, _, hquantity, rfl⟩ := h
    exact ⟨hquantity, rfl⟩
  case h_3 => cases h

theorem makeDescriptor_eq_ok {a : Arguments} {d : ChannelDescriptorV1 p} :
    makeDescriptor a = .ok d ↔ a = d.arguments := by
  constructor
  · intro h
    unfold makeDescriptor at h
    split at h
    case h_1 => cases h
    case h_2 e he =>
      cases h
      exact (construct_eq_ok.mp he).1
  · rintro rfl
    exact makeDescriptor_arguments d

theorem resolvePersistedChannel_eq_ok {payload : Option ByteArray} {legacy : ReadingTexts}
    {d : ChannelDescriptorV1 p} (h : resolvePersistedChannel payload legacy = .ok d) :
    d.quantity = .legacyUnknown ↔ payload = none := by
  cases payload with
  | none =>
      rw [resolvePersistedChannel, mapError_eq_ok, makeDescriptor_eq_ok] at h
      exact ⟨fun _ => rfl, fun _ => (congrArg Arguments.quantity h).symm⟩
  | some payload =>
      rw [resolvePersistedChannel] at h
      cases hdecode : decodePersistedChannelEnvelope (p := p) payload with
      | error cause =>
          rw [hdecode] at h
          cases h
      | ok e =>
          rw [hdecode] at h
          cases h
          exact ⟨fun hlegacy => absurd hlegacy (decode_eq_ok hdecode).1,
            fun hnone => by cases hnone⟩

/-- Envelopes are a canonical encoding of the authoritative descriptors.  Each has one, which is
read back as it was written and resolved to the descriptor; what is read agrees with its descriptor
and is written as the envelope of that descriptor; and neither descriptors nor envelopes that differ
share their bytes. -/
theorem persisted_envelope_canonical (p : Platform) :
    (∀ d : ChannelDescriptorV1 p, d.quantity ≠ .legacyUnknown ↔ ∃ e, fromDescriptor d = .ok e) ∧
    (∀ (d : ChannelDescriptorV1 p) e, fromDescriptor d = .ok e →
      e.descriptor = d ∧ decodePersistedChannelEnvelope e.canonicalJson = .ok e) ∧
    (∀ payload (e : PersistedChannelEnvelopeV1 p),
      decodePersistedChannelEnvelope payload = .ok e →
        (e.channelId, e.instrumentId, e.sourceKey) = e.descriptor.anchor ∧
        e.descriptorRevision = e.descriptor.descriptorRevision ∧
        e.descriptorHash = codePoints e.descriptor.descriptorHash ∧
        fromDescriptor e.descriptor = .ok e ∧
        decodePersistedChannelEnvelope e.canonicalJson = .ok e) ∧
    (∀ d e : ChannelDescriptorV1 p, d.canonicalJson = e.canonicalJson → d = e) ∧
    (∀ (c d : ChannelDescriptorV1 p) e f, fromDescriptor c = .ok e → fromDescriptor d = .ok f →
      e.canonicalJson = f.canonicalJson → c = d) ∧
    (∀ (d : ChannelDescriptorV1 p) e legacy, fromDescriptor d = .ok e →
      resolvePersistedChannel (some e.canonicalJson) legacy = .ok d) ∧
    (∀ payload legacy (d : ChannelDescriptorV1 p),
      resolvePersistedChannel payload legacy = .ok d →
        (d.quantity = .legacyUnknown ↔ payload = none)) := by
  have hback : ∀ (d : ChannelDescriptorV1 p) e, fromDescriptor d = .ok e →
      e.descriptor = d ∧ decodePersistedChannelEnvelope e.canonicalJson = .ok e := by
    intro d e h
    obtain ⟨hquantity, rfl⟩ := fromDescriptor_eq_ok.mp h
    exact ⟨rfl, decode_envelopeOf hquantity⟩
  refine ⟨fun d => ?_, hback, fun payload e h => ?_, fun d e => descriptor_eq_of_canonicalJson,
    fun c d e f hc hd hbytes => ?_, fun d e legacy h => ?_,
    fun payload legacy d => resolvePersistedChannel_eq_ok⟩
  · exact ⟨fun hquantity => ⟨_, fromDescriptor_eq_ok.mpr ⟨hquantity, rfl⟩⟩,
      fun ⟨e, he⟩ => (fromDescriptor_eq_ok.mp he).1⟩
  · obtain ⟨hquantity, he⟩ := decode_eq_ok h
    have hfrom : fromDescriptor e.descriptor = .ok e := fromDescriptor_eq_ok.mpr ⟨hquantity, he⟩
    rw [he]
    exact ⟨rfl, rfl, rfl, he ▸ hfrom, he ▸ (hback _ _ hfrom).2⟩
  · have hsame : f = e := by
      have hread := (hback c e hc).2
      rw [hbytes, (hback d f hd).2] at hread
      exact Except.ok.inj hread
    rw [← (hback c e hc).1, ← hsame, (hback d f hd).1]
  · obtain ⟨hdescriptor, hread⟩ := hback d e h
    rw [resolvePersistedChannel, hread, ← hdescriptor]
    rfl

end Channels
end CryoDaq
