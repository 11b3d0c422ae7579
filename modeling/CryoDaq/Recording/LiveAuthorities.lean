import CryoDaq.Channels.Descriptor
import CryoDaq.Python.Json
import CryoDaq.Recording.RecordingOwner

/-!
# The live adapters of the owners

`LiveRecordingExperimentAuthority` and `LiveIntegrityPersistenceAuthority` project
the snapshot of an owner into a receipt of a common cut.  Everything in the
snapshot is checked again, by the adapter and by the constructor of the receipt;
when a check fails, the receipt says UNAVAILABLE.

**Texts.**  The owners, the adapters and the receipts each have a rule for texts of
their own: `textFault`, `exactText` and `boundedText`.

**Tokens.**  A receipt carries a digest of its snapshot.  An adapter keeps the
revision and the token of the last receipt that was available, and refuses
another token for the same revision.
-/

namespace CryoDaq
namespace Recording

open Channels ObjectGraph Storage Text

/-- `_bounded_text` of the recording owner and `_text` of the persistence owner. -/
def textFault (p : Platform) (limit : ℕ) (value : String) : Option TextFault :=
  if value = "" ∨ value ≠ strip value then some .inexact
  else
    match utf8Length (codePoints value) with
    | none => some .encoding
    | some encoded =>
        if codePoints value ≠ p.normalize (codePoints value) ∨ limit < encoded then
          some .unbounded
        else if (codePoints value).any p.isControl then some .control
        else none

/-- `_exact_text` of the adapters. -/
def exactText (p : Platform) (limit : ℕ) (value : String) : Except Refusal String :=
  if value = "" ∨ value ≠ strip value then
    .error (.value "owner snapshot identity must be exact non-empty text")
  else
    match utf8Length (codePoints value) with
    | none => .error (.value "surrogates not allowed")
    | some encoded =>
        if limit < encoded ∨ codePoints value ≠ p.normalize (codePoints value) then
          .error (.value "owner snapshot identity exceeds its bounded text contract")
        else if (codePoints value).any p.isControl then
          .error (.value "owner snapshot identity contains forbidden control text")
        else .ok value

def isSeparator (p : Platform) (c : CodePoint) : Bool :=
  p.category c = "Zl" || p.category c = "Zp"

/-- `_bounded_text` of the receipts. -/
def boundedText (p : Platform) (field : String) (limit : ℕ) (value : String) :
    Except Refusal String :=
  if value = "" ∨ value ≠ strip value then
    .error (.value (field ++ " must be non-empty exact text without surrounding whitespace"))
  else
    match utf8Length (codePoints value) with
    | none => .error (.value (field ++ " must be valid UTF-8 text"))
    | some encoded =>
        if codePoints value ≠ p.normalize (codePoints value) then
          .error (.value (field ++ " must use exact NFC text"))
        else if limit < encoded ∨
            (codePoints value).any (fun c => p.isControl c || isSeparator p c) then
          .error (.value (field ++ " exceeds its bounded text contract"))
        else .ok value

def optionalText (check : String → Except Refusal String) : Option String → Except Refusal Unit
  | none => .ok ()
  | some value => do
      let _ ← check value
      pure ()

def requiredText (check : String → Except Refusal String) :
    Option String → Except Refusal String
  | none => .error (.value "owner snapshot identity must be exact non-empty text")
  | some value => check value

/-- A lowercase hexadecimal digit. -/
def isHex (c : Char) : Bool := ('0' ≤ c && c ≤ '9') || ('a' ≤ c && c ≤ 'f')

/-- `_GENERATION_RE.fullmatch(value)` -/
def isGeneration (value : String) : Bool := value.length = 32 && value.toList.all isHex

/-- `_generation_id` of the adapters. -/
def generationId (p : Platform) (value : String) : Except Refusal String := do
  let generation ← exactText p maxIdUtf8Bytes value
  ensure (isGeneration generation = true)
    (.value "owner generation must be exact lowercase 128-bit hex")
  pure generation

def exactRevision (minimum value : ℕ) : Except Refusal ℕ := do
  ensure (minimum ≤ value ∧ value ≤ maxNonnegativeInt)
    (.value "revision or count is outside the signed 63-bit contract")
  pure value

/-! ## Outcomes about the persistence -/

/-- The texts that the constructor of a persistence outcome checks. -/
def receiptTexts (s : Signed) : List (String × ℕ × Option String) :=
  ("recording_epoch_id", maxIdUtf8Bytes, some s.recordingEpochId) ::
    match s.outcome with
    | .lifecycle _ => []
    | .durableAppend appendId destinationId _ =>
        [("append_id", maxIdUtf8Bytes, some appendId),
          ("destination_id", maxIdUtf8Bytes, some destinationId)]
    | .directCommit _ destinationId _ =>
        [("destination_id", maxIdUtf8Bytes, some destinationId)]
    | .materialized join =>
        [("append_id", maxIdUtf8Bytes, some join.appendId),
          ("destination_id", maxIdUtf8Bytes, some join.destinationId)]
    | .acknowledged join =>
        [("append_id", maxIdUtf8Bytes, some join.appendId),
          ("destination_id", maxIdUtf8Bytes, some join.destinationId)]
    | .failure fields =>
        [("failure_id", maxIdUtf8Bytes, some fields.failureId),
          ("append_id", maxIdUtf8Bytes, fields.append.map Prod.fst),
          ("reason", maxReasonUtf8Bytes, some fields.reason)]
    | .archive _ destinationId => [("destination_id", maxIdUtf8Bytes, some destinationId)]

def constructOutcome {τ : Type} (p : Platform) (A : OutcomeAuthority τ) (s : Signed) :
    Except Refusal (Storage.Receipt τ) :=
  match textError (textFault p) (receiptTexts s) with
  | some e => .error e
  | none => .ok (A.issue s)

structure CommonCut where
  generation : ℕ
  token : String
  observedAt : Timestamp
deriving DecidableEq

inductive AuthorityAvailability
  | available
  | unavailable
deriving DecidableEq, Repr

inductive RecordingTruth
  | recording
  | notRecording
  | unknown
  | replayOnly
deriving DecidableEq, Repr

def RecordingTruth.value : RecordingTruth → String
  | .recording => "recording"
  | .notRecording => "not_recording"
  | .unknown => "unknown"
  | .replayOnly => "replay_only"

def availabilityValue : Availability → String
  | .available => "available"
  | .unavailable => "unavailable"
  | .unknown => "unknown"

structure AuthorityReceipt where
  cut : CommonCut
  revision : ℕ
  token : String
  availability : AuthorityAvailability
  unavailableReason : Option String
deriving DecidableEq

def authorityToken (revision : ℕ) (value : String) : Except Refusal Unit :=
  let expected := ("authority-v1:" ++ revision.repr ++ ":").toList
  ensure (expected <+: value.toList ∧ (value.toList.drop expected.length).length = 64 ∧
      (value.toList.drop expected.length).all isHex = true)
    (.value "token must be authority-v1:<revision>:<64 lowercase hex>")

/-- `AuthorityReceipt.__post_init__` -/
def AuthorityReceipt.check (p : Platform) (r : AuthorityReceipt) : Except Refusal Unit := do
  ensure (r.revision ≤ maxNonnegativeInt)
    (.value "revision must be an integer in [0, 9223372036854775807]")
  authorityToken r.revision r.token
  ensure (r.availability = .available → 1 ≤ r.revision)
    (.value "available authority receipt revision must be at least 1")
  ensure (r.availability = .unavailable → r.revision = 0)
    (.value "unavailable authority receipt revision must be zero")
  optionalText (boundedText p "unavailable_reason" maxReasonUtf8Bytes) r.unavailableReason
  ensure ((r.availability = .unavailable) ↔ r.unavailableReason.isSome = true)
    (.value
      "unavailable receipts require exactly one bounded reason; available receipts forbid it")

structure ExperimentReceipt extends AuthorityReceipt where
  experimentId : Option String
  experimentName : Option String
  phase : Option String
  recording : RecordingTruth
  recordingSessionId : Option String
deriving DecidableEq

/-- What the fields of a receipt about an experiment say together. -/
def ExperimentReceipt.checkDomain (r : ExperimentReceipt) : Except Refusal Unit :=
  if r.availability = .unavailable then
    ensure (r.experimentId = none ∧ r.experimentName = none ∧ r.phase = none ∧
        r.recordingSessionId = none ∧ r.recording = .unknown)
      (.value "unavailable experiment receipt must carry only unknown/absent domain fields")
  else
    ensure (r.recording = .recording →
        r.experimentId.isSome = true ∧ r.recordingSessionId.isSome = true)
      (.value "RECORDING requires experiment and recording-session identity")

/-- `ExperimentReceipt.__post_init__` -/
def ExperimentReceipt.construct (p : Platform) (r : ExperimentReceipt) :
    Except Refusal ExperimentReceipt := do
  r.toAuthorityReceipt.check p
  optionalText (boundedText p "experiment_id" maxIdUtf8Bytes) r.experimentId
  optionalText (boundedText p "experiment_name" maxIdUtf8Bytes) r.experimentName
  optionalText (boundedText p "phase" maxIdUtf8Bytes) r.phase
  optionalText (boundedText p "recording_session_id" maxIdUtf8Bytes) r.recordingSessionId
  r.checkDomain
  ensure (r.recording ≠ .recording → r.recordingSessionId = none)
    (.value "only RECORDING may carry recording_session_id")
  pure r

structure IntegrityPersistenceReceipt extends AuthorityReceipt where
  persistedRevision : Option ℕ
  archiveRevision : Option ℕ
  pendingRecords : Option ℕ
  droppedRecords : Option ℕ
  storage : Availability
deriving DecidableEq

def receiptCounter (field : String) (value : Option ℕ) : Except Refusal Unit :=
  ensure (value.all (· ≤ maxNonnegativeInt) = true)
    (.value (field ++ " must be an integer in [0, 9223372036854775807]"))

/-- What the fields of a receipt about the persistence say together. -/
def IntegrityPersistenceReceipt.checkDomain (r : IntegrityPersistenceReceipt) :
    Except Refusal Unit :=
  if r.availability = .unavailable then
    ensure (r.persistedRevision = none ∧ r.archiveRevision = none ∧ r.pendingRecords = none ∧
        r.droppedRecords = none ∧ r.storage = .unknown)
      (.value "unavailable integrity receipt must carry only unknown/absent domain fields")
  else
    ensure (r.persistedRevision.isSome = true ∧ r.pendingRecords.isSome = true ∧
        r.droppedRecords.isSome = true)
      (.value "available integrity receipt requires persisted, pending, and dropped counters")

/-- `IntegrityPersistenceReceipt.__post_init__` -/
def IntegrityPersistenceReceipt.construct (p : Platform) (r : IntegrityPersistenceReceipt) :
    Except Refusal IntegrityPersistenceReceipt := do
  r.toAuthorityReceipt.check p
  receiptCounter "persisted_revision" r.persistedRevision
  receiptCounter "archive_revision" r.archiveRevision
  receiptCounter "pending_records" r.pendingRecords
  receiptCounter "dropped_records" r.droppedRecords
  r.checkDomain
  pure r

/-- `_token` -/
def tokenOf (p : Platform) (revision : ℕ) (domain payload : String) : String :=
  "authority-v1:" ++ revision.repr ++ ":" ++
    p.hexdigest (domain ++ "-v1:" ++ revision.repr ++ ":" ++ payload).toUTF8.toList

/-- `json.dumps(items, ensure_ascii=False, separators=(",", ":"))` -/
def payloadText (items : List Json) : Except Refusal String :=
  match Json.dumps false (.arr items) with
  | none => .error (.value "Out of range float values are not JSON compliant")
  | some text => .ok (String.ofList text)

def jsonText : Option String → Json
  | none => .null
  | some s => .str s

def jsonNumber : Option ℕ → Json
  | none => .null
  | some n => .int n

def unavailable (p : Platform) (cut : CommonCut) (reason : String) : AuthorityReceipt where
  cut := cut
  revision := 0
  token := tokenOf p 0 "unavailable" reason
  availability := .unavailable
  unavailableReason := some reason

def SessionId.text (s : SessionId) : String :=
  "recording-v1:" ++ s.generationId ++ ":" ++ String.ofList (Nat.toDigits 16 s.counter)

/-- `[1-9a-f][0-9a-f]*` -/
def isCounter : List Char → Bool
  | [] => false
  | c :: rest => isHex c && c != '0' && rest.all isHex

/-- The value of a lowercase hexadecimal digit. -/
def hexValue (c : Char) : ℕ :=
  if c ≤ '9' then c.toNat - '0'.toNat else c.toNat - 'a'.toNat + 10

/-- `int(digits, 16)` -/
def ofHex (digits : List Char) : ℕ := digits.foldl (fun n c => 16 * n + hexValue c) 0

def checkSession (generation sessionId : String) : Except Refusal Unit := do
  let expected := ("recording-v1:" ++ generation ++ ":").toList
  ensure (expected <+: sessionId.toList)
    (.value "recording session does not belong to the owner generation")
  let counter := sessionId.toList.drop expected.length
  ensure (isCounter counter = true ∧ ofHex counter ≤ maxNonnegativeInt)
    (.value "recording session counter is invalid")

/-- `recording` -/
def RecordingSnapshot.truth (s : RecordingSnapshot) : RecordingTruth :=
  if s.recording then .recording else .notRecording

/-- What an adapter remembers: the revision and the token of its last receipt. -/
structure LiveAdapter where
  lastRevision : ℕ
  lastToken : Option String
deriving DecidableEq

def LiveAdapter.init : LiveAdapter := ⟨0, none⟩

/-- The revision of an adapter does not go back, and one revision has one token. -/
def LiveAdapter.checkToken (a : LiveAdapter) (message : String) (revision : ℕ)
    (token : String) : Except Refusal Unit :=
  ensure (¬ (revision < a.lastRevision ∨
      (revision = a.lastRevision ∧ some token ≠ a.lastToken)))
    (.value message)

/-- The texts of a recording snapshot that an active experiment has and no other. -/
def checkIdentity (p : Platform) (s : RecordingSnapshot) : Except Refusal Unit :=
  if s.experimentOperation = .active then do
    let _ ← requiredText (exactText p maxIdUtf8Bytes) s.experimentId
    let _ ← requiredText (exactText p maxIdUtf8Bytes) s.experimentName
    optionalText (exactText p maxIdUtf8Bytes) s.phase
  else
    ensure (s.experimentId = none ∧ s.experimentName = none ∧ s.phase = none)
      (.value "inactive experiment snapshot carries identity")

def checkExperiment (p : Platform) (s : RecordingSnapshot) : Except Refusal Unit := do
  checkIdentity p s
  ensure (s.experimentOperation ≠ .unavailable)
    (.value "experiment operation is unavailable")

def checkRecording (p : Platform) (generation : String) (s : RecordingSnapshot) :
    Except Refusal Unit :=
  match s.recordingSessionId with
  | none => .ok ()
  | some session => do
      ensure (s.experimentOperation = .active ∧ s.acquisitionEpochId.isSome = true ∧
          s.persistenceEpochId.isSome = true)
        (.value "recording lacks active experiment/acquisition/persistence proof")
      let sessionId ← exactText p maxIdUtf8Bytes session.text
      checkSession generation sessionId

def recordingPayload (ownerId : String) (s : RecordingSnapshot) : List Json :=
  [.str ownerId, .str s.generationId, .int s.experimentRevision, .int s.acquisitionRevision,
    .int s.persistenceRevision, jsonText s.acquisitionEpochId, jsonText s.persistenceEpochId,
    .str s.experimentOperation.value, jsonText s.experimentId, jsonText s.experimentName,
    jsonText s.phase, .str s.truth.value,
    jsonText (s.recordingSessionId.map SessionId.text), .str s.reason]

/-- What `snapshot_for_cut` of the experiment adapter tries, for the snapshot `s` of the
owner `ownerId`. -/
def projectExperiment (p : Platform) (a : LiveAdapter) (cut : CommonCut) (ownerId : String)
    (s : RecordingSnapshot) : Except Refusal ExperimentReceipt := do
  let revision ← exactRevision 1 s.revision
  let _ ← exactRevision 1 s.experimentRevision
  let _ ← exactRevision 1 s.acquisitionRevision
  let _ ← exactRevision 1 s.persistenceRevision
  let _ ← exactText p maxIdUtf8Bytes ownerId
  let generation ← generationId p s.generationId
  optionalText (exactText p maxIdUtf8Bytes) s.acquisitionEpochId
  optionalText (exactText p maxIdUtf8Bytes) s.persistenceEpochId
  let _ ← exactText p maxReasonUtf8Bytes s.reason
  checkExperiment p s
  checkRecording p generation s
  let payload ← payloadText (recordingPayload ownerId s)
  let token := tokenOf p revision "experiment-recording" payload
  a.checkToken "recording revision regressed or equivocated" revision token
  ExperimentReceipt.construct p
    { cut, revision, token
      availability := .available
      unavailableReason := none
      experimentId := s.experimentId
      experimentName := s.experimentName
      phase := s.phase
      recording := s.truth
      recordingSessionId := s.recordingSessionId.map SessionId.text }

/-- The receipt of an experiment that cannot be told. -/
def unavailableExperiment (p : Platform) (cut : CommonCut) : ExperimentReceipt where
  toAuthorityReceipt := unavailable p cut "experiment_recording_cut_unavailable"
  experimentId := none
  experimentName := none
  phase := none
  recording := .unknown
  recordingSessionId := none

/-- `snapshot_for_cut` of `LiveRecordingExperimentAuthority`. -/
def sampleExperiment (p : Platform) (a : LiveAdapter) (cut : CommonCut) (ownerId : String)
    (s : RecordingSnapshot) : Except Refusal ExperimentReceipt × LiveAdapter :=
  match projectExperiment p a cut ownerId s with
  | .error _ => (ExperimentReceipt.construct p (unavailableExperiment p cut), a)
  | .ok receipt => (.ok receipt, ⟨receipt.revision, some receipt.token⟩)

def persistencePayload (s : OwnerSnapshot) : List Json :=
  [.str s.ownerId, .str s.generationId, .int s.receiptRevision, jsonText s.recordingEpochId,
    .int s.committedMaterializationRevision, jsonNumber s.archiveRevision,
    .int s.pendingCount, .int s.droppedOrRejectedCount, .str (availabilityValue s.storage),
    .str s.reason]

/-- What `snapshot_for_cut` of the persistence adapter tries. -/
def projectPersistence (p : Platform) (a : LiveAdapter) (cut : CommonCut) (s : OwnerSnapshot) :
    Except Refusal IntegrityPersistenceReceipt := do
  let revision ← exactRevision 1 s.revision
  let receiptRevision ← exactRevision 1 s.receiptRevision
  ensure (revision ≤ receiptRevision)
    (.value "persistence owner revision exceeds receipt sequence")
  let _ ← exactText p maxIdUtf8Bytes s.ownerId
  let _ ← generationId p s.generationId
  let _ ← requiredText (exactText p maxIdUtf8Bytes) s.recordingEpochId
  let _ ← exactText p maxReasonUtf8Bytes s.reason
  let persisted ← exactRevision 0 s.committedMaterializationRevision
  ensure (s.archiveRevision.all (fun n => 1 ≤ n && n ≤ maxNonnegativeInt) = true)
    (.value "revision or count is outside the signed 63-bit contract")
  let pending ← exactRevision 0 s.pendingCount
  let dropped ← exactRevision 0 s.droppedOrRejectedCount
  let payload ← payloadText (persistencePayload s)
  let token := tokenOf p revision "integrity-persistence" payload
  a.checkToken "persistence revision regressed or equivocated" revision token
  IntegrityPersistenceReceipt.construct p
    { cut, revision, token
      availability := .available
      unavailableReason := none
      persistedRevision := some persisted
      archiveRevision := s.archiveRevision
      pendingRecords := some pending
      droppedRecords := some dropped
      storage := s.storage }

/-- The receipt of a persistence that cannot be told. -/
def unavailablePersistence (p : Platform) (cut : CommonCut) : IntegrityPersistenceReceipt where
  toAuthorityReceipt := unavailable p cut "persistence_coherent_cut_unavailable"
  persistedRevision := none
  archiveRevision := none
  pendingRecords := none
  droppedRecords := none
  storage := .unknown

/-- `snapshot_for_cut` of `LiveIntegrityPersistenceAuthority`. -/
def samplePersistence (p : Platform) (a : LiveAdapter) (cut : CommonCut) (s : OwnerSnapshot) :
    Except Refusal IntegrityPersistenceReceipt × LiveAdapter :=
  match projectPersistence p a cut s with
  | .error _ => (IntegrityPersistenceReceipt.construct p (unavailablePersistence p cut), a)
  | .ok receipt => (.ok receipt, ⟨receipt.revision, some receipt.token⟩)

end Recording
end CryoDaq
