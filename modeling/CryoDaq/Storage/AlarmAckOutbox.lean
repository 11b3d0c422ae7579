import CryoDaq.Python.Dict
import CryoDaq.Python.Raising
import Mathlib.Algebra.Ring.Nat
import Mathlib.Data.Int.Order.Basic
import Mathlib.Data.List.Sort
import Mathlib.Data.String.Basic

/-!
# The outbox of alarm acknowledgements

`alarm_ack_outbox` is a table of the control database, one row for each
`request_id`.  Every operation is one transaction: it validates the whole table
(`registryUsage`), then the row it is about, then it moves that row; `prepare`
may first prune old terminal rows.

**Documents.**  An event and a receipt are stored as canonical JSON texts.  The
texts of two documents are equal exactly when the documents are, so a row has
the documents; `JsonSizes` is how long their texts are.  A dict that does not
have the keys and types of the schema is `Payload.other`.

**Raising.**  A statement, a deadline or a check of the file authority may raise
at any point before the commit; the commit may be refused; it may raise although
it took effect; and closing may raise after it (`Conditions`).
-/

namespace CryoDaq
namespace Storage

inductive AckState
  | prepared
  | committed
  | published
  | aborted
deriving DecidableEq

inductive AbortCode
  | restart
  | activation
deriving DecidableEq

/-- `_ALARM_ACK_RESTART_ABORT_CODE` and `_ALARM_ACK_ACTIVATION_ABORT_CODE` -/
def AbortCode.text : AbortCode → String
  | restart => "engine_restart_before_ack_commit"
  | activation => "activation_changed_before_ack_commit"

structure AckIdentity where
  requestId : String
  requestFingerprint : String
  alarmName : String
  activationId : String
  engineInstanceId : String
  sourceActivationId : String
  operatorName : String
  reason : String
deriving DecidableEq

/-- An event with the keys of `ALARM_ACK_EVENT_KEYS`. -/
structure AckEvent where
  schema : String
  requestId : String
  requestFingerprint : String
  alarmName : String
  activationId : String
  engineInstanceId : String
  sourceActivationId : String
  acknowledgedAt : Float
  operator : String
  reason : String
deriving DecidableEq

/-- A receipt with the keys of `ALARM_ACK_COMMIT_KEYS`. -/
structure AckReceipt where
  schema : String
  requestId : String
  requestFingerprint : String
  alarmName : String
  activationId : String
  engineInstanceId : String
  sourceActivationId : String
  acknowledgedAt : Float
  committed : Bool
deriving DecidableEq

/-- A dict: one of the schema, or another with its JSON text, `none` when it has none. -/
inductive Payload (α : Type)
  | exact (document : α)
  | other (json : Option String)
deriving DecidableEq

/-- The bytes of the canonical texts. -/
structure JsonSizes where
  event : AckEvent → ℕ
  receipt : AckReceipt → ℕ

structure AckRow where
  identity : AckIdentity
  state : AckState
  event : AckEvent
  receipt : AckReceipt
  terminalCode : Option AbortCode
  terminalEngineInstanceId : Option String
  createdAt : ℤ
  updatedAt : ℤ
deriving DecidableEq

/-- The `request_id` of a row. -/
def AckRow.requestId (r : AckRow) : String := r.identity.requestId

/-- The rows by their `request_id`. -/
abbrev AckTable := Dict String AckRow

/-- The exceptions of the operations. -/
inductive AckError
  | conflict (message : String)
  | runtime (message : String)
deriving DecidableEq

/-- `if not p: raise RuntimeError("alarm ACK …")` -/
def demand (p : Prop) [Decidable p] (message : String) : Except AckError Unit :=
  ensure p (.runtime s!"alarm ACK {message}")

/-- `if not p: raise OperatorLogIdempotencyConflictError("alarm ACK …")` -/
def agree (p : Prop) [Decidable p] (message : String) : Except AckError Unit :=
  ensure p (.conflict s!"alarm ACK {message}")

/-- `_OPERATOR_LOG_MAX_IDENTITY_FIELD_BYTES` -/
def maxIdentityFieldBytes : ℕ := 4096

/-- `_OPERATOR_LOG_MAX_TEXT_FIELD_BYTES` -/
def maxTextFieldBytes : ℕ := 1048576

/-- `_ALARM_ACK_MAX_JSON_BYTES` -/
def ackMaxJsonBytes : ℕ := 1048576

/-- `_ALARM_ACK_MAX_ROW_BYTES` -/
def ackMaxRowBytes : ℕ := 2101248

/-- `_ALARM_ACK_MAX_PENDING` -/
def ackMaxPending : ℕ := 1024

/-- `_ALARM_ACK_MAX_PENDING_BYTES` -/
def ackMaxPendingBytes : ℕ := 8388608

/-- `_ALARM_ACK_MAX_TOTAL` -/
def ackMaxTotal : ℕ := 4096

/-- `_ALARM_ACK_MAX_TOTAL_BYTES` -/
def ackMaxTotalBytes : ℕ := 285212672

/-- `_ALARM_ACK_MIN_TERMINAL_RETAINED` -/
def ackMinTerminalRetained : ℕ := 128

/-- `_ALARM_ACK_MAX_PRUNE_PER_ADMISSION` -/
def ackMaxPrunePerAdmission : ℕ := 4096

/-- `_ALARM_ACK_MAX_ABORT_CODE_BYTES` -/
def ackMaxAbortCodeBytes : ℕ :=
  max AbortCode.restart.text.utf8ByteSize AbortCode.activation.text.utf8ByteSize

/-- `_ALARM_ACK_INCARNATION_ID_BYTES` -/
def ackIncarnationIdBytes : ℕ := 32

/-- Lowercase hexadecimal characters of a given number. -/
def lowercaseHex (length : ℕ) (s : String) : Bool :=
  s.toList.length = length && s.toList.all fun c => c ∈ "0123456789abcdef".toList

/-- `_validate_operator_log_request`, as the outbox reports it. -/
def validateRequest (requestId requestFingerprint : String) : Except AckError Unit :=
  demand (lowercaseHex 32 requestId ∧ lowercaseHex 64 requestFingerprint)
    "request identity is invalid"

/-- `_alarm_ack_text` -/
def ackText (value field : String) (maxBytes : ℕ) : Except AckError Unit := do
  demand (value ≠ "") s!"{field} must be nonempty text"
  demand (value.utf8ByteSize ≤ maxBytes) s!"{field} exceeds byte cap"

/-- `_alarm_ack_incarnation_id` -/
def ackIncarnationId (value field : String) : Except AckError Unit := do
  ackText value field maxIdentityFieldBytes
  demand (lowercaseHex ackIncarnationIdBytes value)
    s!"{field} must be 32 lowercase hexadecimal characters"

/-- `is_canonical_source_activation_id` -/
def canonicalSourceActivationId (value : String) : Bool :=
  1 ≤ value.toList.length && value.toList.length ≤ 64 && value.toList.all Char.isDigit &&
    value.toList.head? ≠ some '0'

/-- `_alarm_ack_source_activation_id` -/
def ackSourceActivationId (value : String) : Except AckError Unit := do
  ackText value "source_activation_id" maxIdentityFieldBytes
  demand (canonicalSourceActivationId value)
    "source_activation_id must be a canonical positive ASCII decimal"

/-- `_validate_alarm_ack_identity` -/
def validateIdentity (i : AckIdentity) : Except AckError Unit := do
  validateRequest i.requestId i.requestFingerprint
  ackText i.alarmName "alarm_name" maxIdentityFieldBytes
  ackText i.activationId "activation_id" maxIdentityFieldBytes
  ackIncarnationId i.engineInstanceId "engine_instance_id"
  ackSourceActivationId i.sourceActivationId
  ackText i.operatorName "operator_name" maxIdentityFieldBytes
  ackText i.reason "reason" maxTextFieldBytes

def eventOf (i : AckIdentity) (e : AckEvent) : Bool :=
  e.schema = "alarm_ack_event_v1" && e.requestId = i.requestId &&
    e.requestFingerprint = i.requestFingerprint && e.alarmName = i.alarmName &&
    e.activationId = i.activationId && e.engineInstanceId = i.engineInstanceId &&
    e.sourceActivationId = i.sourceActivationId && e.operator = i.operatorName &&
    e.reason = i.reason && e.acknowledgedAt.isFinite && 0.0 < e.acknowledgedAt

def receiptOf (i : AckIdentity) (e : AckEvent) (r : AckReceipt) : Bool :=
  r.schema = "alarm_ack_commit_v1" && r.requestId = i.requestId &&
    r.requestFingerprint = i.requestFingerprint && r.alarmName = i.alarmName &&
    r.activationId = i.activationId && r.engineInstanceId = i.engineInstanceId &&
    r.sourceActivationId = i.sourceActivationId && r.acknowledgedAt == e.acknowledgedAt &&
    r.committed

/-- `_validate_alarm_ack_payload_identity` -/
def validatePayloadIdentity (i : AckIdentity) (e : AckEvent) (r : AckReceipt) :
    Except AckError Unit :=
  demand (eventOf i e && receiptOf i e r) "durable identity is invalid"

/-- `_encode_alarm_ack_json`: the text must exist and fit. -/
def encodeJson {α : Type} (size : α → ℕ) (field : String) :
    Payload α → Except AckError Unit
  | .exact d => demand (size d ≤ ackMaxJsonBytes) s!"{field} exceeds byte cap"
  | .other none => demand False s!"{field} is not serializable"
  | .other (some text) => demand (text.utf8ByteSize ≤ ackMaxJsonBytes) s!"{field} exceeds byte cap"

/-- A restart names another incarnation, a changed activation the same one. -/
def AbortCode.names (code : AbortCode) (engineInstanceId : String)
    (terminalEngineInstanceId : Option String) : Bool :=
  match code with
  | .restart => terminalEngineInstanceId ≠ some engineInstanceId
  | .activation => terminalEngineInstanceId = some engineInstanceId

/-- `_alarm_ack_terminal_engine_incarnation` -/
def terminalEngineIncarnation (engineInstanceId : String) (code : AbortCode)
    (terminalEngineInstanceId : Option String) : Except AckError Unit := do
  ackIncarnationId engineInstanceId "engine_instance_id"
  demand terminalEngineInstanceId.isSome "terminal_engine_instance_id must be nonempty text"
  ackIncarnationId (terminalEngineInstanceId.getD "") "terminal_engine_instance_id"
  demand (code.names engineInstanceId terminalEngineInstanceId)
    "terminal engine incarnation is inconsistent"

section Rows

variable (J : JsonSizes)

/-- The bytes of a row, with room for every later state. -/
def AckRow.bytes (r : AckRow) : ℕ :=
  "committed".utf8ByteSize + ackMaxAbortCodeBytes + ackIncarnationIdBytes +
    (r.identity.requestId.utf8ByteSize + r.identity.requestFingerprint.utf8ByteSize +
      r.identity.alarmName.utf8ByteSize + r.identity.activationId.utf8ByteSize +
      r.identity.engineInstanceId.utf8ByteSize + r.identity.sourceActivationId.utf8ByteSize +
      r.identity.operatorName.utf8ByteSize + r.identity.reason.utf8ByteSize +
      J.event r.event + J.receipt r.receipt)

/-- The terminal fields belong to the aborted rows. -/
def terminalConsistent (r : AckRow) : Except AckError Unit :=
  match r.state, r.terminalCode with
  | .aborted, none => demand False "terminal code is invalid"
  | .aborted, some code =>
      terminalEngineIncarnation r.identity.engineInstanceId code r.terminalEngineInstanceId
  | _, code =>
      demand (code = none ∧ r.terminalEngineInstanceId = none) "live state has terminal authority"

/-- `_alarm_ack_row_bytes` -/
def rowBytes (r : AckRow) : Except AckError ℕ := do
  ackSourceActivationId r.identity.sourceActivationId
  terminalConsistent r
  demand (r.bytes J ≤ ackMaxRowBytes) "retained row exceeds cap"
  pure (r.bytes J)

/-- `_alarm_ack_record` -/
def checkRecord (r : AckRow) : Except AckError Unit := do
  validateIdentity r.identity
  terminalConsistent r
  demand (0 ≤ r.createdAt) "created_at is invalid"
  demand (0 ≤ r.updatedAt) "updated_at is invalid"
  demand (r.createdAt ≤ r.updatedAt) "timestamps are out of order"
  demand (J.event r.event ≤ ackMaxJsonBytes) "event_json exceeds byte cap"
  demand (J.receipt r.receipt ≤ ackMaxJsonBytes) "receipt_json exceeds byte cap"
  validatePayloadIdentity r.identity r.event r.receipt
  let _ ← rowBytes J r
  pure ()

/-- Every row of a list passes `_alarm_ack_record`. -/
def checkRecords : List AckRow → Except AckError Unit
  | [] => pure ()
  | r :: rest => do
      checkRecord J r
      checkRecords rest

/-- A row that is not yet published or aborted. -/
def AckRow.pending (r : AckRow) : Bool := r.state = .prepared || r.state = .committed

def tally (f : AckRow → ℕ) (t : AckTable) : ℕ := (t.values.map f).sum

def count (p : AckRow → Bool) (t : AckTable) : ℕ := tally (fun r => if p r then 1 else 0) t

def pendingBytes (t : AckTable) : ℕ := tally (fun r => if r.pending then r.bytes J else 0) t

/-- `AlarmAckOutboxRegistryStatus` -/
structure RegistryStatus where
  totalCount : ℕ
  totalBytes : ℕ
  preparedCount : ℕ
  committedCount : ℕ
  publishedCount : ℕ
  abortedCount : ℕ
  pendingBytes : ℕ
deriving DecidableEq

def statusOf (t : AckTable) : RegistryStatus where
  totalCount := t.values.length
  totalBytes := tally (fun r => r.bytes J) t
  preparedCount := count (fun r => r.state = .prepared) t
  committedCount := count (fun r => r.state = .committed) t
  publishedCount := count (fun r => r.state = .published) t
  abortedCount := count (fun r => r.state = .aborted) t
  pendingBytes := pendingBytes J t

/-- Neither text of a row exceeds the cap. -/
def jsonFits (r : AckRow) : Bool :=
  J.event r.event ≤ ackMaxJsonBytes && J.receipt r.receipt ≤ ackMaxJsonBytes

/-- `_alarm_ack_pending_usage` -/
def pendingUsage (quarantined : List String) (t : AckTable) : Except AckError Unit := do
  let rows := t.values.filter AckRow.pending
  demand (rows.all fun r => r.requestId ∉ quarantined)
    "current and quarantined identities collide"
  demand (rows.length ≤ ackMaxPending) "pending count exceeds cap"
  demand (rows.all (jsonFits J)) "JSON exceeds byte cap"
  demand (rows.all fun r => r.bytes J ≤ ackMaxRowBytes) "pending row exceeds cap"
  demand (pendingBytes J t ≤ ackMaxPendingBytes) "pending bytes exceed cap"
  checkRecords J rows

/-- `_alarm_ack_registry_usage` -/
def registryUsage (quarantined : List String) (t : AckTable) :
    Except AckError RegistryStatus := do
  pendingUsage J quarantined t
  demand (t.values.length ≤ ackMaxTotal) "total count exceeds cap"
  demand (t.values.all (jsonFits J)) "JSON exceeds byte cap"
  demand (t.values.all fun r => r.bytes J ≤ ackMaxRowBytes) "retained row exceeds cap"
  demand (tally (fun r => r.bytes J) t ≤ ackMaxTotalBytes) "total bytes exceed cap"
  checkRecords J t.values
  pure (statusOf J t)

def AckRow.terminal (r : AckRow) : Bool := r.state = .published || r.state = .aborted

/-- The order of `ORDER BY updated_at ASC, request_id ASC`. -/
def AckRow.olderThan (a b : AckRow) : Bool :=
  a.updatedAt < b.updatedAt ||
    (a.updatedAt = b.updatedAt && a.requestId ≤ b.requestId)

def terminalRows (t : AckTable) : List AckRow :=
  (t.values.filter AckRow.terminal).insertionSort fun a b => a.olderThan b

/-- One more row of the proposed size fits. -/
def admits (proposedBytes : ℕ) (t : AckTable) : Bool :=
  t.values.length + 1 ≤ ackMaxTotal &&
    tally (fun r => r.bytes J) t + proposedBytes ≤ ackMaxTotalBytes

/-- The candidates are deleted until the new row fits; the deleted rows beside the table. -/
def pruneRows (proposedBytes : ℕ) :
    List AckRow → AckTable → Except AckError (AckTable × List AckRow)
  | [], t => pure (t, [])
  | r :: rest, t => do
      checkRecord J r
      demand r.terminal "terminal pruning state changed"
      let t := t.erase r.requestId
      if admits J proposedBytes t then pure (t, [r])
      else
        let (t, removed) ← pruneRows proposedBytes rest t
        pure (t, r :: removed)

/-- The usage after a pruning is the one before without the deleted rows. -/
def prunedExactly (before after : RegistryStatus) (removed : List AckRow) : Bool :=
  after.totalCount + removed.length = before.totalCount &&
    after.totalBytes + (removed.map (AckRow.bytes J)).sum = before.totalBytes &&
    after.preparedCount = before.preparedCount && after.committedCount = before.committedCount &&
    after.publishedCount + (removed.filter fun r => r.state = .published).length =
      before.publishedCount &&
    after.abortedCount + (removed.filter fun r => r.state = .aborted).length =
      before.abortedCount &&
    after.pendingBytes = before.pendingBytes

/-- `_prune_alarm_ack_terminal_for_admission` -/
def pruneTerminalForAdmission (quarantined : List String) (proposedBytes : ℕ) (t : AckTable) :
    Except AckError AckTable := do
  demand (proposedBytes ≤ ackMaxRowBytes) "proposed registry bytes are invalid"
  let before ← registryUsage J quarantined t
  if admits J proposedBytes t then pure t
  else
    let terminalCount := before.publishedCount + before.abortedCount
    let retainedFloor := min terminalCount ackMinTerminalRetained
    let deleteLimit := min (terminalCount - retainedFloor) ackMaxPrunePerAdmission
    demand (0 < deleteLimit) "registry capacity cannot admit another request"
    let candidates := (terminalRows t).take deleteLimit
    demand (candidates.length = deleteLimit) "terminal pruning authority changed"
    let (pruned, removed) ← pruneRows J proposedBytes candidates t
    demand (admits J proposedBytes pruned) "registry capacity cannot admit another request"
    let after ← registryUsage J quarantined pruned
    demand (prunedExactly J before after removed) "terminal pruning changed unrelated authority"
    pure pruned

end Rows

/-- `AlarmAckOutboxRecord` -/
structure AckRecord where
  identity : AckIdentity
  state : AckState
  event : AckEvent
  receipt : AckReceipt
  terminalCode : Option AbortCode
  terminalEngineInstanceId : Option String
deriving DecidableEq

def AckRow.record (r : AckRow) : AckRecord :=
  ⟨r.identity, r.state, r.event, r.receipt, r.terminalCode, r.terminalEngineInstanceId⟩

/-- `AlarmAckOutboxAbortDisposition` -/
structure AbortDisposition where
  requestId : String
  requestFingerprint : String
  priorEngineInstanceId : String
  activationId : String
  sourceActivationId : String
  terminalCode : AbortCode
  recoveryEngineInstanceId : String
  disposedAt : ℤ
deriving DecidableEq

/-- What an operation returns. -/
inductive AckAnswer
  | record (r : AckRecord)
  | disposition (d : AbortDisposition)
  | dispositions (ds : List AbortDisposition)
deriving DecidableEq

/-- `_alarm_ack_abort_disposition` -/
def abortDisposition (r : AckRow) (disposedAt : ℤ) : Except AckError AbortDisposition :=
  match r.state, r.terminalCode, r.terminalEngineInstanceId with
  | .aborted, some code, some recovery => do
      demand (0 < disposedAt) "abort disposition authority is invalid"
      pure
        { requestId := r.requestId
          requestFingerprint := r.identity.requestFingerprint
          priorEngineInstanceId := r.identity.engineInstanceId
          activationId := r.identity.activationId
          sourceActivationId := r.identity.sourceActivationId
          terminalCode := code
          recoveryEngineInstanceId := recovery
          disposedAt }
  | _, _, _ => .error (.runtime "alarm ACK abort disposition authority is invalid")

section Operations

variable (J : JsonSizes) (quarantined : List String)

def retainedRow (requestId : String) (message : String) (t : AckTable) :
    Except AckError AckRow :=
  match t.get? requestId with
  | some r => do
      checkRecord J r
      pure r
  | none => .error (.runtime s!"alarm ACK {message}")

def RegistryStatus.admitted (s : RegistryStatus) (proposedBytes : ℕ) : RegistryStatus :=
  { s with
    totalCount := s.totalCount + 1
    totalBytes := s.totalBytes + proposedBytes
    preparedCount := s.preparedCount + 1
    pendingBytes := s.pendingBytes + proposedBytes }

def preparedRow (i : AckIdentity) (e : AckEvent) (r : AckReceipt) (now : ℤ) : AckRow :=
  ⟨i, .prepared, e, r, none, none, now, now⟩

/-- `_prepare_alarm_ack_outbox_sync`, for documents of the schema. -/
def prepareDocuments (clock : Option ℤ) (i : AckIdentity) (e : AckEvent) (r : AckReceipt)
    (t : AckTable) : Except AckError (AckTable × AckAnswer) := do
  let proposedBytes ← rowBytes J (preparedRow i e r 0)
  let _ ← registryUsage J quarantined t
  demand (i.requestId ∉ quarantined) "request identity is quarantined"
  match t.get? i.requestId with
  | some row =>
      checkRecord J row
      agree (row.identity = i ∧ row.event = e ∧ row.receipt = r)
        "request_id was reused with different content"
      pure (t, .record row.record)
  | none =>
      let pruned ← pruneTerminalForAdmission J quarantined proposedBytes t
      let registry ← registryUsage J quarantined pruned
      demand (registry.preparedCount + registry.committedCount + 1 ≤ ackMaxPending)
        "pending count exceeds cap"
      demand (registry.pendingBytes + proposedBytes ≤ ackMaxPendingBytes)
        "pending bytes exceed cap"
      demand (clock.any fun now => 0 ≤ now) "clock authority is invalid"
      let row := preparedRow i e r (clock.getD 0)
      checkRecord J row
      let t' := pruned.set i.requestId row
      let after ← registryUsage J quarantined t'
      demand (after = registry.admitted proposedBytes) "registry admission was not exact"
      pure (t', .record row.record)

/-- `_prepare_alarm_ack_outbox_sync` -/
def prepareAlarmAckOutbox (clock : Option ℤ) (i : AckIdentity) (event : Payload AckEvent)
    (receipt : Payload AckReceipt) (t : AckTable) : Except AckError (AckTable × AckAnswer) := do
  validateIdentity i
  encodeJson J.event "event_json" event
  encodeJson J.receipt "receipt_json" receipt
  match event, receipt with
  | .exact e, .exact r =>
      validatePayloadIdentity i e r
      prepareDocuments J quarantined clock i e r t
  | .exact _, .other _ => .error (.runtime "alarm ACK durable receipt schema is invalid")
  | .other _, _ => .error (.runtime "alarm ACK durable event schema is invalid")

def AckRow.aborted (row : AckRow) (code : AbortCode) (engine : String) (now : ℤ) : AckRow :=
  { row with
    state := .aborted
    terminalCode := some code
    terminalEngineInstanceId := some engine
    updatedAt := now }

def AckRow.moved (row : AckRow) (state : AckState) (now : ℤ) : AckRow :=
  { row with state := state, updatedAt := now }

def notBefore (clock : Option ℤ) (row : AckRow) : Bool :=
  clock.any fun now => row.createdAt ≤ now && row.updatedAt ≤ now

/-- The status with `n` prepared rows of some bytes aborted. -/
def RegistryStatus.disposed (s : RegistryStatus) (n bytes : ℕ) : RegistryStatus :=
  { s with
    preparedCount := s.preparedCount - n
    abortedCount := s.abortedCount + n
    pendingBytes := s.pendingBytes - bytes }

/-- `_abort_alarm_ack_outbox_sync` -/
def abortAlarmAckOutbox (clock : Option ℤ)
    (requestId requestFingerprint engineInstanceId activationId sourceActivationId : String)
    (event : Payload AckEvent) (receipt : Payload AckReceipt)
    (t : AckTable) : Except AckError (AckTable × AckAnswer) := do
  validateRequest requestId requestFingerprint
  ackIncarnationId engineInstanceId "engine_instance_id"
  ackText activationId "activation_id" maxIdentityFieldBytes
  ackSourceActivationId sourceActivationId
  encodeJson J.event "event_json" event
  encodeJson J.receipt "receipt_json" receipt
  let before ← registryUsage J quarantined t
  demand (requestId ∉ quarantined) "request identity is quarantined"
  let current ← retainedRow J requestId "durable preparation is missing" t
  agree (current.identity.requestFingerprint = requestFingerprint)
    "request_id was reused with different content"
  agree
    (current.identity.engineInstanceId = engineInstanceId ∧
      current.identity.activationId = activationId ∧
      current.identity.sourceActivationId = sourceActivationId ∧
      event = .exact current.event ∧ receipt = .exact current.receipt)
    "abort does not match its durable preparation"
  if current.state = .aborted then
    demand
      (current.terminalCode = some .activation ∧
        current.terminalEngineInstanceId = some engineInstanceId)
      "request has a different terminal disposition"
    let disposition ← abortDisposition current current.updatedAt
    pure (t, .disposition disposition)
  else
    demand (current.state = .prepared) "committed request cannot be aborted"
    demand (clock.any (fun now => 0 < now) ∧ notBefore clock current)
      "disposition clock authority is invalid"
    let transitioned ← rowBytes J current
    let terminal := current.aborted .activation engineInstanceId (clock.getD 0)
    checkRecord J terminal
    let t' := t.set requestId terminal
    let after ← registryUsage J quarantined t'
    demand (after = before.disposed 1 transitioned) "live disposition changed unrelated authority"
    let disposition ← abortDisposition terminal (clock.getD 0)
    pure (t', .disposition disposition)

/-- The prepared rows by their `request_id`. -/
def preparedRows (t : AckTable) : List AckRow :=
  (t.values.filter fun r => r.state = .prepared).insertionSort fun a b =>
    a.requestId ≤ b.requestId

def disposeRow (recovery : String) (now : ℤ) (row : AckRow) (t : AckTable) :
    Except AckError (AckTable × AbortDisposition) := do
  demand (row.createdAt ≤ now ∧ row.updatedAt ≤ now)
    "disposition clock precedes retained authority"
  let terminal := row.aborted .restart recovery now
  checkRecord J terminal
  let disposition ← abortDisposition terminal now
  pure (t.set row.requestId terminal, disposition)

def disposeRows (recovery : String) (now : ℤ) :
    List AckRow → AckTable → Except AckError (AckTable × List AbortDisposition)
  | [], t => pure (t, [])
  | row :: rest, t => do
      let (t, disposition) ← disposeRow J recovery now row t
      let (t, dispositions) ← disposeRows recovery now rest t
      pure (t, disposition :: dispositions)

/-- `_abort_prepared_alarm_ack_outbox_sync` -/
def abortPreparedAlarmAckOutbox (clock : Option ℤ) (recovery : String) (t : AckTable) :
    Except AckError (AckTable × AckAnswer) := do
  ackIncarnationId recovery "recovery_engine_instance_id"
  let before ← registryUsage J quarantined t
  let rows := (preparedRows t).take (ackMaxPending + 1)
  demand (rows.length = before.preparedCount) "prepared disposition count changed"
  if rows = [] then pure (t, .dispositions [])
  else
    checkRecords J rows
    demand (rows.all fun row => row.identity.engineInstanceId ≠ recovery)
      "recovery engine incarnation must differ from every prepared request"
    demand (clock.any fun now => 0 < now) "disposition clock authority is invalid"
    let (t', dispositions) ← disposeRows J recovery (clock.getD 0) rows t
    let after ← registryUsage J quarantined t'
    demand
      (after = before.disposed before.preparedCount (rows.map (AckRow.bytes J)).sum ∧
        after.preparedCount = 0)
      "prepared disposition changed unrelated authority"
    pure (t', .dispositions dispositions)

/-- `_commit_alarm_ack_outbox_sync` -/
def commitAlarmAckOutbox (clock : Option ℤ) (requestId requestFingerprint : String)
    (event : Payload AckEvent) (receipt : Payload AckReceipt) (t : AckTable) :
    Except AckError (AckTable × AckAnswer) := do
  validateRequest requestId requestFingerprint
  encodeJson J.event "event_json" event
  encodeJson J.receipt "receipt_json" receipt
  let _ ← registryUsage J quarantined t
  demand (requestId ∉ quarantined) "request identity is quarantined"
  let current ← retainedRow J requestId "durable preparation is missing" t
  agree (current.identity.requestFingerprint = requestFingerprint)
    "request_id was reused with different content"
  demand (event = .exact current.event ∧ receipt = .exact current.receipt)
    "commit does not match its durable preparation"
  if current.state = .committed ∨ current.state = .published then pure (t, .record current.record)
  else
    demand (current.state ≠ .aborted) "aborted request cannot commit"
    demand (notBefore clock current) "clock authority is invalid"
    let committed := current.moved .committed (clock.getD 0)
    checkRecord J committed
    pure (t.set requestId committed, .record committed.record)

/-- `_publish_alarm_ack_outbox_sync` -/
def publishAlarmAckOutbox (clock : Option ℤ) (requestId requestFingerprint : String)
    (event : Payload AckEvent) (receipt : Payload AckReceipt) (t : AckTable) :
    Except AckError (AckTable × AckAnswer) := do
  validateRequest requestId requestFingerprint
  encodeJson J.event "event_json" event
  encodeJson J.receipt "receipt_json" receipt
  let _ ← registryUsage J quarantined t
  demand (requestId ∉ quarantined) "request identity is quarantined"
  let current ← retainedRow J requestId "outbox receipt is missing" t
  agree (current.identity.requestFingerprint = requestFingerprint)
    "request_id was reused with different content"
  demand (event = .exact current.event ∧ receipt = .exact current.receipt)
    "publication does not match its committed payload"
  demand (current.state ≠ .prepared) "event cannot publish before state commit"
  if current.state = .published then pure (t, .record current.record)
  else
    demand (current.state ≠ .aborted) "aborted request cannot publish"
    demand (notBefore clock current) "clock authority is invalid"
    let published := current.moved .published (clock.getD 0)
    checkRecord J published
    pure (t.set requestId published, .record published.record)

inductive AckCall
  | prepare (i : AckIdentity) (event : Payload AckEvent) (receipt : Payload AckReceipt)
  | abort (requestId requestFingerprint engineInstanceId activationId sourceActivationId : String)
      (event : Payload AckEvent) (receipt : Payload AckReceipt)
  | abortPrepared (recovery : String)
  | commit (requestId requestFingerprint : String) (event : Payload AckEvent)
      (receipt : Payload AckReceipt)
  | publish (requestId requestFingerprint : String) (event : Payload AckEvent)
      (receipt : Payload AckReceipt)

def AckCall.body (clock : Option ℤ) : AckCall → AckTable → Except AckError (AckTable × AckAnswer)
  | .prepare i event receipt => prepareAlarmAckOutbox J quarantined clock i event receipt
  | .abort requestId fingerprint engine activation source event receipt =>
      abortAlarmAckOutbox J quarantined clock requestId fingerprint engine activation source event
        receipt
  | .abortPrepared recovery => abortPreparedAlarmAckOutbox J quarantined clock recovery
  | .commit requestId fingerprint event receipt =>
      commitAlarmAckOutbox J quarantined clock requestId fingerprint event receipt
  | .publish requestId fingerprint event receipt =>
      publishAlarmAckOutbox J quarantined clock requestId fingerprint event receipt

inductive CommitOutcome
  | done
  | refused
  /-- it took effect and raises all the same -/
  | unknown
deriving DecidableEq

/-- What happens around a call: what the clock shows, `none` when it is not finite, whether
something raises before the commit, how the commit goes and whether closing raises. -/
structure Conditions where
  clock : Option ℤ
  interrupted : Bool
  commit : CommitOutcome
  closingRaises : Bool

def Conditions.Calm (c : Conditions) : Prop :=
  c.interrupted = false ∧ c.commit = .done ∧ c.closingRaises = false

/-- The commit took effect, and the call raises all the same. -/
def Conditions.RaisesLate (c : Conditions) : Prop :=
  c.commit = .unknown ∨ (c.commit = .done ∧ c.closingRaises = true)

/-- A call: the table it leaves and what it returns or raises. -/
def AckCall.run (c : Conditions) (call : AckCall) (t : AckTable) :
    AckTable × Except AckError AckAnswer :=
  if c.interrupted then (t, .error (.runtime "alarm ACK transaction failed"))
  else
    match call.body J quarantined c.clock t with
    | .error e => (t, .error e)
    | .ok (t', answer) =>
        match c.commit with
        | .refused => (t, .error (.runtime "SQLite commit outcome is unknown"))
        | .unknown => (t', .error (.runtime "SQLite commit outcome is unknown"))
        | .done =>
            if c.closingRaises then
              (t', .error (.runtime "control database close settlement is incomplete"))
            else (t', .ok answer)

end Operations

end Storage
end CryoDaq
