import CryoDaq.Storage.PersistenceOwner

/-!
# The owner of recording truth

`ExperimentRecordingOwner` is fed outcomes about the experiment, the acquisition
and the persistence, and decides whether a recording session is under way.

**Outcomes.**  The fields of an outcome are signed by the feed authority; the
tokens are parameters.  An outcome is checked when it is constructed; which texts
`_bounded_text` refuses is a parameter.

**Sessions.**  The text of a session identity is represented by its generation and
its counter.
-/

namespace CryoDaq
namespace Recording

open Storage

def maxIdUtf8Bytes : ℕ := 128

def maxTextUtf8Bytes : ℕ := 256

def maxReasonUtf8Bytes : ℕ := 128

/-- Why `_bounded_text` refuses a text. -/
inductive TextFault
  | inexact
  | encoding
  | unbounded
  | control
deriving DecidableEq, Repr

/-- What `_bounded_text` raises about a field. -/
def TextFault.error (field : String) : TextFault → Refusal
  | .inexact => .value (field ++ " must be non-empty exact text without surrounding whitespace")
  | .encoding => .value (field ++ " must be valid UTF-8 text")
  | .unbounded => .value (field ++ " exceeds its bounded text contract")
  | .control => .value (field ++ " contains forbidden control text")

/-- What `_bounded_text` finds in a text under a limit. -/
abbrev Texts : Type := ℕ → String → Option TextFault

inductive ExperimentOperation
  | inactive
  | active
  | finalized
  | unavailable
deriving DecidableEq, Repr

def ExperimentOperation.value : ExperimentOperation → String
  | .inactive => "inactive"
  | .active => "active"
  | .finalized => "finalized"
  | .unavailable => "unavailable"

inductive AcquisitionLifecycle
  | running
  | stopped
  | unavailable
deriving DecidableEq, Repr

def AcquisitionLifecycle.value : AcquisitionLifecycle → String
  | .running => "running"
  | .stopped => "stopped"
  | .unavailable => "unavailable"

inductive PersistenceLifecycle
  | lossless
  | loss
  | unavailable
deriving DecidableEq, Repr

def PersistenceLifecycle.value : PersistenceLifecycle → String
  | .lossless => "lossless"
  | .loss => "loss"
  | .unavailable => "unavailable"

/-- The signed fields of an `ExperimentOperationOutcome`. -/
structure ExperimentFields where
  revision : Count
  operationId : String
  operation : ExperimentOperation
  experimentId : Option String
  experimentName : Option String
  phase : Option String
deriving DecidableEq

/-- The signed fields of an `AcquisitionLifecycleReceipt`. -/
structure AcquisitionFields where
  revision : Count
  state : AcquisitionLifecycle
  acquisitionEpochId : Option String
deriving DecidableEq

/-- The signed fields of a `PersistenceLifecycleReceipt`. -/
structure PersistenceFields where
  revision : Count
  state : PersistenceLifecycle
  persistenceEpochId : Option String
deriving DecidableEq

/-- An outcome with its provenance. -/
structure Issued (φ τ : Type) where
  generationId : String
  fields : φ
  provenance : τ

/-- `RecordingFeedAuthority` -/
structure FeedAuthority (τ : Type) where
  generationId : String
  experimentToken : ExperimentFields → τ
  acquisitionToken : AcquisitionFields → τ
  persistenceToken : PersistenceFields → τ

/-- An integer that `_revision` accepts. -/
def countOf (value : ℤ) : Option Count :=
  if h : 1 ≤ value.toNat ∧ value.toNat ≤ maxNonnegativeInt then some ⟨value.toNat, h.1, h.2⟩
  else none

/-- What `_revision` raises. -/
def revisionError (field : String) : Refusal :=
  .value (field ++ " must be an exact integer in [1, 9223372036854775807]")

/-- The first error of the texts that are present. -/
def textError (texts : Texts) : List (String × ℕ × Option String) → Option Refusal
  | [] => none
  | (_, _, none) :: rest => textError texts rest
  | (field, limit, some value) :: rest =>
      match texts limit value with
      | some fault => some (fault.error field)
      | none => textError texts rest

namespace FeedAuthority

variable {τ : Type} (A : FeedAuthority τ) (texts : Texts)

def experiment (revision : ℤ) (operationId : String) (operation : ExperimentOperation)
    (experimentId experimentName phase : Option String) :
    Except Refusal (Issued ExperimentFields τ) :=
  match countOf revision with
  | none => .error (revisionError "revision")
  | some count =>
      match textError texts
        [("operation_id", maxIdUtf8Bytes, some operationId),
          ("experiment_id", maxIdUtf8Bytes, experimentId),
          ("experiment_name", maxTextUtf8Bytes, experimentName),
          ("phase", maxIdUtf8Bytes, phase)] with
      | some e => .error e
      | none =>
          let fields : ExperimentFields :=
            ⟨count, operationId, operation, experimentId, experimentName, phase⟩
          if operation = .active ∧ (experimentId = none ∨ experimentName = none) then
            .error (.value "active experiment outcome requires experiment identity and name")
          else if operation = .finalized ∧
              (experimentId = none ∨ experimentName ≠ none ∨ phase ≠ none) then
            .error (.value "finalized experiment outcome carries identity only")
          else if (operation = .inactive ∨ operation = .unavailable) ∧
              (experimentId ≠ none ∨ experimentName ≠ none ∨ phase ≠ none) then
            .error (.value "inactive or unavailable experiment outcome carries no experiment identity")
          else .ok ⟨A.generationId, fields, A.experimentToken fields⟩

def acquisition (revision : ℤ) (state : AcquisitionLifecycle) (acquisitionEpochId : Option String) :
    Except Refusal (Issued AcquisitionFields τ) :=
  match countOf revision with
  | none => .error (revisionError "revision")
  | some count =>
      match textError texts [("acquisition_epoch_id", maxIdUtf8Bytes, acquisitionEpochId)] with
      | some e => .error e
      | none =>
          let fields : AcquisitionFields := ⟨count, state, acquisitionEpochId⟩
          if (state = .running) ↔ acquisitionEpochId ≠ none then
            .ok ⟨A.generationId, fields, A.acquisitionToken fields⟩
          else .error (.value "only a running acquisition carries an epoch identity")

def persistence (revision : ℤ) (state : PersistenceLifecycle) (persistenceEpochId : Option String) :
    Except Refusal (Issued PersistenceFields τ) :=
  match countOf revision with
  | none => .error (revisionError "revision")
  | some count =>
      match textError texts [("persistence_epoch_id", maxIdUtf8Bytes, persistenceEpochId)] with
      | some e => .error e
      | none =>
          let fields : PersistenceFields := ⟨count, state, persistenceEpochId⟩
          if (state = .lossless) ↔ persistenceEpochId ≠ none then
            .ok ⟨A.generationId, fields, A.persistenceToken fields⟩
          else .error (.value "only lossless persistence carries an epoch identity")

def verifies {φ : Type} [DecidableEq τ] (token : φ → τ) (outcome : Issued φ τ) : Bool :=
  outcome.generationId = A.generationId && outcome.provenance = token outcome.fields

end FeedAuthority

structure SessionId where
  generationId : String
  counter : ℕ
deriving DecidableEq, Repr

/-- `ExperimentRecordingSnapshot`; it says RECORDING when it has a session. -/
structure RecordingSnapshot where
  generationId : String
  revision : ℕ
  experimentRevision : ℕ
  acquisitionRevision : ℕ
  persistenceRevision : ℕ
  acquisitionEpochId : Option String
  persistenceEpochId : Option String
  experimentOperation : ExperimentOperation
  experimentId : Option String
  experimentName : Option String
  phase : Option String
  recordingSessionId : Option SessionId
  reason : String
deriving DecidableEq

def RecordingSnapshot.recording (s : RecordingSnapshot) : Bool := s.recordingSessionId.isSome

/-- `ExperimentRecordingOwner` -/
structure RecordingOwner (τ : Type) where
  generationId : String
  revision : ℕ
  experimentRevision : ℕ
  acquisitionRevision : ℕ
  persistenceRevision : ℕ
  experimentToken : Option τ
  acquisitionToken : Option τ
  persistenceToken : Option τ
  experimentOperation : ExperimentOperation
  experimentId : Option String
  experimentName : Option String
  phase : Option String
  acquisitionRunning : Bool
  acquisitionEpochId : Option String
  persistenceLossless : Bool
  persistenceEpochId : Option String
  sessionCounter : ℕ
  sessionId : Option SessionId
  snapshot : RecordingSnapshot

/-- The owner after a call, and what the call raised. -/
abbrev Recorded (τ : Type) : Type := RecordingOwner τ × Option Refusal

namespace RecordingOwner

variable {τ : Type}

def makeSnapshot (o : RecordingOwner τ) (reason : String) : RecordingSnapshot where
  generationId := o.generationId
  revision := o.revision
  experimentRevision := o.experimentRevision
  acquisitionRevision := o.acquisitionRevision
  persistenceRevision := o.persistenceRevision
  acquisitionEpochId := o.acquisitionEpochId
  persistenceEpochId := o.persistenceEpochId
  experimentOperation := o.experimentOperation
  experimentId := o.experimentId
  experimentName := o.experimentName
  phase := o.phase
  recordingSessionId := o.sessionId
  reason := reason

def init (A : FeedAuthority τ) : RecordingOwner τ where
  generationId := A.generationId
  revision := 0
  experimentRevision := 0
  acquisitionRevision := 0
  persistenceRevision := 0
  experimentToken := none
  acquisitionToken := none
  persistenceToken := none
  experimentOperation := .inactive
  experimentId := none
  experimentName := none
  phase := none
  acquisitionRunning := false
  acquisitionEpochId := none
  persistenceLossless := false
  persistenceEpochId := none
  sessionCounter := 0
  sessionId := none
  snapshot :=
    { generationId := A.generationId
      revision := 0
      experimentRevision := 0
      acquisitionRevision := 0
      persistenceRevision := 0
      acquisitionEpochId := none
      persistenceEpochId := none
      experimentOperation := .inactive
      experimentId := none
      experimentName := none
      phase := none
      recordingSessionId := none
      reason := "not_initialized" }

def publish (o : RecordingOwner τ) (reason : String) : RecordingOwner τ :=
  { o with
    revision := o.revision + 1
    snapshot := { o with revision := o.revision + 1 : RecordingOwner τ }.makeSnapshot reason }

/-- The call raises a `ValueError` and changes nothing. -/
def refuse (o : RecordingOwner τ) (message : String) : Recorded τ := (o, some (.value message))

/-- `__accept` and `__ensure_capacity`, before the rest of a feed. -/
def accepting [DecidableEq τ] (o : RecordingOwner τ) (revision current : ℕ) (token : τ)
    (currentToken : Option τ) (domain : String) (next : Recorded τ) : Recorded τ :=
  if revision < current then o.refuse (domain ++ " revision regression")
  else if revision = current then
    if some token ≠ currentToken then o.refuse (domain ++ " same-revision equivocation")
    else (o, none)
  else if maxNonnegativeInt ≤ o.revision then
    (o, some (.overflow "recording owner revision exhausted"))
  else next

/-- The end of `feed_experiment`. -/
def enterExperiment (o : RecordingOwner τ) (outcome : Issued ExperimentFields τ) :
    RecordingOwner τ :=
  let fields := outcome.fields
  let seen : RecordingOwner τ :=
    { o with
      experimentRevision := fields.revision.value
      experimentToken := some outcome.provenance }
  match fields.operation with
  | .active =>
      let replacement := decide (o.experimentId ≠ none ∧ o.experimentId ≠ fields.experimentId)
      { seen with
        experimentOperation := .active
        experimentId := fields.experimentId
        experimentName := fields.experimentName
        phase := fields.phase
        sessionId := if replacement then none else o.sessionId : RecordingOwner τ }.publish
          (if replacement then "experiment_replaced" else "experiment_active")
  | .finalized =>
      let same := decide (o.experimentId = fields.experimentId)
      { seen with
        experimentOperation := .finalized
        experimentId := if same then none else o.experimentId
        experimentName := if same then none else o.experimentName
        phase := if same then none else o.phase
        sessionId := none : RecordingOwner τ }.publish "experiment_finalized"
  | operation =>
      { seen with
        experimentOperation := operation
        experimentId := none
        experimentName := none
        phase := none
        sessionId := none : RecordingOwner τ }.publish ("experiment_" ++ operation.value)

def feedExperiment [DecidableEq τ] (A : FeedAuthority τ) (o : RecordingOwner τ)
    (outcome : Issued ExperimentFields τ) : Recorded τ :=
  if A.verifies A.experimentToken outcome = false then
    o.refuse "experiment outcome lacks exact owner provenance"
  else
    o.accepting outcome.fields.revision.value o.experimentRevision outcome.provenance
      o.experimentToken "experiment"
      (if outcome.fields.operation = .finalized ∧
          (o.experimentOperation ≠ .active ∨ o.experimentId ≠ outcome.fields.experimentId) then
        o.refuse "finalization requires the exact active experiment"
      else (o.enterExperiment outcome, none))

/-- The end of `feed_acquisition`. -/
def enterAcquisition (o : RecordingOwner τ) (receipt : Issued AcquisitionFields τ) :
    RecordingOwner τ :=
  let running := decide (receipt.fields.state = .running)
  let replaced := decide (o.acquisitionEpochId ≠ none ∧
    receipt.fields.acquisitionEpochId ≠ o.acquisitionEpochId)
  { o with
    acquisitionRevision := receipt.fields.revision.value
    acquisitionToken := some receipt.provenance
    acquisitionRunning := running
    acquisitionEpochId := receipt.fields.acquisitionEpochId
    sessionId := if replaced || !running then none else o.sessionId : RecordingOwner τ }.publish
      ("acquisition_" ++ receipt.fields.state.value)

def feedAcquisition [DecidableEq τ] (A : FeedAuthority τ) (o : RecordingOwner τ)
    (receipt : Issued AcquisitionFields τ) : Recorded τ :=
  if A.verifies A.acquisitionToken receipt = false then
    o.refuse "acquisition receipt lacks exact owner provenance"
  else
    o.accepting receipt.fields.revision.value o.acquisitionRevision receipt.provenance
      o.acquisitionToken "acquisition" (o.enterAcquisition receipt, none)

/-- The end of `feed_persistence`. -/
def enterPersistence (o : RecordingOwner τ) (receipt : Issued PersistenceFields τ) :
    RecordingOwner τ :=
  let lossless := decide (receipt.fields.state = .lossless)
  let replaced := decide (o.persistenceEpochId ≠ none ∧
    receipt.fields.persistenceEpochId ≠ o.persistenceEpochId)
  { o with
    persistenceRevision := receipt.fields.revision.value
    persistenceToken := some receipt.provenance
    persistenceLossless := lossless
    persistenceEpochId := receipt.fields.persistenceEpochId
    sessionId := if replaced || !lossless then none else o.sessionId : RecordingOwner τ }.publish
      ("persistence_" ++ receipt.fields.state.value)

def feedPersistence [DecidableEq τ] (A : FeedAuthority τ) (o : RecordingOwner τ)
    (receipt : Issued PersistenceFields τ) : Recorded τ :=
  if A.verifies A.persistenceToken receipt = false then
    o.refuse "persistence receipt lacks exact owner provenance"
  else
    o.accepting receipt.fields.revision.value o.persistenceRevision receipt.provenance
      o.persistenceToken "persistence" (o.enterPersistence receipt, none)

def beginRecordingEpoch (o : RecordingOwner τ) : Recorded τ :=
  if o.sessionId.isSome then (o, none)
  else if o.experimentId = none ∨ o.acquisitionRunning = false ∨ o.persistenceLossless = false then
    (o, none)
  else if maxNonnegativeInt ≤ o.revision then
    (o, some (.overflow "recording owner revision exhausted"))
  else if maxNonnegativeInt ≤ o.sessionCounter then
    (o, some (.overflow "recording session counter exhausted"))
  else
    ({ o with
        sessionCounter := o.sessionCounter + 1
        sessionId := some ⟨o.generationId, o.sessionCounter + 1⟩ : RecordingOwner τ }.publish
      "recording_epoch_begun", none)

end RecordingOwner

end Recording
end CryoDaq
