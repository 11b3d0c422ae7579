import CryoDaq.Recording.RecordingOwner
import CryoDaq.Python.Time

/-!
# The lifecycle feed

`RecordingLifecycleFeed` owns the owner of recording truth and the owner of
persistence truth and feeds both from what the engine reports.

**Calls.**  A call returns the feed after it and what it raised; a call that raises
may have changed the feed.  The snapshots of a call that returns are those of the
owners.  The clock counts microseconds.

**The writer.**  A commit receipt is what the writer says about it: whether it owns
it, its revision and its number of entries.
-/

namespace CryoDaq
namespace Recording

open Storage

structure Config (τ σ : Type) where
  texts : Texts
  persistenceAuthority : OutcomeAuthority τ
  authority : FeedAuthority σ
  freshness : Timestamp
  hasWriter : Bool

/-- What the writer says about a `CommittedBatchReceipt`. -/
structure CommitReceipt where
  owned : Bool
  commitRevision : ℕ
  entries : ℕ
deriving DecidableEq

inductive Payload
  | active (experimentId experimentName : String) (phase : Option String)
  | finalized (experimentId : String)
  | aborted (experimentId : String)
  | inactive
  | running (epochId : String)
  | terminal (state : AcquisitionLifecycle)
deriving DecidableEq

section Receipts

variable {τ : Type} (texts : Texts) (A : OutcomeAuthority τ)

/-- A text that `_text` accepts. -/
def checkText (field : String) (limit : ℕ) (value : String) : Except Refusal Unit :=
  match texts limit value with
  | some fault => .error (fault.error field)
  | none => .ok ()

/-- An integer that `_revision` accepts. -/
def checkCount (field : String) (value : ℤ) : Except Refusal Count :=
  match countOf value with
  | some count => .ok count
  | none => .error (revisionError field)

/-- `PersistenceOutcomeAuthority.lifecycle` -/
def signLifecycle (revision : ℤ) (epoch : String) (state : OwnerLifecycle) :
    Except Refusal (Receipt τ) := do
  let count ← checkCount "revision" revision
  checkText texts "recording_epoch_id" maxIdUtf8Bytes epoch
  return A.issue ⟨count, epoch, .lifecycle state⟩

/-- `direct_commit` -/
def signDirectCommit (revision : ℤ) (epoch : String) (sourceRevision : ℤ) (destination : String)
    (records : ℤ) : Except Refusal (Receipt τ) := do
  let count ← checkCount "revision" revision
  checkText texts "recording_epoch_id" maxIdUtf8Bytes epoch
  let source ← checkCount "source_commit_revision" sourceRevision
  checkText texts "destination_id" maxIdUtf8Bytes destination
  let recordCount ← checkCount "record_count" records
  return A.issue ⟨count, epoch, .directCommit source destination recordCount⟩

theorem rejection_identified :
    FailureKind.rejection ≠ .rejection → (none : Option (String × Count)).isSome = true :=
  fun h => absurd rfl h

/-- `failure` of kind `REJECTION`, without an append. -/
def signRejection (revision : ℤ) (epoch failureId reason : String) (records : ℤ) :
    Except Refusal (Receipt τ) := do
  let count ← checkCount "revision" revision
  checkText texts "recording_epoch_id" maxIdUtf8Bytes epoch
  checkText texts "failure_id" maxIdUtf8Bytes failureId
  checkText texts "reason" maxReasonUtf8Bytes reason
  let recordCount ← checkCount "record_count" records
  return A.issue ⟨count, epoch, .failure ⟨failureId, .rejection, none, reason, recordCount,
    rejection_identified⟩⟩

end Receipts

/-- The attributes of `RecordingLifecycleFeed`. -/
structure Feed (τ σ : Type) where
  owner : RecordingOwner σ
  persistenceOwner : Owner τ
  experimentRevision : ℤ := 0
  experimentPayload : Option Payload := none
  acquisitionRevision : ℤ := 0
  acquisitionPayload : Option Payload := none
  outcomeRevision : ℕ := 0
  sourceRevision : ℕ := 0
  epoch : Option String := none
  active : Bool := false
  latched : Bool := false
  lastCommitAt : Option Timestamp := none

/-- The feed after a call, and what the call raised. -/
abbrev Result (τ σ : Type) : Type := Feed τ σ × Option Refusal

/-- What follows a call that does not raise. -/
def Result.andThen {τ σ : Type} (r : Result τ σ) (next : Feed τ σ → Result τ σ) : Result τ σ :=
  match r.2 with
  | some e => (r.1, some e)
  | none => next r.1

namespace Feed

variable {τ σ : Type}

def init (cfg : Config τ σ) : Feed τ σ where
  owner := .init cfg.authority
  persistenceOwner := .init cfg.persistenceAuthority "engine-direct-sqlite-owner"

/-- The call raises and changes nothing. -/
def raising (f : Feed τ σ) (message : String) : Result τ σ := (f, some (.value message))

def liveEpoch (f : Feed τ σ) : Option String := if f.active then f.epoch else none

def advance (f : Feed τ σ) : Feed τ σ := { f with outcomeRevision := f.outcomeRevision + 1 }

variable [DecidableEq τ] [DecidableEq σ] (cfg : Config τ σ) (f : Feed τ σ)

def requirePersistence (next : Result τ σ) : Result τ σ :=
  if cfg.hasWriter then next
  else (f, some (.runtime "direct SQLite persistence feed is unavailable"))

def feedPersistenceOwner (receipt : Except Refusal (Receipt τ)) : Result τ σ :=
  match receipt with
  | .error e => (f, some e)
  | .ok receipt =>
      ({ f with persistenceOwner := (f.persistenceOwner.feed cfg.persistenceAuthority receipt).1 },
        (f.persistenceOwner.feed cfg.persistenceAuthority receipt).2)

def feedRecordingOwner (state : PersistenceLifecycle) (epoch : Option String) : Result τ σ :=
  match cfg.authority.persistence cfg.texts f.outcomeRevision state epoch with
  | .error e => (f, some e)
  | .ok receipt =>
      ({ f with owner := (f.owner.feedPersistence cfg.authority receipt).1 },
        (f.owner.feedPersistence cfg.authority receipt).2)

/-- `begin_recording_epoch` of the owner -/
def beginRecordingEpoch : Result τ σ :=
  ({ f with owner := f.owner.beginRecordingEpoch.1 }, f.owner.beginRecordingEpoch.2)

/-- The end of `__terminalize_persistence`. -/
def closePersistence : Result τ σ :=
  let g : Feed τ σ := { f with active := false, latched := true, epoch := none, lastCommitAt := none }
  if g.owner.snapshot.persistenceEpochId ≠ none then
    g.advance.feedRecordingOwner cfg .unavailable none
  else (g, none)

/-- `__terminalize_persistence` -/
def terminalize (lifecycle : OwnerLifecycle) : Result τ σ :=
  f.requirePersistence cfg
    (match f.liveEpoch with
    | some epoch =>
        Result.andThen
          (f.advance.feedPersistenceOwner cfg
            (signLifecycle cfg.texts cfg.persistenceAuthority (f.outcomeRevision + 1) epoch lifecycle))
          fun g => g.closePersistence cfg
    | none => f.closePersistence cfg)

def persistenceStarted (epoch : String) : Result τ σ :=
  f.requirePersistence cfg
    (if f.active then
      Result.andThen (f.terminalize cfg .cancellationAmbiguous) fun g =>
        g.raising "direct persistence epoch is already active"
    else
      let fed := f.advance.feedPersistenceOwner cfg
        (signLifecycle cfg.texts cfg.persistenceAuthority (f.outcomeRevision + 1) epoch .started)
      match fed.2 with
      | some e => Result.andThen (fed.1.terminalize cfg .cancellationAmbiguous) fun g => (g, some e)
      | none =>
          ({ fed.1 with
            epoch := some epoch
            active := true
            latched := false
            lastCommitAt := none }, none))

/-- `persistence_committed` after `owner.feed`. -/
def recordCommit (epoch : String) (sourceRevision : ℕ) (clock : Timestamp) : Result τ σ :=
  let g : Feed τ σ := { f with sourceRevision := sourceRevision, lastCommitAt := some clock }
  if g.latched then (g, none)
  else
    Result.andThen (g.feedRecordingOwner cfg .lossless (some epoch)) fun h => h.beginRecordingEpoch

def persistenceCommitted (receipt : CommitReceipt) (clock : Timestamp) : Result τ σ :=
  f.requirePersistence cfg
    (match f.liveEpoch with
    | some epoch =>
        if receipt.owned = false then
          f.raising "direct persistence commit lacks exact SQLiteWriter provenance"
        else if receipt.commitRevision < f.sourceRevision then
          f.raising "direct persistence source revision regression"
        else if receipt.commitRevision = f.sourceRevision then (f, none)
        else if f.owner.snapshot.acquisitionEpochId ≠ some epoch then
          Result.andThen (f.terminalize cfg .cancellationAmbiguous) fun g =>
            g.raising "acquisition epoch does not match direct persistence epoch"
        else
          Result.andThen
            (f.advance.feedPersistenceOwner cfg
              (signDirectCommit cfg.texts cfg.persistenceAuthority (f.outcomeRevision + 1) epoch
                receipt.commitRevision "descriptor-sqlite" receipt.entries))
            fun g => g.recordCommit cfg epoch receipt.commitRevision clock
    | none => f.raising "direct persistence commit requires an active epoch")

def persistenceRejected (recordCount : ℤ) (reason : String) : Result τ σ :=
  f.requirePersistence cfg
    (match f.liveEpoch with
    | some epoch =>
        if recordCount < 1 then f.raising "record_count must be a positive exact integer"
        else
          Result.andThen
            (f.advance.feedPersistenceOwner cfg
              (signRejection cfg.texts cfg.persistenceAuthority (f.outcomeRevision + 1) epoch
                ("direct-rejection-" ++ toString (f.outcomeRevision + 1)) reason recordCount))
            fun g => { g with latched := true : Feed τ σ }.feedRecordingOwner cfg .loss none
    | none => f.raising "direct persistence rejection requires an active epoch")

/-- `__expire_persistence` -/
def expire (clock : Timestamp) : Result τ σ :=
  if f.active = true ∧ f.latched = false ∧ f.lastCommitAt.any (fun t => cfg.freshness < clock - t) then
    f.terminalize cfg .cancellationAmbiguous
  else (f, none)

/-! ## Experiment and acquisition -/

/-- `__accept_source`, before the rest of a call. -/
def acceptSource (revision : ℤ) (payload : Payload) (currentRevision : ℤ)
    (currentPayload : Option Payload) (domain : String) (next : Result τ σ) : Result τ σ :=
  if revision < 1 then f.raising (domain ++ " source revision must be a positive exact integer")
  else if revision < currentRevision then f.raising (domain ++ " source revision regression")
  else if revision = currentRevision then
    if some payload ≠ currentPayload then
      f.raising (domain ++ " source same-revision equivocation")
    else (f, none)
  else next

/-- Feed the owner of recording truth about the experiment. -/
def feedExperiment (revision : ℤ) (payload : Payload) (operation : ExperimentOperation)
    (experimentId experimentName phase : Option String) : Result τ σ :=
  match cfg.authority.experiment cfg.texts revision ("experiment-" ++ toString revision) operation
      experimentId experimentName phase with
  | .error e => (f, some e)
  | .ok outcome =>
      let fed := f.owner.feedExperiment cfg.authority outcome
      Result.andThen ({ f with owner := fed.1 }, fed.2) fun g =>
        ({ g with experimentRevision := revision, experimentPayload := some payload }, none)

/-- Feed the owner of recording truth about the acquisition. -/
def feedAcquisition (revision : ℤ) (payload : Payload) (state : AcquisitionLifecycle)
    (epoch : Option String) : Result τ σ :=
  match cfg.authority.acquisition cfg.texts revision state epoch with
  | .error e => (f, some e)
  | .ok receipt =>
      let fed := f.owner.feedAcquisition cfg.authority receipt
      Result.andThen ({ f with owner := fed.1 }, fed.2) fun g =>
        ({ g with acquisitionRevision := revision, acquisitionPayload := some payload }, none)

/-- `__accept_source` of the experiment -/
def acceptExperiment (revision : ℤ) (payload : Payload) (next : Result τ σ) : Result τ σ :=
  f.acceptSource revision payload f.experimentRevision f.experimentPayload "experiment" next

/-- `__accept_source` of the acquisition -/
def acceptAcquisition (revision : ℤ) (payload : Payload) (next : Result τ σ) : Result τ σ :=
  f.acceptSource revision payload f.acquisitionRevision f.acquisitionPayload "acquisition" next

/-- `__require_active_experiment`, before the rest of a call. -/
def requireActiveExperiment (experimentId operation : String) (next : Result τ σ) : Result τ σ :=
  if f.owner.snapshot.experimentOperation ≠ .active ∨
      f.owner.snapshot.experimentId ≠ some experimentId then
    f.raising (operation ++ " requires the exact active experiment")
  else next

def experimentActive (revision : ℤ) (experimentId experimentName : String)
    (phase : Option String) : Result τ σ :=
  let payload := Payload.active experimentId experimentName phase
  f.acceptExperiment revision payload
    (if f.owner.snapshot.experimentOperation = .active ∧
        f.owner.snapshot.experimentId ≠ some experimentId then
      f.raising "active experiment cannot be replaced without a terminal lifecycle outcome"
    else
      f.feedExperiment cfg revision payload .active (some experimentId) (some experimentName) phase)

def experimentFinalized (revision : ℤ) (experimentId : String) : Result τ σ :=
  f.acceptExperiment revision (.finalized experimentId)
    (f.requireActiveExperiment experimentId "finalization"
      (f.feedExperiment cfg revision (.finalized experimentId) .finalized (some experimentId) none
        none))

def experimentAborted (revision : ℤ) (experimentId : String) : Result τ σ :=
  f.acceptExperiment revision (.aborted experimentId)
    (f.requireActiveExperiment experimentId "abort"
      (f.feedExperiment cfg revision (.aborted experimentId) .inactive none none none))

def experimentInactive (revision : ℤ) : Result τ σ :=
  f.acceptExperiment revision .inactive
    (f.feedExperiment cfg revision .inactive .inactive none none none)

def acquisitionRunning (sequence : ℤ) (epoch : String) : Result τ σ :=
  f.acceptAcquisition sequence (.running epoch)
    (if f.owner.snapshot.acquisitionEpochId ≠ none then
      f.raising "running acquisition epoch cannot be replaced before stop or unavailability"
    else f.feedAcquisition cfg sequence (.running epoch) .running (some epoch))

def acquisitionTerminal (sequence : ℤ) (state : AcquisitionLifecycle) : Result τ σ :=
  f.acceptAcquisition sequence (.terminal state)
    (f.feedAcquisition cfg sequence (.terminal state) state none)

end Feed

inductive Call
  | persistenceStarted (epoch : String)
  | persistenceCommitted (receipt : CommitReceipt) (clock : Timestamp)
  | persistenceRejected (recordCount : ℤ) (reason : String)
  | persistenceAmbiguous
  | persistenceStopped
  | experimentActive (revision : ℤ) (experimentId experimentName : String) (phase : Option String)
  | experimentFinalized (revision : ℤ) (experimentId : String)
  | experimentAborted (revision : ℤ) (experimentId : String)
  | experimentInactive (revision : ℤ)
  | acquisitionRunning (sequence : ℤ) (epoch : String)
  | acquisitionStopped (sequence : ℤ)
  | acquisitionUnavailable (sequence : ℤ)
  | snapshot (clock : Timestamp)
  | persistenceSnapshot (clock : Timestamp)

namespace Feed

variable {τ σ : Type} [DecidableEq τ] [DecidableEq σ] (cfg : Config τ σ) (f : Feed τ σ)

def call : Call → Result τ σ
  | .persistenceStarted epoch => f.persistenceStarted cfg epoch
  | .persistenceCommitted receipt clock => f.persistenceCommitted cfg receipt clock
  | .persistenceRejected recordCount reason => f.persistenceRejected cfg recordCount reason
  | .persistenceAmbiguous => f.terminalize cfg .cancellationAmbiguous
  | .persistenceStopped => f.terminalize cfg .stopped
  | .experimentActive revision experimentId experimentName phase =>
      f.experimentActive cfg revision experimentId experimentName phase
  | .experimentFinalized revision experimentId => f.experimentFinalized cfg revision experimentId
  | .experimentAborted revision experimentId => f.experimentAborted cfg revision experimentId
  | .experimentInactive revision => f.experimentInactive cfg revision
  | .acquisitionRunning sequence epoch => f.acquisitionRunning cfg sequence epoch
  | .acquisitionStopped sequence => f.acquisitionTerminal cfg sequence .stopped
  | .acquisitionUnavailable sequence => f.acquisitionTerminal cfg sequence .unavailable
  | .snapshot clock => f.expire cfg clock
  | .persistenceSnapshot clock =>
      Result.andThen (f.expire cfg clock) fun g => g.requirePersistence cfg (g, none)

end Feed

end Recording
end CryoDaq
