import CryoDaq.Python.Dict
import Mathlib.Algebra.Ring.Int.Defs
import Mathlib.Algebra.Ring.Nat
import Mathlib.Data.Finset.Card

/-!
# The owner of persistence truth

`PersistenceAuthorityOwner` is fed receipts about one recording epoch after the
other and presents what is pending, what is lost and whether the storage is
available.

**Receipts.**  The fields of a receipt are signed by the outcome authority; the
signature is a parameter.  A receipt is checked when it is constructed, so its
counts and revisions are in their bounds.

**Feeding.**  `feed` returns the owner after the call and what the call raised:
an owner whose capacity is exhausted changes and raises.
-/

namespace CryoDaq
namespace Storage

def maxNonnegativeInt : ℕ := 9223372036854775807

def maxTrackedIdentities : ℕ := 100000

structure Count where
  value : ℕ
  positive : 1 ≤ value
  bounded : value ≤ maxNonnegativeInt
deriving DecidableEq

/-- `PersistenceFailureKind` -/
inductive FailureKind
  | materializationDeferred
  | failure
  | loss
  | rejection
deriving DecidableEq

/-- Whether the append of a failure stays pending. -/
def FailureKind.retained : FailureKind → Bool
  | .materializationDeferred => true
  | .failure => true
  | .loss => false
  | .rejection => false

/-- `PersistenceOwnerLifecycle` -/
inductive OwnerLifecycle
  | started
  | stopped
  | cancellationAmbiguous
deriving DecidableEq

/-- An append with the incarnation that its receipts name. -/
structure AppendJoin where
  appendId : String
  appendRevision : Count
  destinationId : String
  materializationRevision : Count
  recordCount : Count
deriving DecidableEq

structure FailureFields where
  failureId : String
  kind : FailureKind
  append : Option (String × Count)
  reason : String
  recordCount : Count
  identified : kind ≠ .rejection → append.isSome = true
deriving DecidableEq

/-- What a receipt is about. -/
inductive Outcome
  | lifecycle (state : OwnerLifecycle)
  | durableAppend (appendId destinationId : String) (recordCount : Count)
  | directCommit (sourceCommitRevision : Count) (destinationId : String) (recordCount : Count)
  | materialized (join : AppendJoin)
  | acknowledged (join : AppendJoin)
  | failure (fields : FailureFields)
  | archive (archiveRevision : Count) (destinationId : String)
deriving DecidableEq

structure Signed where
  revision : Count
  recordingEpochId : String
  outcome : Outcome
deriving DecidableEq

structure Receipt (τ : Type) where
  issuerId : String
  generationId : String
  signed : Signed
  provenance : τ
deriving DecidableEq

/-- `PersistenceOutcomeAuthority` -/
structure OutcomeAuthority (τ : Type) where
  issuerId : String
  generationId : String
  token : Signed → τ

namespace OutcomeAuthority

variable {τ : Type}

def issue (A : OutcomeAuthority τ) (s : Signed) : Receipt τ :=
  ⟨A.issuerId, A.generationId, s, A.token s⟩

def verifies [DecidableEq τ] (A : OutcomeAuthority τ) (r : Receipt τ) : Bool :=
  r.issuerId = A.issuerId && r.generationId = A.generationId && r.provenance = A.token r.signed

theorem verifies_iff [DecidableEq τ] {A : OutcomeAuthority τ} {r : Receipt τ} :
    A.verifies r = true ↔ r = A.issue r.signed := by
  unfold verifies issue
  obtain ⟨i, g, s, t⟩ := r
  simp only [Bool.and_eq_true, decide_eq_true_eq, Receipt.mk.injEq, true_and]
  exact and_assoc

end OutcomeAuthority

/-- `AvailabilityTruth` -/
inductive Availability
  | available
  | unavailable
  | unknown
deriving DecidableEq

/-- What `feed` raises. -/
inductive Refusal
  | value (message : String)
  | overflow (message : String)
  | runtime (message : String)
deriving DecidableEq

structure PendingAppend where
  revision : Count
  destinationId : String
  recordCount : Count
deriving DecidableEq

/-- `PersistenceAuthoritySnapshot` -/
structure OwnerSnapshot where
  ownerId : String
  generationId : String
  revision : ℕ
  receiptRevision : ℕ
  recordingEpochId : Option String
  committedMaterializationRevision : ℕ
  archiveRevision : Option ℕ
  pendingCount : ℕ
  droppedOrRejectedCount : ℕ
  storage : Availability
  reason : String
deriving DecidableEq

/-- `PersistenceAuthorityOwner` -/
structure Owner (τ : Type) where
  ownerId : String
  generationId : String
  revision : ℕ
  receiptRevision : ℕ
  lastToken : Option τ
  epoch : Option String
  active : Bool
  materializationRevision : ℕ
  archiveRevision : Option ℕ
  pending : Dict String PendingAppend
  pendingCount : ℕ
  materialized : Dict String (PendingAppend × Count)
  usedEpochIds : Finset String
  usedFailureIds : Finset String
  dropped : ℕ
  directCommitRevision : ℕ
  storage : Availability
  spoolSeen : Bool
  terminalUnavailableReason : Option String
  unavailableAppendRevisions : Finset Count
  snapshot : OwnerSnapshot

/-- The owner after a call, and what the call raised. -/
abbrev Fed (τ : Type) : Type := Owner τ × Option Refusal

namespace AppendJoin

/-- The entry of `__pending` that a join names. -/
def pending (j : AppendJoin) : PendingAppend := ⟨j.appendRevision, j.destinationId, j.recordCount⟩

end AppendJoin

namespace Owner

variable {τ : Type}

def makeSnapshot (o : Owner τ) (reason : String) : OwnerSnapshot where
  ownerId := o.ownerId
  generationId := o.generationId
  revision := o.revision
  receiptRevision := o.receiptRevision
  recordingEpochId := o.epoch
  committedMaterializationRevision := o.materializationRevision
  archiveRevision := o.archiveRevision
  pendingCount := o.pendingCount
  droppedOrRejectedCount := o.dropped
  storage := o.storage
  reason := reason

def init (A : OutcomeAuthority τ) (ownerId : String) : Owner τ where
  ownerId := ownerId
  generationId := A.generationId
  revision := 0
  receiptRevision := 0
  lastToken := none
  epoch := none
  active := false
  materializationRevision := 0
  archiveRevision := none
  pending := .empty
  pendingCount := 0
  materialized := .empty
  usedEpochIds := ∅
  usedFailureIds := ∅
  dropped := 0
  directCommitRevision := 0
  storage := .unknown
  spoolSeen := false
  terminalUnavailableReason := none
  unavailableAppendRevisions := ∅
  snapshot :=
    { ownerId := ownerId
      generationId := A.generationId
      revision := 0
      receiptRevision := 0
      recordingEpochId := none
      committedMaterializationRevision := 0
      archiveRevision := none
      pendingCount := 0
      droppedOrRejectedCount := 0
      storage := .unknown
      reason := "not_initialized" }

def accept (o : Owner τ) (r : Receipt τ) (reason : String) : Owner τ :=
  { o with
    receiptRevision := r.signed.revision.value
    lastToken := some r.provenance
    revision := o.revision + 1
    snapshot :=
      { o with
        receiptRevision := r.signed.revision.value
        revision := o.revision + 1 : Owner τ }.makeSnapshot reason }

/-- The call raises a `ValueError` and changes nothing. -/
def refuse (o : Owner τ) (message : String) : Fed τ := (o, some (.value message))

def failTerminalCapacity (o : Owner τ) (r : Receipt τ) (reason : String) : Fed τ :=
  ({ o with
      storage := .unavailable
      terminalUnavailableReason := some reason : Owner τ }.accept r reason,
    some (.overflow reason))

def preflight [DecidableEq τ] (A : OutcomeAuthority τ) (o : Owner τ) (r : Receipt τ) :
    Except Refusal Bool :=
  if A.verifies r = false then
    .error (.value "receipt lacks exact persistence-owner provenance")
  else if r.signed.revision.value < o.receiptRevision then
    .error (.value "receipt revision regression")
  else if r.signed.revision.value = o.receiptRevision then
    if some r.provenance ≠ o.lastToken then
      .error (.value "receipt same-revision equivocation")
    else .ok false
  else if maxNonnegativeInt ≤ o.revision then
    .error (.overflow "persistence authority revision exhausted")
  else .ok true

/-- `__epoch_matches`, and what follows it. -/
def epochMatches (o : Owner τ) (r : Receipt τ) (next : Fed τ) : Fed τ :=
  if some r.signed.recordingEpochId ≠ o.epoch then
    o.refuse "receipt recording epoch does not match current owner epoch"
  else next

def feedLifecycle (o : Owner τ) (r : Receipt τ) (state : OwnerLifecycle) : Fed τ :=
  if state = .started then
    if o.active = true ∨ o.pending.entries ≠ [] then
      o.refuse "cannot start an epoch while another epoch or pending append exists"
    else if r.signed.recordingEpochId ∈ o.usedEpochIds then
      o.refuse "recording epoch identity was already used by this owner lifetime"
    else if maxTrackedIdentities ≤ o.usedEpochIds.card then
      (o, some (.overflow "recording epoch identity capacity exhausted"))
    else
      ({ o with
          usedEpochIds := insert r.signed.recordingEpochId o.usedEpochIds
          epoch := some r.signed.recordingEpochId
          active := true
          materializationRevision := 0
          archiveRevision := none
          materialized := .empty
          unavailableAppendRevisions := ∅
          dropped := 0
          directCommitRevision := 0
          storage := .unknown
          spoolSeen := false : Owner τ }.accept r "epoch_started_no_storage_proof",
        none)
  else
    o.epochMatches r
      ({ o with active := false, storage := .unavailable : Owner τ }.accept r
          (if state = .stopped then "lifecycle_stopped" else "cancellation_ambiguous"),
        none)

def feedAppend (o : Owner τ) (r : Receipt τ) (appendId destinationId : String)
    (recordCount : Count) : Fed τ :=
  if o.active = false then o.refuse "persistence epoch is not active"
  else if o.directCommitRevision ≠ 0 then
    o.refuse "spool append cannot follow direct commit evidence in one epoch"
  else if (o.pending.get? appendId).isSome then o.refuse "append identity is already pending"
  else if maxNonnegativeInt - recordCount.value < o.pendingCount then
    o.failTerminalCapacity r "pending append count capacity exhausted"
  else if maxTrackedIdentities ≤ o.pending.entries.length then
    { o with pendingCount := o.pendingCount + recordCount.value : Owner τ }.failTerminalCapacity r
      "pending append identity capacity exhausted"
  else
    ({ o with
        pending := o.pending.set appendId ⟨r.signed.revision, destinationId, recordCount⟩
        spoolSeen := true
        pendingCount := o.pendingCount + recordCount.value
        storage :=
          if o.unavailableAppendRevisions = ∅ then .available else .unavailable :
        Owner τ }.accept r "durable_append_proven",
      none)

def feedDirectCommit (o : Owner τ) (r : Receipt τ) (sourceCommitRevision : Count) : Fed τ :=
  if o.active = false then o.refuse "persistence epoch is not active"
  else if o.spoolSeen = true then
    o.refuse "direct commit cannot coexist with spool evidence in one epoch"
  else if sourceCommitRevision.value ≤ o.directCommitRevision then
    o.refuse "direct commit source revision must advance monotonically"
  else
    ({ o with
        directCommitRevision := sourceCommitRevision.value
        materializationRevision := sourceCommitRevision.value
        storage := if o.dropped = 0 then .available else .unavailable : Owner τ }.accept r
      (if o.dropped = 0 then "direct_sqlite_commit" else "direct_commit_after_loss"),
      none)

/-- The availability after an append was materialized or acknowledged, and the reason. -/
def settledStorage (o : Owner τ) (good integrity stopped : String) : Availability × String :=
  if o.active = true ∧ o.unavailableAppendRevisions = ∅ then (.available, good)
  else (.unavailable, if o.active = true then integrity else stopped)

def feedMaterialized (o : Owner τ) (r : Receipt τ) (j : AppendJoin) : Fed τ :=
  if o.pending.get? j.appendId ≠ some j.pending then
    o.refuse "materialization lacks a matching pending destination proof"
  else if j.materializationRevision.value ≤ o.materializationRevision then
    o.refuse "materialization revision must advance monotonically"
  else
    let o' : Owner τ :=
      { o with
        materializationRevision := j.materializationRevision.value
        materialized := o.materialized.set j.appendId (j.pending, j.materializationRevision)
        unavailableAppendRevisions := o.unavailableAppendRevisions.erase j.appendRevision }
    let s := o'.settledStorage "materialization_committed"
      "materialization_committed_integrity_unavailable" "materialization_committed_after_stop"
    ({ o' with storage := s.1 : Owner τ }.accept r s.2, none)

def feedAck (o : Owner τ) (r : Receipt τ) (j : AppendJoin) : Fed τ :=
  if o.pending.get? j.appendId ≠ some j.pending ∨
      o.materialized.get? j.appendId ≠ some (j.pending, j.materializationRevision) then
    o.refuse "acknowledgement lacks exact append/materialization destination proof"
  else
    let o' : Owner τ :=
      { o with
        pending := o.pending.erase j.appendId
        materialized := o.materialized.erase j.appendId }
    if o'.pendingCount < j.recordCount.value then
      (o', some (.runtime "pending record count invariant violated"))
    else
      let o'' : Owner τ :=
        { o' with
          pendingCount := o'.pendingCount - j.recordCount.value
          unavailableAppendRevisions := o'.unavailableAppendRevisions.erase j.appendRevision }
      let s := o''.settledStorage "spool_acknowledged" "spool_acknowledged_integrity_unavailable"
        "spool_acknowledged_after_stop"
      ({ o'' with storage := s.1 : Owner τ }.accept r s.2, none)

/-- The end of `__feed_failure`. -/
def failed (o : Owner τ) (r : Receipt τ) (f : FailureFields) : Fed τ :=
  ({ o with
      dropped := if f.kind.retained then o.dropped else o.dropped + f.recordCount.value
      usedFailureIds := insert f.failureId o.usedFailureIds
      storage := .unavailable : Owner τ }.accept r f.reason,
    none)

def feedFailure (o : Owner τ) (r : Receipt τ) (f : FailureFields) : Fed τ :=
  if f.failureId ∈ o.usedFailureIds then
    o.refuse "failure identity was already used by this owner lifetime"
  else if maxTrackedIdentities ≤ o.usedFailureIds.card then
    o.failTerminalCapacity r "failure identity capacity exhausted"
  else if f.kind.retained = false ∧ maxNonnegativeInt - f.recordCount.value < o.dropped then
    o.failTerminalCapacity r "dropped/rejected count capacity exhausted"
  else
    match f.append with
    | none =>
        if o.active = false then o.refuse "persistence epoch is not active" else o.failed r f
    | some (appendId, appendRevision) =>
        match o.pending.get? appendId with
        | none => o.refuse "failure does not match a pending durable append"
        | some p =>
            if p.revision ≠ appendRevision ∨ p.recordCount ≠ f.recordCount then
              o.refuse "failure does not match a pending durable append"
            else if f.kind.retained then
              if (o.materialized.get? appendId).isSome then
                o.refuse "materialization failure cannot follow a committed materialization"
              else
                { o with
                  unavailableAppendRevisions :=
                    insert appendRevision o.unavailableAppendRevisions : Owner τ }.failed r f
            else
              let o' : Owner τ :=
                { o with
                  pending := o.pending.erase appendId
                  materialized := o.materialized.erase appendId
                  unavailableAppendRevisions :=
                    o.unavailableAppendRevisions.erase appendRevision }
              if o'.pendingCount < f.recordCount.value then
                (o', some (.runtime "pending record count invariant violated"))
              else
                { o' with
                  pendingCount := o'.pendingCount - f.recordCount.value : Owner τ }.failed r f

def feedArchive (o : Owner τ) (r : Receipt τ) (archiveRevision : Count) : Fed τ :=
  if o.active = false then o.refuse "persistence epoch is not active"
  else if o.archiveRevision.any (archiveRevision.value ≤ ·) then
    o.refuse "archive revision must advance monotonically"
  else
    ({ o with
        archiveRevision := some archiveRevision.value
        storage :=
          if o.unavailableAppendRevisions = ∅ then .available else .unavailable :
        Owner τ }.accept r "archive_index_committed",
      none)

/-- The branches of `feed` for a new receipt. -/
def feedNew (o : Owner τ) (r : Receipt τ) : Fed τ :=
  match r.signed.outcome with
  | .lifecycle state => o.feedLifecycle r state
  | .durableAppend appendId destinationId recordCount =>
      o.epochMatches r (o.feedAppend r appendId destinationId recordCount)
  | .directCommit sourceCommitRevision _ _ =>
      o.epochMatches r (o.feedDirectCommit r sourceCommitRevision)
  | .materialized join => o.epochMatches r (o.feedMaterialized r join)
  | .acknowledged join => o.epochMatches r (o.feedAck r join)
  | .failure fields => o.epochMatches r (o.feedFailure r fields)
  | .archive archiveRevision _ => o.epochMatches r (o.feedArchive r archiveRevision)

def feed [DecidableEq τ] (A : OutcomeAuthority τ) (o : Owner τ) (r : Receipt τ) : Fed τ :=
  match o.preflight A r with
  | .error e => (o, some e)
  | .ok isNew =>
      match o.terminalUnavailableReason with
      | some reason => (o, some (.overflow reason))
      | none => if isNew then o.feedNew r else (o, none)

end Owner

end Storage
end CryoDaq
