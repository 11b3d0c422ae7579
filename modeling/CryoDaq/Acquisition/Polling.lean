import CryoDaq.Acquisition.Throttle

/-!
# One poll

`processReadings` takes the readings of one poll to the archive and then to the
brokers.  What the poll meets on its way (the flags of the writer, the answers
of its awaited calls, the state of the calibration service) is the
`Surroundings`; what the poll does to others is its list of `Effect`s.

**Writers.**  A writer with a descriptor catalogue answers a commit with a
receipt; a writer without one answers `write_immediate` with a truth value.
-/

namespace CryoDaq
namespace Acquisition

/-- How an awaited call ends: with a value, an exception or a cancellation. -/
inductive Answer (α : Type)
  | returns (a : α)
  | raises
  | cancelled

abbrev Bytes := List UInt8

/-- `CommittedReadingReceipt` -/
structure CommittedEntry where
  reading : Reading
  descriptorEnvelope : Bytes

/-- `CommittedBatchReceipt`; a foreign or mutated one has no entries to give. -/
structure CommitReceipt where
  owned : Bool
  entries : List CommittedEntry

/-- The calls of a descriptor-authoritative writer.  A ticket is settled when
the poll is cancelled while it waits. -/
inductive CommitApi
  | ticket (begins : Bool) (wait : Answer (Option CommitReceipt)) (release : Option Bool)
      (settle : Option (Answer (Option CommitReceipt)))
  | direct (answer : Answer (Option CommitReceipt))

inductive WriterApi
  | descriptorAuthoritative (api : CommitApi)
  | immediate (answer : Answer Bool)

/-- The writer as one poll meets it.  `stored` tells whether the batch handed to
it is in the archive in the end, whatever was answered. -/
structure Writer where
  diskFullBefore : Bool := false
  api : WriterApi
  stored : Bool
  diskFullAfter : Bool := false

/-- The observers of persistence; `false` is an observer that raises. -/
structure Observers where
  commit : Option Bool := none
  rejection : Option Bool := none
  ambiguity : Option Bool := none

/-- The temperature range that a batch would reach. -/
structure PendingRange where
  tMin : Option Float := none
  tMax : Option Float := none
deriving DecidableEq

/-- `CalibrationAcquisitionService` -/
structure CalibrationAcquisition where
  active : Bool
  referenceChannel : Option String
  targetChannels : List String
  tMin : Option Float := none
  tMax : Option Float := none

/-- The calibration service as one poll meets it. -/
structure CalibrationCall where
  isActive : Bool
  readSrdgChannels : Option (Answer (List Reading))
  service : CalibrationAcquisition

inductive Effect
  | wrote (batch : List Reading)
  | observedCommit (receipt : CommitReceipt)
  | observedRejection (recordCount : ℕ) (reason : String)
  | observedAmbiguity
  | srdgPersisted (count : ℕ) (pending : Option PendingRange)
  | published (readings : List Reading) (persistenceAuthoritative : Bool)
      (descriptorEnvelopes : Option (List Bytes))
  | safetyPublished (readings : List Reading)
  | recovered (name : String)
  | reported (name : String) (reason : String)

structure Surroundings where
  writer : Option Writer
  calibration : Option CalibrationCall := none
  broker : Answer Unit := .returns ()
  safetyBroker : Option (Answer Unit) := none
  observers : Observers := {}
  recoveryHandler : Option Bool := none
  failureHandler : Option (Answer Unit) := none

structure InstrumentState where
  name : String
  consecutiveErrors : ℕ := 0
  totalReads : ℕ := 0
  totalErrors : ℕ := 0
  backoffS : Float := 1.0

/-- The parts of the scheduler that a poll uses. -/
structure Scheduler where
  adaptiveThrottle : Option AdaptiveThrottle := none
  publishUnpersistedReadings : Bool := false
  missingPersistenceReported : Bool := false

inductive Outcome
  | delivered (b : Bool)
  | raised
  | cancelled
deriving DecidableEq

structure Poll where
  outcome : Outcome
  scheduler : Scheduler
  instrument : InstrumentState
  effects : List Effect

/-- `_observe_persistence_ambiguity` -/
def Observers.onAmbiguity (o : Observers) : List Effect :=
  if o.ambiguity.isSome then [.observedAmbiguity] else []

def Observers.notify (o : Observers) (observer : Option Bool) (e : Effect) : List Effect :=
  match observer with
  | none => []
  | some true => [e]
  | some false => e :: o.onAmbiguity

/-- `_observe_persistence_commit` -/
def Observers.onCommit (o : Observers) (receipt : CommitReceipt) : List Effect :=
  o.notify o.commit (.observedCommit receipt)

/-- `_observe_persistence_rejection` -/
def Observers.onRejection (o : Observers) (recordCount : ℕ) (reason : String) : List Effect :=
  o.notify o.rejection (.observedRejection recordCount reason)

/-- One reading of the reference channel in `prepare_srdg_readings`. -/
def CalibrationAcquisition.widen (c : CalibrationAcquisition) (pending : PendingRange)
    (r : Reading) : PendingRange :=
  if some r.channel = c.referenceChannel ∧ r.status = .ok then
    if !r.value.isFinite || r.value < 1.0 then pending
    else
      let pending :=
        match pending.tMin.or c.tMin with
        | none => { pending with tMin := some r.value }
        | some least =>
            if r.value < least then { pending with tMin := some r.value } else pending
      match pending.tMax.or c.tMax with
      | none => { pending with tMax := some r.value }
      | some greatest =>
          if greatest < r.value then { pending with tMax := some r.value } else pending
  else pending

/-- The raw reading that is written for a target channel. -/
def srdgReading (r : Reading) : Reading where
  timestamp := r.timestamp
  instrumentId := r.instrumentId
  channel := r.channel ++ "_raw"
  value := r.value
  unit := "sensor_unit"
  status := .ok
  raw := some r.value
  metadata := Dict.ofList
    [("reading_kind", .str "calibration_srdg"), ("source_channel", .str r.channel)]

def CalibrationAcquisition.prepareSrdgReadings (c : CalibrationAcquisition)
    (krdg srdg : List Reading) : List Reading × Option PendingRange :=
  if c.active then
    let pending := krdg.foldl c.widen {}
    let wanted := srdg.filter fun r =>
      c.targetChannels.contains r.channel && r.status == .ok && r.value.isFinite
    (wanted.map srdgReading, if pending = {} then none else some pending)
  else ([], none)

/-- Step 1a; `none` is a cancellation. -/
def readSrdg (calibration : Option CalibrationCall) (readings : List Reading) :
    Option (List Reading × Option PendingRange) :=
  match calibration with
  | none => some ([], none)
  | some call =>
      if call.isActive then
        match call.readSrdgChannels with
        | none => some ([], none)
        | some (.returns srdg) => some (call.service.prepareSrdgReadings readings srdg)
        | some .raises => some ([], none)
        | some .cancelled => none
      else some ([], none)

/-- The receipt of a commit, with what is observed while it is awaited. -/
def awaitReceipt (o : Observers) : CommitApi → List Effect × Answer (Option CommitReceipt)
  | .direct (.returns receipt) => ([], .returns receipt)
  | .direct .raises => (o.onAmbiguity, .raises)
  | .direct .cancelled => (o.onAmbiguity, .cancelled)
  | .ticket false _ _ _ => (o.onAmbiguity, .raises)
  | .ticket true (.returns receipt) release _ =>
      if release = some false then (o.onAmbiguity, .raises) else ([], .returns receipt)
  | .ticket true .raises _ _ => (o.onAmbiguity, .raises)
  | .ticket true .cancelled _ (some (.returns (some receipt))) =>
      (o.onCommit receipt, .cancelled)
  | .ticket true .cancelled _ _ => (o.onAmbiguity, .cancelled)

/-- How step 1b ends. -/
inductive Persisting
  | refused
  | failed
  | cancelled
  | committed (entries : List CommittedEntry)
  | accepted

def matchesBatch (entries : List CommittedEntry) (batch : List Reading) : Bool :=
  (entries.zip batch).all fun p => receiptReadingMatches p.1.reading p.2

def persistCommitted (o : Observers) (api : CommitApi) (batch : List Reading) :
    List Effect × Persisting :=
  let awaited := awaitReceipt o api
  match awaited.2 with
  | .cancelled => (awaited.1, .cancelled)
  | .raises => (awaited.1, .failed)
  | .returns none =>
      (awaited.1 ++ o.onRejection batch.length "descriptor_commit_refused", .refused)
  | .returns (some receipt) =>
      if !receipt.owned then (awaited.1, .failed)
      else if receipt.entries.length ≠ batch.length then (awaited.1 ++ o.onAmbiguity, .failed)
      else if !matchesBatch receipt.entries batch then (awaited.1 ++ o.onAmbiguity, .failed)
      else (awaited.1 ++ o.onCommit receipt, .committed receipt.entries)

/-- A write without a receipt. -/
def persistImmediate : Answer Bool → Persisting
  | .returns true => .accepted
  | .returns false => .refused
  | .raises => .failed
  | .cancelled => .cancelled

/-- Step 1b for a batch that is not empty. -/
def persist (o : Observers) (w : Writer) (batch : List Reading) : List Effect × Persisting :=
  let written :=
    match w.api with
    | .descriptorAuthoritative api => persistCommitted o api batch
    | .immediate answer => ([], persistImmediate answer)
  match written.2 with
  | .committed _ | .accepted =>
      (.wrote batch :: written.1, if w.diskFullAfter then .refused else written.2)
  | _ => (.wrote batch :: written.1, written.2)

/-- What a poll hands to the data broker. -/
structure Publication where
  readings : List Reading
  authoritative : Bool
  envelopes : Option (List Bytes)

def publicationOf (persisted : List Reading) : Persisting → Publication
  | .committed entries =>
      { readings := (entries.take persisted.length).map CommittedEntry.reading
        authoritative := true
        envelopes := some
          ((entries.take persisted.length).map CommittedEntry.descriptorEnvelope) }
  | _ => { readings := persisted, authoritative := true, envelopes := none }

/-- A step of the delivery: its effects, and the end of the poll if it ends here. -/
structure Delivery where
  effects : List Effect
  ends : Option Outcome

def awaitBroker (e : Effect) : Answer Unit → Delivery
  | .returns _ => ⟨[e], none⟩
  | .raises => ⟨[e], some .raised⟩
  | .cancelled => ⟨[e], some .cancelled⟩

/-- One step and, unless it ends the poll, the next. -/
def Delivery.andThen (d : Delivery) (next : Delivery) : Delivery :=
  match d.ends with
  | some o => ⟨d.effects, some o⟩
  | none => ⟨d.effects ++ next.effects, next.ends⟩

/-- Step 2. -/
def deliver (s : Surroundings) (name : String) (p : Publication) (readings : List Reading) :
    Delivery :=
  let toBroker : Delivery :=
    if p.readings.isEmpty then ⟨[], none⟩
    else awaitBroker (.published p.readings p.authoritative p.envelopes) s.broker
  let toSafety : Delivery :=
    match s.safetyBroker with
    | none => ⟨[], none⟩
    | some answer => awaitBroker (.safetyPublished readings) answer
  let lift : Delivery :=
    if p.readings.isEmpty || !p.authoritative then ⟨[], none⟩
    else
      match s.recoveryHandler with
      | none => ⟨[], none⟩
      | some true => ⟨[.recovered name], none⟩
      | some false => ⟨[.recovered name], some .raised⟩
  toBroker.andThen (toSafety.andThen lift)

/-- `filter_for_archive` when there is a throttle. -/
def Scheduler.filterReadings (sch : Scheduler) (readings : List Reading) : List Reading × Scheduler :=
  match sch.adaptiveThrottle with
  | none => (readings, sch)
  | some t =>
      ((t.filterForArchive readings).1,
        { sch with adaptiveThrottle := some (t.filterForArchive readings).2 })

def InstrumentState.succeed (i : InstrumentState) (successfulPoll : Bool) : InstrumentState :=
  if successfulPoll then
    { i with totalReads := i.totalReads + 1, consecutiveErrors := 0, backoffS := 1.0 }
  else i

def InstrumentState.fail (i : InstrumentState) : InstrumentState :=
  { i with consecutiveErrors := i.consecutiveErrors + 1, totalErrors := i.totalErrors + 1 }

/-- Steps 1c and 2. -/
def conclude (s : Surroundings) (sch : Scheduler) (i : InstrumentState)
    (srdg : List Reading × Option PendingRange) (p : Publication) (readings : List Reading)
    (before : List Effect) : Poll :=
  let told := if srdg.1.isEmpty then [] else [Effect.srdgPersisted srdg.1.length srdg.2]
  let d := deliver s i.name p readings
  { outcome := d.ends.getD (.delivered (!p.readings.isEmpty))
    scheduler := sch
    instrument := i
    effects := before ++ told ++ d.effects }

/-- Step 1b and what follows it. -/
def persistAndPublish (s : Surroundings) (sch : Scheduler) (i : InstrumentState)
    (persisted : List Reading) (srdg : List Reading × Option PendingRange)
    (readings : List Reading) : Poll :=
  let combined := persisted ++ srdg.1
  let unwritten : Publication :=
    { readings := persisted, authoritative := false, envelopes := none }
  match s.writer with
  | none => conclude s sch i srdg unwritten readings []
  | some w =>
      if combined.isEmpty then conclude s sch i srdg unwritten readings []
      else
        let written := persist s.observers w combined
        match written.2 with
        | .refused => ⟨.delivered false, sch, i, written.1⟩
        | .failed => ⟨.delivered false, sch, i.fail, written.1⟩
        | .cancelled => ⟨.cancelled, sch, i, written.1⟩
        | p => conclude s sch i srdg (publicationOf persisted p) readings written.1

def processReadings (s : Surroundings) (sch : Scheduler) (i : InstrumentState)
    (readings : List Reading) (successfulPoll : Bool) : Poll :=
  if s.writer.any Writer.diskFullBefore then ⟨.delivered false, sch, i, []⟩
  else
    let admitted := sch.filterReadings readings
    let i := i.succeed successfulPoll
    if s.writer.isNone && !sch.publishUnpersistedReadings then
      ⟨.delivered false, { admitted.2 with missingPersistenceReported := true }, i, []⟩
    else
      match readSrdg s.calibration readings with
      | none => ⟨.cancelled, admitted.2, i, []⟩
      | some srdg => persistAndPublish s admitted.2 i admitted.1 srdg readings

def reportFailedPollPersistence (s : Surroundings) (name reason : String) :
    List Effect × Option Outcome :=
  match s.failureHandler with
  | none => ([], none)
  | some (.returns _) => ([.reported name reason], none)
  | some .raises => ([.reported name reason], some .raised)
  | some .cancelled => ([.reported name reason], some .cancelled)

def publishFailedPollReadings (s : Surroundings) (sch : Scheduler) (i : InstrumentState)
    (failureReadings : List Reading) (exceptionName : String) : Poll :=
  if failureReadings.isEmpty then ⟨.delivered true, sch, i, []⟩
  else
    let poll := processReadings s sch i failureReadings false
    match poll.outcome with
    | .cancelled => poll
    | .delivered true => poll
    | .raised =>
        let report := reportFailedPollPersistence s i.name
          ("failed-poll pipeline raised " ++ exceptionName)
        { poll with outcome := report.2.getD .raised, effects := poll.effects ++ report.1 }
    | .delivered false =>
        let report := reportFailedPollPersistence s i.name
          "failed-poll samples could not obtain persistence-backed publication authority"
        { poll with outcome := report.2.getD (.delivered true),
                    effects := poll.effects ++ report.1 }

end Acquisition
end CryoDaq
