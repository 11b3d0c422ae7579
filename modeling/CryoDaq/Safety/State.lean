import CryoDaq.Safety.Values

/-!
# The state of the safety manager

`SafetyManager` keeps its attributes in one object.  Here they are grouped by
what they decide:

* `Control`: the FSM state, the latch, the tracked sources, the abort
  generations and the two locks;
* `Lifecycle`: the safety children, the retained background tasks and the stop
  cut;
* `SourceLink`: the reviewed-source connection and its OFF evidence;
* `Inputs`: what readings, interlocks and persistence have reported;
* `FaultRecord` and `OperatorSafetySnapshot`: what is shown.

`Wiring` is what construction and configuration fixed, and `Surroundings` is
what the manager only reads: the clock, the driver's attributes, the hooks.

**The journal.**  `Control.journal` records, newest first, what happened:
transitions, fault requests, abort intents, OFF requests, the returns of the
commands.  The manager never reads it.  Together with `stopOwners` and
`Lifecycle.stopOwner` it is the only part of the state that the source does
not have; it is there so that a statement about a run is a statement about the
state the run ends in.
-/

namespace CryoDaq
namespace Safety

/-! ## Construction and configuration -/

/-- One entry of `critical_channels`: a compiled pattern. -/
structure Pattern where
  pattern : String
  accepts : String → Bool

/-- `(instrument_id, channel)`. -/
structure InputId where
  instrument : String
  channel : String
deriving DecidableEq

/-- `SafetyConfig`, durations in clock ticks. -/
structure SafetyConfig where
  criticalChannels : List Pattern := []
  staleTimeout : Int := 10
  heartbeatTimeout : Int := 15
  requireKeithleyForRun : Bool := true
  maxDTDt : PyFloat := .finite 5
  requireReason : Bool := true
  cooldownBeforeRearm : Int := 60
  maxPowerW : PyFloat := .finite 5
  maxVoltageV : PyFloat := .finite 40
  maxCurrentA : PyFloat := .finite 1

structure Wiring where
  config : SafetyConfig := {}
  mock : Bool := false
  /-- `_qualification_receipt`, by its `expires_monotonic_s`. -/
  qualificationExpires : Option Int := none
  /-- `_reviewed_source_identity_qualified`. -/
  identityQualified : Bool := false
  /-- The runtime binding is issued for this driver and marked simulation. -/
  simulationBinding : Bool := false
  /-- `_data_broker is not None`. -/
  dataBroker : Bool := false
  /-- `_fault_log_callback is not None`. -/
  faultLog : Bool := false
  /-- `_persistence_failure_clear is not None`. -/
  persistenceFailureClear : Bool := false
  /-- `_critical_input_bindings`, sorted: declared inputs and their channel
  ids. -/
  criticalInputBindings : Option (List (InputId × String)) := none
  /-- `_keithley_heartbeat_bindings`. -/
  heartbeatBindings : SmuChannel → List InputId := fun _ => []
  /-- `unicodedata.normalize("NFC", ·)`. -/
  nfc : String → String := id
  /-- `unicodedata.category`. -/
  category : Char → String := fun c => if c.toNat < 32 then "Cc" else "Ll"

/-! ## What the manager only reads -/

/-- A hook or driver method that is either plain or awaitable. -/
inductive HookCall where
  | immediate (answer : Outcome)
  | awaitable
deriving DecidableEq

/-- One element of `unsafe_output_observations`, read field by field; a field
of the wrong type is `none`. -/
structure OutputObservation where
  channel : Option SmuChannel
  connectionGeneration : Option Int
  commandEpoch : Option Int
  operationIsIdleOutputQuery : Bool
  kind : Option String
  sequence : Option Int
deriving DecidableEq

/-- `driver._channels[channel]`. -/
structure ChannelRuntime where
  active : Bool
  pTarget : PyFloat
  vComp : PyFloat
  iComp : PyFloat
deriving DecidableEq

/-- The attributes of the driver that the manager looks at.  An attribute the
driver lacks is `none`; a property that raises is an `error`. -/
structure Driver where
  connected : Option PyVal := some (.bool true)
  outputStateUnverified : Option PyVal := some (.bool false)
  watchdogTripPending : Option PyVal := none
  /-- `isinstance(driver, VerifiedOffSource)`. -/
  verifiedOffSource : Bool := true
  mock : Option PyVal := some (.bool false)
  /-- `active_channels`: a list, whose bad elements are `none`, or malformed. -/
  activeChannels : Option (Except Exc (Option (List (Option SmuChannel)))) :=
    none
  /-- `unsafe_output_observations`: a tuple, whose elements without the
  expected attributes are `none`, or malformed. -/
  unsafeOutputObservations :
    Option (Except Exc (Option (List (Option OutputObservation)))) := none
  sourceConnectionGeneration : Option Int := none
  runtimes : SmuChannel → Option ChannelRuntime := fun _ => none
  acknowledgeWdogTrip : Option HookCall := none
  wdogTripped : Option HookCall := none

/-- What the manager reads but does not own. -/
structure Surroundings where
  /-- `time.monotonic()`. -/
  now : Int := 0
  /-- `_keithley`. -/
  driver : Option Driver := none
  /-- `_persistence_recovered`. -/
  persistenceRecovered : Option HookCall := none
  /-- `_interlock_rearm`, with the answer it gives now. -/
  interlockRearm : Option (Except Exc (List String)) := none
  /-- `_rate_estimator`: its channels and their current rates. -/
  rates : List (String × Option PyFloat) := []

/-! ## Background tasks and safety children -/

/-- The tasks that the manager creates and retains. -/
inductive BackgroundKind where
  /-- `_run_global_output_off`. -/
  | globalOutputOff
  /-- `_settle_latched_fault`. -/
  | faultSettlement (reason : String) (source : FaultSource)
deriving DecidableEq

/-- A started task remembers the journal length at its start. -/
inductive BackgroundStatus where
  | created
  | started (since : Nat)
  | finished (outcome : Outcome)
deriving DecidableEq

structure BackgroundTask where
  kind : BackgroundKind
  status : BackgroundStatus
deriving DecidableEq

/-- Whether the task is a `_settle_latched_fault`. -/
def BackgroundTask.isSettlement (b : BackgroundTask) : Bool :=
  match b.kind with
  | .faultSettlement _ _ => true
  | .globalOutputOff => false

inductive ChildOutcome where
  | cancelled | completed | failed
deriving DecidableEq, Repr

def ChildOutcome.text : ChildOutcome → String
  | .cancelled => "cancelled"
  | .completed => "completed"
  | .failed => "failed"

/-- A safety child: its cancellation requests and its outcome once done. -/
structure ChildTask where
  cancelling : Nat := 0
  outcome : Option ChildOutcome := none
deriving DecidableEq

/-- A done callback that asyncio still has to run. -/
structure DoneCallback where
  task : Nat
  role : ChildRole
  generation : Nat
deriving DecidableEq

structure Lifecycle where
  /-- Every child task created so far. -/
  children : List ChildTask := []
  collectTask : Option Nat := none
  monitorTask : Option Nat := none
  childGeneration : Nat := 0
  stoppingChildGeneration : Option Nat := none
  failedChildRole : Option ChildRole := none
  failedChildReason : Option String := none
  safetyMonitorActive : Bool := false
  consumedChildTasks : List Nat := []
  stopCancelledChildTasks : List (Nat × Nat) := []
  doneCallbacks : List DoneCallback := []
  /-- Every background task created so far. -/
  background : List BackgroundTask := []
  pendingChildFaultSettlements : List Nat := []
  shutdownHoldFaultSettlement : Option Nat := none
  globalOffOwnerTask : Option Nat := none
  globalOffOwnerGeneration : Option Nat := none
  globalOffOwnerAbortGeneration : Option Nat := none
  /-- The `stop()` that established the stop cut. -/
  stopOwner : Option Nat := none

/-- Where sources are given up without a transition: a step that drops them and
makes none of its own, or a stop owner that leaves its transition to others. -/
inductive GiveUpSite where
  /-- `_safe_off` was interrupted by another authority. -/
  | overtakenStop
  /-- A soft interlock tripped without a driver. -/
  | softInterlock
  /-- A disconnect was cancelled while it waited for `_cmd_lock`. -/
  | disconnect
  | managerStop | targetOffProof | lateFaultSettlement | reconciliation
  | connectCompleted
deriving DecidableEq, Repr

/-- What a successful `request_run` returned, with the owner cut it returned
from. -/
structure RunReceipt where
  task : Nat
  channel : SmuChannel
  warnings : List OperatorWarning
  receipt : Option WarningReceipt
  /-- The journal length and the abort generation at the first step. -/
  admittedAt : Nat
  admittedGeneration : Nat
  abortGeneration : Nat
  state : SafetyState
  activeSources : Finset SmuChannel
  /-- Whether both safety children were live. -/
  childrenLive : Bool
  /-- Whether the manager is a simulator that was never started. -/
  neverStartedSimulator : Bool
  /-- `_exact_driver_active_source_cut()`. -/
  driverCut : Except Exc (Option (Option (Finset SmuChannel)))

/-- How a `request_run` ended that returned no positive receipt. -/
structure RunExit where
  task : Nat
  channel : SmuChannel
  /-- The journal length and the active sources at the first step. -/
  admittedAt : Nat
  activeAtAdmission : Finset SmuChannel
  /-- The active sources when it got its turn at `_run_request_lock`, or gave
  up waiting for it. -/
  activeAtTurn : Finset SmuChannel
  state : SafetyState
  activeSources : Finset SmuChannel

/-- What `_ensure_output_off` of everything returned, and what had ended by
then. -/
structure OffProof where
  task : Nat
  confirmed : Bool
  /-- How many fault settlements had been created, and which of them had not
  finished. -/
  settlements : Nat
  unsettled : List Nat
  /-- The children that had ended. -/
  terminal : List Nat

/-- How a `stop()` ended that had established the stop cut. -/
structure StopExit where
  task : Nat
  returned : Bool
  /-- Whether it gave the children up. -/
  released : Bool
  /-- What it owned when it began. -/
  generation : Nat
  collect : Option Nat
  monitor : Option Nat
  /-- What the manager owns at the end. -/
  generationAfter : Nat
  collectAfter : Option Nat
  monitorAfter : Option Nat
  stoppingAfter : Option Nat
  pendingAfter : List Nat
  settlements : Nat
  unsettled : List Nat
  activeSources : Finset SmuChannel

/-- One journal entry. -/
inductive Note where
  | transition (before after : SafetyState) (reason : TransitionReason)
  /-- A refresh of the operator snapshot raised. -/
  | snapshotRefused
  | faultRequested (source : FaultSource)
  | abortIntent (full : Bool)
  /-- A Start asks `persistence_recovered` about a persistence-only latch. -/
  | probeOpened (task : Nat)
  /-- A Start consumes the latch.  `current` says that no abort intent was
  registered since that Start's first step. -/
  | latchConsumed (task : Nat) (sources : Finset FaultSource)
      (recovered : Bool) (active : Finset SmuChannel) (code : WarningCode)
      (current : Bool)
  | acknowledgeAdmitted (task : Nat)
  | acknowledgeCleared (task : Nat) (active : Finset SmuChannel)
  | acknowledgeReturned (task : Nat) (state : SafetyState)
  /-- `start_source` settled, with an exception or not, in this FSM state. -/
  | startSettled (task : Nat) (channel : SmuChannel) (failed : Bool)
      (state : SafetyState)
  /-- A Start that had taken over the pending latch warning was refused. -/
  | startPassRefused (task : Nat)
  | offRequested (scope : Option SmuChannel)
  /-- A global OFF under way, requested at that journal length, was joined. -/
  | offJoined (task : Nat) (requestedAt : Nat)
  /-- Inspecting the driver raised in the check after publication. -/
  | inspectionRaised (task : Nat)
  /-- The fault of a revoked Start found the manager latched when its task
  began. -/
  | revocationJoined (task : Nat)
  | runConfirmed (receipt : RunReceipt)
  | runRefused (exit : RunExit)
  /-- Sources were given up without a transition: the FSM state, what is still
  tracked, and the stops that are outstanding. -/
  | gaveUp (site : GiveUpSite) (state : SafetyState)
      (tracked : Finset SmuChannel) (stops : Finset Nat)
  | outputOffProved (proof : OffProof)
  | stopBegan (task : Nat) (ownsChild : Bool) (pending : List Nat)
  | stopEnded (exit : StopExit)

/-! ## The manager's own state -/

structure Control where
  state : SafetyState := .safeOff
  activeSources : Finset SmuChannel := ∅
  faultSources : Finset FaultSource := ∅
  abortGeneration : Nat := 0
  fullAbortGeneration : Nat := 0
  latchedFaultAbortGeneration : Option Nat := none
  pendingInterlockStartWarning : Option (Nat × OperatorWarning) := none
  /-- The holder of `_cmd_lock`. -/
  cmdLock : Option Nat := none
  /-- The holder of `_run_request_lock`. -/
  runRequestLock : Option Nat := none
  /-- The operations that announced their abort intent, or are dropping
  sources, and still owe the FSM its transition. -/
  stopOwners : Finset Nat := ∅
  journal : List Note := []

structure FaultRecord where
  reason : String := ""
  time : Int := 0
  revision : Nat := 0
  recoveryReason : String := ""

structure SourceLink where
  /-- `_reviewed_source_generation`. -/
  generation : Option Nat := none
  /-- How many generation tokens have been created. -/
  issued : Nat := 0
  connected : Bool := false
  offEvidence : SourceOffEvidence
  offEvidenceObserved : Int := 0

/-- One entry of `_latest`. -/
structure Sample where
  observed : Int
  value : PyFloat
  statusOk : Bool
  status : String

/-- One entry of `_blind_interlock_guards`. -/
structure BlindGuard where
  interlockName : String
  reasons : List String
  recorded : Bool
  value : PyFloat

structure Inputs where
  latest : List (InputId × Sample) := []
  instrumentStatusFaults : List (InputId × List String) := []
  matureDeadInterlockChannels : List (String × String) := []
  blindInterlockGuards : List (String × BlindGuard) := []
  failedPollPersistenceBlockers : List (String × String) := []
  persistenceFaultActive : Bool := false
  cooldownPredictorAvailable : Option Bool := none
  cooldownPredictorUnavailableReason : String := ""
  trippedControlInterlocks : List String := []
  runPermittedSince : Int := 0

structure SafetyBlocker where
  code : String
  state : PresentationState
  operatorText : String
  requiredEvidence : String

structure PlantHealthFact where
  subsystemId : String
  displayName : String
  state : PresentationState
  reasonCode : String

structure OperatorSafetySnapshot where
  revision : Nat
  observed : Int
  lifecycle : SafetyLifecycle
  readiness : ReadinessTruth
  offEvidence : SourceOffEvidence
  verifiedOff : Bool
  blockers : List SafetyBlocker
  plantHealth : List PlantHealthFact

/-- The manager and its surroundings. -/
structure State where
  wiring : Wiring
  env : Surroundings
  control : Control
  lifecycle : Lifecycle
  link : SourceLink
  fault : FaultRecord
  inputs : Inputs
  snapshot : OperatorSafetySnapshot

end Safety
end CryoDaq
