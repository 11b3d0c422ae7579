import CryoDaq.Safety.Latch

/-!
# Safety children and retained tasks

The synchronous functions around the two safety children: consuming the end of
a child, the stop cut, the retained fault settlements, the shared global-OFF
owner, and the connection evidence that a simulator records by hand.

**Background tasks.**  A task that the manager creates and retains is entered
in `Lifecycle.background` when it is created; the event loop starts it later.
-/

namespace CryoDaq
namespace Safety

namespace Lifecycle

def isStopCancelledChild (l : Lifecycle) (task : Nat) : Bool :=
  match l.stopCancelledChildTasks.lookup task, l.children[task]? with
  | some count, some child =>
      child.outcome == some .cancelled && child.cancelling == count
  | _, _ => false

/-- Assignment to `_collect_task` or `_monitor_task`. -/
def setChild (role : ChildRole) (task : Option Nat) (l : Lifecycle) :
    Lifecycle :=
  match role with
  | .collect => { l with collectTask := task }
  | .monitor => { l with monitorTask := task }

def completeStoppingGenerationIfSettled (generation : Option Nat)
    (l : Lifecycle) : Lifecycle :=
  match l.stoppingChildGeneration with
  | none => l
  | some stopping =>
      if generation.isSome && generation != some stopping then l
      else if l.collectTask.isSome || l.monitorTask.isSome then l
      else if !l.pendingChildFaultSettlements.isEmpty then l
      else { l with stoppingChildGeneration := none }

def forgetConsumedChildIfUnowned (task : Nat) (l : Lifecycle) : Lifecycle :=
  if l.collectTask ≠ some task ∧ l.monitorTask ≠ some task then
    { l with consumedChildTasks := l.consumedChildTasks.filter (· ≠ task) }
  else l

/-- `asyncio.create_task` for a task that the manager retains. -/
def createBackground (kind : BackgroundKind) (l : Lifecycle) : Lifecycle :=
  { l with background := l.background ++ [⟨kind, .created⟩] }

/-- `task.done()` for a background task. -/
def backgroundDone (l : Lifecycle) (id : Nat) : Bool :=
  match l.background[id]? with
  | some ⟨_, .finished _⟩ => true
  | _ => false

def setBackground (id : Nat) (status : BackgroundStatus) (l : Lifecycle) :
    Lifecycle :=
  { l with background := l.background.modify id ({ · with status := status }) }

/-- `_retain_child_fault_settlement` of a settlement just created. -/
def retainChildFaultSettlement (reason : String) (source : FaultSource)
    (l : Lifecycle) : Lifecycle :=
  { l.createBackground (.faultSettlement reason source) with
    pendingChildFaultSettlements :=
      l.pendingChildFaultSettlements ++ [l.background.length] }

/-- How many fault settlements have been created. -/
def settlements (l : Lifecycle) : Nat :=
  l.background.countP BackgroundTask.isSettlement

/-- The fault settlements that have not finished. -/
def unsettled (l : Lifecycle) : List Nat :=
  (List.range l.background.length).filter fun id =>
    (l.background[id]?).any BackgroundTask.isSettlement &&
      !l.backgroundDone id

def terminal (l : Lifecycle) : List Nat :=
  (List.range l.children.length).filter l.childDone

end Lifecycle

namespace State

def onLifecycle (f : Lifecycle → Lifecycle) (s : State) : State :=
  { s with lifecycle := f s.lifecycle }

/-- `_operator_child_done`, for a child that has ended. -/
def operatorChildDone (task : Nat) (role : ChildRole) (generation : Nat)
    (s : State) : State × Option Exc :=
  match (s.lifecycle.children[task]?).bind ChildTask.outcome with
  | none => (s, none)
  | some outcome =>
      if task ∈ s.lifecycle.consumedChildTasks then (s, none)
      else if generation ≠ s.lifecycle.childGeneration ∨
          s.lifecycle.child role ≠ some task then (s, none)
      else
        let s := s.onLifecycle fun l =>
          { l with consumedChildTasks := task :: l.consumedChildTasks }
        if s.lifecycle.stoppingChildGeneration = some generation ∧
            outcome = .cancelled ∧ s.lifecycle.isStopCancelledChild task then
          (s, none)
        else
          let reason :=
            "Safety " ++ role.text ++ " child exited unexpectedly (" ++
              outcome.text ++ ")"
          let s := s.revokeReviewedSource.onLifecycle fun l =>
            { l with
              safetyMonitorActive := false
              failedChildRole := some role
              failedChildReason :=
                some ("safety_" ++ role.text ++ "_" ++ outcome.text) }
          andThen
            (andThen (s.beginFaultLatch reason role.faultSource)
              refreshOperatorSafetySnapshot)
            fun s => (s.onLifecycle
              (Lifecycle.retainChildFaultSettlement reason role.faultSource),
              none)

/-- One round of `_observe_terminal_safety_children`. -/
def observeTerminalChild (role : ChildRole) (s : State) :
    State × Option Exc :=
  match s.lifecycle.child role with
  | some task =>
      if s.lifecycle.childDone task then
        s.operatorChildDone task role s.lifecycle.childGeneration
      else (s, none)
  | none => (s, none)

/-- The done callbacks of a settlement: `_settled`, and
`_clear_exact_shutdown_hold` where it was added. -/
def settlementCallback (id : Nat) (s : State) : State :=
  s.onLifecycle fun l =>
    let l := { l with
      pendingChildFaultSettlements :=
        l.pendingChildFaultSettlements.filter (· ≠ id) }
    let l := l.completeStoppingGenerationIfSettled none
    { l with
      shutdownHoldFaultSettlement :=
        if l.shutdownHoldFaultSettlement = some id then none
        else l.shutdownHoldFaultSettlement }

/-! ## The shared global OFF -/

/-- The owner that `_global_output_off_owner` would return without creating
one: unfinished, and of this exact source and abort generation. -/
def retainedGlobalOff (required : Nat) (s : State) : Option Nat :=
  match s.lifecycle.globalOffOwnerTask with
  | none => none
  | some id =>
      if !s.lifecycle.backgroundDone id ∧
          s.lifecycle.globalOffOwnerGeneration = s.link.generation ∧
          s.lifecycle.globalOffOwnerAbortGeneration = some required then
        some id
      else none

/-- `_global_output_off_owner`, when there is no such owner. -/
def createGlobalOff (required : Nat) (s : State) : State :=
  s.onLifecycle fun l =>
    { l.createBackground .globalOutputOff with
      globalOffOwnerTask := some l.background.length
      globalOffOwnerGeneration := s.link.generation
      globalOffOwnerAbortGeneration := some required }

/-- `_release_global_output_off_owner`. -/
def releaseGlobalOff (id : Nat) (s : State) : State :=
  if s.lifecycle.globalOffOwnerTask = some id ∧
      s.lifecycle.backgroundDone id then
    s.onLifecycle fun l =>
      { l with
        globalOffOwnerTask := none
        globalOffOwnerGeneration := none
        globalOffOwnerAbortGeneration := none }
  else s

/-! ## Children and connection evidence set from outside -/

/-- Why `replace_operator_child` refuses the replacement `task` of a role. -/
def replaceChildRefusal (role : ChildRole) (task : Nat) (s : State) :
    Option Exc :=
  let other := match role with
    | .collect => s.lifecycle.monitorTask
    | .monitor => s.lifecycle.collectTask
  if some task = other then
    some (.raised .runtimeError
      "SafetyManager collect and monitor children must have distinct task identities")
  else
  match s.lifecycle.child role with
  | none =>
      some (.raised .runtimeError
        ("cannot replace live or unowned SafetyManager " ++ role.text ++
          " child"))
  | some current =>
      if current = task then none
      else if s.lifecycle.stoppingChildGeneration =
          some s.lifecycle.childGeneration then
        some (.raised .runtimeError
          "cannot replace SafetyManager child while stopping")
      else if !s.lifecycle.childDone current then
        some (.raised .runtimeError
          ("cannot replace live or unowned SafetyManager " ++ role.text ++
            " child"))
      else none

/-- `replace_operator_child`: the replacement takes the place of `current`. -/
def adoptChild (role : ChildRole) (current task : Nat) (s : State) : State :=
  s.onLifecycle fun l =>
    let l := (l.setChild role (some task)).forgetConsumedChildIfUnowned current
    { l with
      doneCallbacks := ⟨task, role, l.childGeneration⟩ :: l.doneCallbacks }

/-- Why `record_reviewed_source_connected` refuses. -/
def recordConnectedRefusal (verifiedOff : Bool) (s : State) : Option Exc :=
  if !s.wiring.mock then
    some (.raised .runtimeError
      "manual reviewed-source connection evidence is simulator-only")
  else if !s.safetyChildrenAuthoritative then
    some (.raised .runtimeError "safety child authority is unavailable")
  else if verifiedOff ∧
      (s.control.activeSources ≠ ∅ ∨ s.control.state = .runPermitted ∨
        s.control.state = .running) then
    some (.raised .valueError
      "cannot accept verified-OFF evidence while a source lifecycle is active")
  else none

/-- A new `_ReviewedSourceGeneration`, assigned. -/
def issueGeneration (s : State) : State :=
  { s with link :=
      { s.link with
        generation := some s.link.issued
        issued := s.link.issued + 1 } }

/-- `record_reviewed_source_connected`, once it is not refused. -/
def recordReviewedSourceConnected (verifiedOff : Bool) (s : State) :
    State × Option Exc :=
  let s := if s.link.generation.isNone then s.issueGeneration else s
  ((s.setConnected true).setOffEvidence
    (.fromGlobalResult s.reviewedSourceOffTier
      (if verifiedOff then .deviceReportedOff else .physicalStateUnknown))
    ).refreshOperatorSafetySnapshot

def recordReviewedSourceUnavailable (s : State) :
    State × Option Exc :=
  s.revokeReviewedSource.refreshOperatorSafetySnapshot

/-- The connection cut taken again after an OFF:
`_reviewed_source_connected = _has_current_reviewed_connection_generation()`. -/
def retainConnection (s : State) : State :=
  s.setConnected s.hasCurrentReviewedConnectionGeneration

/-! ## Readings, interlock channels and persistence blockers -/

structure Reading where
  id : InputId
  value : PyFloat
  statusOk : Bool
  status : String
  instrumentFaultReasons : List String

/-- One turn of `_collect_loop`, up to the rate estimator. -/
def collect (reading : Reading) (s : State) : State × Option Exc :=
  ({ s with inputs :=
      { s.inputs with
        latest := dictSet reading.id
          ⟨s.env.now, reading.value, reading.statusOk, reading.status⟩
          s.inputs.latest
        instrumentStatusFaults :=
          if reading.instrumentFaultReasons.isEmpty then
            dictPop reading.id s.inputs.instrumentStatusFaults
          else
            dictSet reading.id reading.instrumentFaultReasons
              s.inputs.instrumentStatusFaults } }).refreshOperatorSafetySnapshot

def onInterlockChannelRecovered (channel : String) (s : State) :
    State × Option Exc :=
  let popped := { s with inputs :=
    { s.inputs with
      blindInterlockGuards := dictPop channel s.inputs.blindInterlockGuards
      matureDeadInterlockChannels :=
        dictPop channel s.inputs.matureDeadInterlockChannels } }
  if (s.inputs.matureDeadInterlockChannels.lookup channel).isNone ∧
      (s.inputs.blindInterlockGuards.lookup channel).isNone then (popped, none)
  else popped.refreshOperatorSafetySnapshot

def onFailedPollPersistenceRecovered (instrument : String) (s : State) :
    State × Option Exc :=
  if (s.inputs.failedPollPersistenceBlockers.lookup instrument).isNone then
    (s, none)
  else
    ({ s with inputs :=
        { s.inputs with
          failedPollPersistenceBlockers :=
            dictPop instrument s.inputs.failedPollPersistenceBlockers } }
      ).refreshOperatorSafetySnapshot

end State

end Safety
end CryoDaq
