import CryoDaq.Safety.Shutdown

/-!
# The manager as a system

Every public operation, the tasks the manager retains and everything that
happens around it, put together as a `System`: any operation may be called at
any time, any number of times, and every suspended one may be resumed in any
order.
-/

namespace CryoDaq
namespace Safety

open Async

/-- What may be called or started. -/
inductive Operation where
  | requestRun (request : RunRequest)
  | requestStop (channel : ChannelArg)
  | emergencyOff (channel : ChannelArg)
  | disconnectReviewedSource (context : String)
  | beginReviewedSourceConnect (context : String)
  | completeReviewedSourceConnect (generation : Option Nat)
  | markReviewedSourceUncertain (generation : Option Nat) (context : String)
  | abandonReviewedSourceConnect (generation : Option Nat)
  | recordReviewedSourceConnected (verifiedOff : Bool)
  | recordReviewedSourceUnavailable
  | updateTarget (pTarget : PyFloat) (channel : ChannelArg)
  | updateLimits (channel : ChannelArg) (vComp iComp : Option PyFloat)
  | acknowledgeFault (reason : String)
  | latchFault (reason : String) (source : FaultSource)
  | onPersistenceFailure (reason : String)
  | onFailedPollPersistenceFailure (instrument reason : String)
  | onFailedPollPersistenceRecovered (instrument : String)
  | onInterlockTrip (name channel : String) (value : PyFloat)
      (action : InterlockAction)
  | onInterlockDeadChannel (name channel : String) (reasons : List String)
      (value : PyFloat)
  | onInterlockChannelRecovered (channel : String)
  | setCooldownPredictorStatus (available : Bool) (reason : String)
  | snapshotOperatorSafety
  | replaceOperatorChild (role : ChildRole) (task : Nat)
  | collect (reading : State.Reading)
  | monitorTurn
  | start
  | stop
  /-- The event loop starts a retained task. -/
  | background (id : Nat)

inductive Event where
  | tick (ticks : Nat)
  /-- The driver's attributes change. -/
  | driverReports (driver : Driver)
  | setPersistenceRecovered (hook : Option HookCall)
  | setInterlockRearm (hook : Option (Except Exc (List String)))
  | setRates (rates : List (String × Option PyFloat))
  /-- A supervisor creates a task that may become a child. -/
  | childCreated
  | childCancelRequested (task : Nat)
  | childEnds (task : Nat) (outcome : ChildOutcome)
  /-- A done callback of a child runs. -/
  | childCallback (callback : DoneCallback)
  /-- The done callbacks of a fault settlement run. -/
  | settlementCallback (id : Nat)

namespace Py

/-- `_run_global_output_off`, as the retained task `id`. -/
def runGlobalOutputOff (id : Nat) : Py Unit := do
  let (first, _) ← settledWait (.driver (.emergencyOff none))
  match first with
  | .error (.raised .typeError _) => do
      note (.offRequested none)
      let (second, _) ← settledWait (.driver (.emergencyOff none))
      Coro.update
        (State.onLifecycle (Lifecycle.setBackground id (.finished second)))
  | first =>
      Coro.update
        (State.onLifecycle (Lifecycle.setBackground id (.finished first)))

/-- `_settle_latched_fault`, as the retained task `id`. -/
def runFaultSettlement (t id : Nat) : Py Unit := do
  let (r, _) ← Coro.settle false (settleLatchedFault t)
  Coro.update
    (State.onLifecycle
      (Lifecycle.setBackground id (.finished (r.map fun _ => .none))))

/-- A retained task. -/
def runBackground (t id : Nat) : BackgroundKind → Py Unit
  | .globalOutputOff => runGlobalOutputOff id
  | .faultSettlement _ _ => runFaultSettlement t id

def recordReviewedSourceConnected (verifiedOff : Bool) : Py Unit := do
  let s ← Coro.read
  match s.recordConnectedRefusal verifiedOff with
  | some e => Coro.raise e
  | none => sync (State.recordReviewedSourceConnected verifiedOff)

def replaceOperatorChild (role : ChildRole) (task : Nat) : Py Unit := do
  let s ← Coro.read
  match s.replaceChildRefusal role task, s.lifecycle.child role with
  | some e, _ => Coro.raise e
  | none, none => pure ()
  | none, some current =>
      if current = task then pure ()
      else do
        sync fun s =>
          s.operatorChildDone current role s.lifecycle.childGeneration
        Coro.update (State.adoptChild role current task)

/-- Forget what a command returned. -/
def discard {α : Type} (p : Py α) : Py Unit := do
  let _ ← p
  pure ()

/-- The coroutine of an operation, as task `t`. -/
def operation (t : Nat) : Operation → Py Unit
  | .requestRun request => discard (requestRun t request)
  | .requestStop channel => discard (requestStop t channel)
  | .emergencyOff channel => discard (emergencyOff t channel)
  | .disconnectReviewedSource context =>
      discard (disconnectReviewedSource t context)
  | .beginReviewedSourceConnect context =>
      discard (beginReviewedSourceConnect t context)
  | .completeReviewedSourceConnect generation =>
      discard (completeReviewedSourceConnect t generation)
  | .markReviewedSourceUncertain generation context =>
      markReviewedSourceUncertain t generation context
  | .abandonReviewedSourceConnect generation =>
      abandonReviewedSourceConnect generation
  | .recordReviewedSourceConnected verifiedOff =>
      recordReviewedSourceConnected verifiedOff
  | .recordReviewedSourceUnavailable =>
      sync State.recordReviewedSourceUnavailable
  | .updateTarget pTarget channel => discard (updateTarget t pTarget channel)
  | .updateLimits channel vComp iComp =>
      discard (updateLimits t channel vComp iComp)
  | .acknowledgeFault reason => discard (acknowledgeFault t reason)
  | .latchFault reason source => latchFault t reason source
  | .onPersistenceFailure reason => onPersistenceFailure t reason
  | .onFailedPollPersistenceFailure instrument reason =>
      onFailedPollPersistenceFailure t instrument reason
  | .onFailedPollPersistenceRecovered instrument =>
      sync (State.onFailedPollPersistenceRecovered instrument)
  | .onInterlockTrip name channel value action =>
      onInterlockTrip t name channel value action
  | .onInterlockDeadChannel name channel reasons value =>
      discard (onInterlockDeadChannel t name channel reasons value)
  | .onInterlockChannelRecovered channel =>
      sync (State.onInterlockChannelRecovered channel)
  | .setCooldownPredictorStatus available reason =>
      setCooldownPredictorStatus t available reason
  | .snapshotOperatorSafety => observeTerminalSafetyChildren
  | .replaceOperatorChild role task => replaceOperatorChild role task
  | .collect reading => sync (State.collect reading)
  | .monitorTurn => monitorTurn t
  | .start => start
  | .stop => stop t
  | .background _ => pure ()

end Py

namespace State

/-- A retained task that was created is started: its first act, for a global
OFF, is the driver call. -/
def startBackground (id : Nat) (kind : BackgroundKind) (s : State) : State :=
  let s' := s.onLifecycle
    (Lifecycle.setBackground id (.started s.control.journal.length))
  match kind with
  | .globalOutputOff => s'.note (.offRequested none)
  | .faultSettlement _ _ => s'

def launch (op : Operation) (s : State) : Option (State × (Nat → Py Unit)) :=
  match op with
  | .background id =>
      match s.lifecycle.background[id]? with
      | some ⟨kind, .created⟩ =>
          some (s.startBackground id kind, fun t => Py.runBackground t id kind)
      | _ => none
  | .replaceOperatorChild role task =>
      -- The replacement must be a task.
      if task < s.lifecycle.children.length then
        some (s, fun t => Py.operation t (.replaceOperatorChild role task))
      else none
  | op => some (s, fun t => Py.operation t op)

/-- The event loop logs what a callback raises. -/
def logged (r : State × Option Exc) : State :=
  match r.2 with
  | none => r.1
  | some _ => r.1.note .snapshotRefused

def childEnds (task : Nat) (outcome : ChildOutcome) (s : State) : State :=
  s.onLifecycle fun l =>
    { l with
      children := l.children.modify task ({ · with outcome := some outcome }) }

/-- What an event makes of the state, when it can happen. -/
def event (e : Event) (s : State) : Option State :=
  match e with
  | .tick ticks => some { s with env := { s.env with now := s.env.now + ticks } }
  | .driverReports driver =>
      s.env.driver.map fun d =>
        { s with env :=
            { s.env with
              driver := some
                { driver with verifiedOffSource := d.verifiedOffSource } } }
  | .setPersistenceRecovered hook =>
      some { s with env := { s.env with persistenceRecovered := hook } }
  | .setInterlockRearm hook =>
      some { s with env := { s.env with interlockRearm := hook } }
  | .setRates rates => some { s with env := { s.env with rates := rates } }
  | .childCreated =>
      some (s.onLifecycle fun l => { l with children := l.children ++ [{}] })
  | .childCancelRequested task =>
      some (s.onLifecycle fun l =>
        { l with
          children := l.children.modify task fun c =>
            { c with cancelling := c.cancelling + 1 } })
  | .childEnds task outcome =>
      match s.lifecycle.children[task]? with
      | some ⟨_, none⟩ => some (s.childEnds task outcome)
      | _ => none
  | .childCallback callback =>
      if callback ∈ s.lifecycle.doneCallbacks ∧
          s.lifecycle.childDone callback.task then
        some (logged ((s.onLifecycle fun l =>
            { l with doneCallbacks := l.doneCallbacks.erase callback }
          ).operatorChildDone callback.task callback.role callback.generation))
      else none
  | .settlementCallback id =>
      if id ∈ s.lifecycle.pendingChildFaultSettlements ∧
          s.lifecycle.backgroundDone id then
        some (s.settlementCallback id)
      else none

def initial (wiring : Wiring) (env : Surroundings) : State :=
  let unknown : SourceOffEvidence :=
    .fromGlobalResult
      (if wiring.mock || env.driver.any Driver.verifiedOffSource then
        .verifiedOff else .commandOnly)
      .physicalStateUnknown
  { wiring := wiring
    env := env
    control := {}
    lifecycle := {}
    link := { offEvidence := unknown, offEvidenceObserved := env.now }
    fault := {}
    inputs := {}
    snapshot :=
      { revision := 1
        observed := env.now
        lifecycle := .unknown
        readiness := .unknown
        offEvidence := unknown
        verifiedOff := false
        blockers :=
          [⟨"safety_authority_unavailable", .disconnected,
            "Safety authority is not yet available",
            "Start SafetyManager and collect explicit OFF evidence"⟩]
        plantHealth :=
          [⟨"safety_manager", "Safety manager", .disconnected,
            "safety_manager_not_started"⟩] } }

end State

def manager : System State Wait Outcome Exc Operation Event where
  enabled := Wait.enabled
  launch := State.launch
  environment := State.event

end Safety
end CryoDaq
