import CryoDaq.Safety.Program

/-!
# Turning the source off

The coroutines every command shares on its way to OFF: the publication of the
channel states, the shared global OFF, the settlement of a latched fault, the
stop of single channels, the reconciliation of a hazardous success and the
emergency OFF.

A function that notes or locks on behalf of a command takes the number `t` of
the task it runs in.
-/

namespace CryoDaq
namespace Safety

open Async

namespace State

/-- `_ensure_output_off`, what the driver's answer proves. -/
def exactConfirmed (s : State) : Outcome → Bool
  | .ok result => (s.globalOffEvidenceForResult result).verifiedOff
  | .error _ => false

/-- `_ensure_output_off`, after the driver answered. -/
def settleOutputOff (scope : Option SmuChannel) (result : Outcome)
    (s : State) : State × Option Exc :=
  let retained := s.retainConnection
  (if scope.isNone then
      retained.setOffEvidence
        (s.globalOffEvidenceForResult
          (match result with | .ok value => value | .error _ => .bool false))
    else if s.exactConfirmed result && s.hasCurrentReviewedConnectionGeneration
    then retained
    else retained.setOffEvidence s.unknownGlobalOffEvidence
    ).refreshOperatorSafetySnapshot

/-- `_settle_latched_fault`, after its OFF. -/
def settleLatchedCut (confirmed : Bool) (s : State) : State × Option Exc :=
  let s := if confirmed then s.keepSources .lateFaultSettlement ∅ else s
  (if s.env.driver.isNone then s
    else if confirmed then s.retainConnection
    else s.retainConnection.setOffEvidence s.unknownGlobalOffEvidence
    ).refreshOperatorSafetySnapshot

end State

namespace Py

/-- One `publish` inside `try: ... except Exception`. -/
def publishReading : Py Unit := do
  match ← Coro.attempt (awaiting .publish) with
  | .error .cancelled => Coro.raise .cancelled
  | _ => pure ()

/-- `_publish_state`, the part that waits. -/
def publishState : Py Unit := do
  let s ← Coro.read
  if s.wiring.dataBroker then publishReading else pure ()

/-- `_publish_keithley_channel_states`, the part that waits: one reading for
each output. -/
def publishKeithleyChannelStates : Py Unit := do
  let s ← Coro.read
  if s.wiring.dataBroker then do
    publishReading
    publishReading
  else pure ()

/-! ## The global OFF -/

def globalOutputOffOwner (t : Nat) (owner : Option Nat) : Py Nat := do
  let s ← Coro.read
  let required := owner.getD s.control.abortGeneration
  match s.retainedGlobalOff required with
  | some id => do
      match (s.lifecycle.background[id]?).map BackgroundTask.status with
      | some (.started since) => note (.offJoined t since)
      | _ => pure ()
      pure id
  | none => do
      Coro.update (State.createGlobalOff required)
      pure s.lifecycle.background.length

/-- The OFF of `_ensure_output_off`: the shared owner for everything, a call of
its own for one channel. -/
def commandOff (t : Nat) (scope : Option SmuChannel) (owner : Option Nat) :
    Py (Outcome × Bool) := do
  match scope with
  | none => do
      let id ← globalOutputOffOwner t owner
      let r ← settledWait (.background id)
      Coro.update (State.releaseGlobalOff id)
      pure r
  | some channel => do
      note (.offRequested (some channel))
      settledWait (.driver (.emergencyOff (some channel)))

/-- `_ensure_output_off` returns; a global proof is noted. -/
def provedOff (t : Nat) (scope : Option SmuChannel) (confirmed : Bool) :
    Py Bool := do
  let s ← Coro.read
  if scope.isNone then
    note (.outputOffProved
      { task := t
        confirmed := confirmed
        settlements := s.lifecycle.settlements
        unsettled := s.lifecycle.unsettled
        terminal := s.lifecycle.terminal })
  else pure ()
  pure confirmed

def ensureOutputOff (t : Nat) (scope : Option SmuChannel)
    (owner : Option Nat) : Py Bool := do
  let s ← Coro.read
  if s.env.driver.isNone then provedOff t scope true
  else do
    let (result, cancelled) ← commandOff t scope owner
    let s ← Coro.read
    sync (State.settleOutputOff scope result)
    raiseIf cancelled
    provedOff t scope (s.exactConfirmed result)

/-- `_ensure_output_off` as a task of its own, and whether it proved OFF. -/
def settledOff (t : Nat) (scope : Option SmuChannel) (owner : Option Nat) :
    Py (Bool × Bool) := do
  let (result, cancelled) ← settled (ensureOutputOff t scope owner)
  pure (match result with | .ok b => b | .error _ => false, cancelled)

/-- `_fault_log_callback`, settled; whether the caller was cancelled. -/
def faultLog : Py Bool := do
  let s ← Coro.read
  if s.wiring.faultLog then do
    let (_, cancelled) ← settledWait .faultLog
    pure cancelled
  else pure false

def settleLatchedFault (t : Nat) : Py Unit := do
  let s ← Coro.read
  let (confirmed, offCancelled) ←
    if s.env.driver.isSome then
      settledOff t none s.control.latchedFaultAbortGeneration
    else pure (true, false)
  sync (State.settleLatchedCut confirmed)
  let logCancelled ← faultLog
  let (_, publishCancelled) ← settled publishKeithleyChannelStates
  raiseIf (offCancelled || logCancelled || publishCancelled)

def fault (t : Nat) (reason : String) (source : FaultSource) : Py Unit := do
  let s ← Coro.read
  sync (State.beginFaultLatch reason source)
  if s.control.state = .faultLatched then pure () else settleLatchedFault t

/-- `_drain_child_fault_settlements`: whether every owner settled in time, and
whether the caller was cancelled. -/
def drainChildFaultSettlements (owners : List Nat) : Py (Bool × Bool) := do
  let s ← Coro.read
  let pending := (owners ++ s.lifecycle.pendingChildFaultSettlements).dedup
  if pending.isEmpty then pure (true, false)
  else do
    let (result, cancelled) ← settledWait (.drained pending)
    pure (decide (result = .ok (.bool true)), cancelled)

/-- The global proof of `_reconcile_hazardous_success`; whether the caller was
cancelled. -/
def reconciliationProof (t : Nat) : Py Bool := do
  let (proved, cancelled) ← settledOff t none none
  if proved then
    Coro.update (State.keepSources .reconciliation ∅)
  else pure ()
  pure cancelled

/-- The settlements that became pending during the reconciliation; whether the
caller was cancelled. -/
def reconcileLateSettlements (t : Nat) : Py Bool := do
  observeTerminalSafetyChildren
  let s ← Coro.read
  if s.lifecycle.pendingChildFaultSettlements.isEmpty then pure false
  else do
    let (drained, drainCancelled) ←
      drainChildFaultSettlements s.lifecycle.pendingChildFaultSettlements
    if drained then do
      let proofCancelled ← reconciliationProof t
      pure (drainCancelled || proofCancelled)
    else pure drainCancelled

/-- `_reconcile_hazardous_success` of a conflict. -/
def settleHazardousConflict (t : Nat) (reason : String) : Py Bool := do
  let s ← Coro.read
  sync (State.beginFaultLatch reason .hazardousSuccessReconciliation)
  let (_, settleCancelled) ← settled (settleLatchedFault t)
  let (_, drainCancelled) ←
    drainChildFaultSettlements s.lifecycle.pendingChildFaultSettlements
  let proofCancelled ← reconciliationProof t
  let lateCancelled ← reconcileLateSettlements t
  refresh
  let (_, publishCancelled) ← settled publishKeithleyChannelStates
  pure (settleCancelled || drainCancelled || proofCancelled || lateCancelled ||
    publishCancelled)

/-- `_reconcile_hazardous_success`: the reason of a conflict, and whether the
caller was cancelled. -/
def reconcileHazardousSuccess (t : Nat) (operation : String) :
    Py (Option String × Bool) := do
  observeTerminalSafetyChildren
  let s ← Coro.read
  match s.hazardousSuccessConflict with
  | none => pure (none, false)
  | some (_, detail) => do
      let reason :=
        operation ++ " hazardous-success reconciliation failed: " ++ detail
      let cancelled ← settleHazardousConflict t reason
      pure (some reason, cancelled)

/-! ## Stopping single channels -/

/-- `_safe_off` on a latched manager. -/
def safeOffLatched (t : Nat) : Py (Finset SmuChannel × Bool) := do
  let (_, cancelled) ← settledOff t none none
  raiseIf cancelled
  pure (∅, true)

/-- Whether an abort of another owner interrupts a stop. -/
def stopInterrupted (expected : Option Nat) (s : State) : Bool :=
  s.control.state == .faultLatched ||
    match expected with
    | none => false
    | some generation =>
        s.control.abortGeneration != generation ||
          !s.safetyChildrenAuthoritative

/-- How the loop of `_safe_off` ended. -/
inductive StopLoop where
  | finished (applied : Finset SmuChannel) (interrupted cancelled : Bool)
  | failed (applied : Finset SmuChannel)

/-- The loop of `_safe_off` over the channels. -/
def stopChannels (t : Nat) (expected : Option Nat) :
    List SmuChannel → Finset SmuChannel → Bool → Bool → Py StopLoop
  | [], applied, interrupted, cancelled =>
      pure (.finished applied interrupted cancelled)
  | channel :: rest, applied, interrupted, cancelled => do
      Coro.update (State.onControl (Control.parkStop t))
      let (result, stopCancelled) ←
        settledWait (.driver (.stopSource channel))
      let cancelled := cancelled || stopCancelled
      let failure : Option String :=
        match result with
        | .error e => some e.text
        | .ok value =>
            if value = .bool false then some "driver returned explicit False"
            else none
      match failure with
      | some text => do
          fault t ("stop_source(" ++ channel.text ++ ") failed: " ++ text)
            .safetyManager
          raiseIf cancelled
          pure (.failed applied)
      | none => do
          Coro.update
            (State.onControl (Control.dropStopped t {channel}))
          refresh
          observeTerminalSafetyChildren
          let s ← Coro.read
          stopChannels t expected rest (insert channel applied)
            (interrupted || stopInterrupted expected s) cancelled

/-- The end of `_safe_off` once every channel is off. -/
def finishSafeOff (t : Nat) (reason : TransitionReason)
    (channels : Finset SmuChannel) (cancelled : Bool) : Py Unit := do
  let s ← Coro.read
  if s.control.activeSources ≠ ∅ then do
    sync (State.transition .running
      (.partialStop (sortedChannels channels)
        (sortedChannels s.control.activeSources)))
    settleStop t
  else do
    sync fun s =>
      (s.retainConnection.setOffEvidence s.unknownGlobalOffEvidence
        ).transition .safeOff reason
    settleStop t
    raiseIf cancelled

/-- `_safe_off`: the channels turned off, and whether the stop was
interrupted. -/
def safeOff (t : Nat) (reason : TransitionReason)
    (channels : Finset SmuChannel) (expected : Option Nat) :
    Py (Finset SmuChannel × Bool) := do
  let s ← Coro.read
  if s.control.state = .faultLatched then safeOffLatched t
  else if s.env.driver.isNone then do
    Coro.update (State.onControl (Control.dropStopped t channels))
    finishSafeOff t reason channels false
    pure (channels, false)
  else do
    match ← stopChannels t expected (sortedChannels channels) ∅ false false with
    | .failed applied => pure (applied, true)
    | .finished applied interrupted cancelled =>
        if interrupted then do
          -- The transition is left to whoever interrupted.
          Coro.update (State.onControl (Control.leaveStop t .overtakenStop))
          refresh
          raiseIf cancelled
          pure (applied, true)
        else do
          finishSafeOff t reason channels cancelled
          pure (applied, false)

/-- Everything is off: drop every source, refresh, and go to SAFE_OFF, except
from the states that stay. -/
def dropAndMove (t : Nat) (reason : TransitionReason)
    (stays : List SafetyState) (cut : State → State) : Py Unit := do
  Coro.update fun s =>
    cut (s.onControl (Control.dropStopped t {.smua, .smub}))
  refresh
  let s ← Coro.read
  if s.control.state ∈ stays then pure ()
  else sync (State.transition .safeOff reason)
  settleStop t

/-- The receipt of an emergency OFF, at the moment it is made. -/
def offReply (channels : Finset SmuChannel) (error : Option String)
    (s : State) : Reply where
  ok := error.isNone
  state := some s.control.state
  channels := some channels
  activeChannels := some s.control.activeSources
  offEvidence := some s.link.offEvidence
  error := error

/-- The end of `_emergency_off_locked` once OFF is confirmed and no conflict
remains. -/
def finishEmergencyOff (t : Nat) (channels : Finset SmuChannel) :
    Py Reply := do
  let s ← Coro.read
  let reply : Reply ←
    if s.control.state = .faultLatched then
      pure { offReply channels none s with
        latched := true
        warning := some "Outputs disabled but fault remains latched" }
    else do
      if s.control.activeSources = ∅ then
        sync (State.transition .safeOff .operatorEmergencyOff)
      else pure ()
      let s ← Coro.read
      pure (offReply channels none s)
  settleStop t
  let (_, cancelled) ← settled publishKeithleyChannelStates
  raiseIf cancelled
  pure reply

/-- `_emergency_off_locked` of a scope that was resolved. -/
def emergencyOffResolved (t : Nat) (scope : Option SmuChannel) : Py Reply := do
  let channels := State.resolveChannels scope
  let operation :=
    if scope.isSome then "targeted emergency OFF" else "global emergency OFF"
  let (conflict, cancelled) ← reconcileHazardousSuccess t operation
  raiseIf cancelled
  match conflict with
  | some reason => do
      let s ← Coro.read
      pure (offReply channels (some reason) s)
  | none => do
      let confirmed ← ensureOutputOff t scope none
      if !confirmed then do
        let reason := "emergency_off could not confirm output OFF"
        fault t reason .safetyManager
        let s ← Coro.read
        pure (offReply channels (some reason) s)
      else do
        Coro.update (State.onControl (Control.dropStopped t channels))
        refresh
        let (conflict, cancelled) ← reconcileHazardousSuccess t operation
        raiseIf cancelled
        match conflict with
        | some reason => do
            let s ← Coro.read
            pure (offReply channels (some reason) s)
        | none => finishEmergencyOff t channels

def emergencyOffLocked (t : Nat) (channel : ChannelArg) : Py Reply := do
  let r ← Coro.attempt do
    let scope ← Coro.ofExcept channel.scope
    emergencyOffResolved t scope
  settleStop t
  Coro.ofExcept r

end Py

end Safety
end CryoDaq
